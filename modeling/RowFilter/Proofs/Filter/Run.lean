import RowFilter.Filter.Application
import RowFilter.Proofs.Filter.Field

/-! Runs on a query, of filters and scopes in any order. A step that fails leaves the query as it
is. -/

namespace RowFilter.Filter

open Query

/-- A filter of a request, or the parameters of the route that a scope names. -/
inductive Step
  | filter (p : Parameter) (r : Request)
  | scope (r : Request) (names : List String)

def Step.run (e : Entity) (q : Select) : Step → Select
  | filter p r =>
    match p.apply r e.target q with
    | .ok (some q') => q'
    | _ => q
  | scope r names => (q.scopeByRoute r names).1

def run (e : Entity) (steps : List Step) : Select := steps.foldl (Step.run e) e.select

lemma Parameter.tree?_eq_some {p : Parameter} {r : Request} {tree : Tree}
    (h : p.tree? r = .ok (some tree)) : ∃ text, Tree.ofText text = .ok tree := by
  rw [tree?] at h
  split at h
  · cases h
  · next text _ =>
    cases hu : Tree.ofText text with
    | ok u =>
      rw [hu] at h
      cases h
      exact ⟨text, hu⟩
    | error e => cases hp : p.policy <;> simp [hu, hp] at h

lemma Parameter.apply_eq_some {p : Parameter} {r : Request} {t : Target} {q q' : Select}
    (h : p.apply r t q = .ok (some q')) :
    ∃ tree, p.tree? r = .ok (some tree) ∧ q.narrow t tree = .ok q' := by
  rw [apply] at h
  split at h
  · cases h
  · cases h
  · next tree ht =>
    split at h
    · cases h
    · next u hu =>
      cases h
      exact ⟨tree, ht, hu⟩

end RowFilter.Filter

namespace RowFilter.Query.Select

open RowFilter.Filter

def scopePredicate (q : Select) (name : String) : Predicate :=
  .comparison (q.tableAlias ++ "." ++ name) .eq (placeholder q.bindings.next)

lemma scope_eq_extend (q : Select) (name value : String) :
    q.scope name value = q.extend (q.scopePredicate name) [.string value] := rfl

lemma routeValue?_eq_some {r : Request} {name value : String}
    (h : routeValue? r name = some value) : isValidKey name = true ∧ r.route? name = some value := by
  rw [routeValue?] at h
  split at h
  · next hv => exact ⟨hv, h⟩
  · cases h

theorem scopeByRoute_induction {P : Select → Prop} {r : Request} {names : List String}
    (scope : ∀ q, ∀ name ∈ names, ∀ value, routeValue? r name = some value → P q →
      P (q.scope name value))
    {q : Select} (hq : P q) : P (q.scopeByRoute r names).1 := by
  induction names generalizing q with
  | nil => exact hq
  | cons name names ih =>
    have hs : ∀ {q : Select}, P q → P (q.scopeByRoute r names).1 :=
      ih fun q m hm => scope q m (List.mem_cons_of_mem name hm)
    simp only [Select.scopeByRoute]
    split
    · exact hs hq
    · next value hv => exact hs (scope q name List.mem_cons_self value hv hq)

end RowFilter.Query.Select

namespace RowFilter.Filter

open Query

structure Safe (e : Entity) (Named : String → Prop) (q : Select) : Prop where
  tableAlias : q.tableAlias = e.tableAlias
  numbered : ∃ k, q.Numbered k
  columns : ∀ c ∈ q.columns, ∃ key, c = e.tableAlias ++ "." ++ key ∧ IsIdentifier key ∧
    (e.target.allows key = true ∨ Named key)

variable {e : Entity} {Named : String → Prop} {q q' : Select}

lemma safe_select (e : Entity) (Named : String → Prop) : Safe e Named e.select where
  tableAlias := rfl
  numbered := ⟨0, rfl, rfl⟩
  columns c hc := by cases hc

lemma Safe.extend (hq : Safe e Named q) {p : Predicate} {vs : List Scalar}
    (hp : p.placeholders = placeholders q.bindings.next vs.length)
    (hc : ∀ l ∈ p.leaves, ∃ key, l.column = e.tableAlias ++ "." ++ key ∧ IsIdentifier key ∧
      (e.target.allows key = true ∨ Named key)) : Safe e Named (q.extend p vs) where
  tableAlias := hq.tableAlias
  numbered := by
    obtain ⟨k, hk⟩ := hq.numbered
    exact ⟨k + vs.length, hk.extend (hp.trans (placeholders_eq_map _ _))⟩
  columns c hm := by
    rw [Select.columns, Select.leaves_extend, List.map_append, List.mem_append] at hm
    rcases hm with hm | hm
    · exact hq.columns c hm
    · obtain ⟨l, hl, rfl⟩ := List.mem_map.mp hm
      exact hc l hl

lemma Safe.narrow (hq : Safe e Named q) {tree : Tree} (ht : ∀ key ∈ tree.keys, IsIdentifier key)
    (h : q.narrow e.target tree = .ok q') : Safe e Named q' := by
  obtain ⟨b, hb, rfl⟩ := Select.narrow_eq_ok h
  refine hq.extend (Tree.placeholders_bind hb) fun l hl => ?_
  obtain ⟨key, hk, ha, hc⟩ := Tree.column_bind hb l hl
  exact ⟨key, hc, ht key hk, .inl ha⟩

lemma Safe.scope (hq : Safe e Named q) {name : String} (hv : isValidKey name = true)
    (hn : Named name) (value : String) : Safe e Named (q.scope name value) := by
  rw [Select.scope_eq_extend]
  refine hq.extend rfl fun l hl => ?_
  obtain rfl := List.mem_singleton.mp hl
  exact ⟨name, by rw [← hq.tableAlias], (isValidKey_iff name).mp hv, .inr hn⟩

theorem Safe.step (hq : Safe e Named q) {s : Step}
    (hs : ∀ r names, s = .scope r names → ∀ name ∈ names, Named name) :
    Safe e Named (s.run e q) := by
  cases s with
  | filter p r =>
    simp only [Step.run]
    split
    · next q' h =>
      obtain ⟨tree, ht, hn⟩ := Parameter.apply_eq_some h
      obtain ⟨text, hread⟩ := Parameter.tree?_eq_some ht
      exact hq.narrow (Tree.isIdentifier_of_ofText hread) hn
    · exact hq
  | scope r names =>
    refine Select.scopeByRoute_induction (fun q name hm value hv hq => ?_) hq
    exact hq.scope (Select.routeValue?_eq_some hv).1 (hs r names rfl name hm) value

theorem Safe.foldl {steps : List Step} (hq : Safe e Named q)
    (hs : ∀ r names, .scope r names ∈ steps → ∀ name ∈ names, Named name) :
    Safe e Named (steps.foldl (Step.run e) q) := by
  induction steps generalizing q with
  | nil => exact hq
  | cons s steps ih =>
    refine ih (hq.step ?_) fun r names hm => hs r names (List.mem_cons_of_mem s hm)
    rintro r names rfl
    exact hs r names List.mem_cons_self

theorem run_numbered (e : Entity) (steps : List Step) :
    (∃ k, (run e steps).placeholders = (List.range' 1 k).map placeholder ∧
      (run e steps).bindings.numbers = List.range' 1 k) ∧
    ∀ c ∈ (run e steps).columns, ∃ key, c = e.tableAlias ++ "." ++ key ∧ IsIdentifier key ∧
      (e.target.allows key = true ∨ ∃ r names, Step.scope r names ∈ steps ∧ key ∈ names) := by
  have h : Safe e (fun key => ∃ r names, .scope r names ∈ steps ∧ key ∈ names) (run e steps) :=
    (safe_select e _).foldl fun r names hm name hn => ⟨r, names, hm, hn⟩
  obtain ⟨k, hk⟩ := h.numbered
  exact ⟨⟨k, hk.placeholders, hk.numbers⟩, h.columns⟩

end RowFilter.Filter
