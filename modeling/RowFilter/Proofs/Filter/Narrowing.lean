import RowFilter.Proofs.Filter.Fault
import RowFilter.Proofs.Filter.Meaning
import RowFilter.Proofs.Filter.Run

namespace RowFilter.Filter

open Query

def Parameter.applied? (p : Parameter) (r : Request) (t : Target) (q : Select) : Option Tree :=
  match p.apply r t q, p.tree? r with
  | .ok (some _), .ok tree? => tree?
  | _, _ => none

def narrows (r : Request) (name : String) : Bool := isValidKey name && (r.route? name).isSome

def scopes (r : Request) (names : List String) : List (String × String) :=
  names.filterMap fun name => if isValidKey name then (r.route? name).map (name, ·) else none

def scopeLeaf (e : Entity) (name value : String) : Leaf (Option Scalar) :=
  ⟨.comparison .eq, e.tableAlias ++ "." ++ name, [some (.string value)]⟩

namespace Step

def succeeds (e : Entity) (q : Select) : Step → Bool
  | filter p r => (p.applied? r e.target q).isSome
  | scope _ _ => true

def values (e : Entity) (I : Interpretation) (q : Select) : Step → List Truth
  | filter p r => (p.applied? r e.target q).toList.map (·.value I e.tableAlias)
  | scope r names => (scopes r names).map fun x => I (scopeLeaf e x.1 x.2)

end Step

def successes (e : Entity) (q : Select) : List Step → List Step
  | [] => []
  | s :: ss =>
    if s.succeeds e q then s :: successes e (s.run e q) ss else successes e (s.run e q) ss

def runValues (e : Entity) (I : Interpretation) (q : Select) : List Step → List Truth
  | [] => []
  | s :: ss => s.values e I q ++ runValues e I (s.run e q) ss

section Applied

variable {p : Parameter} {r : Request} {t : Target} {q : Select}

lemma applied?_eq_some_iff {tree : Tree} :
    p.applied? r t q = some tree ↔
      p.tree? r = .ok (some tree) ∧ ∃ q', q.narrow t tree = .ok q' := by
  rw [Parameter.applied?, Parameter.apply]
  cases ht : p.tree? r with
  | error e => simp
  | ok tree? =>
    cases tree? with
    | none => simp
    | some u =>
      cases hn : q.narrow t u with
      | error e =>
        simp only [hn, Except.ok.injEq, Option.some.injEq, reduceCtorEq, false_iff, not_and]
        rintro rfl ⟨q', h⟩
        rw [hn] at h
        cases h
      | ok q' =>
        simp only [hn, Except.ok.injEq, Option.some.injEq]
        constructor
        · rintro rfl
          exact ⟨rfl, q', hn⟩
        · exact And.left

lemma run_filter_of_applied? {e : Entity} {tree : Tree}
    (h : p.applied? r e.target q = some tree) :
    q.narrow e.target tree = .ok ((Step.filter p r).run e q) := by
  obtain ⟨ht, q', hn⟩ := applied?_eq_some_iff.mp h
  rw [hn, Step.run, Parameter.apply, ht]
  simp only [hn]

lemma run_filter_of_not_applied? {e : Entity} (h : p.applied? r e.target q = none) :
    (Step.filter p r).run e q = q := by
  rw [Step.run]
  split
  · next q' ha =>
    obtain ⟨tree, ht, hn⟩ := Parameter.apply_eq_some ha
    rw [applied?_eq_some_iff.mpr ⟨ht, q', hn⟩] at h
    cases h
  · rfl

lemma applied?_congr (q q' : Select) : p.applied? r t q = p.applied? r t q' := by
  have h : ∀ q q' : Select, ∀ tree, p.applied? r t q = some tree →
      p.applied? r t q' = some tree := by
    intro q q' tree h
    obtain ⟨ht, hn⟩ := applied?_eq_some_iff.mp h
    have haccepted := Select.exists_narrow_eq_ok_iff.mp hn
    exact applied?_eq_some_iff.mpr ⟨ht, Select.exists_narrow_eq_ok_iff.mpr haccepted⟩
  exact Option.ext fun tree => ⟨h q q' tree, h q' q tree⟩

end Applied

section Scopes

variable {r : Request} {name : String} {names : List String}

lemma scopes_cons :
    scopes r (name :: names) =
      match Select.routeValue? r name with
      | none => scopes r names
      | some value => (name, value) :: scopes r names := by
  simp only [Select.routeValue?]
  by_cases hv : isValidKey name = true <;> cases hr : r.route? name <;> simp [scopes, hv, hr]

lemma narrows_eq_isSome : narrows r name = (Select.routeValue? r name).isSome := by
  rw [narrows, Select.routeValue?]
  cases isValidKey name <;> rfl

lemma scopeByRoute_count (q : Select) : (q.scopeByRoute r names).2 = names.countP (narrows r) := by
  induction names generalizing q with
  | nil => rfl
  | cons name names ih =>
    rw [Select.scopeByRoute, List.countP_cons, narrows_eq_isSome]
    cases Select.routeValue? r name with
    | none => exact ih q
    | some value => exact congrArg (· + 1) (ih _)

lemma scopeByRoute_filter (q : Select) :
    q.scopeByRoute r (names.filter (narrows r)) = q.scopeByRoute r names := by
  induction names generalizing q with
  | nil => rfl
  | cons name names ih =>
    rw [List.filter_cons, narrows_eq_isSome]
    cases hv : Select.routeValue? r name with
    | none => simp [Select.scopeByRoute, hv, ih]
    | some value => simp [Select.scopeByRoute, hv, ih]

end Scopes

section Value

variable {e : Entity} {Named : String → Prop} {q : Select} (I : Interpretation)

lemma Safe.allBound (hq : Safe e Named q) : q.AllBound := by
  obtain ⟨k, hk⟩ := hq.numbered
  exact hk.allBound

lemma Safe.value_scope (hq : Safe e Named q) (name value : String) :
    (q.scope name value).value I = min (q.value I) (I (scopeLeaf e name value)) := by
  have hp : ∀ β : Bindings, β.get? q.bindings.next = some (.string value) →
      (q.scopePredicate name).value (I.under β) = I (scopeLeaf e name value) := by
    intro β hβ
    rw [Select.scopePredicate, Predicate.value, Interpretation.under, Leaf.map, List.map_singleton,
      Bindings.value?_placeholder, hβ, hq.tableAlias]
    rfl
  have hβ := q.bindings.map_get?_insertFrom q.bindings.next [.string value]
  rw [Select.scope_eq_extend, hq.allBound.value_extend]
  exact congrArg _ (hp _ (List.cons.inj hβ).1)

lemma Safe.value_scopeByRoute {r : Request} {names : List String} (hq : Safe e (fun _ => True) q) :
    (q.scopeByRoute r names).1.value I =
      min (q.value I)
        (Truth.conjunction ((scopes r names).map fun x => I (scopeLeaf e x.1 x.2))) := by
  induction names generalizing q with
  | nil => exact (min_top_right _).symm
  | cons name names ih =>
    rw [Select.scopeByRoute, scopes_cons]
    cases hv : Select.routeValue? r name with
    | none => exact ih hq
    | some value =>
      have hs := hq.scope (Select.routeValue?_eq_some hv).1 trivial value
      simp only [List.map_cons, Truth.conjunction_cons]
      rw [ih hs, hq.value_scope, min_assoc]

lemma Safe.value_step (hq : Safe e (fun _ => True) q) (s : Step) :
    (s.run e q).value I = min (q.value I) (Truth.conjunction (s.values e I q)) := by
  cases s with
  | scope r names => exact hq.value_scopeByRoute I
  | filter p r =>
    rw [Step.values]
    cases ha : p.applied? r e.target q with
    | none =>
      rw [run_filter_of_not_applied? ha]
      exact (min_top_right _).symm
    | some tree =>
      obtain ⟨b, hb, hr⟩ := Select.narrow_eq_ok (run_filter_of_applied? ha)
      have hβ := q.bindings.map_get?_insertFrom q.bindings.next b.values
      rw [hr, hq.allBound.value_extend, Option.toList_some, List.map_singleton,
        Truth.conjunction_cons, Truth.conjunction_nil, min_top_right]
      exact congrArg _ (Tree.value_bind hb hβ I)

lemma Safe.value_foldl (hq : Safe e (fun _ => True) q) (steps : List Step) :
    (steps.foldl (Step.run e) q).value I =
      min (q.value I) (Truth.conjunction (runValues e I q steps)) := by
  induction steps generalizing q with
  | nil => exact (min_top_right _).symm
  | cons s steps ih =>
    have hs : Safe e (fun _ => True) (s.run e q) := hq.step fun _ _ _ _ _ => trivial
    rw [List.foldl_cons, ih hs, hq.value_step, runValues, Truth.conjunction_append, min_assoc]

end Value

section Independence

variable {e : Entity} (I : Interpretation)

lemma succeeds_congr (s : Step) (q q' : Select) : s.succeeds e q = s.succeeds e q' := by
  cases s with
  | filter p r => rw [Step.succeeds, Step.succeeds, applied?_congr q q']
  | scope r names => rfl

lemma values_congr (s : Step) (q q' : Select) : s.values e I q = s.values e I q' := by
  cases s with
  | filter p r => rw [Step.values, Step.values, applied?_congr q q']
  | scope r names => rfl

lemma values_eq_nil {s : Step} {q : Select} (h : ¬ s.succeeds e q = true) :
    s.values e I q = [] := by
  cases s with
  | filter p r => rw [Step.values, Option.not_isSome_iff_eq_none.mp h]; rfl
  | scope r names => exact absurd rfl h

lemma successes_eq_filter (q q' : Select) (steps : List Step) :
    successes e q steps = steps.filter (Step.succeeds e q') := by
  induction steps generalizing q with
  | nil => rfl
  | cons s steps ih => rw [successes, ih, List.filter_cons, succeeds_congr s q q']

lemma runValues_eq_flatMap (q q' : Select) (steps : List Step) :
    runValues e I q steps = steps.flatMap (Step.values e I q') := by
  induction steps generalizing q with
  | nil => rfl
  | cons s steps ih => rw [runValues, ih, List.flatMap_cons, values_congr I s q q']

lemma flatMap_values_filter (q : Select) (steps : List Step) :
    (steps.filter (Step.succeeds e q)).flatMap (Step.values e I q) =
      steps.flatMap (Step.values e I q) := by
  induction steps with
  | nil => rfl
  | cons s steps ih =>
    rw [List.filter_cons, List.flatMap_cons]
    split
    · rw [List.flatMap_cons, ih]
    · next h => rw [ih, values_eq_nil I h, List.nil_append]

lemma value_run_eq (steps : List Step) :
    (run e steps).value I =
      Truth.conjunction (steps.flatMap (Step.values e I e.select)) := by
  rw [run, (safe_select e _).value_foldl, runValues_eq_flatMap I e.select e.select]
  exact min_top_left _

end Independence

/-- The value of the condition after a run is the conjunction of the values of the filters that were
applied and of the parameters of the route. So the successful steps may come in any order, leaving
steps out cannot narrow the query, and no other step takes a row that a scope excludes; scopes count
the names that narrow the query, and other names leave no trace. -/
theorem value_run (e : Entity) (steps : List Step) (I : Interpretation) :
    (run e steps).value I = Truth.conjunction (runValues e I e.select steps) ∧
    (∀ steps' : List Step, steps'.Perm (successes e e.select steps) →
      (run e steps').value I = (run e steps).value I) ∧
    (∀ steps' : List Step, steps'.Sublist steps → (run e steps).value I ≤ (run e steps').value I) ∧
    (∀ r names, .scope r names ∈ steps → ∀ name value, (name, value) ∈ scopes r names →
      (run e steps).value I ≤ I (scopeLeaf e name value)) ∧
    (∀ r names, ∀ q : Select, (q.scopeByRoute r names).2 = names.countP (narrows r) ∧
      q.scopeByRoute r (names.filter (narrows r)) = q.scopeByRoute r names) := by
  refine ⟨?_, ?_, ?_, ?_, ?_⟩
  · rw [value_run_eq, runValues_eq_flatMap I e.select e.select]
  · intro steps' h
    rw [successes_eq_filter e.select e.select] at h
    rw [value_run_eq, value_run_eq, ← flatMap_values_filter I e.select steps]
    exact Truth.conjunction_perm (h.flatMap_right _)
  · intro steps' h
    rw [value_run_eq, value_run_eq]
    exact Truth.conjunction_anti (h.flatMap _).subset
  · intro r names hs name value hm
    rw [value_run_eq]
    refine Truth.conjunction_le (List.mem_flatMap.mpr ⟨_, hs, ?_⟩)
    exact List.mem_map.mpr ⟨(name, value), hm, rfl⟩
  · intro r names q
    exact ⟨scopeByRoute_count q, scopeByRoute_filter q⟩

theorem value_run_scope_and_filter :
    let e : Entity := ⟨"villages", "v", none⟩
    let r : Request := ⟨[("filter", "or:[scope:ne:public,scope:public]")], [("scope", "public")]⟩
    let I : Interpretation := fun l =>
      if l.operands = [some (.string "public")] then .false else .true
    ("scope", "public") ∈ scopes r ["1 = 1 OR scope", "scope"] ∧
      (run e [.filter {} r, .scope r ["1 = 1 OR scope", "scope"]]).value I = .false := by
  intro e r I
  have hm : ("scope", "public") ∈ scopes r ["1 = 1 OR scope", "scope"] := by decide
  have h := (value_run e [.filter {} r, .scope r ["1 = 1 OR scope", "scope"]] I).2.2.2.1 r _
    (List.mem_cons_of_mem _ List.mem_cons_self) "scope" "public" hm
  exact ⟨hm, le_bot_iff.mp h⟩

end RowFilter.Filter
