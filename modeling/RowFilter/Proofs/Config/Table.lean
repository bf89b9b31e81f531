import Mathlib
import RowFilter.Config.Evaluation
import RowFilter.Proofs.Outcome

namespace RowFilter.Config

def IsTable (v? : Option Value) : Prop := ∃ inner, v? = some (.table inner)

def IsFree (v? : Option Value) : Prop := v? = none ∨ IsTable v?

namespace Table

section Find

variable {t inner : Table} {seen keys : List String} {key : String}

lemma find?_cons (t : Table) (key : String) (h : keys ≠ []) :
    t.find? (key :: keys) = (t.get? key).bind fun v => v.table?.bind fun inner => inner.find? keys := by
  obtain ⟨k, ks, rfl⟩ := List.exists_cons_of_ne_nil h
  rw [find?]
  · rcases t.get? key with _ | v
    · rfl
    · cases v <;> rfl
  · exact h

lemma find?_nil_table (h : keys ≠ []) : find? [] keys = none := by
  obtain ⟨k, ks, rfl⟩ := List.exists_cons_of_ne_nil h
  by_cases hk : ks = []
  · subst hk
    rfl
  · rw [find?_cons _ _ hk]
    rfl

lemma isFree_of_innerAt (h : t.innerAt seen key = .ok inner) : IsFree (t.get? key) := by
  unfold innerAt at h
  split at h
  · next hg => exact .inl hg
  · next i hg => exact .inr ⟨i, hg⟩
  · cases h

lemma find?_of_innerAt (h : t.innerAt seen key = .ok inner) (hk : keys ≠ []) :
    t.find? (key :: keys) = inner.find? keys := by
  rw [find?_cons t key hk]
  unfold innerAt at h
  split at h
  · next hg =>
    cases h
    rw [hg, find?_nil_table hk]
    rfl
  · next i hg =>
    cases h
    rw [hg]
    rfl
  · cases h

lemma get?_insert_self (t : Table) (key : String) (v : Value) : (t.insert key v).get? key = some v :=
  Ordered.lookup_insert_self key v t

lemma get?_insert_ne {j : String} (t : Table) (v : Value) (h : j ≠ key) :
    (t.insert key v).get? j = t.get? j :=
  Ordered.lookup_insert_ne v t h

lemma find?_insert_table (t inner : Table) (key : String) (hk : keys ≠ []) :
    (t.insert key (.table inner)).find? (key :: keys) = inner.find? keys := by
  rw [find?_cons _ _ hk, get?_insert_self]
  rfl

lemma find?_insert_ne {j : String} (t : Table) (v : Value) (keys : List String) (h : j ≠ key) :
    (t.insert key v).find? (j :: keys) = t.find? (j :: keys) := by
  by_cases hk : keys = []
  · subst hk
    exact get?_insert_ne t v h
  · rw [find?_cons _ _ hk, find?_cons _ _ hk, get?_insert_ne t v h]

end Find

/-- `t` becomes `t'`, as the table at a path in it becomes another one. -/
structure Modified (path : List String) (t t' inner inner' : Table) : Prop where
  before : ∀ q, q ≠ [] → t.find? (path ++ q) = inner.find? q
  after : ∀ q, q ≠ [] → t'.find? (path ++ q) = inner'.find? q
  free : ∀ q, q ≠ [] → q <+: path → IsFree (t.find? q)
  opened : ∀ q, q ≠ [] → q <+: path → IsTable (t'.find? q)
  elsewhere : ∀ q, ¬ q <+: path → ¬ path <+: q → t'.find? q = t.find? q

lemma Modified.cons {t inner u u' : Table} {seen path : List String} {key : String} {changed : Table}
    (hi : t.innerAt seen key = .ok inner) (h : Modified path inner changed u u') :
    Modified (key :: path) t (t.insert key (.table changed)) u u' where
  before q hq := by
    rw [List.cons_append, find?_of_innerAt hi (List.append_ne_nil_of_right_ne_nil _ hq)]
    exact h.before q hq
  after q hq := by
    rw [List.cons_append, find?_insert_table _ _ _ (List.append_ne_nil_of_right_ne_nil _ hq)]
    exact h.after q hq
  free q hq hp := by
    obtain ⟨j, r, rfl⟩ := List.exists_cons_of_ne_nil hq
    obtain ⟨rfl, hr⟩ := List.cons_prefix_cons.mp hp
    by_cases hn : r = []
    · subst hn
      exact isFree_of_innerAt hi
    · rw [find?_of_innerAt hi hn]
      exact h.free r hn hr
  opened q hq hp := by
    obtain ⟨j, r, rfl⟩ := List.exists_cons_of_ne_nil hq
    obtain ⟨rfl, hr⟩ := List.cons_prefix_cons.mp hp
    by_cases hn : r = []
    · subst hn
      exact ⟨changed, get?_insert_self _ _ _⟩
    · rw [find?_insert_table _ _ _ hn]
      exact h.opened r hn hr
  elsewhere q hp hq := by
    cases q with
    | nil => exact absurd List.nil_prefix hp
    | cons j r =>
      by_cases hj : j = key
      · subst hj
        rw [List.cons_prefix_cons, not_and] at hp hq
        have hn : r ≠ [] := by
          rintro rfl
          exact hp rfl List.nil_prefix
        rw [find?_insert_table _ _ _ hn, find?_of_innerAt hi hn]
        exact h.elsewhere r (hp rfl) (hq rfl)
      · exact find?_insert_ne t _ r hj

lemma exists_modified {f : Table → Except Conflict Table} {seen path : List String} {t t' : Table}
    (h : modifyAt f seen path t = .ok t') :
    ∃ inner inner', f inner = .ok inner' ∧ Modified path t t' inner inner' := by
  induction path generalizing seen t t' with
  | nil =>
    refine ⟨t, t', h, fun _ _ => rfl, fun _ _ => rfl, ?_, ?_, ?_⟩
    · exact fun q hq hp => absurd (List.prefix_nil.mp hp) hq
    · exact fun q hq hp => absurd (List.prefix_nil.mp hp) hq
    · exact fun q _ hq => absurd List.nil_prefix hq
  | cons key path ih =>
    rw [modifyAt] at h
    split at h
    · cases h
    · next inner hi =>
      obtain ⟨changed, hc, rfl⟩ := Outcome.map_eq_ok h
      obtain ⟨u, u', hf, hm⟩ := ih hc
      exact ⟨u, u', hf, hm.cons hi⟩

section Open

variable {path q : List String} {t t' : Table}

lemma isTable_openAt (h : t.openAt path = .ok t') (hq : q ≠ []) (hp : q <+: path) :
    IsTable (t'.find? q) ∧ IsFree (t.find? q) := by
  obtain ⟨inner, inner', -, hm⟩ := exists_modified h
  exact ⟨hm.opened q hq hp, hm.free q hq hp⟩

lemma find?_openAt (h : t.openAt path = .ok t') (hp : ¬ q <+: path) : t'.find? q = t.find? q := by
  obtain ⟨inner, inner', hf, hm⟩ := exists_modified h
  cases hf
  by_cases hq : path <+: q
  · obtain ⟨r, rfl⟩ := hq
    have hr : r ≠ [] := by
      rintro rfl
      exact hp (by simp)
    rw [hm.after r hr, hm.before r hr]
  · exact hm.elsewhere q hp hq

end Open

def joined : Option Value → Value → Value
  | some (.array olds), .array items => .array (olds ++ items)
  | _, v => v

lemma joined_of_array? (old? : Option Value) {v : Value} (h : v.array? = none) :
    joined old? v = v := by
  unfold joined
  split
  · cases h
  · rfl

lemma joined_of_isFree {old? : Option Value} (h : IsFree old?) (v : Value) : joined old? v = v := by
  rcases h with rfl | ⟨inner, rfl⟩ <;> rfl

lemma table?_joined (old? : Option Value) {v : Value} (hv : v.table? = none) :
    (joined old? v).table? = none := by
  unfold joined
  split
  · rfl
  · exact hv

lemma mergeAt_of_table? (path : List String) (old : Value) {v : Value} (hv : v.table? = none) :
    Value.mergeAt path old v = .done (joined (some old) v) := by
  cases v with
  | table entries => cases hv
  | _ => cases old <;> rfl

lemma result_mergeAt_entry {key : String} {v : Value} (hv : v.table? = none) (path : List String)
    (t : Table) :
    (mergeAt path t [(key, v)]).result = .ok (t.insert key (joined (t.get? key) v)) := by
  rw [mergeAt]
  split
  · next hg =>
    rw [hg]
    rfl
  · next old hg =>
    rw [hg, mergeAt_of_table? _ _ hv]
    rfl

lemma merge_entry {t t' : Table} {key : String} {v : Value} (hv : v.table? = none)
    (h : (t.merge [(key, v)]).result = .ok t') : t' = t.insert key (joined (t.get? key) v) := by
  rw [merge, result_mergeAt_entry hv] at h
  cases h
  rfl

section Assign

variable {path q : List String} {key : String} {v : Value} {t t' : Table}

lemma isTable_assignAt (h : t.assignAt path key v = .ok t') (hq : q ≠ []) (hp : q <+: path) :
    IsTable (t'.find? q) ∧ IsFree (t.find? q) := by
  obtain ⟨inner, inner', -, hm⟩ := exists_modified h
  exact ⟨hm.opened q hq hp, hm.free q hq hp⟩

variable (hv : v.table? = none) (h : t.assignAt path key v = .ok t')
include hv h

lemma find?_assignAt_self :
    t'.find? (path ++ [key]) = some (joined (t.find? (path ++ [key])) v) := by
  obtain ⟨inner, inner', hf, hm⟩ := exists_modified h
  rw [hm.after _ (List.cons_ne_nil _ _), hm.before _ (List.cons_ne_nil _ _), merge_entry hv hf]
  exact get?_insert_self _ _ _

lemma find?_assignAt_behind (hq : q ≠ []) : t'.find? (path ++ [key] ++ q) = none := by
  obtain ⟨inner, inner', hf, hm⟩ := exists_modified h
  rw [List.append_assoc, hm.after _ (List.append_ne_nil_of_left_ne_nil (List.cons_ne_nil _ _) _),
    merge_entry hv hf, List.singleton_append, find?_cons _ _ hq, get?_insert_self]
  rw [Option.bind_some, table?_joined _ hv]
  rfl

lemma find?_assignAt (hp : ¬ q <+: path) (hq : ¬ path ++ [key] <+: q) : t'.find? q = t.find? q := by
  obtain ⟨inner, inner', hf, hm⟩ := exists_modified h
  by_cases hr : path <+: q
  · obtain ⟨r, rfl⟩ := hr
    cases r with
    | nil => exact absurd (by simp) hp
    | cons j r =>
      have hj : j ≠ key := by
        rintro rfl
        exact hq (by simp)
      rw [hm.after _ (List.cons_ne_nil _ _), hm.before _ (List.cons_ne_nil _ _), merge_entry hv hf,
        find?_insert_ne _ _ _ hj]
  · exact hm.elsewhere q hp hr

end Assign

end Table

end RowFilter.Config
