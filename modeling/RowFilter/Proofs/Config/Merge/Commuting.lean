import RowFilter.Proofs.Config.Ordered

namespace RowFilter.Config

def OrderedTable.singleton (key : String) (v : OrderedValue) : OrderedTable := empty.insert key v

namespace Table

inductive Opens : Option Value → Table → Prop
  | none : Opens none []
  | table (inner : Table) : Opens (some (.table inner)) inner

section Paths

variable {f : Table → Except Conflict Table} {seen path : List String} {t t' inner : Table}
  {a b u : OrderedTable} {key : String} {v? : Option Value}

lemma Opens.unique {w : Table} (h : Opens v? inner) (h' : Opens v? w) : inner = w := by
  cases h <;> cases h' <;> rfl

lemma innerAt_eq_ok_iff : t.innerAt seen key = .ok inner ↔ Opens (t.get? key) inner := by
  rw [innerAt]
  constructor
  · intro h
    split at h
    · next hg =>
      cases h
      rw [hg]
      exact .none
    · next u hg =>
      cases h
      rw [hg]
      exact .table inner
    · cases h
  · generalize t.get? key = v?
    rintro ⟨⟩ <;> rfl

lemma modifyAt_cons_eq_ok : modifyAt f seen (key :: path) t = .ok t' ↔
    ∃ u u', Opens (t.get? key) u ∧ modifyAt f (seen ++ [key]) path u = .ok u' ∧
      t' = t.insert key (.table u') := by
  rw [modifyAt]
  constructor
  · intro h
    split at h
    · cases h
    · next u hu =>
      obtain ⟨u', hu', rfl⟩ := Outcome.map_eq_ok h
      exact ⟨u, u', innerAt_eq_ok_iff.mp hu, hu', rfl⟩
  · rintro ⟨u, u', ho, hu, rfl⟩
    rw [innerAt_eq_ok_iff.mpr ho]
    simp only [hu]
    rfl

lemma ordered_of_opens (h : Opens (u.entries.get? key) inner) : (Value.table inner).Ordered := by
  cases hg : u.entries.get? key with
  | none =>
    rw [hg] at h
    cases h
    exact OrderedTable.empty.ordered
  | some v =>
    rw [hg] at h
    cases h
    exact Value.ordered_of_get? u.ordered hg

lemma ordered_modifyAt
    (hf : ∀ (u : OrderedTable) u', f u.entries = .ok u' → (Value.table u').Ordered)
    (h : modifyAt f seen path u.entries = .ok t') : (Value.table t').Ordered := by
  induction path generalizing seen u t' with
  | nil => exact hf u t' h
  | cons key path ih =>
    obtain ⟨inner, inner', ho, hi, rfl⟩ := modifyAt_cons_eq_ok.mp h
    exact ordered_insert u.ordered (ih (u := ⟨inner, ordered_of_opens ho⟩) hi)

lemma ordered_openAt (h : u.entries.openAt path = .ok t') : (Value.table t').Ordered := by
  refine ordered_modifyAt (fun u u' hopen => ?_) h
  cases hopen
  exact u.ordered

lemma ordered_assignAt {v : OrderedValue} (h : u.entries.assignAt path key v.value = .ok t') :
    (Value.table t').Ordered := by
  refine ordered_modifyAt (fun u u' hmerge => ?_) h
  obtain ⟨m, -, rfl⟩ := OrderedTable.exists_of_merge (l := u) (r := .singleton key v) hmerge
  exact m.ordered

/-- Whether a table can be changed as well behind merging it into another one as before. -/
def Commutes (f : Table → Except Conflict Table) (u : OrderedTable) : Prop :=
  ∀ (a : OrderedTable) (u' m : Table), f u.entries = .ok u' →
    ((a.entries.merge u').result = .ok m ↔
      ∃ n, (a.entries.merge u.entries).result = .ok n ∧ f n = .ok m)

lemma Commutes.mergesTo {old? new? : Option Value} {inner' : Table} {y : Value}
    {ho : (Value.table inner).Ordered} (hf : Commutes f ⟨inner, ho⟩) (hi : f inner = .ok inner')
    (hnew : Opens new? inner) (hold : ∀ u, old? = some (.table u) → (Value.table u).Ordered) :
    MergesTo old? (some (.table inner')) (some y) ↔
      ∃ v?, MergesTo old? new? v? ∧ ∃ u u', Opens v? u ∧ f u = .ok u' ∧ y = .table u' := by
  rcases old? with _ | old
  · simp only [mergesTo_of_none, exists_eq_left, Option.some.injEq]
    constructor
    · rintro rfl
      exact ⟨inner, inner', hnew, hi, rfl⟩
    · rintro ⟨u, u', hu, hu', rfl⟩
      rw [hu.unique hnew, hi] at hu'
      cases hu'
      rfl
  · cases ht : old.table? with
    | none =>
      constructor
      · exact fun h => absurd h (not_mergesTo_table ht)
      · rintro ⟨v?, hv, u, u', hu, -⟩
        cases hnew with
        | none =>
          obtain rfl := mergesTo_none.mp hv
          cases hu
          cases ht
        | table => exact absurd hv (not_mergesTo_table ht)
    | some t =>
      obtain rfl := Value.eq_table ht
      have hchange := fun m => hf ⟨t, hold t rfl⟩ inner' m hi
      simp only [mergesTo_table, Option.some.injEq, hchange]
      constructor
      · rintro ⟨w, ⟨n, hn, hw⟩, rfl⟩
        cases hnew with
        | none =>
          cases hn
          exact ⟨_, .old _, t, w, .table t, hw, rfl⟩
        | table => exact ⟨_, mergesTo_table.mpr ⟨n, hn, rfl⟩, n, w, .table n, hw, rfl⟩
      · rintro ⟨v?, hv, u, u', hu, hu', rfl⟩
        refine ⟨u', ⟨u, ?_, hu'⟩, rfl⟩
        cases hnew with
        | none =>
          obtain rfl := mergesTo_none.mp hv
          cases hu
          rfl
        | table =>
          obtain ⟨w, hw, rfl⟩ := mergesTo_table.mp hv
          cases hu
          exact hw

lemma commutes_modifyAt
    (hf : ∀ u : OrderedTable,
      (∀ q, q ≠ [] → b.entries.find? (path ++ q) = u.entries.find? q) → Commutes f u)
    (seen : List String) : Commutes (modifyAt f seen path) b := by
  induction path generalizing seen b with
  | nil => exact hf b fun q hq => rfl
  | cons key path ih =>
    intro a b' m hb
    obtain ⟨inner, inner', hopens, hi, rfl⟩ := modifyAt_cons_eq_ok.mp hb
    have hat : b.entries.innerAt [] key = .ok inner := innerAt_eq_ok_iff.mpr hopens
    -- one level down the change commutes by induction, and up here only the entry at `key` differs
    have hinner : Commutes (modifyAt f (seen ++ [key]) path) ⟨inner, ordered_of_opens hopens⟩ := by
      refine ih (fun u hu => hf u fun q hq => ?_) _
      have hne : path ++ q ≠ [] := List.append_ne_nil_of_right_ne_nil _ hq
      rw [List.cons_append, find?_of_innerAt hat hne, hu q hq]
    rw [merge_insert a.increasing b.increasing fun y =>
      hinner.mergesTo hi hopens fun u hu => Value.ordered_of_get? a.ordered hu]
    simp only [modifyAt_cons_eq_ok]
    constructor
    · rintro ⟨n, y, hn, ⟨u, u', hu, hu', rfl⟩, rfl⟩
      exact ⟨n, hn, u, u', hu, hu', rfl⟩
    · rintro ⟨n, hn, u, u', hu, hu', rfl⟩
      exact ⟨n, _, hn, ⟨u, u', hu, hu', rfl⟩, rfl⟩

lemma commutes_open (b : OrderedTable) (path : List String) : Commutes (openAt path) b := by
  refine commutes_modifyAt (fun u hu a u' m h => ?_) []
  cases h
  simp

lemma commutes_assign {v : Value} (h : b.entries.find? (path ++ [key]) = none) :
    Commutes (assignAt path key v) b := by
  refine commutes_modifyAt (fun u hu a u' m hu' => ?_) []
  have hg : u.entries.get? key = none := (hu [key] (List.cons_ne_nil _ _)).symm.trans h
  obtain rfl : u' = u.entries.insert key v := by
    rw [merge_cons_eq_ok, hg] at hu'
    obtain ⟨w, hw, hu'⟩ := hu'
    cases hw
    cases hu'
    rfl
  have hlocal : ∀ y, MergesTo (a.entries.get? key) (some v) (some y) ↔
      ∃ v?, MergesTo (a.entries.get? key) (u.entries.get? key) v? ∧
        MergesTo v? (some v) (some y) := by
    simp [hg, mergesTo_none]
  rw [merge_insert a.increasing u.increasing hlocal]
  simp only [merge_cons_eq_ok]
  constructor
  · rintro ⟨n, y, hn, hy, rfl⟩
    exact ⟨n, hn, y, hy, rfl⟩
  · rintro ⟨n, hn, y, hy, hm⟩
    cases hm
    exact ⟨n, y, hn, hy, rfl⟩

end Paths

end Table

end RowFilter.Config
