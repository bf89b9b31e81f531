import RowFilter.Proofs.Config.Table
import RowFilter.Proofs.Ordered

namespace RowFilter.Config

def Conflict.under (seen : List String) (c : Conflict) : Conflict := ⟨seen ++ c.path, c.found⟩

def Merged.under {α : Type} (seen : List String) (m : Merged α) : Merged α :=
  ⟨m.value, m.conflict?.map (Conflict.under seen)⟩

mutual

lemma Value.mergeAt_append (seen path : List String) (old : Value) :
    (new : Value) → Value.mergeAt (seen ++ path) old new = (Value.mergeAt path old new).under seen
  | .table entries => by
    cases old with
    | table t =>
      rw [Value.mergeAt, Value.mergeAt, Table.mergeAt_append seen path t entries]
      rfl
    | _ => rfl
  | .array items => by cases old <;> rfl
  | .string s => rfl
  | .integer n => rfl
  | .boolean b => rfl

lemma Table.mergeAt_append (seen path : List String) (t : Table) :
    (entries : List (String × Value)) →
      Table.mergeAt (seen ++ path) t entries = (Table.mergeAt path t entries).under seen
  | [] => rfl
  | (key, new) :: entries => by
    rw [Table.mergeAt, Table.mergeAt]
    split
    · exact Table.mergeAt_append seen path _ entries
    · next old hg =>
      rw [List.append_assoc, Value.mergeAt_append seen (path ++ [key]) old new]
      simp only [Merged.under]
      cases hc : (Value.mergeAt (path ++ [key]) old new).conflict? with
      | none => exact Table.mergeAt_append seen path _ entries
      | some c => rfl

end

lemma Value.mergeAt_eq (path : List String) (old new : Value) :
    Value.mergeAt path old new = (old.merge new).under path := by
  rw [Value.merge, ← Value.mergeAt_append, List.append_nil]

namespace Table

lemma increasing_insert {t : Table} (key : String) (v : Value) (h : Ordered.Increasing t) :
    Ordered.Increasing (t.insert key v) :=
  Ordered.increasing_insert key v h

section Entries

variable {t : Table}

lemma increasing_mergeAt (path : List String) (es : List (String × Value))
    (h : Ordered.Increasing t) : Ordered.Increasing (mergeAt path t es).value := by
  induction es generalizing t with
  | nil => exact h
  | cons e es ih =>
    obtain ⟨key, new⟩ := e
    rw [mergeAt]
    split
    · exact ih (increasing_insert _ _ h)
    · simp only
      split
      · exact ih (increasing_insert _ _ h)
      · exact increasing_insert _ _ h

lemma forall_mem_mergeAt {P : String → Value → Prop} (path : List String)
    {es : List (String × Value)} (hes : ∀ e ∈ es, P e.1 e.2)
    (step : ∀ e ∈ es, ∀ path old, P e.1 old → P e.1 (Value.mergeAt path old e.2).value)
    (ht : ∀ e ∈ t, P e.1 e.2) : ∀ e ∈ (mergeAt path t es).value, P e.1 e.2 := by
  induction es generalizing t with
  | nil => exact ht
  | cons e es ih =>
    obtain ⟨key, new⟩ := e
    rw [List.forall_mem_cons] at hes step
    have hinsert : ∀ v, P key v → ∀ e ∈ t.insert key v, P e.1 e.2 := by
      intro v hv e he
      rcases Ordered.mem_insert he with rfl | he
      · exact hv
      · exact ht e he
    rw [mergeAt]
    split
    · exact ih hes.2 step.2 (hinsert new hes.1)
    · next old hg =>
      have hold : P key old := ht _ (Ordered.mem_of_lookup hg)
      have hmerged := hinsert _ (step.1 (path ++ [key]) old hold)
      simp only
      split
      · exact ih hes.2 step.2 hmerged
      · exact hmerged

end Entries

/-- What stands at a key of two tables, and what stands there when they are merged. -/
inductive MergesTo : Option Value → Option Value → Option Value → Prop
  | old (old? : Option Value) : MergesTo old? none old?
  | new (new : Value) : MergesTo none (some new) (some new)
  | both {old new v : Value} (h : (old.merge new).result = .ok v) :
      MergesTo (some old) (some new) (some v)

section Keys

variable {a b m t t' u : Table} {es : List (String × Value)} {key : String} {x v old : Value}
  {old? new? v? w? : Option Value}

lemma mergesTo_none : MergesTo old? none v? ↔ v? = old? := by
  constructor
  · rintro ⟨⟩
    rfl
  · rintro rfl
    exact .old v?

lemma mergesTo_of_none {new? : Option Value} : MergesTo none new? v? ↔ v? = new? := by
  constructor
  · rintro ⟨⟩ <;> rfl
  · rintro rfl
    cases v? with
    | none => exact .old _
    | some v => exact .new v

lemma MergesTo.unique (h : MergesTo old? new? v?) (h' : MergesTo old? new? w?) : v? = w? := by
  cases h with
  | old => exact (mergesTo_none.mp h').symm
  | new => cases h' with | new => rfl
  | both h =>
    cases h' with
    | both h' =>
      rw [h] at h'
      cases h'
      rfl

lemma MergesTo.isSome (h : MergesTo old? (some x) v?) : ∃ v, v? = some v := by
  cases h <;> exact ⟨_, rfl⟩

lemma result_merge_table (u es : Table) :
    ((Value.table u).merge (.table es)).result = (u.merge es).result.map Value.table := by
  simp only [Value.merge, Value.mergeAt, merge, Merged.result]
  split <;> rfl

lemma mergesTo_table : MergesTo (some (.table u)) (some (.table es)) v? ↔
    ∃ w, (u.merge es).result = .ok w ∧ v? = some (.table w) := by
  constructor
  · rintro ⟨⟩
    next h =>
    rw [result_merge_table] at h
    obtain ⟨w, hw, rfl⟩ := Outcome.map_eq_ok h
    exact ⟨w, hw, rfl⟩
  · rintro ⟨w, hw, rfl⟩
    refine .both ?_
    rw [result_merge_table, hw]
    rfl

lemma not_mergesTo_table (hold : old.table? = none) :
    ¬ MergesTo (some old) (some (.table es)) v? := by
  rintro ⟨⟩
  next h =>
  cases old with
  | table u => cases hold
  | _ => cases h

lemma merge_cons_eq_ok : (t.merge ((key, x) :: es)).result = .ok t' ↔
    ∃ v, MergesTo (t.get? key) (some x) (some v) ∧ ((t.insert key v).merge es).result = .ok t' := by
  rw [merge, mergeAt]
  cases t.get? key with
  | none =>
    constructor
    · exact fun h => ⟨x, .new x, h⟩
    · rintro ⟨v, hv, h⟩
      cases hv
      exact h
  | some old =>
    have hold : ∀ v, MergesTo (some old) (some x) (some v) ↔ (old.merge x).result = .ok v := by
      intro v
      constructor
      · rintro ⟨⟩
        assumption
      · exact .both
    simp only [List.nil_append, Value.mergeAt_eq [key], Merged.under, hold, Merged.result]
    cases (old.merge x).conflict? with
    | none => simp [merge]
    | some c => simp

lemma get?_cons_self (key : String) (x : Value) (es : List (String × Value)) :
    get? ((key, x) :: es) key = some x :=
  Ordered.lookup_cons_self (key, x) es

lemma get?_cons_ne {j : String} (x : Value) (es : List (String × Value)) (h : j ≠ key) :
    get? ((key, x) :: es) j = get? es j :=
  Ordered.lookup_cons_ne (key, x) es h

lemma get?_tail (h : Ordered.Increasing ((key, x) :: es)) : get? es key = none :=
  Ordered.lookup_tail h

lemma forall_mergesTo_cons (hes : Ordered.Increasing ((key, x) :: es))
    (hv : MergesTo (t.get? key) (some x) (some v)) :
    (∀ j, MergesTo ((t.insert key v).get? j) (get? es j) (t'.get? j)) ↔
      ∀ j, MergesTo (t.get? j) (get? ((key, x) :: es) j) (t'.get? j) := by
  refine forall_congr' fun j => ?_
  by_cases hj : j = key
  · subst hj
    rw [get?_insert_self, get?_tail hes, get?_cons_self, mergesTo_none]
    constructor
    · intro h
      rwa [h]
    · exact fun h => h.unique hv
  · rw [get?_insert_ne t v hj, get?_cons_ne x es hj]

theorem merge_eq_ok_iff (ht : Ordered.Increasing t) (hes : Ordered.Increasing es) :
    (t.merge es).result = .ok t' ↔
      Ordered.Increasing t' ∧ ∀ j, MergesTo (t.get? j) (get? es j) (t'.get? j) := by
  induction es generalizing t with
  | nil =>
    constructor
    · intro h
      cases h
      exact ⟨ht, fun j => .old _⟩
    · rintro ⟨ht', h⟩
      exact congrArg Except.ok (Ordered.ext ht ht' fun j => (mergesTo_none.mp (h j)).symm)
  | cons e es ih =>
    obtain ⟨key, x⟩ := e
    rw [merge_cons_eq_ok]
    have htail := (List.pairwise_cons.mp hes).2
    constructor
    · rintro ⟨v, hv, h⟩
      rw [ih (increasing_insert key v ht) htail, forall_mergesTo_cons hes hv] at h
      exact h
    · rintro ⟨ht', h⟩
      have hkey := h key
      rw [get?_cons_self] at hkey
      obtain ⟨v, hv⟩ := hkey.isSome
      rw [hv] at hkey
      refine ⟨v, hkey, ?_⟩
      rw [ih (increasing_insert key v ht) htail, forall_mergesTo_cons hes hkey]
      exact ⟨ht', h⟩

lemma exists_merge (hes : Ordered.Increasing es)
    (h : ∀ j, ∃ v?, MergesTo (t.get? j) (get? es j) v?) : ∃ t', (t.merge es).result = .ok t' := by
  induction es generalizing t with
  | nil => exact ⟨t, rfl⟩
  | cons e es ih =>
    obtain ⟨key, x⟩ := e
    obtain ⟨v?, hv⟩ := h key
    rw [get?_cons_self] at hv
    obtain ⟨v, rfl⟩ := hv.isSome
    obtain ⟨t', ht'⟩ := ih (t := t.insert key v) (List.pairwise_cons.mp hes).2 fun j => by
      by_cases hj : j = key
      · subst hj
        rw [get?_insert_self, get?_tail hes]
        exact ⟨_, .old _⟩
      · obtain ⟨w?, hw⟩ := h j
        rw [get?_cons_ne x es hj] at hw
        rw [get?_insert_ne t v hj]
        exact ⟨w?, hw⟩
    exact ⟨t', merge_cons_eq_ok.mpr ⟨v, hv, ht'⟩⟩

lemma merge_insert {R : Option Value → Value → Prop} (ha : Ordered.Increasing a)
    (hb : Ordered.Increasing b)
    (hR : ∀ y, MergesTo (a.get? key) (some x) (some y) ↔
      ∃ v?, MergesTo (a.get? key) (b.get? key) v? ∧ R v? y) :
    (a.merge (b.insert key x)).result = .ok m ↔
      ∃ n y, (a.merge b).result = .ok n ∧ R (n.get? key) y ∧ m = n.insert key y := by
  have hinsert := increasing_insert key x hb
  rw [merge_eq_ok_iff ha hinsert]
  constructor
  · rintro ⟨hm, hall⟩
    have hkey := hall key
    rw [get?_insert_self] at hkey
    obtain ⟨y, hy⟩ := hkey.isSome
    rw [hy] at hkey
    obtain ⟨v?, hv, hr⟩ := (hR y).mp hkey
    have hne : ∀ j, j ≠ key → MergesTo (a.get? j) (b.get? j) (m.get? j) := by
      intro j hj
      have := hall j
      rwa [get?_insert_ne b x hj] at this
    -- the tables can be merged without the entry, and the entry then changes the result at its key
    obtain ⟨n, hn⟩ := exists_merge (t := a) hb fun j => by
      by_cases hj : j = key
      · subst hj
        exact ⟨v?, hv⟩
      · exact ⟨_, hne j hj⟩
    obtain ⟨hno, hmerges⟩ := (merge_eq_ok_iff ha hb).mp hn
    refine ⟨n, y, hn, (hmerges key).unique hv ▸ hr, ?_⟩
    refine Ordered.ext hm (increasing_insert key y hno) fun j => ?_
    by_cases hj : j = key
    · subst hj
      exact hy.trans (get?_insert_self n j y).symm
    · exact ((hne j hj).unique (hmerges j)).trans (get?_insert_ne n y hj).symm
  · rintro ⟨n, y, hn, hr, rfl⟩
    obtain ⟨hno, hmerges⟩ := (merge_eq_ok_iff ha hb).mp hn
    refine ⟨increasing_insert key y hno, fun j => ?_⟩
    by_cases hj : j = key
    · subst hj
      rw [get?_insert_self, get?_insert_self]
      exact (hR y).mpr ⟨_, hmerges j, hr⟩
    · rw [get?_insert_ne b x hj, get?_insert_ne n y hj]
      exact hmerges j

end Keys

end Table

lemma Value.eq_table {v : Value} {t : Table} (h : v.table? = some t) : v = .table t := by
  cases v <;> cases h
  rfl

lemma Value.merge_eq_ok_iff_of_table? {old new v : Value} (h : new.table? = none) :
    (old.merge new).result = .ok v ↔ v = Table.joined (some old) new := by
  rw [Value.merge, Table.mergeAt_of_table? [] old h]
  constructor
  · rintro ⟨⟩
    rfl
  · rintro rfl
    rfl

lemma Value.merge_table_eq_ok_iff {old v : Value} {u : Table} :
    (old.merge (.table u)).result = .ok v ↔
      ∃ t w : Table, old = .table t ∧ (t.merge u).result = .ok w ∧ v = .table w := by
  constructor
  · intro h
    cases ht : old.table? with
    | none => exact absurd (Table.MergesTo.both h) (Table.not_mergesTo_table ht)
    | some t =>
      obtain rfl := Value.eq_table ht
      obtain ⟨w, hw, hv⟩ := Table.mergesTo_table.mp (.both h)
      exact ⟨t, w, rfl, hw, Option.some.inj hv⟩
  · rintro ⟨t, w, rfl, hw, rfl⟩
    rw [Table.result_merge_table, hw]
    rfl

end RowFilter.Config
