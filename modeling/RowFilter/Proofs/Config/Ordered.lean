import RowFilter.Proofs.Config.Merge

/-! Values with their tables in order, as a type of its own. Merging such values gives such a value.
-/

namespace RowFilter.Config

theorem Value.induction_table {P : Value → Prop}
    (h : ∀ v, (∀ t, v = .table t → ∀ e ∈ t, P e.2) → P v) (v : Value) : P v := by
  induction hn : sizeOf v using Nat.strong_induction_on generalizing v with
  | _ n ih =>
    refine h v fun t ht e he => ih (sizeOf e.2) ?_ e.2 rfl
    have hmem : sizeOf e < sizeOf t := List.sizeOf_lt_of_mem he
    have hentry : sizeOf e.2 < sizeOf e := by
      obtain ⟨key, w⟩ := e
      simp
    rw [← hn, ht, Value.table.sizeOf_spec]
    omega

section Order

variable {t : Table} {key : String} {v : Value}

lemma Table.ordered_table_iff : (Value.table t).Ordered ↔
    Ordered.Increasing t ∧ ∀ e ∈ t, e.2.Ordered := by
  have hentries : Value.EntriesOrdered t ↔ ∀ e ∈ t, e.2.Ordered := by
    induction t with
    | nil => simp [Value.EntriesOrdered]
    | cons e t ih => rw [Value.EntriesOrdered, ih, List.forall_mem_cons]
  rw [Value.Ordered, hentries]

lemma Table.allOrdered_iff {vs : List Value} : Value.AllOrdered vs ↔ ∀ v ∈ vs, v.Ordered := by
  induction vs with
  | nil => simp [Value.AllOrdered]
  | cons v vs ih => rw [Value.AllOrdered, ih, List.forall_mem_cons]

lemma Value.ordered_of_get? (h : (Value.table t).Ordered) (hg : t.get? key = some v) : v.Ordered :=
  (Table.ordered_table_iff.mp h).2 _ (Ordered.mem_of_lookup hg)

lemma Table.ordered_insert (ht : (Value.table t).Ordered) (hv : v.Ordered) :
    (Value.table (t.insert key v)).Ordered := by
  rw [ordered_table_iff] at ht ⊢
  refine ⟨increasing_insert key v ht.1, fun e he => ?_⟩
  rcases Ordered.mem_insert he with rfl | he
  · exact hv
  · exact ht.2 e he

lemma Value.ordered_mergeAt {old new : Value} (path : List String) (ho : old.Ordered)
    (hn : new.Ordered) : (Value.mergeAt path old new).value.Ordered := by
  induction new using Value.induction_table generalizing path old with
  | h new ih =>
    cases new with
    | table es =>
      cases old with
      | table t =>
        rw [Table.ordered_table_iff] at ho hn
        refine Table.ordered_table_iff.mpr ⟨Table.increasing_mergeAt path es ho.1, ?_⟩
        exact Table.forall_mem_mergeAt (P := fun _ v => v.Ordered) path hn.2
          (fun e he path old hold => ih es rfl e he path hold (hn.2 e he)) ho.2
      | _ => exact ho
    | array items =>
      cases old with
      | array olds =>
        rw [Value.Ordered, Table.allOrdered_iff] at ho hn
        exact Table.allOrdered_iff.mpr (List.forall_mem_append.mpr ⟨ho, hn⟩)
      | _ => exact hn
    | _ => exact hn

end Order

namespace Value

mutual

def decidableOrdered : (v : Value) → Decidable v.Ordered
  | array items => decidableAllOrdered items
  | table entries => @instDecidableAnd _ _ inferInstance (decidableEntriesOrdered entries)
  | string _ | integer _ | boolean _ => .isTrue trivial

def decidableAllOrdered : (vs : List Value) → Decidable (AllOrdered vs)
  | [] => .isTrue trivial
  | v :: vs => @instDecidableAnd _ _ v.decidableOrdered (decidableAllOrdered vs)

def decidableEntriesOrdered : (es : List (String × Value)) → Decidable (EntriesOrdered es)
  | [] => .isTrue trivial
  | (_, v) :: es => @instDecidableAnd _ _ v.decidableOrdered (decidableEntriesOrdered es)

end

instance : DecidablePred Ordered := decidableOrdered

end Value

structure OrderedValue where
  value : Value
  ordered : value.Ordered

structure OrderedTable where
  entries : Table
  ordered : (Value.table entries).Ordered

namespace OrderedTable

def value (t : OrderedTable) : Value := .table t.entries

def toValue (t : OrderedTable) : OrderedValue := ⟨t.value, t.ordered⟩

def empty : OrderedTable := ⟨[], Ordered.increasing_nil, trivial⟩

def get? (t : OrderedTable) (key : String) : Option OrderedValue :=
  (t.entries.get? key).pmap OrderedValue.mk fun _ => Value.ordered_of_get? t.ordered

def insert (t : OrderedTable) (key : String) (v : OrderedValue) : OrderedTable :=
  ⟨t.entries.insert key v.value, Table.ordered_insert t.ordered v.ordered⟩

end OrderedTable

namespace OrderedValue

def merge (old new : OrderedValue) : Merged OrderedValue :=
  let m := old.value.merge new.value
  ⟨⟨m.value, Value.ordered_mergeAt [] old.ordered new.ordered⟩, m.conflict?⟩

end OrderedValue

def OrderedTable.merge (old new : OrderedTable) : Merged OrderedTable :=
  let m := old.entries.merge new.entries
  ⟨⟨m.value, Value.ordered_mergeAt [] old.toValue.ordered new.toValue.ordered⟩, m.conflict?⟩

section Merge

variable {old new v : OrderedValue} {l r m t u : OrderedTable} {key : String} {x : Value}

@[ext] theorem OrderedValue.ext (h : old.value = new.value) : old = new := by
  cases old
  cases new
  cases h
  rfl

@[ext] theorem OrderedTable.ext (h : t.entries = u.entries) : t = u := by
  cases t
  cases u
  cases h
  rfl

lemma OrderedTable.toValue_inj (h : t.toValue = u.toValue) : t = u :=
  OrderedTable.ext (Value.table.inj (congrArg OrderedValue.value h))

lemma OrderedTable.increasing (t : OrderedTable) : Ordered.Increasing t.entries :=
  (Table.ordered_table_iff.mp t.ordered).1

lemma OrderedTable.ext_get? (h : ∀ key, t.entries.get? key = u.entries.get? key) : t = u :=
  OrderedTable.ext (Ordered.ext t.increasing u.increasing h)

lemma OrderedTable.get?_eq_some_iff : t.get? key = some v ↔ t.entries.get? key = some v.value := by
  rw [get?, Option.pmap_eq_some_iff]
  constructor
  · rintro ⟨x, hx, hg, rfl⟩
    exact hg
  · exact fun h => ⟨v.value, v.ordered, h, rfl⟩

lemma OrderedTable.exists_of_get? (h : t.entries.get? key = some x) :
    ∃ v, t.get? key = some v ∧ v.value = x :=
  ⟨⟨x, Value.ordered_of_get? t.ordered h⟩, get?_eq_some_iff.mpr h, rfl⟩

lemma OrderedValue.exists_toValue {w : Table} (h : v.value = .table w) :
    ∃ t : OrderedTable, v = t.toValue := by
  obtain ⟨v, hv⟩ := v
  cases h
  exact ⟨⟨w, hv⟩, rfl⟩

lemma OrderedValue.table?_cases (v : OrderedValue) :
    v.value.table? = none ∨ ∃ t : OrderedTable, v = t.toValue := by
  cases h : v.value.table? with
  | none => exact .inl rfl
  | some t => exact .inr (exists_toValue (Value.eq_table h))

theorem OrderedValue.induction_table {P : OrderedValue → Prop}
    (h : ∀ v, (∀ t : OrderedTable, v = t.toValue → ∀ key w, t.get? key = some w → P w) → P v)
    (v : OrderedValue) : P v := by
  obtain ⟨v, hv⟩ := v
  induction v using Value.induction_table with
  | h v ih =>
    refine h ⟨v, hv⟩ fun t ht key w hw => ?_
    have hvalue : v = .table t.entries := congrArg OrderedValue.value ht
    have hmem := Ordered.mem_of_lookup (OrderedTable.get?_eq_some_iff.mp hw)
    exact ih t.entries hvalue _ hmem w.ordered

lemma OrderedValue.map_result_merge (old new : OrderedValue) :
    (old.merge new).result.map value = (old.value.merge new.value).result := by
  simp only [merge, Merged.result]
  cases (old.value.merge new.value).conflict? <;> rfl

lemma OrderedTable.map_result_merge (l r : OrderedTable) :
    (l.merge r).result.map entries = (l.entries.merge r.entries).result := by
  simp only [merge, Merged.result]
  cases (l.entries.merge r.entries).conflict? <;> rfl

lemma OrderedValue.exists_of_merge (h : (old.value.merge new.value).result = .ok x) :
    ∃ v, (old.merge new).result = .ok v ∧ v.value = x := by
  rw [← map_result_merge] at h
  obtain ⟨v, hv, rfl⟩ := Outcome.map_eq_ok h
  exact ⟨v, hv, rfl⟩

lemma OrderedValue.merge_eq_ok_iff :
    (old.merge new).result = .ok v ↔ (old.value.merge new.value).result = .ok v.value := by
  constructor
  · intro h
    rw [← map_result_merge, h]
    rfl
  · intro h
    obtain ⟨w, hw, hv⟩ := exists_of_merge h
    rw [hw, OrderedValue.ext hv]

lemma OrderedTable.exists_of_merge {w : Table} (h : (l.entries.merge r.entries).result = .ok w) :
    ∃ m, (l.merge r).result = .ok m ∧ m.entries = w := by
  rw [← map_result_merge] at h
  obtain ⟨m, hm, rfl⟩ := Outcome.map_eq_ok h
  exact ⟨m, hm, rfl⟩

lemma OrderedTable.merge_eq_ok_iff_entries :
    (l.merge r).result = .ok m ↔ (l.entries.merge r.entries).result = .ok m.entries := by
  constructor
  · intro h
    rw [← map_result_merge, h]
    rfl
  · intro h
    obtain ⟨w, hw, hm⟩ := exists_of_merge h
    rw [hw, OrderedTable.ext hm]

theorem OrderedTable.merge_eq_ok_iff : (l.merge r).result = .ok m ↔
    ∀ key, Table.MergesTo (l.entries.get? key) (r.entries.get? key) (m.entries.get? key) := by
  rw [merge_eq_ok_iff_entries, Table.merge_eq_ok_iff l.increasing r.increasing]
  exact and_iff_right m.increasing

lemma OrderedTable.exists_merge
    (h : ∀ key, ∃ v?, Table.MergesTo (l.entries.get? key) (r.entries.get? key) v?) :
    ∃ m, (l.merge r).result = .ok m := by
  obtain ⟨w, hw⟩ := Table.exists_merge r.increasing h
  obtain ⟨m, hm, -⟩ := exists_of_merge hw
  exact ⟨m, hm⟩

lemma OrderedTable.toValue_merge_eq_ok_iff : (l.toValue.merge r.toValue).result = .ok v ↔
    ∃ m : OrderedTable, (l.merge r).result = .ok m ∧ v = m.toValue := by
  have hresult : (l.toValue.merge r.toValue).result = (l.merge r).result.map toValue := by
    change Merged.result ⟨(l.merge r).value.toValue, (l.merge r).conflict?⟩ = _
    simp only [Merged.result]
    cases (l.merge r).conflict? <;> rfl
  rw [hresult]
  constructor
  · intro h
    obtain ⟨m, hm, hv⟩ := Outcome.map_eq_ok h
    exact ⟨m, hm, hv.symm⟩
  · rintro ⟨m, hm, rfl⟩
    rw [hm]
    rfl

lemma OrderedValue.exists_table_of_merge (h : (old.merge u.toValue).result = .ok v) :
    ∃ t : OrderedTable, old = t.toValue := by
  obtain ⟨t, w, ht, -, -⟩ := Value.merge_table_eq_ok_iff.mp (merge_eq_ok_iff.mp h)
  exact exists_toValue ht

end Merge

end RowFilter.Config
