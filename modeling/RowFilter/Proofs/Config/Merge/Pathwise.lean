import RowFilter.Proofs.Config.Merge.Stopping

namespace RowFilter.Config

/-- What merging makes of what stands at a path on the two sides. -/
def Meets : Option Value → Option Value → Option Value → Prop
  | old?, none, v? => v? = old?
  | none, some new, v? => v? = some new
  | some (.array olds), some (.array items), v? => v? = some (.array (olds ++ items))
  | some (.table _), some (.table _), v? => IsTable v?
  | some _, some new, v? => v? = some new

def Value.IsBlocked (v : Value) (p : List String) : Prop :=
  ∃ q w, q <+: p ∧ q ≠ p ∧ v.find? q = some w ∧ w.table? = none

structure IsMergedAt (old new v : Value) (p : List String) : Prop where
  blocked : new.IsBlocked p → v.find? p = none
  free : ¬ new.IsBlocked p → Meets (old.find? p) (new.find? p) (v.find? p)

section Meets

variable {old new v : Value} {old? new? v? : Option Value}

lemma meets_none : Meets old? none v? ↔ v? = old? := by
  cases old? <;> rfl

lemma meets_of_none : Meets none new? v? ↔ v? = new? := by
  cases new? <;> rfl

lemma meets_of_table? (h : new.table? = none) :
    Meets (some old) (some new) v? ↔ v? = some (Table.joined (some old) new) := by
  cases new with
  | table u => cases h
  | _ => cases old <;> rfl

lemma meets_merge (h : (old.merge new).result = .ok v) : Meets (some old) (some new) (some v) := by
  cases hn : new.table? with
  | none =>
    rw [meets_of_table? hn, (Value.merge_eq_ok_iff_of_table? hn).mp h]
  | some u =>
    obtain rfl := Value.eq_table hn
    obtain ⟨t, w, rfl, -, rfl⟩ := Value.merge_table_eq_ok_iff.mp h
    exact ⟨w, rfl⟩

end Meets

section Blocked

variable {t : Table} {v w : Value} {key : String} {p : List String}

lemma Value.find?_of_isBlocked (h : v.IsBlocked p) : v.find? p = none := by
  obtain ⟨q, w, hq, hne, hw, ht⟩ := h
  cases hv : v.find? p with
  | none => rfl
  | some x =>
    obtain ⟨u, hu⟩ := Value.isTable_of_isPrefix hv hq hne
    rw [hw] at hu
    cases hu
    cases ht

lemma Value.not_isBlocked_nil (v : Value) : ¬ v.IsBlocked [] := by
  rintro ⟨q, w, hq, hne, -⟩
  exact hne (List.prefix_nil.mp hq)

lemma Value.isBlocked_of_table? (h : v.table? = none) : v.IsBlocked (key :: p) :=
  ⟨[], v, List.nil_prefix, (List.cons_ne_nil key p).symm, rfl, h⟩

lemma Value.isBlocked_cons : (Value.table t).IsBlocked (key :: p) ↔
    ∃ v, t.get? key = some v ∧ v.IsBlocked p := by
  constructor
  · rintro ⟨q, w, hq, hne, hw, ht⟩
    cases q with
    | nil =>
      cases hw
      cases ht
    | cons j q =>
      obtain ⟨rfl, hqp⟩ := List.cons_prefix_cons.mp hq
      rw [Value.find?_cons] at hw
      obtain ⟨v, hv, hw⟩ := Option.bind_eq_some_iff.mp hw
      exact ⟨v, hv, q, w, hqp, fun h => hne (congrArg (j :: ·) h), hw, ht⟩
  · rintro ⟨v, hv, q, w, hq, hne, hw, ht⟩
    refine ⟨key :: q, w, List.cons_prefix_cons.mpr ⟨rfl, hq⟩, fun h => hne (List.cons.inj h).2, ?_, ht⟩
    rw [Value.find?_cons, hv]
    exact hw

end Blocked

section Merged

variable {l r m : Table} {old new v : Value} {key : String} {p : List String}

lemma isMergedAt_nil (h : (old.merge new).result = .ok v) : IsMergedAt old new v [] :=
  ⟨fun hb => absurd hb (Value.not_isBlocked_nil new), fun _ => meets_merge h⟩

lemma isMergedAt_of_table? (h : (old.merge new).result = .ok v) (hn : new.table? = none) :
    IsMergedAt old new v (key :: p) := by
  have hb : new.IsBlocked (key :: p) := Value.isBlocked_of_table? hn
  refine ⟨fun _ => ?_, fun hf => absurd hb hf⟩
  rw [(Value.merge_eq_ok_iff_of_table? hn).mp h]
  exact Value.find?_of_table? (Table.table?_joined (some old) hn)

lemma isMergedAt_cons (h : Table.MergesTo (l.get? key) (r.get? key) (m.get? key))
    (hboth : ∀ old new v, l.get? key = some old → r.get? key = some new →
      (old.merge new).result = .ok v → IsMergedAt old new v p) :
    IsMergedAt (.table l) (.table r) (.table m) (key :: p) := by
  generalize hl : l.get? key = old? at h
  generalize hr : r.get? key = new? at h
  generalize hm : m.get? key = v? at h
  cases h with
  | old =>
    refine ⟨fun hb => ?_, fun _ => ?_⟩
    · obtain ⟨w, hw, -⟩ := Value.isBlocked_cons.mp hb
      rw [hr] at hw
      cases hw
    · rw [Value.find?_cons, Value.find?_cons, Value.find?_cons, hl, hr, hm]
      exact meets_none.mpr rfl
  | new new =>
    have heq : (Value.table m).find? (key :: p) = (Value.table r).find? (key :: p) := by
      rw [Value.find?_cons, Value.find?_cons, hr, hm]
    refine ⟨fun hb => heq.trans (Value.find?_of_isBlocked hb), fun _ => ?_⟩
    rw [heq, Value.find?_cons l, hl]
    exact meets_of_none.mpr rfl
  | @both old new v h =>
    obtain ⟨hblocked, hfree⟩ := hboth old new v hl hr h
    refine ⟨fun hb => ?_, fun hf => ?_⟩
    · obtain ⟨w, hw, hb⟩ := Value.isBlocked_cons.mp hb
      rw [hr] at hw
      cases hw
      rw [Value.find?_cons, hm]
      exact hblocked hb
    · rw [Value.find?_cons, Value.find?_cons, Value.find?_cons, hl, hr, hm]
      exact hfree fun hb => hf (Value.isBlocked_cons.mpr ⟨new, hr, hb⟩)

lemma isMergedAt {old new v : OrderedValue} (h : (old.merge new).result = .ok v) (p : List String) :
    IsMergedAt old.value new.value v.value p := by
  induction p generalizing old new v with
  | nil => exact isMergedAt_nil (OrderedValue.merge_eq_ok_iff.mp h)
  | cons key p ih =>
    rcases new.table?_cases with hr | ⟨r, rfl⟩
    · exact isMergedAt_of_table? (OrderedValue.merge_eq_ok_iff.mp h) hr
    · obtain ⟨l, rfl⟩ := OrderedValue.exists_table_of_merge h
      obtain ⟨m, hm, rfl⟩ := OrderedTable.toValue_merge_eq_ok_iff.mp h
      refine isMergedAt_cons (OrderedTable.merge_eq_ok_iff.mp hm key) fun old new v ho hn hv => ?_
      obtain ⟨old, -, rfl⟩ := OrderedTable.exists_of_get? ho
      obtain ⟨new, -, rfl⟩ := OrderedTable.exists_of_get? hn
      obtain ⟨v, hmerge, rfl⟩ := OrderedValue.exists_of_merge hv
      exact ih hmerge

lemma isMergedAt_table {l r m : OrderedTable} (h : (l.merge r).result = .ok m) (p : List String) :
    IsMergedAt l.value r.value m.value p :=
  isMergedAt (OrderedTable.toValue_merge_eq_ok_iff.mpr ⟨m, h, rfl⟩) p

lemma exists_result_or_conflict? {α : Type} (x : Merged α) :
    (∃ v, x.result = .ok v) ∨ ∃ c, x.conflict? = some c := by
  cases hc : x.conflict? with
  | none => exact .inl ⟨x.value, by rw [Merged.result, hc]⟩
  | some c => exact .inr ⟨c, rfl⟩

end Merged

theorem OrderedTable.merge_pathwise (l r : OrderedTable) :
    ((∃ m, (l.merge r).result = .ok m) ↔ ¬ ∃ p, IsConflict l.value r.value p) ∧
    ∀ m, (l.merge r).result = .ok m → ∀ p, IsMergedAt l.value r.value m.value p := by
  refine ⟨⟨?_, fun hno => ?_⟩, fun m hm => isMergedAt_table hm⟩
  · rintro ⟨m, hm⟩ ⟨p, hp⟩
    exact not_isConflict_table hm hp
  · rcases exists_result_or_conflict? (l.merge r) with h | ⟨c, hc⟩
    · exact h
    · exact absurd ⟨c.path, (Table.stops_of_conflict? hc).isFirst.isConflict⟩ hno

theorem OrderedTable.merge_pathwise_integer_over_table :
    let a : Table := [("a", .array [.integer 1]),
      ("b", .table [("c", .table [("d", .boolean true)]), ("e", .string "")])]
    let b : Table := [("a", .array [.integer 2]), ("b", .table [("c", .integer 3)]), ("f", .table [])]
    ∃ l r m : OrderedTable, l.entries = a ∧ r.entries = b ∧
      m.entries = [("a", .array [.integer 1, .integer 2]),
        ("b", .table [("c", .integer 3), ("e", .string "")]), ("f", .table [])] ∧
      (l.merge r).result = .ok m ∧ (¬ ∃ p, IsConflict l.value r.value p) ∧
      ∀ p, IsMergedAt l.value r.value m.value p := by
  intro a b
  let l : OrderedTable := ⟨a, by decide⟩
  let r : OrderedTable := ⟨b, by decide⟩
  have hm : (l.merge r).result = .ok (l.merge r).value := by rfl
  obtain ⟨hiff, hpaths⟩ := merge_pathwise l r
  exact ⟨l, r, _, rfl, rfl, by rfl, hm, hiff.mp ⟨_, hm⟩, hpaths _ hm⟩

end RowFilter.Config
