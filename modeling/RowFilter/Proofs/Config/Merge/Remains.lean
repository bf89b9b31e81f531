import RowFilter.Proofs.Config.Merge.Pathwise

namespace RowFilter.Config

open Text

section Order

variable {p q r : List String}

lemma le_append (p q : List String) : p ≤ p ++ q := by
  induction p with
  | nil => exact not_lt.mp (List.not_lt_nil _)
  | cons key p ih => exact cons_le_cons ih

lemma le_of_isPrefix (h : p <+: q) : p ≤ q := by
  obtain ⟨r, rfl⟩ := h
  exact le_append p r

lemma append_lt (h : p < q) (hp : ¬ p <+: q) (r : List String) : p ++ r < q := by
  induction p generalizing q with
  | nil => exact absurd List.nil_prefix hp
  | cons key p ih =>
    cases q with
    | nil => exact absurd h (List.not_lt_nil _)
    | cons j q =>
      rw [List.cons_append, List.cons_lt_cons_iff]
      rcases List.cons_lt_cons_iff.mp h with hlt | ⟨rfl, hlt⟩
      · exact .inl hlt
      · exact .inr ⟨rfl, ih hlt fun hq => hp (List.cons_prefix_cons.mpr ⟨rfl, hq⟩)⟩

end Order

section Restrict

variable {keep : List String → Bool} {t : Table} {v w : Value} {key : String} {p q : List String}

lemma Value.table?_restrict : (v.restrict keep).table? = none ↔ v.table? = none := by
  cases v with
  | table t =>
    rw [Value.restrict]
    constructor <;> rintro ⟨⟩
  | _ => rfl

lemma Value.restrict_of_table? (h : v.table? = none) : v.restrict keep = v := by
  cases v with
  | table t => cases h
  | _ => rfl

lemma Value.ordered_restrict (h : v.Ordered) : (v.restrict keep).Ordered := by
  induction v using Value.induction_table generalizing keep with
  | h v ih =>
    cases v with
    | table es =>
      rw [Table.ordered_table_iff] at h
      rw [Value.restrict, Table.ordered_table_iff, Table.restrict_eq_filterMap]
      constructor
      · refine List.pairwise_filterMap.mpr (h.1.imp fun hlt e he f hf => ?_)
        split at he <;> cases he
        split at hf <;> cases hf
        exact hlt
      · intro e he
        obtain ⟨f, hf, he⟩ := List.mem_filterMap.mp he
        split at he <;> cases he
        exact ih es rfl f hf (h.2 f hf)
    | _ => exact h

def OrderedTable.restrict (keep : List String → Bool) (t : OrderedTable) : OrderedTable :=
  ⟨Table.restrict keep t.entries, Value.ordered_restrict t.ordered⟩

lemma Table.get?_restrict (keep : List String → Bool) (t : Table) (key : String) :
    (restrict keep t).get? key =
      if keep [key] then (t.get? key).map fun v => v.restrict fun p => keep (key :: p) else none := by
  induction t with
  | nil => cases keep [key] <;> rfl
  | cons e t ih =>
    obtain ⟨j, v⟩ := e
    rw [restrict]
    by_cases hj : key = j
    · subst hj
      cases hk : keep [key] with
      | true => rw [if_pos rfl, if_pos rfl, get?_cons_self, get?_cons_self, Option.map_some]
      | false => rw [if_neg Bool.false_ne_true, if_neg Bool.false_ne_true, ih, hk,
          if_neg Bool.false_ne_true]
    · rw [get?_cons_ne v t hj, ← ih]
      split
      · exact get?_cons_ne _ _ hj
      · rfl

lemma Value.find?_restrict (hkeep : ∀ p q, p ≠ [] → keep (p ++ q) = true → keep p = true) (v : Value)
    (hp : p ≠ []) : (v.restrict keep).find? p =
      if keep p then (v.find? p).map fun w => w.restrict fun q => keep (p ++ q) else none := by
  induction p generalizing v keep with
  | nil => exact absurd rfl hp
  | cons key p ih =>
    cases ht : v.table? with
    | none =>
      rw [restrict_of_table? ht, find?_of_table? ht]
      split <;> rfl
    | some t =>
      rw [eq_table ht, Value.restrict, find?_cons, find?_cons, Table.get?_restrict]
      cases hk : keep [key] with
      | false =>
        have hno : keep (key :: p) = false := by
          rw [Bool.eq_false_iff] at hk ⊢
          exact fun h => hk (hkeep [key] p (List.cons_ne_nil _ _) h)
        rw [hno]
        rfl
      | true =>
        cases hg : t.get? key with
        | none =>
          simp
        | some w =>
          rcases p with _ | ⟨k, p⟩
          · rw [hk]
            rfl
          · exact ih (fun p q _ h => hkeep (key :: p) q (List.cons_ne_nil _ _) h) w
              (List.cons_ne_nil k p)

lemma Value.find?_before (v : Value) (hp : p ≠ []) :
    (v.restrict (· < q)).find? p =
      if p < q then (v.find? p).map fun w => w.restrict fun r => decide (p ++ r < q) else none := by
  have hkeep : ∀ p r : List String, p ≠ [] → decide (p ++ r < q) = true → decide (p < q) = true :=
    fun p r _ h => decide_eq_true ((le_append p r).trans_lt (of_decide_eq_true h))
  rw [find?_restrict hkeep v hp]
  simp only [decide_eq_true_eq]

lemma Value.find?_before_of_lt (v : Value) (h : p < q) :
    (v.restrict (· < q)).find? p =
      (v.find? p).map fun w => w.restrict fun r => decide (p ++ r < q) := by
  cases p with
  | nil => rfl
  | cons key p => rw [find?_before v (List.cons_ne_nil _ _), if_pos h]

lemma Value.find?_before_of_le (v : Value) (hne : q ≠ []) (h : q ≤ p) :
    (v.restrict (· < q)).find? p = none := by
  have hp : p ≠ [] := by
    rintro rfl
    exact hne (le_antisymm h (le_append [] q))
  rw [find?_before v hp, if_neg (not_lt.mpr h)]

end Restrict

section Remains

variable {old new v : Value} {p q : List String}

lemma Value.isBlocked_before (h : q < p) :
    (new.restrict (· < p)).IsBlocked q ↔ new.IsBlocked q := by
  have hlt : ∀ r, r <+: q → r < p := fun r hr => (le_of_isPrefix hr).trans_lt h
  constructor
  · rintro ⟨r, w, hr, hne, hw, ht⟩
    rw [find?_before_of_lt new (hlt r hr)] at hw
    obtain ⟨x, hx, rfl⟩ := Option.map_eq_some_iff.mp hw
    exact ⟨r, x, hr, hne, hx, table?_restrict.mp ht⟩
  · rintro ⟨r, w, hr, hne, hw, ht⟩
    refine ⟨r, w.restrict fun s => decide (r ++ s < p), hr, hne, ?_, table?_restrict.mpr ht⟩
    rw [find?_before_of_lt new (hlt r hr), hw]
    rfl

lemma isMergedAt_of_lt (hp : IsConflict old new p) (hleast : ∀ r, IsConflict old new r → p ≤ r)
    (hq : q < p) (h : IsMergedAt old (new.restrict (· < p)) v q) : IsMergedAt old new v q := by
  refine ⟨fun hb => h.blocked ((Value.isBlocked_before hq).mpr hb), fun hf => ?_⟩
  have hmeets := h.free fun hb => hf ((Value.isBlocked_before hq).mp hb)
  rw [Value.find?_before_of_lt new hq] at hmeets
  cases hn : new.find? q with
  | none => rwa [hn] at hmeets
  | some w =>
    rw [hn, Option.map_some] at hmeets
    cases hw : w.table? with
    | none => rwa [Value.restrict_of_table? hw] at hmeets
    | some u =>
      obtain rfl := Value.eq_table hw
      cases ho : old.find? q with
      | none =>
        have hprefix : ¬ q <+: p := by
          intro hprefix
          obtain ⟨t, ht⟩ := (hp.way q hprefix hq.ne).1
          rw [ho] at ht
          cases ht
        rwa [ho, Value.restrict_of_forall fun s => decide_eq_true (append_lt hq hprefix s)] at hmeets
      | some x =>
        cases hx : x.table? with
        | none => exact absurd hq (not_lt.mpr (hleast q (isConflict_of ho hx hn ⟨u, rfl⟩)))
        | some t =>
          obtain rfl := Value.eq_table hx
          rwa [ho] at hmeets

lemma find?_of_le (hp : IsConflict old new p) (hne : p ≠ []) (hq : p ≤ q)
    (h : IsMergedAt old (new.restrict (· < p)) v q) : v.find? q = old.find? q := by
  have hfree : ¬ (new.restrict (· < p)).IsBlocked q := by
    rintro ⟨r, w, ⟨s, rfl⟩, -, hw, ht⟩
    rcases lt_or_ge r p with hlt | hle
    · rw [Value.find?_before_of_lt new hlt] at hw
      obtain ⟨x, hx, rfl⟩ := Option.map_eq_some_iff.mp hw
      by_cases hprefix : r <+: p
      · obtain ⟨u, hu⟩ := (hp.way r hprefix hlt.ne).2
        rw [hx] at hu
        cases hu
        cases Value.table?_restrict.mp ht
      · exact not_lt.mpr hq (append_lt hlt hprefix s)
    · rw [Value.find?_before_of_le new hne hle] at hw
      cases hw
  have hmeets := h.free hfree
  rw [Value.find?_before_of_le new hne hq] at hmeets
  exact meets_none.mp hmeets

end Remains

/-- Tables with a conflict are merged up to the least path of a conflict. That path is reported,
with what the old table holds there. What is left is what the part of the new table before that path
makes of the old one: before it the tables are merged, and from it on the old table is as it was. -/
theorem OrderedTable.merge_remains {l r : OrderedTable} (h : ∃ p, IsConflict l.value r.value p) :
    ∃ p v, IsConflict l.value r.value p ∧
      (∀ q, IsConflict l.value r.value q → p ≤ q) ∧
      l.value.find? p = some v ∧
      (l.merge r).result = .error ⟨p, v.shape⟩ ∧
      Conflict.message ⟨p, v.shape⟩ =
        s!"Cannot open '{Dotted.join p}' as a block, it already holds a {v.shape.text}" ∧
      (l.merge (r.restrict (· < p))).result = .ok (l.merge r).value ∧
      (∀ q, q < p → IsMergedAt l.value r.value (l.merge r).value.value q) ∧
      ∀ q, p ≤ q → (l.merge r).value.value.find? q = l.value.find? q := by
  obtain ⟨p', hp'⟩ := h
  rcases exists_result_or_conflict? (l.merge r) with ⟨m, hm⟩ | ⟨⟨p, found⟩, hc⟩
  · exact absurd hp' (not_isConflict_table hm)
  obtain ⟨⟨hconflict, ⟨v, hv, hfound⟩, hleast⟩, hbefore⟩ := Table.stops_of_conflict? hc
  have hne : p ≠ [] := by
    rintro rfl
    cases (isConflict_nil_iff.mp hconflict).1
  have hremains : (l.merge (r.restrict (· < p))).result = .ok (l.merge r).value :=
    merge_eq_ok_iff_entries.mpr hbefore
  have hmerged := isMergedAt_table hremains
  refine ⟨p, v, hconflict, hleast, hv, ?_, rfl, hremains, fun q hq => ?_, fun q hq => ?_⟩
  · rw [Merged.result, hc, ← hfound]
  · exact isMergedAt_of_lt hconflict hleast hq (hmerged q)
  · exact find?_of_le hconflict hne hq (hmerged q)

theorem OrderedTable.merge_remains_behind_sibling :
    let a : Table := [("a", .table [("x", .integer 1)]),
      ("b", .table [("c", .boolean true), ("d", .string "s")]), ("e", .integer 0)]
    let b : Table := [("a", .table [("y", .integer 2)]),
      ("b", .table [("c", .integer 5), ("d", .table []), ("f", .integer 9)]), ("e", .table [])]
    ∃ l r : OrderedTable, l.entries = a ∧ r.entries = b ∧
      (∃ p, IsConflict l.value r.value p) ∧
      (l.merge r).value.entries = [("a", .table [("x", .integer 1), ("y", .integer 2)]),
        ("b", .table [("c", .integer 5), ("d", .string "s")]), ("e", .integer 0)] ∧
      (l.merge r).result = .error ⟨["b", "d"], .string⟩ ∧
      (∀ q, IsConflict l.value r.value q → ["b", "d"] ≤ q) ∧
      (l.merge (r.restrict (· < ["b", "d"]))).result = .ok (l.merge r).value := by
  intro a b
  let l : OrderedTable := ⟨a, by decide⟩
  let r : OrderedTable := ⟨b, by decide⟩
  have hconflict : ∃ p, IsConflict l.value r.value p := ⟨["e"], isConflict_of rfl rfl rfl ⟨[], rfl⟩⟩
  have herror : (l.merge r).result = .error ⟨["b", "d"], .string⟩ := by rfl
  obtain ⟨p, v, -, hleast, -, hresult, -, hbefore, -⟩ := merge_remains hconflict
  rw [herror] at hresult
  obtain ⟨rfl, -⟩ := Conflict.mk.inj (Except.error.inj hresult)
  exact ⟨l, r, rfl, rfl, hconflict, by rfl, herror, hleast, hbefore⟩

end RowFilter.Config
