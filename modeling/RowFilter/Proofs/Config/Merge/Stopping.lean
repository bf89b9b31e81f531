import RowFilter.Proofs.Config.Ordered

/-! Merging stops at the first conflict, with what the entries before it have made of the old table.
-/

namespace RowFilter.Config

def Value.find? (v : Value) : List String → Option Value
  | [] => some v
  | key :: keys => v.table?.bind fun t => t.find? (key :: keys)

namespace Value

section Find

variable {t : Table} {v w : Value} {key : String} {p q : List String}

lemma find?_of_table? (h : v.table? = none) : v.find? (key :: p) = none := by
  rw [find?, h]
  rfl

lemma find?_cons (t : Table) (key : String) (p : List String) :
    (Value.table t).find? (key :: p) = (t.get? key).bind fun v => v.find? p := by
  change t.find? (key :: p) = _
  cases p with
  | nil => cases hg : t.get? key <;> simp [Table.find?, find?, hg]
  | cons k p => exact Table.find?_cons t key (List.cons_ne_nil k p)

lemma find?_append (v : Value) (p q : List String) :
    v.find? (p ++ q) = (v.find? p).bind fun w => w.find? q := by
  induction p generalizing v with
  | nil => rfl
  | cons key p ih =>
    cases ht : v.table? with
    | none => rw [List.cons_append, find?_of_table? ht, find?_of_table? ht, Option.bind_none]
    | some t =>
      rw [eq_table ht, List.cons_append, find?_cons, find?_cons, Option.bind_assoc]
      simp only [ih]

lemma isTable_of_isPrefix (h : v.find? p = some w) (hq : q <+: p) (hne : q ≠ p) :
    IsTable (v.find? q) := by
  obtain ⟨r, rfl⟩ := hq
  rw [find?_append] at h
  obtain ⟨u, hu, h⟩ := Option.bind_eq_some_iff.mp h
  cases r with
  | nil => simp at hne
  | cons key r =>
    cases ht : u.table? with
    | none =>
      rw [find?_of_table? ht] at h
      cases h
    | some t => exact ⟨t, by rw [hu, eq_table ht]⟩

end Find

end Value

/-- Whether a table of the new value would have to be put where the old one holds something else. -/
structure IsConflict (old new : Value) (p : List String) : Prop where
  way : ∀ q, q <+: p → q ≠ p → IsTable (old.find? q) ∧ IsTable (new.find? q)
  old : ∃ v, old.find? p = some v ∧ v.table? = none
  new : IsTable (new.find? p)

section Conflict

variable {t u es : Table} {old new v : Value} {key : String} {p : List String}

lemma isConflict_of {w : Value} (ho : old.find? p = some v) (hv : v.table? = none)
    (hn : new.find? p = some w) (hw : IsTable (some w)) : IsConflict old new p where
  way _ hq hne := ⟨Value.isTable_of_isPrefix ho hq hne, Value.isTable_of_isPrefix hn hq hne⟩
  old := ⟨v, ho, hv⟩
  new := hn ▸ hw

lemma isConflict_nil_iff : IsConflict old new [] ↔ old.table? = none ∧ ∃ u, new = .table u := by
  constructor
  · rintro ⟨-, ⟨v, hv, ht⟩, u, hu⟩
    cases hv
    cases hu
    exact ⟨ht, u, rfl⟩
  · rintro ⟨ht, u, rfl⟩
    exact isConflict_of rfl ht rfl ⟨u, rfl⟩

lemma isConflict_cons_iff : IsConflict (.table t) (.table u) (key :: p) ↔
    ∃ o n, t.get? key = some o ∧ u.get? key = some n ∧ IsConflict o n p := by
  constructor
  · rintro ⟨-, ⟨v, hv, ht⟩, w, hw⟩
    rw [Value.find?_cons] at hv hw
    obtain ⟨o, ho, hv⟩ := Option.bind_eq_some_iff.mp hv
    obtain ⟨n, hn, hw⟩ := Option.bind_eq_some_iff.mp hw
    exact ⟨o, n, ho, hn, isConflict_of hv ht hw ⟨w, rfl⟩⟩
  · rintro ⟨o, n, ho, hn, -, ⟨v, hv, ht⟩, w, hw⟩
    refine isConflict_of ?_ ht ?_ ⟨w, rfl⟩
    · rw [Value.find?_cons, ho]
      exact hv
    · rw [Value.find?_cons, hn]
      exact hw

lemma IsConflict.exists_tables {old new : OrderedValue}
    (h : IsConflict old.value new.value (key :: p)) :
    ∃ t u : OrderedTable, old = t.toValue ∧ new = u.toValue := by
  obtain ⟨⟨t, ht⟩, u, hu⟩ := h.way [] List.nil_prefix (List.cons_ne_nil key p).symm
  obtain ⟨t, rfl⟩ := OrderedValue.exists_toValue (Option.some.inj ht)
  obtain ⟨u, rfl⟩ := OrderedValue.exists_toValue (Option.some.inj hu)
  exact ⟨t, u, rfl, rfl⟩

lemma not_isConflict {old new v : OrderedValue} (h : (old.merge new).result = .ok v) :
    ¬ IsConflict old.value new.value p := by
  intro hc
  induction p generalizing old new v with
  | nil =>
    obtain ⟨ht, u, hu⟩ := isConflict_nil_iff.mp hc
    rw [OrderedValue.merge_eq_ok_iff, hu] at h
    exact Table.not_mergesTo_table ht (.both h)
  | cons key p ih =>
    obtain ⟨t, u, rfl, rfl⟩ := hc.exists_tables
    obtain ⟨w, hw, -⟩ := OrderedTable.toValue_merge_eq_ok_iff.mp h
    obtain ⟨o, n, ho, hn, hc⟩ := isConflict_cons_iff.mp hc
    have hkey := OrderedTable.merge_eq_ok_iff.mp hw key
    rw [ho, hn] at hkey
    obtain ⟨o, -, rfl⟩ := OrderedTable.exists_of_get? ho
    obtain ⟨n, -, rfl⟩ := OrderedTable.exists_of_get? hn
    generalize w.entries.get? key = x? at hkey
    cases hkey with
    | both hkey =>
      obtain ⟨x, hx, -⟩ := OrderedValue.exists_of_merge hkey
      exact ih hx hc

lemma not_isConflict_table {l r m : OrderedTable} (h : (l.merge r).result = .ok m) :
    ¬ IsConflict l.value r.value p :=
  not_isConflict (OrderedTable.toValue_merge_eq_ok_iff.mpr ⟨m, h, rfl⟩)

end Conflict

structure IsFirst (old new : Value) (c : Conflict) : Prop where
  isConflict : IsConflict old new c.path
  found : ∃ v, old.find? c.path = some v ∧ c.found = v.shape
  least : ∀ q, IsConflict old new q → c.path ≤ q

section First

variable {t es : Table} {old new v w : Value} {key j : String} {p q : List String} {c : Conflict}

lemma cons_le_cons (h : p ≤ q) : key :: p ≤ key :: q := by
  rw [← not_lt, List.cons_lt_cons_iff]
  rintro (hlt | ⟨-, hlt⟩)
  · exact lt_irrefl key hlt
  · exact not_lt.mpr h hlt

lemma lt_of_mem (hes : Ordered.Increasing ((key, new) :: es)) {e : String × Value} (he : e ∈ es) :
    key < e.1 :=
  compare_lt_iff_lt.mp ((List.pairwise_cons.mp hes).1 e he)

lemma lt_of_get? (hes : Ordered.Increasing ((key, new) :: es)) (h : Table.get? es j = some w) :
    key < j :=
  lt_of_mem hes (Ordered.mem_of_lookup h)

lemma isFirst_nil (h : old.table? = none) (u : Table) : IsFirst old (.table u) ⟨[], old.shape⟩ :=
  ⟨isConflict_nil_iff.mpr ⟨h, u, rfl⟩, ⟨old, rfl, rfl⟩, fun q _ => not_lt.mp (List.not_lt_nil q)⟩

lemma IsFirst.cons (h : IsFirst old new c) (hg : t.get? key = some old)
    (hes : Ordered.Increasing ((key, new) :: es)) :
    IsFirst (.table t) (.table ((key, new) :: es)) (c.under [key]) := by
  have hself := Table.get?_cons_self key new es
  refine ⟨isConflict_cons_iff.mpr ⟨old, new, hg, hself, h.isConflict⟩, ?_, fun q hq => ?_⟩
  · obtain ⟨v, hv, hc⟩ := h.found
    refine ⟨v, ?_, hc⟩
    change (Value.table t).find? (key :: c.path) = _
    rw [Value.find?_cons, hg]
    exact hv
  · change key :: c.path ≤ q
    cases q with
    | nil => cases (isConflict_nil_iff.mp hq).1
    | cons j q =>
      obtain ⟨o, n, ho, hn, hq⟩ := isConflict_cons_iff.mp hq
      by_cases hj : j = key
      · subst hj
        rw [hself] at hn
        rw [hg] at ho
        cases hn
        cases ho
        exact cons_le_cons (h.least q hq)
      · rw [Table.get?_cons_ne new es hj] at hn
        exact (List.cons_lt_cons_iff.mpr (.inl (lt_of_get? hes hn))).le

lemma isConflict_insert (hj : j ≠ key) :
    IsConflict (.table (t.insert key v)) (.table es) (j :: q) ↔
      IsConflict (.table t) (.table ((key, new) :: es)) (j :: q) := by
  rw [isConflict_cons_iff, isConflict_cons_iff, Table.get?_insert_ne t v hj,
    Table.get?_cons_ne new es hj]

lemma IsFirst.insert (h : IsFirst (.table (t.insert key v)) (.table es) c)
    (hes : Ordered.Increasing ((key, new) :: es))
    (hkey : ∀ q, ¬ IsConflict (.table t) (.table ((key, new) :: es)) (key :: q)) :
    (∃ j p, c.path = j :: p ∧ key < j) ∧
      IsFirst (.table t) (.table ((key, new) :: es)) c := by
  obtain ⟨path, found⟩ := c
  obtain ⟨hc, ⟨w, hw, hfound⟩, hleast⟩ := h
  cases path with
  | nil => cases (isConflict_nil_iff.mp hc).1
  | cons j p =>
    obtain ⟨o, n, -, hn, -⟩ := isConflict_cons_iff.mp hc
    have hlt := lt_of_get? hes hn
    have hne : j ≠ key := hlt.ne'
    refine ⟨⟨j, p, rfl, hlt⟩, (isConflict_insert hne).mp hc, ⟨w, ?_, hfound⟩, fun q hq => ?_⟩
    · change (Value.table t).find? (j :: p) = _
      rwa [Value.find?_cons, ← Table.get?_insert_ne t v hne, ← Value.find?_cons]
    · cases q with
      | nil => cases (isConflict_nil_iff.mp hq).1
      | cons i q =>
        by_cases hi : i = key
        · exact absurd (hi ▸ hq) (hkey q)
        · exact hleast _ ((isConflict_insert hi).mpr hq)

end First

mutual

def Value.restrict (keep : List String → Bool) : Value → Value
  | .table es => .table (Table.restrict keep es)
  | v => v

def Table.restrict (keep : List String → Bool) : List (String × Value) → Table
  | [] => []
  | (key, v) :: es =>
    if keep [key] then (key, v.restrict fun p => keep (key :: p)) :: Table.restrict keep es
    else Table.restrict keep es

end

section Restrict

variable {keep : List String → Bool} {es : Table} {key j : String} {p : List String} {new : Value}

lemma Table.restrict_eq_filterMap (keep : List String → Bool) (es : Table) :
    restrict keep es = es.filterMap fun e =>
      if keep [e.1] then some (e.1, e.2.restrict fun p => keep (e.1 :: p)) else none := by
  induction es with
  | nil => rfl
  | cons e es ih =>
    rw [restrict, ih]
    cases hk : keep [e.1] <;> simp [hk]

lemma Value.restrict_of_forall (hkeep : ∀ p, keep p = true) (v : Value) : v.restrict keep = v := by
  induction v using Value.induction_table generalizing keep with
  | h v ih =>
    cases v with
    | table es =>
      have hes : ∀ e ∈ es, (if keep [e.1] then
          some (e.1, e.2.restrict fun p => keep (e.1 :: p)) else none) = some e := fun e he => by
        rw [if_pos (hkeep _), ih es rfl e he fun p => hkeep _]
      rw [Value.restrict, Table.restrict_eq_filterMap, List.filterMap_congr hes, List.filterMap_some]
    | _ => rfl

lemma Table.restrict_of_lt (hlt : key < j) :
    restrict (· < j :: p) ((key, new) :: es) = (key, new) :: restrict (· < j :: p) es := by
  have hkeep : ∀ q, decide (key :: q < j :: p) = true := fun q =>
    decide_eq_true (List.cons_lt_cons_iff.mpr (.inl hlt))
  rw [restrict, if_pos (hkeep []), Value.restrict_of_forall hkeep]

lemma Table.restrict_behind (hes : Ordered.Increasing ((key, new) :: es)) :
    restrict (· < key :: p) es = [] := by
  rw [restrict_eq_filterMap, List.filterMap_eq_nil_iff]
  refine fun e he => if_neg (Bool.eq_false_iff.mp (decide_eq_false ?_))
  have hlt : key < e.1 := lt_of_mem hes he
  rw [List.cons_lt_cons_iff]
  rintro (h | ⟨h, -⟩)
  · exact lt_asymm h hlt
  · exact hlt.ne' h

end Restrict

structure Table.Stops (t es : Table) (c : Conflict) : Prop where
  isFirst : IsFirst (.table t) (.table es) c
  before : (t.merge (Table.restrict (· < c.path) es)).result = .ok (t.merge es).value

namespace Table

section Stops

variable {t u w es : Table} {old new v : Value} {key : String} {c : Conflict}

lemma merge_cons_of_mergesTo (h : MergesTo (t.get? key) (some new) (some v)) (es : Table) :
    t.merge ((key, new) :: es) = (t.insert key v).merge es := by
  rw [merge, mergeAt]
  generalize t.get? key = old? at h
  cases h with
  | new => rfl
  | @both old new v h =>
    simp only [List.nil_append, Value.mergeAt_eq [key], Merged.under]
    rw [Merged.result] at h
    split at h
    · next hc =>
      cases h
      rw [hc]
      rfl
    · cases h

lemma merge_cons_of_conflict? (hg : t.get? key = some old) (hc : (old.merge new).conflict? = some c)
    (es : Table) :
    t.merge ((key, new) :: es) = ⟨t.insert key (old.merge new).value, some (c.under [key])⟩ := by
  rw [merge, mergeAt, hg]
  simp only [List.nil_append, Value.mergeAt_eq [key], Merged.under, hc, Option.map_some]

lemma mergesTo_or_conflict? (old? : Option Value) (new : Value) :
    (∃ v, MergesTo old? (some new) (some v)) ∨
      ∃ old c, old? = some old ∧ (old.merge new).conflict? = some c := by
  cases old? with
  | none => exact .inl ⟨new, .new new⟩
  | some old =>
    cases hc : (old.merge new).conflict? with
    | none => exact .inl ⟨_, .both (by rw [Merged.result, hc])⟩
    | some c => exact .inr ⟨old, c, rfl, hc⟩

lemma conflict?_of_table? (h : (old.merge new).conflict? = some c) (hold : old.table? = none) :
    (∃ u, new = .table u) ∧ c = ⟨[], old.shape⟩ ∧ (old.merge new).value = old := by
  cases new with
  | table u =>
    cases old with
    | table t => cases hold
    | _ =>
      cases h
      exact ⟨⟨u, rfl⟩, rfl, rfl⟩
  | array items => cases old <;> cases h
  | _ => cases h

lemma insert_eq_self (ht : Ordered.Increasing t) (hg : t.get? key = some v) :
    t.insert key v = t := by
  refine Ordered.ext (increasing_insert key v ht) ht fun j => ?_
  by_cases hj : j = key
  · subst hj
    exact (get?_insert_self t j v).trans hg.symm
  · exact get?_insert_ne t v hj

lemma stops_in_place (ht : Ordered.Increasing t) (hes : Ordered.Increasing ((key, .table u) :: es))
    (hg : t.get? key = some old) (hold : old.table? = none)
    (hc : (old.merge (.table u)).conflict? = some c) :
    Stops t ((key, .table u) :: es) (c.under [key]) := by
  obtain ⟨-, rfl, hv⟩ := conflict?_of_table? hc hold
  refine ⟨(isFirst_nil hold u).cons hg hes, ?_⟩
  change (t.merge (restrict (· < [key]) ((key, .table u) :: es))).result = _
  rw [restrict, if_neg (by simp), restrict_behind hes, merge_cons_of_conflict? hg hc, hv,
    insert_eq_self ht hg]
  rfl

lemma Stops.within (h : Stops w u c) (hes : Ordered.Increasing ((key, .table u) :: es))
    (hg : t.get? key = some (.table w)) (hc : (w.merge u).conflict? = some c) :
    Stops t ((key, .table u) :: es) (c.under [key]) := by
  refine ⟨h.isFirst.cons hg hes, ?_⟩
  change (t.merge (restrict (· < key :: c.path) ((key, .table u) :: es))).result = _
  have hpath : [] < c.path := by
    cases hp : c.path with
    | nil =>
      have hcon := h.isFirst.isConflict
      rw [hp] at hcon
      cases (isConflict_nil_iff.mp hcon).1
    | cons j p => exact List.nil_lt_cons j p
  have hinner : (Value.table u).restrict (fun q => decide (key :: q < key :: c.path)) =
      .table (restrict (· < c.path) u) := by
    simp only [List.cons_lt_cons_iff, lt_irrefl, false_or, true_and, Value.restrict]
  have hmerges : MergesTo (t.get? key) (some (.table (restrict (· < c.path) u)))
      (some (.table (w.merge u).value)) := by
    rw [hg]
    exact mergesTo_table.mpr ⟨_, h.before, rfl⟩
  have hconflict : ((Value.table w).merge (.table u)).conflict? = some c := hc
  rw [restrict, if_pos (by simpa [List.cons_lt_cons_iff] using hpath), restrict_behind hes, hinner,
    merge_cons_of_mergesTo hmerges, merge_cons_of_conflict? hg hconflict]
  rfl

lemma Stops.insert {t : OrderedTable} {n : OrderedValue} (h : Stops (t.entries.insert key v) es c)
    (hes : Ordered.Increasing ((key, n.value) :: es))
    (hv : MergesTo (t.entries.get? key) (some n.value) (some v)) :
    Stops t.entries ((key, n.value) :: es) c := by
  have hself := get?_cons_self key n.value es
  have hkey : ∀ q, ¬ IsConflict t.value (.table ((key, n.value) :: es)) (key :: q) := by
    intro q hq
    obtain ⟨o, w, ho, hw, hq⟩ := isConflict_cons_iff.mp hq
    rw [hself] at hw
    cases hw
    rw [ho] at hv
    obtain ⟨o, -, rfl⟩ := OrderedTable.exists_of_get? ho
    cases hv with
    | both hmerge =>
      obtain ⟨x, hx, -⟩ := OrderedValue.exists_of_merge hmerge
      exact not_isConflict hx hq
  obtain ⟨⟨j, p, hp, hlt⟩, hfirst⟩ := h.isFirst.insert hes hkey
  refine ⟨hfirst, ?_⟩
  have hbefore := h.before
  rw [hp] at hbefore ⊢
  rw [restrict_of_lt hlt, merge_cons_of_mergesTo hv, merge_cons_of_mergesTo hv]
  exact hbefore

lemma ordered_of_mergesTo {t : OrderedTable} {n : OrderedValue}
    (h : MergesTo (t.entries.get? key) (some n.value) (some v)) : v.Ordered := by
  generalize hg : t.entries.get? key = old? at h
  cases h with
  | new => exact n.ordered
  | both h =>
    obtain ⟨old, -, rfl⟩ := OrderedTable.exists_of_get? hg
    obtain ⟨x, -, rfl⟩ := OrderedValue.exists_of_merge h
    exact x.ordered

lemma stops_of_entries {t es : OrderedTable}
    (hin : ∀ e ∈ es.entries, ∀ (w u : OrderedTable) (c : Conflict), e.2 = u.value →
      (w.merge u).conflict? = some c → Stops w.entries u.entries c)
    (hc : (t.merge es).conflict? = some c) : Stops t.entries es.entries c := by
  obtain ⟨es, hes⟩ := es
  induction es generalizing t with
  | nil => cases hc
  | cons e es ih =>
    obtain ⟨key, new⟩ := e
    obtain ⟨hinc, hall⟩ := ordered_table_iff.mp hes
    rw [List.forall_mem_cons] at hin hall
    change (t.entries.merge ((key, new) :: es)).conflict? = some c at hc
    rcases mergesTo_or_conflict? (t.entries.get? key) new with ⟨v, hv⟩ | ⟨old, c', hg, hc'⟩
    · rw [merge_cons_of_mergesTo hv] at hc
      have hordered : v.Ordered := ordered_of_mergesTo (n := ⟨new, hall.1⟩) hv
      have htail : (Value.table es).Ordered :=
        ordered_table_iff.mpr ⟨(List.pairwise_cons.mp hinc).2, hall.2⟩
      have hrest : Stops (t.entries.insert key v) es c :=
        ih (t := t.insert key ⟨v, hordered⟩) htail hin.2 hc
      exact hrest.insert (n := ⟨new, hall.1⟩) hinc hv
    · rw [merge_cons_of_conflict? hg hc'] at hc
      cases hc
      cases hold : old.table? with
      | none =>
        obtain ⟨⟨u, rfl⟩, -⟩ := conflict?_of_table? hc' hold
        exact stops_in_place t.increasing hinc hg hold hc'
      | some w =>
        obtain rfl := Value.eq_table hold
        cases new with
        | table u =>
          have hw : (Value.table w).Ordered := Value.ordered_of_get? t.ordered hg
          exact (hin.1 ⟨w, hw⟩ ⟨u, hall.1⟩ c' rfl hc').within hinc hg hc'
        | _ => cases hc'

theorem stops_of_conflict? {t es : OrderedTable} (hc : (t.merge es).conflict? = some c) :
    Stops t.entries es.entries c := by
  suffices h : ∀ (v : Value) (t u : OrderedTable) (c : Conflict), v = u.value →
      (t.merge u).conflict? = some c → Stops t.entries u.entries c from h _ t es c rfl hc
  intro v
  induction v using Value.induction_table with
  | h v ih =>
    rintro t u c rfl hc
    exact stops_of_entries (fun e he => ih u.entries rfl e he) hc

end Stops

end Table

end RowFilter.Config
