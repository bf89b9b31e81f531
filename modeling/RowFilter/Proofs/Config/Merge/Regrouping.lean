import RowFilter.Proofs.Config.Merge.Stopping
import RowFilter.Proofs.Config.Reachable

/-! Merging three values in either grouping, and files apart from those before them. -/

namespace RowFilter.Config

/-- At a path there are arrays in the first and the last value, and neither an array nor a table in
between. -/
structure IsOverride (a b c : Value) (p : List String) : Prop where
  first : ∃ xs, a.find? p = some (.array xs)
  between : ∃ v, b.find? p = some v ∧ v.array? = none ∧ v.table? = none
  last : ∃ ys, c.find? p = some (.array ys)

-- in order the last array stays alone, and regrouped it is joined to the first one
example :
    (((Value.array [.integer 1]).merge (.integer 2)).value.merge (.array [.integer 3])).result =
        .ok (.array [.integer 3]) ∧
      ((Value.array [.integer 1]).merge ((Value.integer 2).merge (.array [.integer 3])).value).result =
        .ok (.array [.integer 1, .integer 3]) :=
  ⟨rfl, rfl⟩

section Override

variable {r s t : Table} {a b c : Value} {key : String} {p : List String}

lemma isOverride_cons_iff : IsOverride (.table r) (.table s) (.table t) (key :: p) ↔
    ∃ a b c, r.get? key = some a ∧ s.get? key = some b ∧ t.get? key = some c ∧ IsOverride a b c p := by
  constructor
  · rintro ⟨⟨xs, ha⟩, ⟨v, hb, hv⟩, ys, hc⟩
    rw [Value.find?_cons] at ha hb hc
    obtain ⟨a, hr, ha⟩ := Option.bind_eq_some_iff.mp ha
    obtain ⟨b, hs, hb⟩ := Option.bind_eq_some_iff.mp hb
    obtain ⟨c, ht, hc⟩ := Option.bind_eq_some_iff.mp hc
    exact ⟨a, b, c, hr, hs, ht, ⟨xs, ha⟩, ⟨v, hb, hv⟩, ys, hc⟩
  · rintro ⟨a, b, c, hr, hs, ht, ⟨xs, ha⟩, ⟨v, hb, hv⟩, ys, hc⟩
    refine ⟨⟨xs, ?_⟩, ⟨v, ?_, hv⟩, ys, ?_⟩
    · rw [Value.find?_cons, hr]
      exact ha
    · rw [Value.find?_cons, hs]
      exact hb
    · rw [Value.find?_cons, ht]
      exact hc

lemma IsOverride.eq_nil (h : IsOverride a b c p) (hb : b.table? = none) : p = [] := by
  obtain ⟨v, hv, -⟩ := h.between
  cases p with
  | nil => rfl
  | cons key p =>
    rw [Value.find?_of_table? hb] at hv
    cases hv

lemma not_isOverride_array {xs : List Value} : ¬ IsOverride a (.array xs) c p := by
  intro h
  obtain rfl := h.eq_nil rfl
  obtain ⟨-, ⟨v, hv, harray, -⟩, -⟩ := h
  cases hv
  cases harray

lemma IsOverride.exists_mem (h : IsOverride a (.table s) c p) :
    ∃ key q, ∃ r t : Table, ∃ x y z, p = key :: q ∧ a = .table r ∧ c = .table t ∧
      r.get? key = some x ∧ (key, y) ∈ s ∧ t.get? key = some z ∧ IsOverride x y z q := by
  cases p with
  | nil =>
    obtain ⟨-, ⟨v, hv, -, htable⟩, -⟩ := h
    cases hv
    cases htable
  | cons key q =>
    obtain ⟨xs, ha⟩ := h.first
    obtain ⟨ys, hc⟩ := h.last
    obtain ⟨r, hr, -⟩ := Option.bind_eq_some_iff.mp ha
    obtain ⟨t, ht, -⟩ := Option.bind_eq_some_iff.mp hc
    obtain rfl := Value.eq_table hr
    obtain rfl := Value.eq_table ht
    obtain ⟨x, y, z, hx, hy, hz, h⟩ := isOverride_cons_iff.mp h
    exact ⟨key, q, r, t, x, y, z, rfl, rfl, rfl, hx, Ordered.mem_of_lookup hy, hz, h⟩

lemma not_isOverride_of_entries (h : ∀ e ∈ s, ∀ x z q, ¬ IsOverride x e.2 z q) :
    ¬ IsOverride a (.table s) c p := by
  intro hp
  obtain ⟨key, q, r, t, x, y, z, -, -, -, -, hy, -, hq⟩ := hp.exists_mem
  exact h (key, y) hy x z q hq

end Override

def Regroups (c : OrderedValue) : Prop :=
  ∀ a b ab abc : OrderedValue, (a.merge b).result = .ok ab → (ab.merge c).result = .ok abc →
    (∀ p, ¬ IsOverride a.value b.value c.value p) →
    ∃ bc, (b.merge c).result = .ok bc ∧ (a.merge bc).result = .ok abc

section Regroup

variable {a b c ab abc : Value} {r s t rs rst : Table}

lemma joined_of_merge (hab : (a.merge b).result = .ok ab) (hc : c.table? = none)
    (hno : ¬ IsOverride a b c []) :
    Table.joined (some ab) c = Table.joined (some a) (Table.joined (some b) c) := by
  cases hca : c.array? with
  | none => simp only [Table.joined_of_array? _ hca]
  | some ys =>
    obtain rfl : c = .array ys := by
      cases c <;> cases hca
      rfl
    cases b with
    | table s =>
      obtain ⟨r, rs, rfl, -, rfl⟩ := Value.merge_table_eq_ok_iff.mp hab
      rfl
    | array xs =>
      obtain rfl := (Value.merge_eq_ok_iff_of_table? rfl).mp hab
      cases a with
      | array ws => exact congrArg Value.array (List.append_assoc ws xs ys)
      | _ => rfl
    | _ =>
      obtain rfl := (Value.merge_eq_ok_iff_of_table? rfl).mp hab
      cases a with
      | array ws => exact absurd ⟨⟨ws, rfl⟩, ⟨_, rfl, rfl, rfl⟩, ys, rfl⟩ hno
      | _ => rfl

lemma regroups_of_table? {c : OrderedValue} (hc : c.value.table? = none) : Regroups c := by
  intro a b ab abc hab habc hno
  rw [OrderedValue.merge_eq_ok_iff] at hab habc
  rw [Value.merge_eq_ok_iff_of_table? hc] at habc
  have hbc := Table.table?_joined (some b.value) hc
  have hjoin : (b.value.merge c.value).result = .ok (Table.joined (some b.value) c.value) :=
    (Value.merge_eq_ok_iff_of_table? hc).mpr rfl
  obtain ⟨bc, hmerge, hvalue⟩ := OrderedValue.exists_of_merge hjoin
  refine ⟨bc, hmerge, OrderedValue.merge_eq_ok_iff.mpr ?_⟩
  rw [hvalue, Value.merge_eq_ok_iff_of_table? hbc, habc, joined_of_merge hab hc (hno [])]

lemma tables_of_merge {a b ab abc : OrderedValue} {t : OrderedTable}
    (hab : (a.merge b).result = .ok ab) (habc : (ab.merge t.toValue).result = .ok abc) :
    ∃ r s rs rst : OrderedTable, a = r.toValue ∧ b = s.toValue ∧ abc = rst.toValue ∧
      (r.merge s).result = .ok rs ∧ (rs.merge t).result = .ok rst := by
  obtain ⟨rs, rfl⟩ := OrderedValue.exists_table_of_merge habc
  obtain ⟨rst, hrst, rfl⟩ := OrderedTable.toValue_merge_eq_ok_iff.mp habc
  rcases b.table?_cases with hb | ⟨s, rfl⟩
  · have htable := Table.table?_joined (some a.value) hb
    rw [← (Value.merge_eq_ok_iff_of_table? hb).mp (OrderedValue.merge_eq_ok_iff.mp hab)] at htable
    cases htable
  · obtain ⟨r, rfl⟩ := OrderedValue.exists_table_of_merge hab
    obtain ⟨m, hm, heq⟩ := OrderedTable.toValue_merge_eq_ok_iff.mp hab
    obtain rfl := OrderedTable.toValue_inj heq
    exact ⟨r, s, rs, rst, rfl, rfl, rfl, hm, hrst⟩

namespace Table

lemma MergesTo.regroup {a? b? c? ab? abc? : Option Value} (h : MergesTo a? b? ab?)
    (h' : MergesTo ab? c? abc?)
    (hboth : ∀ a b c ab abc, a? = some a → b? = some b → c? = some c →
      (a.merge b).result = .ok ab → (ab.merge c).result = .ok abc →
      ∃ bc, (b.merge c).result = .ok bc ∧ (a.merge bc).result = .ok abc) :
    ∃ bc?, MergesTo b? c? bc? ∧ MergesTo a? bc? abc? := by
  cases h with
  | old => exact ⟨c?, mergesTo_of_none.mpr rfl, h'⟩
  | new b => exact ⟨abc?, h', mergesTo_of_none.mpr rfl⟩
  | @both a b ab h =>
    cases h' with
    | old => exact ⟨some b, .old _, .both h⟩
    | @both _ c abc h' =>
      obtain ⟨bc, hbc, habc⟩ := hboth a b c ab abc rfl rfl rfl h h'
      exact ⟨some bc, .both hbc, .both habc⟩

end Table

lemma OrderedTable.merge_regroup {r s t rs rst : OrderedTable}
    (hentries : ∀ key c, t.get? key = some c → Regroups c) (hrs : (r.merge s).result = .ok rs)
    (hrst : (rs.merge t).result = .ok rst) (hno : ∀ p, ¬ IsOverride r.value s.value t.value p) :
    ∃ st, (s.merge t).result = .ok st ∧ (r.merge st).result = .ok rst := by
  rw [merge_eq_ok_iff] at hrs hrst
  have hregroup : ∀ key, ∃ x?, Table.MergesTo (s.entries.get? key) (t.entries.get? key) x? ∧
      Table.MergesTo (r.entries.get? key) x? (rst.entries.get? key) := by
    refine fun key => (hrs key).regroup (hrst key) fun a b c ab abc ha hb hc hab habc => ?_
    have hover : ∀ p, ¬ IsOverride a b c p := fun p hp =>
      hno (key :: p) (isOverride_cons_iff.mpr ⟨a, b, c, ha, hb, hc, hp⟩)
    obtain ⟨a, -, rfl⟩ := exists_of_get? ha
    obtain ⟨b, -, rfl⟩ := exists_of_get? hb
    obtain ⟨c, hget, rfl⟩ := exists_of_get? hc
    obtain ⟨ab, hmerge, rfl⟩ := OrderedValue.exists_of_merge hab
    obtain ⟨abc, hmerge', rfl⟩ := OrderedValue.exists_of_merge habc
    obtain ⟨bc, hbc, h⟩ := hentries key c hget a b ab abc hmerge hmerge' hover
    exact ⟨bc.value, OrderedValue.merge_eq_ok_iff.mp hbc, OrderedValue.merge_eq_ok_iff.mp h⟩
  obtain ⟨st, hst⟩ := exists_merge fun key => (hregroup key).imp fun _ h => h.1
  refine ⟨st, hst, merge_eq_ok_iff.mpr fun key => ?_⟩
  obtain ⟨x?, hx, h⟩ := hregroup key
  rwa [(merge_eq_ok_iff.mp hst key).unique hx]

lemma regroups (c : OrderedValue) : Regroups c := by
  induction c using OrderedValue.induction_table with
  | h c ih =>
    rcases c.table?_cases with hc | ⟨t, rfl⟩
    · exact regroups_of_table? hc
    · intro a b ab abc hab habc hno
      obtain ⟨r, s, rs, rst, rfl, rfl, rfl, hrs, hrst⟩ := tables_of_merge hab habc
      obtain ⟨st, hst, h⟩ := OrderedTable.merge_regroup (ih t rfl) hrs hrst hno
      exact ⟨st.toValue, OrderedTable.toValue_merge_eq_ok_iff.mpr ⟨st, hst, rfl⟩,
        OrderedTable.toValue_merge_eq_ok_iff.mpr ⟨rst, h, rfl⟩⟩

end Regroup

namespace Files

variable {files : Files} {names base overlays : List String} {name : String} {t a b c m : Table}

lemma loadAll_concat_eq_ok_iff : files.loadAll (names ++ [name]) = .ok m ↔
    ∃ t u, files.loadAll names = .ok t ∧ files.load name = .ok u ∧ (t.merge u).result = .ok m := by
  rw [loadAll, Outcome.foldlM_concat_eq_ok]
  simp only [mergeFile_eq_ok_iff, loadAll]
  constructor
  · rintro ⟨t, ht, u, hu, h⟩
    exact ⟨t, u, ht, hu, h⟩
  · rintro ⟨t, u, ht, hu, h⟩
    exact ⟨t, ht, u, hu, h⟩

lemma exists_of_loadAll (h : files.loadAll names = .ok t) : ∃ u : OrderedTable, u.entries = t :=
  ⟨⟨t, (isRoot_loadAll h).ordered_table⟩, rfl⟩

lemma exists_of_load (h : files.load name = .ok t) : ∃ u : OrderedTable, u.entries = t :=
  ⟨⟨t, (isRoot_load h).ordered_table⟩, rfl⟩

lemma exists_loadAll (h : files.loadAll (base ++ overlays) = .ok m)
    (hno : ∀ pre name post a b c, overlays = pre ++ name :: post → files.loadAll base = .ok a →
      files.loadAll pre = .ok b → files.load name = .ok c →
      ∀ p, ¬ IsOverride (.table a) (.table b) (.table c) p) :
    ∃ a o, files.loadAll base = .ok a ∧ files.loadAll overlays = .ok o ∧
      (a.merge o).result = .ok m := by
  induction overlays using List.reverseRecOn generalizing m with
  | nil =>
    rw [List.append_nil] at h
    exact ⟨m, [], h, rfl, rfl⟩
  | append_singleton pre name ih =>
    rw [← List.append_assoc, loadAll_concat_eq_ok_iff] at h
    obtain ⟨ab, c, hab, hc, h⟩ := h
    obtain ⟨a, b, ha, hb, hmerge⟩ := ih hab fun pre' name' post a b c heq =>
      hno pre' name' (post ++ [name]) a b c (by simp [heq])
    have hover := hno pre name [] a b c rfl ha hb hc
    obtain ⟨a, rfl⟩ := exists_of_loadAll ha
    obtain ⟨b, rfl⟩ := exists_of_loadAll hb
    obtain ⟨c, rfl⟩ := exists_of_load hc
    obtain ⟨ab, hfirst, rfl⟩ := OrderedTable.exists_of_merge hmerge
    obtain ⟨m, hlast, rfl⟩ := OrderedTable.exists_of_merge h
    obtain ⟨o, ho, hm⟩ := OrderedTable.merge_regroup (fun _ c _ => regroups c) hfirst hlast hover
    rw [OrderedTable.merge_eq_ok_iff_entries] at ho hm
    exact ⟨a.entries, o.entries, ha, loadAll_concat_eq_ok_iff.mpr ⟨_, _, hb, hc, ho⟩, hm⟩

end Files

theorem OrderedValue.merge_regrouped :
    (∀ a b c ab abc : OrderedValue, (a.merge b).result = .ok ab → (ab.merge c).result = .ok abc →
      (∀ p, ¬ IsOverride a.value b.value c.value p) →
      ∃ bc, (b.merge c).result = .ok bc ∧ (a.merge bc).result = .ok abc) ∧
    ∀ (files : Files) (base overlays : List String) (m : Table),
      files.loadAll (base ++ overlays) = .ok m →
      (∀ pre name post a b c, overlays = pre ++ name :: post → files.loadAll base = .ok a →
        files.loadAll pre = .ok b → files.load name = .ok c →
        ∀ p, ¬ IsOverride (.table a) (.table b) (.table c) p) →
      ∃ a o, files.loadAll base = .ok a ∧ files.loadAll overlays = .ok o ∧
        (a.merge o).result = .ok m :=
  ⟨fun a b c ab abc => regroups c a b ab abc,
    fun _ _ _ _ h hno => Files.exists_loadAll h hno⟩

theorem OrderedValue.merge_regrouped_overlays :
    let a : Value := .table [("x", .array [.integer 1]), ("y", .string "s")]
    let b : Value := .table [("x", .array [.integer 2]), ("y", .integer 5), ("z", .table [])]
    let c : Value := .table [("x", .array [.integer 3]), ("y", .array []),
      ("z", .table [("w", .integer 4)])]
    let abc : Value := .table [("x", .array [.integer 1, .integer 2, .integer 3]), ("y", .array []),
      ("z", .table [("w", .integer 4)])]
    -- the bytes of `[a]x=[1]`, with another digit in each file
    let source (digit : UInt8) : List UInt8 := [91, 97, 93, 120, 61, 91, digit, 93]
    let files : Files := Files.ofList [("base", source 49), ("site", source 50), ("host", source 51)]
    (∃ u v w vw uvw : OrderedValue, u.value = a ∧ v.value = b ∧ w.value = c ∧ uvw.value = abc ∧
      (v.merge w).result = .ok vw ∧ (u.merge vw).result = .ok uvw) ∧
      ∃ u o, files.loadAll ["base"] = .ok u ∧ files.loadAll ["site", "host"] = .ok o ∧
        (u.merge o).result =
          .ok [("a", .table [("x", .array [.integer 1, .integer 2, .integer 3])])] := by
  intro a b c abc source files
  constructor
  · have hno : ∀ p, ¬ IsOverride a b c p := by
      intro p hp
      change IsOverride (.table _) (.table _) (.table _) p at hp
      obtain ⟨key, q, r, t, x, y, z, rfl, ⟨⟩, ⟨⟩, hx, hy, -, h⟩ := hp.exists_mem
      simp only [List.mem_cons, Prod.mk.injEq, List.not_mem_nil, or_false] at hy
      obtain ⟨rfl, rfl⟩ | ⟨rfl, rfl⟩ | ⟨rfl, rfl⟩ := hy
      · exact not_isOverride_array h
      · cases hx
        obtain rfl := h.eq_nil rfl
        obtain ⟨xs, ⟨⟩⟩ := h.first
      · exact not_isOverride_of_entries (List.forall_mem_nil _) h
    let u : OrderedValue := ⟨a, by decide⟩
    let v : OrderedValue := ⟨b, by decide⟩
    let w : OrderedValue := ⟨c, by decide⟩
    have huv : (u.merge v).result = .ok (u.merge v).value := by rfl
    have huvw : ((u.merge v).value.merge w).result = .ok ((u.merge v).value.merge w).value := by rfl
    obtain ⟨vw, hvw, h⟩ := merge_regrouped.1 u v w _ _ huv huvw hno
    exact ⟨u, v, w, vw, _, rfl, rfl, rfl, by rfl, hvw, h⟩
  · subst files source
    refine merge_regrouped.2 _ ["base"] ["site", "host"] _ (by cbv) ?_
    intro pre name post u v w heq hu hv hw p
    rcases pre with _ | ⟨_, _ | ⟨_, pre⟩⟩
    · cases hv
      exact not_isOverride_of_entries (List.forall_mem_nil _)
    · obtain ⟨rfl, -⟩ := List.cons.inj heq
      have hsite : v = [("a", .table [("x", .array [.integer 2])])] := by
        refine Except.ok.inj (hv.symm.trans ?_)
        cbv
      subst hsite
      refine not_isOverride_of_entries (List.forall_mem_singleton.mpr fun x z q => ?_)
      exact not_isOverride_of_entries (List.forall_mem_singleton.mpr fun _ _ _ => not_isOverride_array)
    · simp at heq

end RowFilter.Config
