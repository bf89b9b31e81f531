import RowFilter.Proofs.Config.Statement
import RowFilter.Proofs.Config.Table

/-! What a configuration means, path by path. -/

namespace RowFilter.Config

namespace Statement

def valuesAt (ss : List Statement) (p : List String) : List Value :=
  ((entries ss).filter fun e => e.1 = p).map (·.2)

def IsBehind (ss : List Statement) (p : List String) : Prop :=
  ∃ e ∈ entries ss, e.1 <+: p ∧ e.1 ≠ p

/-- The items of all the arrays at the end of the values. -/
def lastItems (vs : List Value) : List Value :=
  (vs.rtakeWhile fun v => v.array?.isSome).flatMap fun v => v.array?.getD []

def outcome (vs : List Value) : Option Value :=
  match vs.getLast? with
  | some (.array _) => some (.array (lastItems vs))
  | last? => last?

section Outcome

variable (vs : List Value)

lemma lastItems_array (items : List Value) :
    lastItems (vs ++ [.array items]) = lastItems vs ++ items := by
  rw [lastItems, List.rtakeWhile_concat, if_pos (by rfl), List.flatMap_append]
  simp [lastItems, Value.array?]

lemma lastItems_of_array? {v : Value} (h : v.array? = none) : lastItems (vs ++ [v]) = [] := by
  rw [lastItems, List.rtakeWhile_concat, if_neg (by simp [h])]
  rfl

lemma outcome_array (items : List Value) :
    outcome (vs ++ [.array items]) = some (.array (lastItems vs ++ items)) := by
  rw [outcome, List.getLast?_concat, ← lastItems_array]

lemma outcome_of_array? {v : Value} (h : v.array? = none) : outcome (vs ++ [v]) = some v := by
  rw [outcome, List.getLast?_concat]
  cases v with
  | array items => cases h
  | _ => rfl

lemma outcome_concat (v : Value) : outcome (vs ++ [v]) = some (Table.joined (outcome vs) v) := by
  cases v with
  | array items =>
    rw [outcome_array]
    rcases List.eq_nil_or_concat' vs with rfl | ⟨ws, w, rfl⟩
    · rfl
    · cases w with
      | array olds =>
        rw [outcome_array, lastItems_array]
        rfl
      | _ =>
        rw [outcome_of_array? ws rfl, lastItems_of_array? ws rfl]
        rfl
  | _ => exact (outcome_of_array? vs rfl).trans (congrArg some (Table.joined_of_array? _ rfl).symm)

lemma exists_outcome {vs : List Value} (hne : vs ≠ []) (h : ∀ v ∈ vs, v.table? = none) :
    ∃ v, outcome vs = some v ∧ v.table? = none := by
  rcases List.eq_nil_or_concat' vs with rfl | ⟨ws, w, rfl⟩
  · exact absurd rfl hne
  · exact ⟨_, outcome_concat ws w, Table.table?_joined _ (h w (by simp))⟩

end Outcome

section Entries

variable {ss : List Statement}

lemma Scoped.entry (h : Scoped ss) : ∀ e ∈ entries ss, e.1 ≠ [] ∧ e.2.table? = none := by
  induction h with
  | nil => exact List.forall_mem_nil _
  | header h path ih => rwa [entries_header]
  | assign h hp key hv ih =>
    rw [entries_assign, List.forall_mem_append, List.forall_mem_singleton]
    exact ⟨ih, List.concat_ne_nil _ _, hv⟩

lemma mem_valuesAt {p : List String} {v : Value} : v ∈ valuesAt ss p ↔ (p, v) ∈ entries ss := by
  simp [valuesAt]

end Entries

/-- What statements mean at a path: nothing behind a path at which a value is assigned, at such a
path what remains of the values, and elsewhere a table if a header leads there or further. -/
structure IsMeaning (ss : List Statement) (p : List String) (found? : Option Value) : Prop where
  behind : IsBehind ss p → found? = none
  assigned : ¬ IsBehind ss p → valuesAt ss p ≠ [] → found? = outcome (valuesAt ss p)
  opened : ¬ IsBehind ss p → valuesAt ss p = [] → (∃ path ∈ headers ss, p <+: path) → IsTable found?
  absent : ¬ IsBehind ss p → valuesAt ss p = [] → (¬ ∃ path ∈ headers ss, p <+: path) → found? = none

section Run

variable {ss : List Statement} {t t' : Table} {path q : List String}

lemma not_prefix_of_free (hs : Scoped ss) (hm : ∀ p, p ≠ [] → IsMeaning ss p (t.find? p))
    (hf : ∀ q, q ≠ [] → q <+: path → IsFree (t.find? q)) {e : List String × Value}
    (he : e ∈ entries ss) : ¬ e.1 <+: path := by
  intro hp
  -- the one with the shortest path would be in the place of a table
  induction hn : e.1.length using Nat.strong_induction_on generalizing e with
  | _ n ih =>
    obtain ⟨hne, -⟩ := hs.entry e he
    by_cases hb : IsBehind ss e.1
    · obtain ⟨e', he', hp', hlt⟩ := hb
      exact ih _ (hn ▸ lt_of_le_of_ne hp'.length_le fun hl => hlt (hp'.eq_of_length hl)) he'
        (hp'.trans hp) rfl
    · have hv : e.2 ∈ valuesAt ss e.1 := mem_valuesAt.mpr he
      have hvs : ∀ v ∈ valuesAt ss e.1, v.table? = none := fun v hv =>
        (hs.entry _ (mem_valuesAt.mp hv)).2
      obtain ⟨v, ho, ht⟩ := exists_outcome (List.ne_nil_of_mem hv) hvs
      have hfound := (hm e.1 hne).assigned hb (List.ne_nil_of_mem hv)
      rw [ho] at hfound
      rcases hf e.1 hne hp with h | ⟨inner, h⟩
      · rw [hfound] at h
        cases h
      · rw [hfound] at h
        cases h
        cases ht

lemma not_isBehind_of_isPrefix (hc : ∀ e ∈ entries ss, ¬ e.1 <+: path) (hq : q <+: path) :
    ¬ IsBehind ss q := by
  rintro ⟨e, he, hp, -⟩
  exact hc e he (hp.trans hq)

lemma valuesAt_of_isPrefix (hc : ∀ e ∈ entries ss, ¬ e.1 <+: path) (hq : q <+: path) :
    valuesAt ss q = [] := by
  rw [List.eq_nil_iff_forall_not_mem]
  exact fun v hv => hc _ (mem_valuesAt.mp hv) hq

lemma IsMeaning.header (hs : Scoped ss) (hm : ∀ p, p ≠ [] → IsMeaning ss p (t.find? p))
    (h : t.openAt path = .ok t') (hq : q ≠ []) :
    IsMeaning (ss ++ [.header path]) q (t'.find? q) := by
  have hbehind : IsBehind (ss ++ [.header path]) q = IsBehind ss q := by
    rw [IsBehind, entries_header, IsBehind]
  have hvalues : valuesAt (ss ++ [.header path]) q = valuesAt ss q := by
    rw [valuesAt, entries_header, valuesAt]
  by_cases hp : q <+: path
  · have hc : ∀ e ∈ entries ss, ¬ e.1 <+: path := fun e =>
      not_prefix_of_free hs hm fun q hq hp => (Table.isTable_openAt h hq hp).2
    refine ⟨?_, ?_, fun _ _ _ => (Table.isTable_openAt h hq hp).1, ?_⟩
    · rw [hbehind]
      exact fun hb => absurd hb (not_isBehind_of_isPrefix hc hp)
    · rw [hvalues]
      exact fun _ hv => absurd (valuesAt_of_isPrefix hc hp) hv
    · intro _ _ hn
      exact absurd ⟨path, by simp [headers_header], hp⟩ hn
  · have hheaders : (∃ h ∈ headers (ss ++ [.header path]), q <+: h) ↔ ∃ h ∈ headers ss, q <+: h := by
      simp [headers_header, or_and_right, exists_or, hp]
    obtain ⟨h1, h2, h3, h4⟩ := hm q hq
    rw [Table.find?_openAt h hp]
    refine ⟨?_, ?_, ?_, ?_⟩ <;> rw [hbehind] <;> try rw [hvalues]
    · exact h1
    · exact h2
    · rwa [hheaders]
    · rwa [hheaders]

section Assign

variable {key : String} {v : Value}

lemma isBehind_assign : IsBehind (ss ++ [.assign path key v]) q ↔
    IsBehind ss q ∨ path ++ [key] <+: q ∧ path ++ [key] ≠ q := by
  simp [IsBehind, entries_assign, or_and_right, exists_or]

lemma valuesAt_assign_self :
    valuesAt (ss ++ [.assign path key v]) (path ++ [key]) = valuesAt ss (path ++ [key]) ++ [v] := by
  simp [valuesAt, entries_assign]

lemma valuesAt_assign_ne (h : path ++ [key] ≠ q) :
    valuesAt (ss ++ [.assign path key v]) q = valuesAt ss q := by
  simp [valuesAt, entries_assign, h]

lemma IsMeaning.isFree {found? : Option Value} (hm : IsMeaning ss q found?) (hb : ¬ IsBehind ss q)
    (hv : valuesAt ss q = []) : IsFree found? := by
  by_cases hh : ∃ path ∈ headers ss, q <+: path
  · exact .inr (hm.opened hb hv hh)
  · exact .inl (hm.absent hb hv hh)

lemma IsMeaning.assign_self (hm : IsMeaning ss (path ++ [key]) (t.find? (path ++ [key])))
    (hc : ∀ e ∈ entries ss, ¬ e.1 <+: path) (hv : v.table? = none)
    (h : t.assignAt path key v = .ok t') :
    IsMeaning (ss ++ [.assign path key v]) (path ++ [key]) (t'.find? (path ++ [key])) := by
  have hb : ¬ IsBehind ss (path ++ [key]) := by
    rintro ⟨e, he, hp, hne⟩
    exact (List.prefix_concat_iff.mp hp).elim hne (hc e he)
  have hb' : ¬ IsBehind (ss ++ [.assign path key v]) (path ++ [key]) := by
    rw [isBehind_assign]
    exact not_or.mpr ⟨hb, fun hn => hn.2 rfl⟩
  refine ⟨fun h => absurd h hb', fun _ _ => ?_, ?_, ?_⟩
  · rw [Table.find?_assignAt_self hv h, valuesAt_assign_self, outcome_concat]
    by_cases hvs : valuesAt ss (path ++ [key]) = []
    · rw [Table.joined_of_isFree (hm.isFree hb hvs), hvs]
      rfl
    · rw [hm.assigned hb hvs]
  all_goals
    intro _ hvs
    rw [valuesAt_assign_self] at hvs
    exact absurd hvs (List.concat_ne_nil _ _)

lemma IsMeaning.assign (hs : Scoped ss) (hm : ∀ p, p ≠ [] → IsMeaning ss p (t.find? p))
    (hp : path ∈ headers ss) (hv : v.table? = none) (h : t.assignAt path key v = .ok t')
    (hq : q ≠ []) : IsMeaning (ss ++ [.assign path key v]) q (t'.find? q) := by
  have hc : ∀ e ∈ entries ss, ¬ e.1 <+: path := fun e =>
    not_prefix_of_free hs hm fun q hq hp => (Table.isTable_assignAt h hq hp).2
  by_cases hself : path ++ [key] = q
  · subst hself
    exact (hm _ hq).assign_self hc hv h
  have hvalues : valuesAt (ss ++ [.assign path key v]) q = valuesAt ss q :=
    valuesAt_assign_ne hself
  by_cases hbehind : path ++ [key] <+: q
  · have hb : IsBehind (ss ++ [.assign path key v]) q := isBehind_assign.mpr (.inr ⟨hbehind, hself⟩)
    obtain ⟨r, rfl⟩ := hbehind
    have hr : r ≠ [] := by
      rintro rfl
      exact hself (List.append_nil _).symm
    exact ⟨fun _ => Table.find?_assignAt_behind hv h hr, absurd hb, absurd hb, absurd hb⟩
  have hb : IsBehind (ss ++ [.assign path key v]) q ↔ IsBehind ss q := by
    rw [isBehind_assign]
    exact or_iff_left fun hn => hbehind hn.1
  by_cases hprefix : q <+: path
  · have hnb : ¬ IsBehind (ss ++ [.assign path key v]) q := by
      rw [hb]
      exact not_isBehind_of_isPrefix hc hprefix
    have hnv : valuesAt (ss ++ [.assign path key v]) q = [] := by
      rw [hvalues]
      exact valuesAt_of_isPrefix hc hprefix
    refine ⟨fun h => absurd h hnb, fun _ h => absurd hnv h,
      fun _ _ _ => (Table.isTable_assignAt h hq hprefix).1, fun _ _ hn => ?_⟩
    rw [headers_assign] at hn
    exact absurd ⟨path, hp, hprefix⟩ hn
  · have hold := hm q hq
    rw [Table.find?_assignAt hv h hprefix hbehind]
    constructor
    · rw [hb]
      exact hold.behind
    · rw [hb, hvalues]
      exact hold.assigned
    · rw [hb, hvalues, headers_assign]
      exact hold.opened
    · rw [hb, hvalues, headers_assign]
      exact hold.absent

end Assign

theorem isMeaning_of_runAll (hs : Scoped ss) (h : runAll ss [] = .ok t) :
    ∀ p, p ≠ [] → IsMeaning ss p (t.find? p) := by
  induction hs generalizing t with
  | nil =>
    cases h
    intro p hp
    rw [Table.find?_nil_table hp]
    refine ⟨fun _ => rfl, fun _ hn => absurd rfl hn, ?_, fun _ _ _ => rfl⟩
    rintro - - ⟨path, hpath, -⟩
    cases hpath
  | header hs path ih =>
    obtain ⟨u, hu, h⟩ := Outcome.foldlM_concat_eq_ok.mp h
    exact fun p hp => IsMeaning.header hs (ih hu) h hp
  | assign hs hp key hv ih =>
    obtain ⟨u, hu, h⟩ := Outcome.foldlM_concat_eq_ok.mp h
    exact fun p hq => IsMeaning.assign hs (ih hu) hp hv h hq

end Run

end Statement

theorem Table.at?_ofText {source : String} {t : Table} (h : Table.ofText source = .ok t) :
    ∃ tree, Tree.ofText source = .ok tree ∧
      ∀ p : String, Statement.IsMeaning tree.statements (Text.Dotted.split p) (t.at? p) := by
  obtain ⟨tree, htree, ht⟩ := Outcome.bind_eq_ok h
  refine ⟨tree, htree, fun p => ?_⟩
  rw [Tree.ofText] at htree
  split at htree
  · cases htree
  · next ts hts =>
    obtain ⟨bs, hbs, -, rfl⟩ := Tree.ofTokens_eq_ok_iff.mp (Outcome.mapError_eq_ok htree)
    rw [Tree.evaluate_root hbs] at ht
    refine Statement.isMeaning_of_runAll (Tree.scoped_statements hbs) (Outcome.mapError_eq_ok ht) _ ?_
    simp [Text.Dotted.split]

theorem Table.at?_ofText_arrays_over_table :
    let source := "[a.b]\nc = 1\n[a]\nb = [1]\nb = [2, 3]\n[d]\n"
    ∃ t tree, Table.ofText source = .ok t ∧ Tree.ofText source = .ok tree ∧
      t.at? "a.b" = some (.array [.integer 1, .integer 2, .integer 3]) ∧ t.at? "a.b.c" = none ∧
      ∀ p : String, Statement.IsMeaning tree.statements (Text.Dotted.split p) (t.at? p) := by
  intro source
  have h : Table.ofText source = .ok [("a", .table [("b", .array [.integer 1, .integer 2,
    .integer 3])]), ("d", .table [])] := by cbv
  obtain ⟨tree, htree, hm⟩ := Table.at?_ofText h
  exact ⟨_, tree, h, htree, by cbv, by cbv, hm⟩

end RowFilter.Config
