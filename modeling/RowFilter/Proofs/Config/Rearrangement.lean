import RowFilter.Proofs.Config.Concatenation
import RowFilter.Proofs.Config.Conflict
import RowFilter.Proofs.Config.Merge.Stopping

/-! Blocks and assignments in another order, and blocks in several parts. -/

namespace RowFilter.Config

open Statement

def Agree (v? w? : Option Value) : Prop := v? = w? ∨ IsTable v? ∧ IsTable w?

lemma Agree.isSome_eq {v? w? : Option Value} (h : Agree v? w?) : v?.isSome = w?.isSome := by
  rcases h with rfl | ⟨⟨t, rfl⟩, u, rfl⟩ <;> rfl

lemma OrderedValue.eq_of_agree {v w : OrderedValue}
    (h : ∀ p, Agree (v.value.find? p) (w.value.find? p)) : v = w := by
  induction v using OrderedValue.induction_table generalizing w with
  | h v ih =>
    rcases h [] with heq | ⟨⟨t, ht⟩, u, hu⟩
    · exact OrderedValue.ext (Option.some.inj heq)
    · obtain ⟨t, rfl⟩ := exists_toValue (Option.some.inj ht)
      obtain ⟨u, rfl⟩ := exists_toValue (Option.some.inj hu)
      refine congrArg OrderedTable.toValue (OrderedTable.ext_get? fun key => ?_)
      have hfind : ∀ (t : OrderedTable) p, t.toValue.value.find? (key :: p) =
          (t.entries.get? key).bind fun v => v.find? p := fun t => Value.find?_cons t.entries key
      have hkey := (h [key]).isSome_eq
      rw [hfind, hfind] at hkey
      cases hx : t.entries.get? key with
      | none =>
        have hy : u.entries.get? key = none := by simpa [hx, Value.find?] using hkey
        rw [hy]
      | some x =>
        obtain ⟨y, hy⟩ : ∃ y, u.entries.get? key = some y := by
          simpa [hx, Value.find?, Option.isSome_iff_exists] using hkey
        obtain ⟨x, hget, rfl⟩ := OrderedTable.exists_of_get? hx
        obtain ⟨y, -, rfl⟩ := OrderedTable.exists_of_get? hy
        have hxy : x = y := by
          apply ih t rfl key x hget
          intro p
          have hp := h (key :: p)
          rwa [hfind, hfind, hx, hy] at hp
        rw [hy, hxy]

lemma OrderedTable.eq_of_agree {t u : OrderedTable}
    (h : ∀ p, p ≠ [] → Agree (t.entries.find? p) (u.entries.find? p)) : t = u := by
  apply OrderedTable.toValue_inj
  apply OrderedValue.eq_of_agree
  intro p
  cases p with
  | nil => exact .inr ⟨⟨t.entries, rfl⟩, u.entries, rfl⟩
  | cons key p => exact h (key :: p) (List.cons_ne_nil key p)

lemma ordered_runAll {ss : List Statement} {t : Table} (hs : Scoped ss)
    (ho : ∀ e ∈ entries ss, e.2.Ordered) (h : runAll ss [] = .ok t) : (Value.table t).Ordered := by
  induction hs generalizing t with
  | nil =>
    cases h
    exact OrderedTable.empty.ordered
  | header hs path ih =>
    obtain ⟨u, hu, h⟩ := Outcome.foldlM_concat_eq_ok.mp h
    rw [entries_header] at ho
    exact Table.ordered_openAt (u := ⟨u, ih ho hu⟩) h
  | assign hs hp key hv ih =>
    obtain ⟨u, hu, h⟩ := Outcome.foldlM_concat_eq_ok.mp h
    rw [entries_assign, List.forall_mem_append, List.forall_mem_singleton] at ho
    exact Table.ordered_assignAt (u := ⟨u, ih ho.1 hu⟩) (v := ⟨_, ho.2⟩) h

namespace Statement

structure SameContents (ss us : List Statement) : Prop where
  entries : (entries ss).Perm (entries us)
  headers : ∀ path, path ∈ headers ss ↔ path ∈ headers us

section SameContents

variable {ss us : List Statement} {p : List String} {v? w? : Option Value} {t u : Table}

lemma OverwritesNothing.length_valuesAt (h : OverwritesNothing ss) (p : List String) :
    (valuesAt ss p).length ≤ 1 := by
  have hpaths : ((entries ss).filter fun e => e.1 = p).map (·.1) =
      List.replicate (valuesAt ss p).length p := by
    apply List.eq_replicate_iff.mpr
    simp [valuesAt]
  have hnodup : (((entries ss).filter fun e => e.1 = p).map (·.1)).Nodup :=
    h.nodup.sublist (List.filter_sublist.map _)
  rw [hpaths] at hnodup
  exact List.nodup_replicate.mp hnodup

lemma SameContents.valuesAt_eq (h : SameContents ss us) (hn : OverwritesNothing ss) (p : List String) :
    valuesAt us p = valuesAt ss p := by
  have hperm : (valuesAt us p).Perm (valuesAt ss p) := ((h.entries.filter _).map _).symm
  have hlen := hn.length_valuesAt p
  match hv : valuesAt ss p with
  | [] =>
    rw [hv] at hperm
    exact hperm.eq_nil
  | [v] =>
    rw [hv] at hperm
    exact List.perm_singleton.mp hperm
  | v :: w :: vs =>
    rw [hv] at hlen
    simp at hlen

lemma SameContents.isBehind_iff (h : SameContents ss us) : IsBehind us p ↔ IsBehind ss p := by
  simp only [IsBehind, h.entries.mem_iff]

lemma SameContents.isMeaning (h : SameContents ss us) (hn : OverwritesNothing ss) (hm : IsMeaning us p v?) :
    IsMeaning ss p v? := by
  obtain ⟨hbehind, hassigned, hopened, habsent⟩ := hm
  simp only [h.isBehind_iff, h.valuesAt_eq hn, ← h.headers] at hbehind hassigned hopened habsent
  exact ⟨hbehind, hassigned, hopened, habsent⟩

lemma IsMeaning.agree (h : IsMeaning ss p v?) (h' : IsMeaning ss p w?) : Agree v? w? := by
  by_cases hb : IsBehind ss p
  · exact .inl ((h.behind hb).trans (h'.behind hb).symm)
  by_cases hv : valuesAt ss p = []
  · by_cases hh : ∃ path ∈ Statement.headers ss, p <+: path
    · exact .inr ⟨h.opened hb hv hh, h'.opened hb hv hh⟩
    · exact .inl ((h.absent hb hv hh).trans (h'.absent hb hv hh).symm)
  · exact .inl ((h.assigned hb hv).trans (h'.assigned hb hv).symm)

lemma SameContents.overwritesNothing (h : SameContents ss us) (hn : OverwritesNothing ss) :
    OverwritesNothing us where
  nodup := (h.entries.map (·.1)).nodup_iff.mp hn.nodup
  not_opened := by
    intro e he path hp
    exact hn.not_opened e (h.entries.mem_iff.mpr he) path ((h.headers path).mpr hp)

lemma OverwritesNothing.not_isBlockedAfter (hn : OverwritesNothing ss) {before : List Statement} :
    ¬ IsBlockedAfter ss before p := by
  rintro ⟨after, rfl, q, -, hqp, hv⟩
  obtain ⟨v, hv⟩ := List.exists_mem_of_ne_nil _ hv
  have he : (q, v) ∈ Statement.entries (before ++ .header p :: after) := by
    rw [Statement.entries, List.filterMap_append]
    exact List.mem_append_left _ (mem_valuesAt.mp hv)
  exact hn.not_opened _ he p (by simp [Statement.headers, header?]) hqp

lemma OverwritesNothing.exists_runAll (hn : OverwritesNothing ss) (hs : Scoped ss)
    (hb : InBlocks ss) : ∃ t, runAll ss [] = .ok t := by
  cases hr : runAll ss [] with
  | ok t => exact ⟨t, rfl⟩
  | error c =>
    obtain ⟨before, path, hblocked⟩ := (exists_error_iff hs hb).mp ⟨c, hr⟩
    exact absurd hblocked hn.not_isBlockedAfter

lemma SameContents.eq_of_runAll (h : SameContents ss us) (hn : OverwritesNothing ss) (hs : Scoped ss)
    (hu : Scoped us) (ho : ∀ e ∈ Statement.entries ss, e.2.Ordered) (hr : runAll ss [] = .ok t)
    (hr' : runAll us [] = .ok u) : t = u := by
  have ho' : ∀ e ∈ Statement.entries us, e.2.Ordered := fun e he => ho e (h.entries.mem_iff.mpr he)
  suffices heq : (⟨t, ordered_runAll hs ho hr⟩ : OrderedTable) = ⟨u, ordered_runAll hu ho' hr'⟩ from
    congrArg OrderedTable.entries heq
  apply OrderedTable.eq_of_agree
  intro p hp
  have hm := isMeaning_of_runAll hs hr p hp
  exact hm.agree (h.isMeaning hn (isMeaning_of_runAll hu hr' p hp))

end SameContents

end Statement

namespace Tree

/-- Blocks in another order, their assignments in another order, and blocks in several parts. -/
inductive Rearranged : List Tree → List Tree → Prop
  | blocks {bs cs : List Tree} (h : bs.Perm cs) : Rearranged bs cs
  | assignments {header : String} {p : Position} {as as' : List Tree} (h : as.Perm as')
      (bs : List Tree) : Rearranged (block header p as :: bs) (block header p as' :: bs)
  | split (header : String) (p q : Position) (as as' bs : List Tree) :
      Rearranged (block header p (as ++ as') :: bs) (block header p as :: block header q as' :: bs)
  | trans {bs cs ds : List Tree} (h : Rearranged bs cs) (h' : Rearranged cs ds) : Rearranged bs ds

section Blocks

variable {ts us : List Token} {as as' bs cs : List Tree} {b : Tree}

def blockEntries (b : Tree) : List (List String × Value) :=
  (b.children.filterMap assigned?).map fun e => (b.path ++ [e.1], e.2)

lemma entries_blockStatements (b : Tree) : entries b.blockStatements = b.blockEntries := by
  rw [blockStatements, entries, List.filterMap_cons_none (by rfl), List.filterMap_map]
  exact congrFun List.filterMap_eq_map _

lemma headers_blockStatements (b : Tree) : headers b.blockStatements = [b.path] := by
  simp [blockStatements, headers, header?]

lemma entries_statements (bs : List Tree) :
    entries (root bs).statements = bs.flatMap blockEntries := by
  rw [statements, entries, List.filterMap_flatMap]
  exact congrArg bs.flatMap (funext entries_blockStatements)

lemma headers_statements (bs : List Tree) : headers (root bs).statements = bs.map path := by
  rw [statements, headers, List.filterMap_flatMap, List.map_eq_flatMap]
  exact congrArg bs.flatMap (funext headers_blockStatements)

lemma sameContents_of_rearranged (h : Rearranged bs cs) :
    SameContents (root bs).statements (root cs).statements := by
  induction h with
  | blocks h =>
    constructor
    · rw [entries_statements, entries_statements]
      exact h.flatMap_right _
    · intro path
      rw [headers_statements, headers_statements]
      exact (h.map _).mem_iff
  | assignments h bs =>
    constructor
    · rw [entries_statements, entries_statements, List.flatMap_cons, List.flatMap_cons]
      exact ((h.filterMap _).map _).append_right _
    · intro path
      rw [headers_statements, headers_statements]
      rfl
  | split header p q as as' bs =>
    constructor
    · simp [entries_statements, blockEntries, block, children, path, value]
    · simp [headers_statements, block, path, value]
  | trans h h' ih ih' =>
    exact ⟨ih.entries.trans ih'.entries, fun path => (ih.headers path).trans (ih'.headers path)⟩

lemma exists_isAssignments_iff :
    (∃ ts, IsAssignments ts as) ↔ ∀ a ∈ as, ∃ ts, IsAssignments ts [a] := by
  induction as with
  | nil => exact ⟨fun _ => List.forall_mem_nil _, fun _ => ⟨[], .nil⟩⟩
  | cons a as ih =>
    rw [List.forall_mem_cons, ← ih]
    constructor
    · rintro ⟨_, h⟩
      cases h with
      | cons hk ha hv hs => exact ⟨⟨_, .cons hk ha hv .nil⟩, _, hs⟩
    · rintro ⟨⟨_, h⟩, _, hs⟩
      cases h with
      | cons hk ha hv => exact ⟨_, .cons hk ha hv hs⟩

lemma exists_isBlocks_iff : (∃ ts, IsBlocks ts bs) ↔ ∀ b ∈ bs, ∃ ts, IsBlocks ts [b] := by
  induction bs with
  | nil => exact ⟨fun _ => List.forall_mem_nil _, fun _ => ⟨[], .nil⟩⟩
  | cons b bs ih =>
    rw [List.forall_mem_cons, ← ih]
    constructor
    · rintro ⟨_, h⟩
      cases h with
      | cons hk ha hs => exact ⟨⟨_, .cons hk ha .nil⟩, _, hs⟩
    · rintro ⟨⟨_, h⟩, _, hs⟩
      cases h with
      | cons hk ha => exact ⟨_, .cons hk ha hs⟩

lemma exists_isBlocks_block_iff {header : String} {p : Position} :
    (∃ ts, IsBlocks ts [block header p as]) ↔ ∃ ts, IsAssignments ts as := by
  constructor
  · rintro ⟨_, h⟩
    cases h with
    | cons hk ha => exact ⟨_, ha⟩
  · rintro ⟨ts, h⟩
    exact ⟨_, @IsBlocks.cons ⟨.header, header, p⟩ ts [] as [] rfl h .nil⟩

lemma exists_isBlocks_of_rearranged (h : Rearranged bs cs) (hbs : ∃ ts, IsBlocks ts bs) :
    ∃ ts, IsBlocks ts cs := by
  induction h with
  | blocks h =>
    rw [exists_isBlocks_iff] at hbs ⊢
    exact fun c hc => hbs c (h.mem_iff.mpr hc)
  | assignments h bs =>
    rw [exists_isBlocks_iff, List.forall_mem_cons, exists_isBlocks_block_iff,
      exists_isAssignments_iff] at hbs ⊢
    exact ⟨fun a ha => hbs.1 a (h.mem_iff.mpr ha), hbs.2⟩
  | split header p q as as' bs =>
    rw [exists_isBlocks_iff, List.forall_mem_cons, exists_isBlocks_block_iff] at hbs ⊢
    rw [List.forall_mem_cons, exists_isBlocks_block_iff]
    rw [exists_isAssignments_iff, List.forall_mem_append] at hbs
    exact ⟨exists_isAssignments_iff.mpr hbs.1.1, exists_isAssignments_iff.mpr hbs.1.2, hbs.2⟩
  | trans h h' ih ih' => exact ih' (ih hbs)

lemma ordered_of_isAssignments (h : IsAssignments ts as) :
    ∀ e ∈ as.filterMap assigned?, e.2.Ordered := by
  induction h with
  | nil => exact List.forall_mem_nil _
  | @cons key assign ts us v as hk ha h hs ih =>
    obtain ⟨x, hx, -⟩ := exists_value h
    rw [List.filterMap_cons_some (assigned?_assignment hx _ _), List.forall_mem_cons]
    exact ⟨(isPlain_of_isValue h hx).ordered, ih⟩

lemma ordered_of_isBlocks (h : IsBlocks ts bs) : ∀ e ∈ entries (root bs).statements, e.2.Ordered := by
  rw [entries_statements]
  induction h with
  | nil => exact List.forall_mem_nil _
  | cons hk ha hs ih =>
    rw [List.flatMap_cons, List.forall_mem_append, blockEntries, List.forall_mem_map]
    exact ⟨ordered_of_isAssignments ha, ih⟩

end Blocks

theorem evaluate_rearranged {ts : List Token} {tree : Tree} (h : ofTokens ts = .ok tree)
    (hn : OverwritesNothing tree.statements) :
    ∃ t, tree.evaluate = .ok t ∧
      ∀ bs, Rearranged tree.children bs → (root bs).evaluate = .ok t := by
  obtain ⟨bs, hbs, -, rfl⟩ := ofTokens_eq_ok_iff.mp h
  have hs := scoped_statements hbs
  obtain ⟨t, ht⟩ := hn.exists_runAll hs (inBlocks_statements _)
  refine ⟨t, ?_, fun cs hr => ?_⟩
  · rw [evaluate_root hbs, ht]
    rfl
  · obtain ⟨us, hcs⟩ := exists_isBlocks_of_rearranged hr ⟨ts, hbs⟩
    have hsame := sameContents_of_rearranged hr
    have hs' := scoped_statements hcs
    obtain ⟨u, hu⟩ := (hsame.overwritesNothing hn).exists_runAll hs' (inBlocks_statements _)
    rw [evaluate_root hcs, hu, hsame.eq_of_runAll hn hs hs' (ordered_of_isBlocks hbs) ht hu]
    rfl

theorem evaluate_rearranged_in_two_parts :
    let x := assignment "x" .start (leaf .integer (.integer 1) .start)
    let y := assignment "y" .start (inner .array .start [leaf .boolean (.boolean true) .start])
    ∃ ts, ofTokens ts = .ok (root [block "a.b" .start [x, y], block "a" .start []]) ∧
      (root [block "a.b" .start [x], block "a" .start [], block "a.b" .start [y]]).evaluate =
        .ok [("a", .table [("b", .table [("x", .integer 1), ("y", .array [.boolean true])])])] := by
  intro x y
  let tokens : List Token := [⟨.header, "a.b", .start⟩, ⟨.identifier, "x", .start⟩,
    ⟨.assign, "=", .start⟩, ⟨.integer, "1", .start⟩, ⟨.identifier, "y", .start⟩,
    ⟨.assign, "=", .start⟩, ⟨.openBracket, "[", .start⟩, ⟨.boolean, "true", .start⟩,
    ⟨.closeBracket, "]", .start⟩, ⟨.header, "a", .start⟩]
  have htree : ofTokens tokens = .ok (root [block "a.b" .start [x, y], block "a" .start []]) := by cbv
  have hstatements : (root [block "a.b" .start [x, y], block "a" .start []]).statements =
      [.header ["a", "b"], .assign ["a", "b"] "x" (.integer 1),
        .assign ["a", "b"] "y" (.array [.boolean true]), .header ["a"]] := by cbv
  have hn : OverwritesNothing (root [block "a.b" .start [x, y], block "a" .start []]).statements := by
    rw [hstatements]
    exact ⟨by decide, by decide⟩
  obtain ⟨t, ht, hall⟩ := evaluate_rearranged htree hn
  have hvalue : (root [block "a.b" .start [x, y], block "a" .start []]).evaluate =
      .ok [("a", .table [("b", .table [("x", .integer 1), ("y", .array [.boolean true])])])] := by cbv
  refine ⟨tokens, htree, (hall _ ?_).trans (ht.symm.trans hvalue)⟩
  -- the block is taken apart, with its parts exchanged, and then they move behind the other block
  have hswap : Rearranged [block "a.b" .start [x, y], block "a" .start []]
      [block "a.b" .start [y, x], block "a" .start []] := .assignments (.swap y x []) _
  have hparts := Rearranged.split "a.b" .start .start [y] [x] [block "a" .start []]
  have hmove := List.perm_append_singleton (block "a.b" .start [y])
    [block "a.b" .start [x], block "a" .start []]
  exact .trans hswap (.trans hparts (.blocks hmove.symm))

end Tree

end RowFilter.Config
