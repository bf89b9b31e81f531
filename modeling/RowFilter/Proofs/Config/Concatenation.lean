import RowFilter.Proofs.Config.Layout
import RowFilter.Proofs.Config.Merge.Commuting
import RowFilter.Proofs.Config.Reachable

/-! Two sources one below the other, and the merging of their tables. -/

namespace RowFilter.Config

open Statement
open Token (Alike Mode)

lemma forall₂_append_left {α β : Type} {R : α → β → Prop} {l₁ l₂ : List α} {k : List β}
    (h : List.Forall₂ R (l₁ ++ l₂) k) :
    ∃ k₁ k₂, k = k₁ ++ k₂ ∧ List.Forall₂ R l₁ k₁ ∧ List.Forall₂ R l₂ k₂ := by
  refine ⟨k.take l₁.length, k.drop l₁.length, (List.take_append_drop _ _).symm, ?_, ?_⟩
  · simpa using List.forall₂_take l₁.length h
  · simpa using List.forall₂_drop l₁.length h

mutual

lemma IsValue.alike {ts us : List Token} {v : Tree} (h : IsValue ts v)
    (ha : List.Forall₂ Alike ts us) :
    ∃ w x, IsValue us w ∧ v.expectValue v.resolve = .ok x ∧ w.expectValue w.resolve = .ok x := by
  cases h with
  | @string t h =>
    obtain ⟨u, -, ⟨hk, hl⟩, ⟨⟩, rfl⟩ := List.forall₂_cons_left_iff.mp ha
    exact ⟨_, .string t.lexeme, .string (hk ▸ h), rfl, by rw [hl]; rfl⟩
  | @boolean t h =>
    obtain ⟨u, -, ⟨hk, hl⟩, ⟨⟩, rfl⟩ := List.forall₂_cons_left_iff.mp ha
    exact ⟨_, .boolean (t.lexeme == "true"), .boolean (hk ▸ h), rfl, by rw [hl]; rfl⟩
  | @integer t n h hn =>
    obtain ⟨u, -, ⟨hk, hl⟩, ⟨⟩, rfl⟩ := List.forall₂_cons_left_iff.mp ha
    exact ⟨_, .integer n, .integer (hk ▸ h) (hl ▸ hn), rfl, rfl⟩
  | @array opening closing ts vs ho h hc =>
    obtain ⟨us₁, us₂, rfl, ha₁, ha₂⟩ := forall₂_append_left ha
    obtain ⟨u, us, ⟨hk, -⟩, hts, rfl⟩ := List.forall₂_cons_left_iff.mp ha₁
    obtain ⟨c, -, ⟨hkc, -⟩, ⟨⟩, rfl⟩ := List.forall₂_cons_left_iff.mp ha₂
    obtain ⟨ws, xs, hws, hvs, hxs⟩ := IsItems.alike h hts
    refine ⟨_, .array xs, .array (hk ▸ ho) hws (hkc ▸ hc), ?_, ?_⟩
    · rw [Tree.inner, Tree.resolve, hvs]
      rfl
    · rw [Tree.inner, Tree.resolve, hxs]
      rfl

lemma IsItems.alike {ts us : List Token} {vs : List Tree} (h : IsItems ts vs)
    (ha : List.Forall₂ Alike ts us) :
    ∃ ws xs, IsItems us ws ∧ Tree.resolveItems vs = .ok xs ∧ Tree.resolveItems ws = .ok xs := by
  cases h with
  | nil =>
    cases ha
    exact ⟨[], [], .nil, rfl, rfl⟩
  | last h =>
    obtain ⟨w, x, hw, hv, hx⟩ := IsValue.alike h ha
    refine ⟨[w], [x], .last hw, ?_, ?_⟩
    · rw [Tree.resolveItems, hv]
      rfl
    · rw [Tree.resolveItems, hx]
      rfl
  | cons h hc hs =>
    obtain ⟨us₁, us₂, rfl, ha₁, ha₂⟩ := forall₂_append_left ha
    obtain ⟨c, us, ⟨hk, -⟩, hts, rfl⟩ := List.forall₂_cons_left_iff.mp ha₂
    obtain ⟨w, x, hw, hv, hx⟩ := IsValue.alike h ha₁
    obtain ⟨ws, xs, hws, hvs, hxs⟩ := IsItems.alike hs hts
    refine ⟨w :: ws, x :: xs, .cons hw (hk ▸ hc) hws, ?_, ?_⟩
    · rw [Tree.resolveItems, hv, hvs]
      rfl
    · rw [Tree.resolveItems, hx, hxs]
      rfl

end

lemma IsAssignments.alike {ts us : List Token} {as : List Tree} (h : IsAssignments ts as)
    (ha : List.Forall₂ Alike ts us) :
    ∃ bs, IsAssignments us bs ∧ bs.filterMap Tree.assigned? = as.filterMap Tree.assigned? := by
  induction h generalizing us with
  | nil =>
    cases ha
    exact ⟨[], .nil, rfl⟩
  | @cons key assign ts rest v as hk hassign h hs ih =>
    obtain ⟨k, ks, ⟨hkk, hkl⟩, hks, rfl⟩ := List.forall₂_cons_left_iff.mp ha
    obtain ⟨a, us, ⟨hak, -⟩, hus, rfl⟩ := List.forall₂_cons_left_iff.mp hks
    obtain ⟨us₁, us₂, rfl, ha₁, ha₂⟩ := forall₂_append_left hus
    obtain ⟨w, x, hw, hv, hx⟩ := IsValue.alike h ha₁
    obtain ⟨bs, hbs, he⟩ := ih ha₂
    refine ⟨_, .cons (hkk ▸ hk) (hak ▸ hassign) hw hbs, ?_⟩
    rw [List.filterMap_cons_some (Tree.assigned?_assignment hx _ _),
      List.filterMap_cons_some (Tree.assigned?_assignment hv _ _), he, hkl]

lemma IsBlocks.alike {ts us : List Token} {bs : List Tree} (h : IsBlocks ts bs)
    (hh : ∀ b ∈ bs, b.IsHeaded) (ha : List.Forall₂ Alike ts us) :
    ∃ cs, IsBlocks us cs ∧ (∀ c ∈ cs, c.IsHeaded) ∧
      cs.flatMap Tree.blockStatements = bs.flatMap Tree.blockStatements := by
  induction h generalizing us with
  | nil =>
    cases ha
    exact ⟨[], .nil, nofun, rfl⟩
  | @cons header ts rest as bs hk h hs ih =>
    rw [List.forall_mem_cons, isHeaded_block] at hh
    obtain ⟨k, us, ⟨hkk, hkl⟩, hus, rfl⟩ := List.forall₂_cons_left_iff.mp ha
    obtain ⟨us₁, us₂, rfl, ha₁, ha₂⟩ := forall₂_append_left hus
    obtain ⟨as', has, he⟩ := h.alike ha₁
    obtain ⟨cs, hcs, hheaded, hstatements⟩ := ih hh.2 ha₂
    refine ⟨_, .cons (hkk ▸ hk) has hcs, ?_, ?_⟩
    · rw [List.forall_mem_cons, isHeaded_block, ← hkl]
      exact ⟨hh.1, hheaded⟩
    · have hblock : Tree.blockStatements (Tree.block k.lexeme k.position as') =
          Tree.blockStatements (Tree.block header.lexeme header.position as) := by
        simp only [Tree.blockStatements, Tree.block, Tree.children, Tree.path, Tree.value, he, hkl]
      rw [List.flatMap_cons, List.flatMap_cons, hblock, hstatements]

lemma IsBlocks.append {ts us : List Token} {bs cs : List Tree} (h : IsBlocks ts bs)
    (h' : IsBlocks us cs) : IsBlocks (ts ++ us) (bs ++ cs) := by
  induction h with
  | nil => exact h'
  | cons hk h hs ih => simpa using IsBlocks.cons hk h ih

lemma Tree.exists_ofText_append {source source' : String} {tree tree' : Tree}
    (h : ofText source = .ok tree) (h' : ofText source' = .ok tree') :
    ∃ both, ofText (source ++ "\n" ++ source') = .ok both ∧
      both.statements = tree.statements ++ tree'.statements := by
  obtain ⟨ts, bs, hts, hbs, hh, rfl⟩ := exists_blocks_of_ofText h
  obtain ⟨ts', bs', hts', hbs', hh', rfl⟩ := exists_blocks_of_ofText h'
  obtain ⟨hfault, rfl⟩ := Text.Scan.result_eq_ok_iff.mp hts
  obtain ⟨hfault', rfl⟩ := Text.Scan.result_eq_ok_iff.mp hts'
  have hline : Token.EndsLine ('\n' :: source'.toList) := by
    intro c hc
    cases hc
    rfl
  have hend : Token.EndsLine [] := nofun
  obtain ⟨us, p, hus, hscan⟩ := Token.scanFrom_append hline hfault .start
  obtain ⟨us', p', hus', hscan'⟩ := Token.scanFrom_append hend hfault' (p.step '\n')
  obtain ⟨cs, hcs, hheaded, hstatements⟩ := hbs.alike hh hus
  obtain ⟨cs', hcs', hheaded', hstatements'⟩ := hbs'.alike hh' hus'
  -- behind the first source and the line break the second is read as at the start of a text
  have hbehind : (Token.scanFrom .start .start source.toList).tokens.foldl Mode.behind .start =
    .start := hbs.sentence.1.takes.foldl_behind
  have hblank : Text.isBlank '\n' = true := by decide
  have htext : (source ++ "\n" ++ source').toList = source.toList ++ '\n' :: source'.toList := by
    simp
  have hall : (Token.scan (source ++ "\n" ++ source')).result = .ok (us ++ us') := by
    rw [Token.scan, htext, hscan, hbehind, Token.scanFrom, if_pos hblank,
      ← List.append_nil source'.toList, hscan', ← List.foldr_append, Token.scanFrom,
      Text.Scan.result_foldr_cons]
  refine ⟨root (cs ++ cs'), ?_, ?_⟩
  · have hof := ofTokens_blocks (hcs.append hcs') (List.forall_mem_append.mpr ⟨hheaded, hheaded'⟩)
    rw [ofText, hall]
    exact congrArg (Except.mapError ConfigError.parse) hof
  · change (cs ++ cs').flatMap _ = bs.flatMap _ ++ bs'.flatMap _
    rw [List.flatMap_append, hstatements, hstatements']

namespace Statement

/-- Whether statements assign at no path twice, and at none where a header leads, or through which.
-/
structure OverwritesNothing (ss : List Statement) : Prop where
  nodup : ((entries ss).map (·.1)).Nodup
  not_opened : ∀ e ∈ entries ss, ∀ path ∈ headers ss, ¬ e.1 <+: path

section Run

variable {ss us : List Statement} {b m : Table} {path : List String} {key : String} {v : Value}

lemma OverwritesNothing.of_append (h : OverwritesNothing (ss ++ us)) : OverwritesNothing ss := by
  obtain ⟨hd, ho⟩ := h
  simp only [entries, headers, List.filterMap_append, List.map_append] at hd ho
  refine ⟨(List.nodup_append.mp hd).1, fun e he path hp => ho e ?_ path ?_⟩
  · exact List.mem_append_left _ he
  · exact List.mem_append_left _ hp

lemma find?_of_overwritesNothing (hs : Scoped ss)
    (hn : OverwritesNothing (ss ++ [.assign path key v])) (h : runAll ss [] = .ok b) :
    b.find? (path ++ [key]) = none := by
  have hm := isMeaning_of_runAll hs h (path ++ [key]) (List.concat_ne_nil _ _)
  obtain ⟨hd, ho⟩ := hn
  rw [entries_assign] at hd ho
  rw [headers_assign] at ho
  by_cases hb : IsBehind ss (path ++ [key])
  · exact hm.behind hb
  · refine hm.absent hb ?_ ?_
    · rw [List.eq_nil_iff_forall_not_mem]
      intro w hw
      rw [List.map_append, List.nodup_append] at hd
      exact hd.2.2 _ (List.mem_map.mpr ⟨_, mem_valuesAt.mp hw, rfl⟩) _ (by simp) rfl
    · rintro ⟨q, hq, hp⟩
      exact ho (path ++ [key], v) (by simp) q hq hp

lemma commutes_run {s : Statement} {b : OrderedTable}
    (h : ∀ e, s.assigned? = some e → b.entries.find? e.1 = none) :
    Table.Commutes (fun t => run t s) b := by
  cases s with
  | header path => exact Table.commutes_open b path
  | assign path key v => exact Table.commutes_assign (h _ rfl)

lemma merge_runAll (hs : Scoped ss) (hv : ∀ s ∈ ss, s.block.IsValid) (hn : OverwritesNothing ss)
    (a : OrderedTable) (h : runAll ss [] = .ok b) :
    (a.entries.merge b).result = .ok m ↔ runAll ss a.entries = .ok m := by
  induction ss using List.reverseRecOn generalizing b m with
  | nil =>
    cases h
    rfl
  | append_singleton ss s ih =>
    -- the last statement moves out of the merged table, and the rest moves out by induction
    obtain ⟨b', hb', hstep⟩ := Outcome.foldlM_concat_eq_ok.mp h
    have hv' : ∀ s ∈ ss, s.block.IsValid := fun s hs => hv s (List.mem_append_left _ hs)
    have hfresh : ∀ e, s.assigned? = some e → b'.find? e.1 = none := by
      intro e he
      cases s with
      | header path => cases he
      | assign path key v =>
        cases he
        exact find?_of_overwritesNothing hs.of_append hn hb'
    have hordered := (isRoot_runAll hv' isRoot_nil hb').ordered_table
    rw [commutes_run (b := ⟨b', hordered⟩) hfresh a b m hstep, runAll, Outcome.foldlM_concat_eq_ok]
    simp only [ih hs.of_append hv' hn.of_append hb']
    rfl

end Run

end Statement

theorem Table.ofText_append {source source' : String} {t t' : Table} {tree : Tree}
    (h : ofText source = .ok t) (h' : ofText source' = .ok t') (htree : Tree.ofText source' = .ok tree)
    (hn : OverwritesNothing tree.statements) (u : Table) :
    ofText (source ++ "\n" ++ source') = .ok u ↔ (t.merge t').result = .ok u := by
  obtain ⟨first, hfirst, -⟩ := Outcome.bind_eq_ok h
  obtain ⟨both, hboth, hstatements⟩ := Tree.exists_ofText_append hfirst htree
  have hroot := isRoot_ofText h
  rw [Tree.evaluate_of_ofText hfirst] at h
  rw [Tree.evaluate_of_ofText htree] at h'
  have hrun : runAll both.statements [] = runAll tree.statements t := by
    rw [hstatements]
    exact Outcome.foldlM_append_of_ok (Outcome.mapError_eq_ok h)
  have hmerge := merge_runAll (m := u) (Tree.scoped_of_ofText htree) (Tree.isValid_of_ofText htree) hn
    ⟨t, hroot.ordered_table⟩ (Outcome.mapError_eq_ok h')
  rw [Tree.evaluate_of_ofText hboth, hrun, hmerge, Outcome.mapError_eq_ok_iff]

theorem Table.ofText_append_arrays :
    ∃ t t' u, ofText "[a]\nb = [1]" = .ok t ∧ ofText "[a.c]\n[a]\nb = [2]\n" = .ok t' ∧
      (t.merge t').result = .ok u ∧
      ofText ("[a]\nb = [1]" ++ "\n" ++ "[a.c]\n[a]\nb = [2]\n") = .ok u ∧
      u.at? "a.b" = some (.array [.integer 1, .integer 2]) := by
  have h : ofText "[a]\nb = [1]" = .ok [("a", .table [("b", .array [.integer 1])])] := by cbv
  have h' : ofText "[a.c]\n[a]\nb = [2]\n" =
      .ok [("a", .table [("b", .array [.integer 2]), ("c", .table [])])] := by cbv
  have hstatements : (Tree.ofText "[a.c]\n[a]\nb = [2]\n").map Tree.statements =
      .ok [.header ["a", "c"], .header ["a"], .assign ["a"] "b" (.array [.integer 2])] := by cbv
  obtain ⟨tree, htree, hs⟩ := Outcome.map_eq_ok hstatements
  have hn : OverwritesNothing tree.statements := by
    rw [hs]
    exact ⟨by decide, by decide⟩
  exact ⟨_, _, _, h, h', rfl, (ofText_append h h' htree hn _).mpr rfl, rfl⟩

end RowFilter.Config
