import RowFilter.Proofs.Config.Conflict
import RowFilter.Proofs.Config.Reading
import RowFilter.Proofs.Config.Writing

/-! The statements of a source loaded one by one. -/

namespace RowFilter.Config

open Statement

namespace Table

def nest : List String → Table → Table
  | [], u => u
  | key :: path, u => [(key, .table (nest path u))]

variable {f : Table → Except Conflict Table} {t u w : Table} {key : String} {v : Value}

lemma modifyAt_nil (hf : f [] = .ok u) (seen path : List String) :
    modifyAt f seen path [] = .ok (nest path u) := by
  induction path generalizing seen with
  | nil => exact hf
  | cons key path ih =>
    have hi : innerAt [] seen key = .ok [] := rfl
    rw [modifyAt, hi]
    simp only [ih]
    rfl

lemma modifyAt_nest (hf : f w = .ok u) (seen path : List String) :
    modifyAt f seen path (nest path w) = .ok (nest path u) := by
  induction path generalizing seen with
  | nil => exact hf
  | cons key path ih =>
    have hi : innerAt (nest (key :: path) w) seen key = .ok (nest path w) := by
      simp [innerAt, nest, get?]
    rw [modifyAt, hi]
    simp only [ih]
    simp [Except.map, nest, insert, Ordered.insert]

lemma result_mergeAt_nest (hf : ∀ path t, (mergeAt path t u).result = f t) (hu : f [] = .ok u)
    (seen path : List String) (t : Table) :
    (mergeAt seen t (nest path u)).result = modifyAt f seen path t := by
  induction path generalizing seen t with
  | nil => exact hf seen t
  | cons key path ih =>
    rw [nest, mergeAt, modifyAt, innerAt]
    cases hg : t.get? key with
    | none =>
      -- merging puts the rest of the path there as it is, and opening builds it up from nothing
      simp only [modifyAt_nil hu]
      rfl
    | some old =>
      cases old with
      | table inner =>
        simp only [Value.mergeAt, ← ih]
        cases hc : (mergeAt (seen ++ [key]) inner (nest path u)).conflict? with
        | none =>
          simp only [Merged.result, hc]
          rfl
        | some c =>
          simp only [Merged.result, hc]
          rfl
      | _ => rfl

lemma openAt_eq_merge (path : List String) (t : Table) :
    t.openAt path = (t.merge (nest path [])).result :=
  (result_mergeAt_nest (fun _ _ => rfl) rfl [] path t).symm

lemma assignAt_eq_merge (hv : v.table? = none) (path : List String) (key : String) (t : Table) :
    t.assignAt path key v = (t.merge (nest path [(key, v)])).result := by
  refine (result_mergeAt_nest (fun p t => ?_) ?_ [] path t).symm
  · rw [merge, result_mergeAt_entry hv, result_mergeAt_entry hv]
  · rfl

end Table

namespace Statement

def block : Statement → Block
  | header path => ⟨path, []⟩
  | assign path key v => ⟨path, [(key, v)]⟩

def table (s : Statement) : Table := Table.nest s.block.path s.block.entries

variable {s : Statement}

lemma run_eq_merge (h : s.block.IsValid) (t : Table) : run t s = (t.merge s.table).result := by
  cases s with
  | header path => exact Table.openAt_eq_merge path t
  | assign path key v =>
    exact Table.assignAt_eq_merge (h.plain _ (List.mem_singleton_self _)).table? path key t

lemma runAll_block (h : s.block.IsValid) : runAll s.block.statements [] = .ok s.table := by
  cases s with
  | header path =>
    exact Outcome.foldlM_singleton.trans (Table.modifyAt_nil (f := .ok) rfl [] path)
  | assign path key v =>
    have hopen : run [] (.header path) = .ok (Table.nest path []) :=
      Table.modifyAt_nil (f := .ok) rfl [] path
    refine (Outcome.foldlM_cons_of_ok hopen).trans (Outcome.foldlM_singleton.trans ?_)
    exact Table.modifyAt_nest (by rfl) [] path

end Statement

mutual

lemma isPlain_of_isValue {ts : List Token} {v : Tree} (h : IsValue ts v) {x : Value}
    (hx : v.expectValue v.resolve = .ok x) : IsPlain x := by
  cases h with
  | string h =>
    cases hx
    exact .string _
  | boolean h =>
    cases hx
    exact .boolean _
  | integer h hn =>
    cases hx
    exact .integer _
  | array ho h hc =>
    rw [Tree.inner, Tree.resolve] at hx
    obtain ⟨xs, hxs⟩ := Tree.exists_items h
    rw [hxs] at hx
    cases hx
    exact .array (isPlain_of_isItems h hxs)

lemma isPlain_of_isItems {ts : List Token} {vs : List Tree} (h : IsItems ts vs) {xs : List Value}
    (hxs : Tree.resolveItems vs = .ok xs) : ∀ x ∈ xs, IsPlain x := by
  cases h with
  | nil =>
    cases hxs
    exact List.forall_mem_nil _
  | last h =>
    obtain ⟨y, hy, -⟩ := Tree.exists_value h
    rw [Tree.resolveItems, hy] at hxs
    cases hxs
    exact List.forall_mem_singleton.mpr (isPlain_of_isValue h hy)
  | cons h hc hs =>
    obtain ⟨y, hy, -⟩ := Tree.exists_value h
    obtain ⟨ys, hys⟩ := Tree.exists_items hs
    rw [Tree.resolveItems, hy, hys] at hxs
    cases hxs
    exact List.forall_mem_cons.mpr ⟨isPlain_of_isValue h hy, isPlain_of_isItems hs hys⟩

end

namespace Tree

lemma isValid_of_isAssignments {ts : List Token} {as : List Tree} (h : IsAssignments ts as)
    (hk : ∀ t ∈ ts, t.IsNamed) : ∀ e ∈ as.filterMap assigned?,
      isName e.1.toList = true ∧ IsPlain e.2 ∧ e.1 ≠ "true" ∧ e.1 ≠ "false" := by
  induction h with
  | nil => exact List.forall_mem_nil _
  | @cons key assign ts us v as hkey ha h hs ih =>
    obtain ⟨x, hx, -⟩ := exists_value h
    obtain ⟨hname, hb⟩ := hk key List.mem_cons_self hkey
    rw [List.filterMap_cons_some (assigned?_assignment hx _ _), List.forall_mem_cons]
    refine ⟨⟨hname, isPlain_of_isValue h hx, hb⟩, ih fun t ht => hk t ?_⟩
    simp [ht]

lemma isName_of_isHeader {header : String} (h : isHeader header = true) :
    ∀ s ∈ Text.Dotted.split header, isName s.toList = true := by
  rw [isHeader, List.all_eq_true] at h
  rw [Text.Dotted.split, List.forall_mem_map]
  intro cs hcs
  rw [String.toList_ofList]
  exact h cs hcs

lemma isValid_of_isBlocks {ts : List Token} {bs : List Tree} (h : IsBlocks ts bs)
    (hk : ∀ t ∈ ts, t.IsNamed) (hh : ∀ b ∈ bs, b.IsHeaded) :
    ∀ s ∈ bs.flatMap blockStatements, s.block.IsValid := by
  induction h with
  | nil => exact List.forall_mem_nil _
  | @cons header ts us as bs hkind h hs ih =>
    rw [List.forall_mem_cons, isHeaded_block] at hh
    have hpath := isName_of_isHeader hh.1
    have hne : Text.Dotted.split header.lexeme ≠ [] := by simp [Text.Dotted.split]
    have hentry := isValid_of_isAssignments h fun t ht => hk t (by simp [ht])
    have htail := ih (fun t ht => hk t (by simp [ht])) hh.2
    rw [List.flatMap_cons, List.forall_mem_append]
    refine ⟨?_, htail⟩
    rw [blockStatements, List.forall_mem_cons, List.forall_mem_map]
    constructor
    · exact ⟨hne, hpath, List.forall_mem_nil _, List.forall_mem_nil _, List.forall_mem_nil _⟩
    · intro e he
      obtain ⟨hname, hplain, hb⟩ := hentry e he
      refine ⟨hne, hpath, ?_, ?_, ?_⟩
      · simpa [Statement.block] using hname
      · simpa [Statement.block] using hplain
      · simpa [Statement.block] using hb

lemma isValid_of_ofText {source : String} {tree : Tree} (h : ofText source = .ok tree) :
    ∀ s ∈ tree.statements, s.block.IsValid := by
  obtain ⟨ts, bs, hts, hbs, hh, rfl⟩ := exists_blocks_of_ofText h
  exact isValid_of_isBlocks hbs (Token.isNamed_of_scan hts) hh

end Tree

/-- Whether a source has no statements but the given one and the header of its block. -/
def Statement.IsPiece (s : Statement) (source : String) : Prop :=
  (Tree.ofText source).map Tree.statements = .ok s.block.statements

lemma ofText_of_isPiece {s : Statement} {source : String} (hs : s.block.IsValid)
    (h : s.IsPiece source) : Table.ofText source = .ok s.table := by
  obtain ⟨tree, htree, hstatements⟩ := Outcome.map_eq_ok h
  rw [Tree.evaluate_of_ofText htree, hstatements, runAll_block hs]
  rfl

lemma exists_ofText_of_blocks {bs : List Block} (h : ∀ b ∈ bs, b.IsValid) :
    ∃ source tree, Tree.ofText source = .ok tree ∧
      tree.statements = bs.flatMap Block.statements := by
  obtain ⟨cs, hcs⟩ := exists_writesBlocks h
  obtain ⟨ts, trees, hy, hts, hheaded, hstatements⟩ := WritesBlocks.reads hcs h .start
  have hscan : (Token.scan (String.ofList cs)).result = .ok ts := by
    have hall := hy [] Text.endsRun_nil
    rw [List.append_nil, Token.scanFrom] at hall
    rw [Token.scan, String.toList_ofList, hall, Text.Scan.result_foldr_cons]
  refine ⟨String.ofList cs, Tree.root trees, ?_, hstatements⟩
  rw [Tree.ofText, hscan]
  exact congrArg (Except.mapError ConfigError.parse) (Tree.ofTokens_blocks hts hheaded)

lemma exists_isPiece {s : Statement} (h : s.block.IsValid) : ∃ source, s.IsPiece source := by
  obtain ⟨source, tree, htree, hs⟩ := exists_ofText_of_blocks (List.forall_mem_singleton.mpr h)
  rw [List.flatMap_singleton] at hs
  refine ⟨source, ?_⟩
  rw [IsPiece, htree, ← hs]
  rfl

lemma exists_pieces {ss : List Statement} (h : ∀ s ∈ ss, s.block.IsValid) :
    ∃ pieces, List.Forall₂ IsPiece ss pieces := by
  induction ss with
  | nil => exact ⟨[], .nil⟩
  | cons s ss ih =>
    rw [List.forall_mem_cons] at h
    obtain ⟨piece, hp⟩ := exists_isPiece h.1
    obtain ⟨pieces, hps⟩ := ih h.2
    exact ⟨piece :: pieces, .cons hp hps⟩

namespace Table

def mergeText (t : Table) (source : String) : Except ConfigError Table :=
  (ofText source).bind fun new => (t.merge new).result.mapError .conflict

lemma foldlM_mergeText {ss : List Statement} {pieces : List String}
    (h : List.Forall₂ IsPiece ss pieces) (hs : ∀ s ∈ ss, s.block.IsValid) (t : Table) :
    pieces.foldlM mergeText t = (runAll ss t).mapError .conflict := by
  induction h generalizing t with
  | nil => rfl
  | @cons s source ss pieces hp hps ih =>
    rw [List.forall_mem_cons] at hs
    have hstep : mergeText t source = (run t s).mapError .conflict := by
      rw [mergeText, ofText_of_isPiece hs.1 hp, run_eq_merge hs.1]
      rfl
    rw [runAll]
    cases hr : run t s with
    | error c =>
      rw [hr] at hstep
      rw [Outcome.foldlM_cons_of_error hstep, Outcome.foldlM_cons_of_error hr]
      rfl
    | ok t' =>
      rw [hr] at hstep
      rw [Outcome.foldlM_cons_of_ok hstep, Outcome.foldlM_cons_of_ok hr]
      exact ih hs.2 t'

/-- A source builds up what its statements do that are loaded one by one, each from a source of its
own. There are such sources, and whichever they are, the result is the same, and so is the conflict.
-/
theorem ofText_piecewise {source : String} {tree : Tree} (h : Tree.ofText source = .ok tree) :
    (∃ pieces, List.Forall₂ IsPiece tree.statements pieces) ∧
    ∀ pieces, List.Forall₂ IsPiece tree.statements pieces →
      pieces.foldlM mergeText [] = ofText source := by
  have hs := Tree.isValid_of_ofText h
  refine ⟨exists_pieces hs, fun pieces hp => ?_⟩
  rw [foldlM_mergeText hp hs, Tree.evaluate_of_ofText h]

theorem ofText_piecewise_conflict :
    ["[ a ]", "[a] b=\"x\"", "[a.b.c]"].foldlM mergeText [] = ofText "[a]\nb = 'x'\n[a.b.c]\n" ∧
      ofText "[a]\nb = 'x'\n[a.b.c]\n" = .error (.conflict ⟨["a", "b"], .string⟩) := by
  have hsource : (Tree.ofText "[a]\nb = 'x'\n[a.b.c]\n").map Tree.statements = .ok [.header ["a"],
      .assign ["a"] "b" (.string "x"), .header ["a", "b", "c"]] := by cbv
  have hheader : IsPiece (.header ["a"]) "[ a ]" := by
    rw [IsPiece]
    cbv
  have hassign : IsPiece (.assign ["a"] "b" (.string "x")) "[a] b=\"x\"" := by
    rw [IsPiece]
    cbv
  have hbehind : IsPiece (.header ["a", "b", "c"]) "[a.b.c]" := by
    rw [IsPiece]
    cbv
  obtain ⟨tree, htree, hstatements⟩ := Outcome.map_eq_ok hsource
  refine ⟨(ofText_piecewise htree).2 _ ?_, by cbv⟩
  rw [hstatements]
  exact .cons hheader (.cons hassign (.cons hbehind .nil))

end Table

end RowFilter.Config
