import RowFilter.Proofs.Config.Block
import RowFilter.Proofs.Config.Dotted
import RowFilter.Proofs.Config.Scanning

namespace RowFilter.Config

open Text
open Token (Mode Yields)
open RowFilter.Config.Tree (blockStatements resolveItems)

def IsGap (cs : List Char) : Prop := ∀ c ∈ cs, isBlank c = true

mutual

inductive WritesValue : Value → List Char → Prop
  | string {quote : Char} {s : String} {cs : List Char} (hq : IsQuote quote)
      (h : Quoted.Encodes quote cs s.toList) : WritesValue (.string s) (quote :: (cs ++ [quote]))
  | integer (n : Int64) : WritesValue (.integer n) (toString n.toInt).toList
  | boolean (b : Bool) : WritesValue (.boolean b) (if b then "true" else "false").toList
  | array {vs : List Value} {cs : List Char} (h : WritesItems vs cs) :
      WritesValue (.array vs) ('[' :: (cs ++ [']']))

inductive WritesItems : List Value → List Char → Prop
  | nil : WritesItems [] []
  | last {v : Value} {cs : List Char} (h : WritesValue v cs) : WritesItems [v] cs
  | cons {v : Value} {vs : List Value} {cs gap ds : List Char} (h : WritesValue v cs)
      (hg : IsGap gap) (hs : WritesItems vs ds) : WritesItems (v :: vs) (cs ++ ',' :: (gap ++ ds))

end

inductive WritesEntries : Table → List Char → Prop
  | nil : WritesEntries [] []
  | cons {key : String} {v : Value} {es : Table} {gap gap' cs ds : List Char} (hg : IsGap gap)
      (hg' : IsGap gap') (h : WritesValue v cs) (hs : WritesEntries es ds) :
      WritesEntries ((key, v) :: es)
        (key.toList ++ (gap ++ '=' :: (gap' ++ (cs ++ '\n' :: ds))))

inductive WritesBlocks : List Block → List Char → Prop
  | nil : WritesBlocks [] []
  | cons {b : Block} {bs : List Block} {cs ds : List Char} (h : WritesEntries b.entries cs)
      (hs : WritesBlocks bs ds) :
      WritesBlocks (b :: bs) ('[' :: ((Dotted.join b.path).toList ++ [']']) ++ '\n' :: (cs ++ ds))

def WritesTable (t : Table) (cs : List Char) : Prop := WritesBlocks (Table.blocks t) cs

structure Block.IsValid (b : Block) : Prop where
  path_ne_nil : b.path ≠ []
  path : ∀ s ∈ b.path, isName s.toList = true
  name : ∀ e ∈ b.entries, isName e.1.toList = true
  plain : ∀ e ∈ b.entries, IsPlain e.2
  not_boolean : ∀ e ∈ b.entries, e.1 ≠ "true" ∧ e.1 ≠ "false"

lemma Block.IsValid.under {b : Block} {key : String} (h : b.IsValid)
    (hk : isName key.toList = true) : (b.under key).IsValid where
  path_ne_nil := List.cons_ne_nil _ _
  path := List.forall_mem_cons.mpr ⟨hk, h.path⟩
  name := h.name
  plain := h.plain
  not_boolean := h.not_boolean

lemma isValid_plain {key : String} {es : Table} (hk : isName key.toList = true)
    (h : ∀ e ∈ es, IsEntry e.1 e.2) : Block.IsValid ⟨[key], Table.plain es⟩ := by
  have hentry : ∀ e ∈ Table.plain es, isName e.1.toList = true ∧ IsPlain e.2 ∧
      e.1 ≠ "true" ∧ e.1 ≠ "false" := by
    intro e he
    obtain ⟨hmem, ht⟩ := List.mem_filter.mp he
    obtain ⟨k, v⟩ := e
    cases h _ hmem with
    | table hk ho hv => cases ht
    | plain hk hp ht hf => exact ⟨hk, hp, ht, hf⟩
  exact ⟨List.cons_ne_nil _ _, List.forall_mem_singleton.mpr hk, fun e he => (hentry e he).1,
    fun e he => (hentry e he).2.1, fun e he => (hentry e he).2.2⟩

lemma isValid_blocks {es : Table}
    (h : ∀ e ∈ es, ∀ b ∈ e.2.blocks.map (Block.under e.1), b.IsValid) :
    ∀ b ∈ Table.blocks es, b.IsValid := by
  induction es with
  | nil => exact List.forall_mem_nil _
  | cons e es ih =>
    rw [List.forall_mem_cons] at h
    rw [Table.blocks, List.forall_mem_append]
    exact ⟨h.1, ih h.2⟩

lemma IsEntry.isValid {key : String} {v : Value} (h : IsEntry key v) :
    ∀ b ∈ v.blocks.map (Block.under key), b.IsValid := by
  induction h with
  | plain hk h ht hf =>
    rw [blocks_of_table? h.table?]
    exact List.forall_mem_nil _
  | @table key es hk ho hv ih =>
    rw [Value.blocks, List.map_cons, List.forall_mem_cons, List.forall_mem_map]
    exact ⟨isValid_plain hk hv, fun b hb => (isValid_blocks ih b hb).under hk⟩

lemma IsRoot.isValid {t : Table} (h : IsRoot t) : ∀ b ∈ Table.blocks t, b.IsValid :=
  isValid_blocks fun e he => (h.entry e he).isValid

section Exists

lemma isGap_nil : IsGap [] := List.forall_mem_nil _

lemma exists_writesItems {vs : List Value} (h : ∀ v ∈ vs, ∃ cs, WritesValue v cs) :
    ∃ cs, WritesItems vs cs := by
  induction vs with
  | nil => exact ⟨[], .nil⟩
  | cons v vs ih =>
    rw [List.forall_mem_cons] at h
    obtain ⟨⟨cs, hcs⟩, hvs⟩ := h
    obtain ⟨ds, hds⟩ := ih hvs
    exact ⟨_, .cons hcs isGap_nil hds⟩

lemma IsPlain.exists_writes {v : Value} (h : IsPlain v) : ∃ cs, WritesValue v cs := by
  induction h with
  | string s =>
    obtain ⟨cs, hcs⟩ := Quoted.exists_encodes (.inl rfl) s.toList
    exact ⟨_, .string (.inl rfl) hcs⟩
  | integer n => exact ⟨_, .integer n⟩
  | boolean b => exact ⟨_, .boolean b⟩
  | array h ih =>
    obtain ⟨cs, hcs⟩ := exists_writesItems ih
    exact ⟨_, .array hcs⟩

lemma exists_writesEntries {es : Table} (h : ∀ e ∈ es, IsPlain e.2) :
    ∃ cs, WritesEntries es cs := by
  induction es with
  | nil => exact ⟨[], .nil⟩
  | cons e es ih =>
    rw [List.forall_mem_cons] at h
    obtain ⟨cs, hcs⟩ := h.1.exists_writes
    obtain ⟨ds, hds⟩ := ih h.2
    exact ⟨_, .cons isGap_nil isGap_nil hcs hds⟩

lemma exists_writesBlocks {bs : List Block} (h : ∀ b ∈ bs, b.IsValid) :
    ∃ cs, WritesBlocks bs cs := by
  induction bs with
  | nil => exact ⟨[], .nil⟩
  | cons b bs ih =>
    rw [List.forall_mem_cons] at h
    obtain ⟨cs, hcs⟩ := exists_writesEntries h.1.plain
    obtain ⟨ds, hds⟩ := ih h.2
    exact ⟨_, .cons hcs hds⟩

end Exists

def Awaits (m : Mode) : Prop := m = ⟨true, 0⟩ ∨ ∃ d, m = ⟨false, d + 1⟩

lemma Awaits.inValue {m : Mode} (h : Awaits m) : m.inValue = true := by
  rcases h with rfl | ⟨d, rfl⟩ <;> simp [Mode.inValue]

lemma Awaits.literal {m : Mode} (h : Awaits m) : m.literal = ⟨false, m.depth⟩ := by
  rcases h with rfl | ⟨d, rfl⟩ <;> simp [Mode.literal]

lemma isName_boolean (b : Bool) : isName (if b then "true" else "false").toList = true := by
  cases b <;> decide +kernel

mutual

lemma WritesValue.reads {v : Value} {cs : List Char} (h : WritesValue v cs) {m : Mode}
    (hm : Awaits m) (p : Position) :
    ∃ ts tree, Yields m p cs ts ⟨false, m.depth⟩ ∧ IsValue ts tree ∧
      tree.expectValue tree.resolve = .ok v := by
  cases h with
  | string hq h =>
    rw [← hm.literal]
    exact ⟨_, _, Token.yields_quoted hq h, .string rfl, rfl⟩
  | integer n =>
    rw [← hm.literal]
    exact ⟨_, _, Token.yields_integer n, .integer rfl (Number.int64?_toString n), rfl⟩
  | boolean b =>
    have hy := Token.yields_word (m := m) (p := p) (isName_boolean b)
    rw [← hm.literal]
    cases b
    · exact ⟨_, _, hy, .boolean rfl, rfl⟩
    · exact ⟨_, _, hy, .boolean rfl, rfl⟩
  | @array vs cs h =>
    obtain ⟨ts, trees, hy, hts, hr⟩ := WritesItems.reads h m.depth (p.step '[')
    have hclose : Yields ⟨false, m.depth + 1⟩ ((p.step '[').after cs) [']'] _ ⟨false, m.depth⟩ :=
      Token.yields_nil.mark (.closeBracket (Nat.succ_pos _))
    have hall := (hy.append hclose (endsRun_cons (by decide) _)).mark (.openBracket hm.inValue)
    refine ⟨_, _, hall, .array rfl hts rfl, ?_⟩
    rw [Tree.inner, Tree.resolve, hr]
    rfl

lemma WritesItems.reads {vs : List Value} {cs : List Char} (h : WritesItems vs cs) (d : Nat)
    (p : Position) :
    ∃ ts trees, Yields ⟨false, d + 1⟩ p cs ts ⟨false, d + 1⟩ ∧ IsItems ts trees ∧
      resolveItems trees = .ok vs := by
  cases h with
  | nil => exact ⟨[], [], Token.yields_nil, .nil, rfl⟩
  | last h =>
    obtain ⟨ts, tree, hy, hts, hr⟩ := WritesValue.reads h (.inr ⟨d, rfl⟩) p
    refine ⟨ts, [tree], hy, .last hts, ?_⟩
    rw [resolveItems, hr]
    rfl
  | @cons v vs cs gap ds h hg hs =>
    obtain ⟨ts, tree, hy, hts, hr⟩ := WritesValue.reads h (.inr ⟨d, rfl⟩) p
    obtain ⟨us, trees, hys, hus, hrs⟩ := WritesItems.reads hs d (((p.after cs).step ',').after gap)
    have hcomma := (hys.blanks hg).mark (.comma (Nat.succ_pos d))
    refine ⟨_, tree :: trees, hy.append hcomma (endsRun_cons (by decide) _),
      .cons hts rfl hus, ?_⟩
    rw [resolveItems, hr, hrs]
    rfl

end

lemma IsGap.endsRun {gap : List Char} (h : IsGap gap) : EndsRun Token.isIdentifierChar gap := by
  intro c hc
  by_contra hn
  rw [Bool.not_eq_false] at hn
  have hb := Token.isBlank_of_isIdentifierChar hn
  rw [h c (List.mem_of_mem_head? hc)] at hb
  cases hb

lemma WritesEntries.reads {es : Table} {cs : List Char} (h : WritesEntries es cs)
    (hk : ∀ e ∈ es, isName e.1.toList = true)
    (hb : ∀ e ∈ es, e.1 ≠ "true" ∧ e.1 ≠ "false") (p : Position) :
    ∃ ts as, Yields .start p cs ts .start ∧ IsAssignments ts as ∧
      as.filterMap Tree.assigned? = es := by
  induction h generalizing p with
  | nil => exact ⟨[], [], Token.yields_nil, .nil, rfl⟩
  | @cons key v es gap gap' cs ds hg hg' h hs ih =>
    rw [List.forall_mem_cons] at hk hb
    have hword : Yields .start p key.toList [⟨.identifier, key, p⟩] .start := by
      simpa [hb.1] using Token.yields_word (m := .start) (p := p) hk.1
    let q := (((p.after key.toList).after gap).step '=').after gap'
    obtain ⟨ts, tree, hy, hts, hr⟩ := h.reads (.inl rfl) q
    obtain ⟨us, as, hys, hus, he⟩ := ih hk.2 hb.2 ((q.after cs).step '\n')
    have hline := hy.append (hys.blank (by decide)) (endsRun_cons (by decide) ds)
    have hassign : Yields .start ((p.after key.toList).after gap) _ _ .start :=
      (hline.blanks hg').mark .assign
    have hall := hword.append (hassign.blanks hg)
      (hg.endsRun.append (endsRun_cons (by decide) _))
    refine ⟨_, _ :: as, hall, .cons rfl rfl hts hus, ?_⟩
    rw [List.filterMap_cons_some (Tree.assigned?_assignment hr _ _), he]

section Path

variable {path : List String} (h : ∀ s ∈ path, isName s.toList = true)
include h

lemma isIdentifierChar_of_mem {s : String} (hs : s ∈ path) {c : Char} (hc : c ∈ s.toList) :
    Token.isIdentifierChar c = true := by
  have hn := h s hs
  unfold isName at hn
  split at hn
  · cases hn
  · next d ds hds =>
    rw [Bool.and_eq_true, List.all_eq_true] at hn
    rw [hds] at hc
    rcases List.mem_cons.mp hc with rfl | hc
    · exact Token.isIdentifierChar_of_start hn.1
    · exact hn.2 c hc

lemma not_mem_point : ∀ s ∈ path, '.' ∉ s.toList := fun _ hs hp =>
  absurd (isIdentifierChar_of_mem h hs hp) (by decide)

lemma isHeader_join (hne : path ≠ []) : isHeader (Dotted.join path) = true := by
  rw [isHeader, Dotted.splitOn_join hne (not_mem_point h), List.all_map, List.all_eq_true]
  exact h

lemma join_ne_nil (hne : path ≠ []) : (Dotted.join path).toList ≠ [] := by
  intro hj
  have hs := isHeader_join h hne
  rw [isHeader, hj] at hs
  cases hs

lemma isHeaderChar_of_mem_join {c : Char} (hc : c ∈ (Dotted.join path).toList) :
    Token.isHeaderChar c = true ∧ isBlank c = false := by
  rcases Dotted.mem_join hc with rfl | ⟨s, hs, hc⟩
  · exact ⟨by decide, by decide⟩
  · have hi := isIdentifierChar_of_mem h hs hc
    refine ⟨?_, Token.isBlank_of_isIdentifierChar hi⟩
    rw [Token.isHeaderChar, Bool.and_eq_true, bne_iff_ne, bne_iff_ne]
    constructor <;> rintro rfl <;> exact absurd hi (by decide)

end Path

lemma WritesBlocks.reads {bs : List Block} {cs : List Char} (h : WritesBlocks bs cs)
    (hv : ∀ b ∈ bs, b.IsValid) (p : Position) :
    ∃ ts trees, Yields .start p cs ts .start ∧ IsBlocks ts trees ∧ (∀ b ∈ trees, b.IsHeaded) ∧
      trees.flatMap blockStatements = bs.flatMap Block.statements := by
  induction h generalizing p with
  | nil => exact ⟨[], [], Token.yields_nil, .nil, nofun, rfl⟩
  | @cons b bs cs ds h hs ih =>
    rw [List.forall_mem_cons] at hv
    obtain ⟨hb, hbs⟩ := hv
    have hjoin : Yields .start p ('[' :: ((Dotted.join b.path).toList ++ [']']))
        [⟨.header, Dotted.join b.path, p⟩] .start := by
      simpa using Token.yields_header rfl (join_ne_nil hb.path hb.path_ne_nil)
        (fun _ => isHeaderChar_of_mem_join hb.path) Token.isPadding_nil Token.isPadding_nil
    let q := (p.after ('[' :: ((Dotted.join b.path).toList ++ [']']))).step '\n'
    obtain ⟨ts, as, hy, hts, he⟩ := h.reads hb.name hb.not_boolean q
    obtain ⟨us, trees, hys, hus, hheaded, hstatements⟩ := ih hbs (q.after cs)
    have hends : EndsRun Token.isIdentifierChar ds := by
      cases hs with
      | nil => exact endsRun_nil
      | cons h hs => exact endsRun_cons (by decide) _
    have hline := (hy.append hys hends).blank (by decide)
    have hall := hjoin.append hline (endsRun_cons (by decide) _)
    have hblocks : IsBlocks (⟨.header, Dotted.join b.path, p⟩ :: (ts ++ us)) _ := .cons rfl hts hus
    refine ⟨_, Tree.block (Dotted.join b.path) p as :: trees, hall, hblocks, ?_, ?_⟩
    · rw [List.forall_mem_cons, isHeaded_block]
      exact ⟨isHeader_join hb.path hb.path_ne_nil, hheaded⟩
    · have hpath : (Tree.block (Dotted.join b.path) p as).path = b.path :=
        Dotted.split_join hb.path_ne_nil (not_mem_point hb.path)
      rw [List.flatMap_cons, List.flatMap_cons, hstatements, blockStatements, hpath]
      congr 1
      rw [Block.statements, ← he]
      rfl

theorem Table.ofText_of_writesTable {t : Table} (h : IsRoot t) :
    (∃ cs, WritesTable t cs) ∧
    ∀ source : String, WritesTable t source.toList → Table.ofText source = .ok t := by
  constructor
  · exact exists_writesBlocks h.isValid
  · intro source hs
    obtain ⟨ts, trees, hy, hts, hheaded, hstatements⟩ := WritesBlocks.reads hs h.isValid .start
    have hscan : (Token.scan source).result = .ok ts := by
      have hall := hy [] endsRun_nil
      rw [List.append_nil, Token.scanFrom] at hall
      rw [Token.scan, hall, Scan.result_foldr_cons]
    have hread : Tree.ofText source = .ok (Tree.root trees) := by
      rw [Tree.ofText, hscan]
      exact congrArg (Except.mapError ConfigError.parse) (Tree.ofTokens_blocks hts hheaded)
    have hrun : Statement.runAll (Tree.root trees).statements [] = .ok t := by
      rw [← h.runAll_eq, ← hstatements]
      rfl
    rw [Table.ofText, hread]
    exact (Tree.evaluate_root hts).trans (congrArg (Except.mapError ConfigError.conflict) hrun)

theorem Table.ofText_of_writesTable_nested :
    let ports : Value := .array [.integer (-1), .array [.boolean true]]
    let app : Table := [("db", .table []), ("name", .string "a\"b"), ("ports", ports)]
    let t : Table := [("app", .table app), ("log", .table [])]
    IsRoot t ∧
      Table.ofText "[app]\nname = \"a\\\"b\"\nports = [-1, [true,]]\n[app.db]\n[log]\n" = .ok t := by
  intro ports app t
  have hports : IsPlain ports := by
    refine .array (List.forall_mem_cons.mpr ⟨.integer _, List.forall_mem_singleton.mpr ?_⟩)
    exact .array (List.forall_mem_singleton.mpr (.boolean true))
  have hempty (key : String) (hk : isName key.toList = true) : IsEntry key (.table []) :=
    .table hk Ordered.increasing_nil (List.forall_mem_nil _)
  have happ : IsEntry "app" (.table app) := by
    refine .table (by decide) (by decide) ?_
    simp only [app, List.forall_mem_cons]
    exact ⟨hempty "db" (by decide), .plain (by decide) (.string _) (by decide) (by decide),
      .plain (by decide) hports (by decide) (by decide), List.forall_mem_nil _⟩
  have ht : IsRoot t := by
    refine ⟨by decide, ?_, ?_⟩
    · exact List.forall_mem_cons.mpr ⟨happ, List.forall_mem_singleton.mpr (hempty "log" (by decide))⟩
    · exact List.forall_mem_cons.mpr ⟨⟨_, rfl⟩, List.forall_mem_singleton.mpr ⟨_, rfl⟩⟩
  have hspace : IsGap [' '] := List.forall_mem_singleton.mpr (by decide)
  have hname : Quoted.Encodes '"' ['a', '\\', '"', 'b'] "a\"b".toList := by
    rw [show "a\"b".toList = ['a', '"', 'b'] from rfl]
    exact .raw (by decide) (by decide) (.escape rfl (.raw (by decide) (by decide) .nil))
  have hitems : WritesItems [.integer (-1), .array [.boolean true]] _ :=
    .cons (.integer (-1)) hspace (.last (.array (.cons (.boolean true) isGap_nil .nil)))
  have hentries : WritesEntries [("name", .string "a\"b"), ("ports", ports)] _ :=
    .cons hspace hspace (.string (.inl rfl) hname) (.cons hspace hspace (.array hitems) .nil)
  have htable : WritesTable t _ := .cons hentries (.cons .nil (.cons .nil .nil))
  refine ⟨ht, (Table.ofText_of_writesTable ht).2 _ ?_⟩
  convert htable using 1
  decide +kernel

end RowFilter.Config
