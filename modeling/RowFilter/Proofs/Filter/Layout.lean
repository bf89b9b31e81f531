import RowFilter.Proofs.Filter.Scanning
import RowFilter.Proofs.Text.Layout

/-! The tokens of a filter text as spans of it. -/

namespace RowFilter.Filter.Token

open Text

def marks : List (Char × Kind) :=
  [(':', .colon), (',', .comma), ('[', .openBracket), (']', .closeBracket)]

def IsGap (cs : List Char) : Prop := ∀ c ∈ cs, isBlank c = true

def IsWord (cs : List Char) : Prop := cs ≠ [] ∧ ∀ c ∈ cs, isWordChar c = true

inductive Spells : Token → List Char → Prop
  | mark {c : Char} {kind : Kind} (p : Position) (h : (c, kind) ∈ marks) :
      Spells ⟨kind, c.toString, p⟩ [c]
  | quoted {quote : Char} {s : String} {cs : List Char} (p : Position) (hq : IsQuote quote)
      (h : Quoted.Encodes quote cs s.toList) : Spells ⟨.string, s, p⟩ (quote :: (cs ++ [quote]))
  | word {w : List Char} {kind : Kind} (p : Position) (hw : IsWord w)
      (hk : classify w = some kind) : Spells ⟨kind, String.ofList w, p⟩ w

def Apart (x y : Piece Token) : Prop := IsWord x.span → IsWord y.span → y.gap ≠ []

lemma isMark_of_mem {c : Char} {kind : Kind} (h : (c, kind) ∈ marks) : IsMark c kind := by
  simp only [marks, List.mem_cons, Prod.mk.injEq, List.not_mem_nil, or_false] at h
  rcases h with ⟨rfl, rfl⟩ | ⟨rfl, rfl⟩ | ⟨rfl, rfl⟩ | ⟨rfl, rfl⟩
  exacts [isMark_colon, isMark_comma, isMark_openBracket, isMark_closeBracket]

lemma isWordChar_of_isBlank {c : Char} (h : isBlank c = true) : isWordChar c = false := by
  have hne : ∀ d, isBlank d = false → c ≠ d := by
    rintro d hd rfl
    rw [hd] at h
    cases h
  simp [isWordChar, isAlphanumeric_of_isBlank h, hne '_' (by decide), hne '.' (by decide),
    hne '@' (by decide), hne '-' (by decide), hne '%' (by decide)]

lemma isBlank_of_isWordChar {c : Char} (h : isWordChar c = true) : isBlank c = false := by
  by_contra hb
  rw [Bool.not_eq_false] at hb
  rw [isWordChar_of_isBlank hb] at h
  cases h

lemma isWordChar_quote {quote : Char} (hq : IsQuote quote) : isWordChar quote = false := by
  rcases hq with rfl | rfl <;> decide

lemma not_isWord_cons {c : Char} (hc : isWordChar c = false) (cs : List Char) :
    ¬ IsWord (c :: cs) := by
  intro hw
  rw [IsWord, List.forall_mem_cons, hc] at hw
  cases hw.2.1

lemma isWord_of_isAlphanum {w : List Char} (hne : w ≠ []) (h : ∀ c ∈ w, c.isAlphanum = true) :
    IsWord w :=
  ⟨hne, fun c hc => (isWordChar_of_isAlphanum (h c hc)).1⟩

lemma isWord_takeWhile {c : Char} (hc : isWordChar c = true) (cs : List Char) :
    IsWord (c :: cs.takeWhile isWordChar) :=
  ⟨List.cons_ne_nil _ _, List.forall_mem_cons.mpr ⟨hc, fun _ => List.mem_takeWhile_imp⟩⟩

lemma IsGap.endsRun {gap : List Char} (h : IsGap gap) : EndsRun isWordChar gap :=
  fun c hc => isWordChar_of_isBlank (h c (List.mem_of_mem_head? hc))

lemma Spells.endsRun {t : Token} {span : List Char} (h : Spells t span) (hw : ¬ IsWord span)
    (rest : List Char) : EndsRun isWordChar (span ++ rest) := by
  cases h with
  | mark p h => exact (isMark_of_mem h).endsRun rest
  | quoted p hq h => exact endsRun_cons (isWordChar_quote hq) _
  | word p h hk => exact absurd h hw

variable {xs : List (Piece Token)} {tail source : List Char} {p : Position}

lemma endsRun_of_isLayout (h : IsLayout IsGap Spells Apart xs tail source)
    (ha : ∀ y ∈ xs.head?, IsWord y.span → y.gap ≠ []) : EndsRun isWordChar source := by
  cases xs with
  | nil =>
    obtain ⟨rfl, ht, -⟩ := h
    exact ht.endsRun
  | cons y ys =>
    obtain ⟨hg, hs, -, rest, rfl, -⟩ := isLayout_cons.mp h
    by_cases hgap : y.gap = []
    · rw [hgap]
      exact hs.endsRun (fun hw => ha y rfl hw hgap) rest
    · exact hg.endsRun.append_right hgap _

lemma scanFrom_gap {gap : List Char} (h : IsGap gap) (p : Position) (rest : List Char) :
    scanFrom p (gap ++ rest) = scanFrom (p.after gap) rest := by
  induction gap generalizing p with
  | nil => rfl
  | cons c gap ih =>
    rw [IsGap, List.forall_mem_cons] at h
    rw [List.cons_append, scanFrom, if_pos h.1, ih h.2]
    rfl

lemma Spells.scanFrom {t : Token} {span rest : List Char} (h : Spells t span)
    (hr : IsWord span → EndsRun isWordChar rest) :
    Token.scanFrom t.position (span ++ rest) =
      (Token.scanFrom (t.position.after span) rest).cons t := by
  cases h with
  | mark p h =>
    have hm := isMark_of_mem h
    exact scanFrom_cons hm.blank (hm.next p rest)
  | quoted p hq h =>
    rw [List.cons_append, List.append_assoc, List.singleton_append,
      scanFrom_cons (isBlank_quote hq) (next_quoted hq h rest)]
    rfl
  | word p hw hk =>
    have hchar : ∀ c ∈ span, isWordChar c = true ∧ isBlank c = false := fun c hc =>
      ⟨hw.2 c hc, isBlank_of_isWordChar (hw.2 c hc)⟩
    exact yields_word hw.1 hchar hk rest (hr hw)

lemma scanFrom_of_isLayout (h : IsLayout IsGap Spells Apart xs tail source)
    (hp : ArePlaced Token.position p xs) :
    scanFrom p source = (xs.map Piece.token).foldr Scan.cons .done := by
  induction xs generalizing source p with
  | nil =>
    obtain ⟨rfl, ht, -⟩ := h
    have hscan := scanFrom_gap ht p []
    rw [List.append_nil, scanFrom] at hscan
    exact hscan
  | cons x xs ih =>
    obtain ⟨hg, hs, ha, rest, rfl, hrest⟩ := isLayout_cons.mp h
    obtain ⟨hx, hxs⟩ := arePlaced_cons.mp hp
    have hr : IsWord x.span → EndsRun isWordChar rest := fun hw =>
      endsRun_of_isLayout hrest fun y hy => ha y hy hw
    rw [Position.after_append, ← hx] at hxs
    rw [scanFrom_gap hg, ← hx, hs.scanFrom hr, ih hrest hxs]
    rfl

def Cuts (p : Position) (text : List Char) (s : Span) : Prop :=
  ∃ span, text = span ++ s.rest ∧ Spells s.token span ∧ s.token.position = p ∧
    s.position = p.after span ∧ (IsWord span → EndsRun isWordChar s.rest)

section Cuts

variable {c : Char} {cs : List Char} {s : Span}

lemma cuts_mark {kind : Kind} (hm : (c, kind) ∈ marks) (h : single kind c p cs = .ok s) :
    Cuts p (c :: cs) s := by
  cases h
  exact ⟨[c], rfl, .mark p hm, rfl, rfl,
    fun hw => absurd hw (not_isWord_cons (isMark_of_mem hm).word [])⟩

lemma cuts_quoted {i : Quoted.Item} (hq : IsQuote c) (h : Quoted.read c (p.step c) cs = .ok i) :
    Cuts p (c :: cs) ⟨⟨.string, String.ofList i.text, p⟩, i.position, i.rest⟩ := by
  obtain ⟨es, rfl, hes, hposition⟩ := (Quoted.read_eq_ok_iff hq).mp h
  refine ⟨c :: (es ++ [c]), by simp, ?_, rfl, hposition, fun hw => ?_⟩
  · exact .quoted p hq (by rwa [String.toList_ofList])
  · exact absurd hw (not_isWord_cons (isWordChar_quote hq) _)

lemma cuts_word {kind : Kind} (hc : isWordChar c = true)
    (hk : classify (c :: cs.takeWhile isWordChar) = some kind) :
    Cuts p (c :: cs) ⟨⟨kind, String.ofList (c :: cs.takeWhile isWordChar), p⟩,
      p.after (c :: cs.takeWhile isWordChar), cs.dropWhile isWordChar⟩ := by
  refine ⟨c :: cs.takeWhile isWordChar, ?_, .word p (isWord_takeWhile hc cs) hk, rfl, rfl, fun _ => ?_⟩
  · rw [List.cons_append, List.takeWhile_append_dropWhile]
  · exact endsRun_dropWhile isWordChar cs

lemma cuts_of_next (h : next p c cs = .ok s) : Cuts p (c :: cs) s := by
  unfold next at h
  split at h
  · exact cuts_mark (by simp [marks]) h
  · exact cuts_mark (by simp [marks]) h
  · exact cuts_mark (by simp [marks]) h
  · exact cuts_mark (by simp [marks]) h
  · split at h
    · next hq =>
      split at h
      · next i hi =>
        cases h
        exact cuts_quoted hq hi
      · cases h
    · split at h
      · next hc =>
        simp only at h
        split at h
        · next kind hk =>
          cases h
          exact cuts_word hc hk
        · cases h
      · cases h

end Cuts

lemma exists_isLayout (h : (scanFrom p source).fault? = none) :
    ∃ xs tail, IsLayout IsGap Spells Apart xs tail source ∧ ArePlaced Token.position p xs ∧
      xs.map Piece.token = (scanFrom p source).tokens := by
  fun_induction scanFrom p source with
  | case1 p => exact ⟨[], [], isLayout_nil (List.forall_mem_nil _), arePlaced_nil, rfl⟩
  | case2 p c cs hb ih =>
    obtain ⟨xs, tail, hl, hp, ht⟩ := ih h
    cases xs with
    | nil =>
      obtain ⟨rfl, hg, -⟩ := hl
      have hgap : IsGap (c :: cs) := List.forall_mem_cons.mpr ⟨hb, hg⟩
      exact ⟨[], c :: cs, isLayout_nil hgap, arePlaced_nil, ht⟩
    | cons x xs =>
      obtain ⟨hg, hs, ha, rest, rfl, hrest⟩ := isLayout_cons.mp hl
      have hgap : IsGap (c :: x.gap) := List.forall_mem_cons.mpr ⟨hb, hg⟩
      refine ⟨⟨c :: x.gap, x.span, x.token⟩ :: xs, tail, ?_, ?_, ht⟩
      · exact isLayout_cons.mpr ⟨hgap, hs, ha, rest, rfl, hrest⟩
      · rw [arePlaced_cons] at hp ⊢
        exact hp
  | case3 p c cs hb e he => cases h
  | case4 p c cs hb s hs hl ih =>
    obtain ⟨span, hspan, hspells, hposition, hafter, hends⟩ := cuts_of_next hs
    obtain ⟨xs, tail, hlayout, hp, ht⟩ := ih h
    refine ⟨⟨[], span, s.token⟩ :: xs, tail, ?_, ?_, congrArg (s.token :: ·) ht⟩
    · refine isLayout_cons.mpr ⟨List.forall_mem_nil _, hspells, ?_, s.rest, hspan, hlayout⟩
      -- a word that begins right behind this one would have gone on with it
      intro y hy hw hyw hgap
      cases xs with
      | nil => cases hy
      | cons z zs =>
        cases hy
        obtain ⟨-, -, -, rest, hrest, -⟩ := isLayout_cons.mp hlayout
        obtain ⟨d, ds, hd⟩ := List.exists_cons_of_ne_nil hyw.1
        have hend := hends hw d (by rw [hrest, hgap, hd]; rfl)
        rw [hyw.2 d (hd ▸ List.mem_cons_self)] at hend
        cases hend
    · rw [hafter] at hp
      exact arePlaced_cons.mpr ⟨hposition, hp⟩

theorem result_scan_eq_ok_iff {s : String} (hs : s.utf8ByteSize ≤ maxLength) (ts : List Token) :
    (scan s).result = .ok ts ↔
      ∃ xs tail, IsLayout IsGap Spells Apart xs tail s.toList ∧ xs.map Piece.token = ts ∧
        ∀ l x r, xs = l ++ x :: r → x.token.position = .behind (Piece.texts l ++ x.gap) := by
  simp only [scan, if_pos hs, ← Position.after_start]
  constructor
  · intro h
    obtain ⟨hf, rfl⟩ := Scan.result_eq_ok_iff.mp h
    obtain ⟨xs, tail, hl, hp, ht⟩ := exists_isLayout hf
    exact ⟨xs, tail, hl, ht, hp⟩
  · rintro ⟨xs, tail, hl, rfl, hp⟩
    rw [scanFrom_of_isLayout hl hp, Scan.result_foldr_cons]

theorem result_scan_eq_ok_iff_line_feed_between_quotes :
    let s := "k:'\n\\'',\tGTE 7"
    let ts : List Token := [⟨.word, "k", ⟨1, 1⟩⟩, ⟨.colon, ":", ⟨1, 2⟩⟩, ⟨.string, "\n'", ⟨1, 3⟩⟩,
      ⟨.comma, ",", ⟨2, 4⟩⟩, ⟨.comparison .gte, "GTE", ⟨2, 6⟩⟩, ⟨.integer, "7", ⟨2, 10⟩⟩]
    s.utf8ByteSize ≤ maxLength ∧ (scan s).result = .ok ts := by
  intro s ts
  have hs : s.utf8ByteSize ≤ maxLength := by decide +kernel
  have htext : Quoted.Encodes '\'' ['\n', '\\', '\''] "\n'".toList :=
    .raw (by decide) (by decide) (.escape rfl .nil)
  let xs : List (Piece Token) := [⟨[], ['k'], ⟨.word, "k", ⟨1, 1⟩⟩⟩,
    ⟨[], [':'], ⟨.colon, ":", ⟨1, 2⟩⟩⟩,
    ⟨[], ['\'', '\n', '\\', '\'', '\''], ⟨.string, "\n'", ⟨1, 3⟩⟩⟩,
    ⟨[], [','], ⟨.comma, ",", ⟨2, 4⟩⟩⟩,
    ⟨['\t'], ['G', 'T', 'E'], ⟨.comparison .gte, "GTE", ⟨2, 6⟩⟩⟩,
    ⟨[' '], ['7'], ⟨.integer, "7", ⟨2, 10⟩⟩⟩]
  have hcolon : (':', Kind.colon) ∈ marks := by decide
  have hcomma : (',', Kind.comma) ∈ marks := by decide
  have hk : IsWord ['k'] := isWord_of_isAlphanum (by simp) (by simp)
  have hgte : IsWord ['G', 'T', 'E'] := isWord_of_isAlphanum (by simp) (by simp)
  have hseven : IsWord ['7'] := isWord_of_isAlphanum (by simp) (by simp)
  have hnone : IsGap [] := List.forall_mem_nil _
  have hgap : ∀ x ∈ xs, IsGap x.gap := by
    simp only [xs, List.forall_mem_cons]
    exact ⟨hnone, hnone, hnone, hnone, List.forall_mem_singleton.mpr (by decide),
      List.forall_mem_singleton.mpr (by decide), List.forall_mem_nil _⟩
  have hspells : ∀ x ∈ xs, Spells x.token x.span := by
    simp only [xs, List.forall_mem_cons]
    exact ⟨.word _ hk (by decide +kernel), .mark _ hcolon, .quoted _ (.inr rfl) htext,
      .mark _ hcomma, .word _ hgte (by decide +kernel), .word _ hseven (by decide +kernel),
      List.forall_mem_nil _⟩
  have hapart : xs.IsChain Apart := by
    simp only [xs, List.isChain_cons_cons, List.isChain_singleton, and_true]
    have hquoted := not_isWord_cons (isWordChar_quote (.inr rfl)) ['\n', '\\', '\'', '\'']
    exact ⟨fun _ h => absurd h (not_isWord_cons isMark_colon.word []), fun _ h => absurd h hquoted,
      fun h _ => absurd h hquoted, fun _ _ => by simp, fun _ _ => by simp⟩
  have hl : IsLayout IsGap Spells Apart xs [] s.toList :=
    ⟨by decide +kernel, hnone, hgap, hspells, hapart⟩
  have hp : ArePlaced Token.position .start xs := by
    simp only [xs, arePlaced_cons]
    exact ⟨rfl, rfl, rfl, rfl, rfl, rfl, arePlaced_nil⟩
  refine ⟨hs, (result_scan_eq_ok_iff hs ts).mpr ⟨xs, [], hl, rfl, fun l x r hx => ?_⟩⟩
  exact (hp l x r hx).trans (Position.after_start _)

end RowFilter.Filter.Token
