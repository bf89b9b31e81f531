import RowFilter.Proofs.Config.Reading
import RowFilter.Proofs.Config.Sentence
import RowFilter.Proofs.Config.Writing
import RowFilter.Proofs.Text.Layout

/-! Sentences of the grammar are read from their tokens however these are laid out. -/

namespace RowFilter.Config

open Text

namespace Token

def Mode.Admits (m : Mode) (t : Token) : Prop :=
  match t.kind with
  | .header => m.inValue = false
  | .openBracket => m.inValue = true
  | .closeBracket | .comma => 0 < m.depth
  | .identifier | .assign | .string | .integer | .boolean => True

inductive Mode.Takes : Mode → List Token → Mode → Prop
  | nil (m : Mode) : Takes m [] m
  | cons {m m' : Mode} {t : Token} {ts : List Token} (h : m.Admits t)
      (hs : Takes (m.behind t) ts m') : Takes m (t :: ts) m'

namespace Mode.Takes

variable {m m' m'' : Mode} {t : Token} {ts us : List Token}

lemma single (h : m.Admits t) (he : m.behind t = m') : m.Takes [t] m' := by
  subst he
  exact .cons h (.nil _)

lemma append (h : m.Takes ts m') (h' : m'.Takes us m'') : m.Takes (ts ++ us) m'' := by
  induction h with
  | nil => exact h'
  | cons ha hs ih => exact .cons ha (ih h')

lemma foldl_behind (h : m.Takes ts m') : ts.foldl Mode.behind m = m' := by
  induction h with
  | nil => rfl
  | cons ha hs ih => exact ih

end Mode.Takes

end Token

namespace Sentence

open Token (Mode)

mutual

lemma Value.takes : ∀ {ts : List Token}, Value ts → ∀ {m : Mode}, Awaits m →
    m.Takes ts ⟨false, m.depth⟩
  | _, .string h, _, hm => .single (by simp [Mode.Admits, h]) (by simp [Mode.behind, h, hm.literal])
  | _, .integer h, _, hm => .single (by simp [Mode.Admits, h]) (by simp [Mode.behind, h, hm.literal])
  | _, .boolean h, _, hm => .single (by simp [Mode.Admits, h]) (by simp [Mode.behind, h, hm.literal])
  | _, .array ho h hc, m, hm => by
    refine .cons (by simp [Mode.Admits, ho, hm.inValue]) ?_
    simp only [Mode.behind, ho]
    exact (Items.takes h m.depth).append
      (.single (by simp [Mode.Admits, hc]) (by simp [Mode.behind, hc]))

lemma Items.takes : ∀ {ts : List Token}, Items ts → ∀ d : Nat,
    Mode.Takes ⟨false, d + 1⟩ ts ⟨false, d + 1⟩
  | _, .nil, _ => .nil _
  | _, .last h, d => Value.takes h (.inr ⟨d, rfl⟩)
  | _, .cons h hc hs, d => by
    refine (Value.takes h (.inr ⟨d, rfl⟩)).append (.cons (by simp [Mode.Admits, hc]) ?_)
    simp only [Mode.behind, hc]
    exact Items.takes hs d

end

lemma Assignments.takes {ts : List Token} (h : Assignments ts) : Mode.start.Takes ts .start := by
  induction h with
  | nil => exact .nil _
  | cons hk ha h hs ih =>
    refine .cons (by simp [Mode.Admits, hk]) (.cons (by simp [Mode.Admits, ha]) ?_)
    simp only [Mode.behind, hk, ha]
    exact (h.takes (m := ⟨true, Mode.start.depth⟩) (.inl rfl)).append ih

lemma File.takes {ts : List Token} (h : File ts) : Mode.start.Takes ts .start := by
  induction h with
  | nil => exact .nil _
  | cons hk h hs ih =>
    refine .cons (by simp [Mode.Admits, hk, Mode.inValue, Mode.start]) ?_
    simp only [Mode.behind, hk]
    exact h.takes.append ih

end Sentence

namespace Token

inductive IsSeparation : List Char → Prop
  | nil : IsSeparation []
  | blank {c : Char} {cs : List Char} (hc : isBlank c = true) (h : IsSeparation cs) :
      IsSeparation (c :: cs)
  | comment {c : Char} {text cs : List Char} (hc : startsComment c = true) (ht : '\n' ∉ text)
      (h : IsSeparation cs) : IsSeparation (c :: (text ++ '\n' :: cs))

def IsProper (t : Token) : Prop :=
  match t.kind with
  | .header => ∀ s ∈ Dotted.split t.lexeme, IsIdentifier s.toList
  | .identifier => IsIdentifier t.lexeme.toList ∧ t.lexeme ≠ "true" ∧ t.lexeme ≠ "false"
  | .integer => IsNumeral t.lexeme.toList ∧ ∃ n, Number.int64? t.lexeme.toList = some n
  | .boolean => t.lexeme = "true" ∨ t.lexeme = "false"
  | .assign => t.lexeme = "="
  | .openBracket => t.lexeme = "["
  | .closeBracket => t.lexeme = "]"
  | .comma => t.lexeme = ","
  | .string => True

inductive Spells : Token → List Char → Prop
  | header {name : String} {front back : List Char} (p : Position) (hf : IsPadding front)
      (hb : IsPadding back) :
      Spells ⟨.header, name, p⟩ ('[' :: (front ++ (name.toList ++ back) ++ [']']))
  | string {quote : Char} {s : String} {cs : List Char} (p : Position) (hq : IsQuote quote)
      (h : Quoted.Encodes quote cs s.toList) : Spells ⟨.string, s, p⟩ (quote :: (cs ++ [quote]))
  | bare {t : Token} (hh : t.kind ≠ .header) (hs : t.kind ≠ .string) : Spells t t.lexeme.toList

def Apart (_ y : Piece Token) : Prop := y.gap ≠ []

section Separation

variable {m m' : Mode} {p : Position} {c : Char} {gap text cs : List Char} {ts : List Token}

lemma isIdentifierChar_of_startsComment (h : startsComment c = true) : isIdentifierChar c = false := by
  by_contra hc
  rw [startsComment_of_isIdentifierChar (Bool.not_eq_false _ ▸ hc)] at h
  cases h

lemma IsSeparation.endsRun (h : IsSeparation gap) : EndsRun isIdentifierChar gap := by
  cases h with
  | nil => exact endsRun_nil
  | blank hc h => exact IsGap.endsRun (List.forall_mem_singleton.mpr hc) |>.append_right nofun _
  | comment hc ht h => exact endsRun_cons (isIdentifierChar_of_startsComment hc) _

lemma scanFrom_comment (hc : startsComment c = true) (ht : '\n' ∉ text) (m : Mode) (p : Position)
    (cs : List Char) :
    scanFrom m p (c :: (text ++ '\n' :: cs)) = scanFrom m (p.after (c :: (text ++ ['\n']))) cs := by
  have hb : isBlank c = false := by
    simp only [startsComment, Bool.or_eq_true, beq_iff_eq] at hc
    rcases hc with rfl | rfl <;> decide
  have htext : ∀ d ∈ text, (d != '\n') = true := fun d hd =>
    bne_iff_ne.mpr fun he => ht (he ▸ hd)
  have hend : EndsRun (· != '\n') ('\n' :: cs) := endsRun_cons (by decide) _
  rw [scanFrom, if_neg (by simp [hb]), if_pos hc, takeWhile_run htext hend,
    dropWhile_run htext hend, scanFrom, if_pos (by decide)]
  simp

lemma scanFrom_separation (h : IsSeparation gap) (m : Mode) (p : Position) (cs : List Char) :
    scanFrom m p (gap ++ cs) = scanFrom m (p.after gap) cs := by
  induction h generalizing p with
  | nil => rfl
  | blank hc h ih =>
    rw [List.cons_append, scanFrom, if_pos hc, ih]
    rfl
  | comment hc ht h ih =>
    rw [List.cons_append, List.append_assoc, List.cons_append, scanFrom_comment hc ht, ih,
      ← Position.after_append]
    simp

lemma Yields.separation (h : Yields m (p.after gap) cs ts m') (hg : IsSeparation gap) :
    Yields m p (gap ++ cs) ts m' := by
  intro rest hr
  rw [List.append_assoc, scanFrom_separation hg, h rest hr, Position.after_append]

end Separation

section Span

variable {m : Mode} {t : Token} {span : List Char}

lemma IsMark.yields {c : Char} {kind : Kind} {n : Mode} {lexeme : String}
    (h : IsMark m c kind n) (hl : lexeme = c.toString) (p : Position) :
    Yields m p lexeme.toList [⟨kind, lexeme, p⟩] n := by
  have hlist : c.toString.toList = [c] := by simp
  rw [hl, hlist]
  exact yields_nil.mark h

lemma yields_identifier {key : String} (hk : IsIdentifier key.toList) (ht : key ≠ "true")
    (hf : key ≠ "false") (p : Position) : Yields m p key.toList [⟨.identifier, key, p⟩] m := by
  simpa [ht, hf] using yields_word ((isName_iff _).mpr hk)

lemma yields_boolean (b : Bool) (p : Position) :
    Yields m p (if b then "true" else "false").toList [⟨.boolean, if b then "true" else "false", p⟩]
      m.literal := by
  have hword := yields_word (m := m) (p := p) (isName_boolean b)
  cases b <;> exact hword

lemma Spells.yields (h : Spells t span) (ht : t.IsProper) (ha : m.Admits t) (p : Position) :
    Yields m p span [⟨t.kind, t.lexeme, p⟩] (m.behind t) := by
  cases h with
  | @header name front back q hf hb =>
    have hpath : ∀ s ∈ Dotted.split name, isName s.toList = true := fun s hs =>
      (isName_iff _).mpr (ht s hs)
    have hne := join_ne_nil hpath (Dotted.split_ne_nil name)
    have hchar := fun c => isHeaderChar_of_mem_join (c := c) hpath
    rw [Dotted.join_split] at hne hchar
    exact yields_header ha hne hchar hf hb
  | string q hq h => exact yields_quoted hq h
  | bare hh hs =>
    obtain ⟨kind, lexeme, q⟩ := t
    cases kind with
    | header => exact absurd rfl hh
    | string => exact absurd rfl hs
    | identifier => exact yields_identifier ht.1 ht.2.1 ht.2.2 p
    | integer =>
      obtain ⟨hn, n, hv⟩ := ht
      exact yields_numeral hn hv
    | boolean =>
      obtain rfl | rfl : lexeme = "true" ∨ lexeme = "false" := ht
      · exact yields_boolean true p
      · exact yields_boolean false p
    | assign => exact IsMark.assign.yields ht p
    | openBracket => exact (IsMark.openBracket ha).yields ht p
    | closeBracket => exact (IsMark.closeBracket ha).yields ht p
    | comma => exact (IsMark.comma ha).yields ht p

end Span

section Run

variable {m m' : Mode} {xs : List (Piece Token)} {tail source : List Char}

lemma endsRun_of_isLayout (h : IsLayout IsSeparation Spells Apart xs tail source)
    (ha : ∀ y ∈ xs.head?, y.gap ≠ []) : EndsRun isIdentifierChar source := by
  cases xs with
  | nil =>
    obtain ⟨rfl, ht, -⟩ := h
    exact ht.endsRun
  | cons y ys =>
    obtain ⟨hg, hs, -, rest, rfl, -⟩ := isLayout_cons.mp h
    exact hg.endsRun.append_right (ha y rfl) _

lemma exists_yields_of_isLayout (h : IsLayout IsSeparation Spells Apart xs tail source)
    (hm : m.Takes (xs.map Piece.token) m') (ht : ∀ x ∈ xs, x.token.IsProper) (p : Position) :
    ∃ us, Yields m p source us m' ∧ List.Forall₂ Alike (xs.map Piece.token) us := by
  induction xs generalizing m p source with
  | nil =>
    obtain ⟨rfl, ht, -⟩ := h
    cases hm
    exact ⟨[], by simpa using yields_nil.separation ht, .nil⟩
  | cons x xs ih =>
    obtain ⟨hg, hs, hap, rest, rfl, hrest⟩ := isLayout_cons.mp h
    rw [List.forall_mem_cons] at ht
    cases hm with
    | cons ha hm =>
      obtain ⟨us, hy, hus⟩ := ih hrest hm ht.2 ((p.after x.gap).after x.span)
      have hspan := hs.yields ht.1 ha (p.after x.gap)
      have hends := endsRun_of_isLayout hrest hap
      exact ⟨_, (hspan.append hy hends).separation hg, .cons ⟨rfl, rfl⟩ hus⟩

end Run

theorem exists_result_scan_eq_ok {ts : List Token} (h : Sentence.File ts)
    (ht : ∀ t ∈ ts, t.IsProper) {xs : List (Piece Token)} (hx : xs.map Piece.token = ts)
    {tail : List Char} {source : String}
    (hl : IsLayout IsSeparation Spells Apart xs tail source.toList) :
    ∃ us, (scan source).result = .ok us ∧ List.Forall₂ Alike ts us := by
  subst hx
  obtain ⟨us, hy, hus⟩ := exists_yields_of_isLayout hl h.takes (List.forall_mem_map.mp ht) .start
  have hscan := hy [] endsRun_nil
  rw [List.append_nil, scanFrom] at hscan
  exact ⟨us, by rw [scan, hscan, Scan.result_foldr_cons], hus⟩

theorem exists_result_scan_eq_ok_brackets_in_comments :
    let t (kind : Kind) (lexeme : String) : Token := ⟨kind, lexeme, .start⟩
    let ts : List Token := [t .header "a.b", t .header "c", t .identifier "k", t .assign "=",
      t .openBracket "[", t .string "'\"", t .comma ",", t .openBracket "[", t .integer "-07",
      t .comma ",", t .closeBracket "]", t .closeBracket "]"]
    let source := "#[\n[\ta.b ] [c]\nk =;=\n[ '\\'\"' , # ]\n [ -07 , ] ]\n"
    Sentence.File ts ∧ (∀ t ∈ ts, t.IsProper) ∧
      ∃ us, (scan source).result = .ok us ∧ List.Forall₂ Alike ts us := by
  intro t ts source
  have hinner : Sentence.Items [t .integer "-07", t .comma ","] := .cons (.integer rfl) rfl .nil
  have hitems : Sentence.Items ((ts.drop 5).take 6) :=
    .cons (.string rfl) rfl (.last (.array rfl hinner rfl))
  have hfile : Sentence.File ts :=
    .cons rfl .nil (.cons rfl (.cons rfl rfl (.array rfl hitems rfl) .nil) .nil)
  have hnumeral : IsNumeral "-07".toList := by
    rw [show "-07".toList = ['-', '0', '7'] from rfl]
    exact .minus (by simp) (by simp)
  have hproper : ∀ t ∈ ts, t.IsProper := by
    simp only [ts, List.forall_mem_cons]
    exact ⟨(isHeader_iff _).mp (by decide), (isHeader_iff _).mp (by decide),
      ⟨(isName_iff _).mp (by decide), by decide, by decide⟩, rfl, rfl, trivial, rfl, rfl,
      ⟨hnumeral, -7, by decide⟩, rfl, rfl, rfl, List.forall_mem_nil _⟩
  let bare (gap : List Char) (kind : Kind) (lexeme : String) : Piece Token :=
    ⟨gap, lexeme.toList, t kind lexeme⟩
  let xs : List (Piece Token) :=
    [⟨['#', '[', '\n'], '[' :: (['\t'] ++ ("a.b".toList ++ [' ']) ++ [']']), t .header "a.b"⟩,
    ⟨[' '], '[' :: ([] ++ ("c".toList ++ []) ++ [']']), t .header "c"⟩,
    bare ['\n'] .identifier "k", bare [' '] .assign "=", bare [';', '=', '\n'] .openBracket "[",
    ⟨[' '], '\'' :: (['\\', '\'', '"'] ++ ['\'']), t .string "'\""⟩, bare [' '] .comma ",",
    bare [' ', '#', ' ', ']', '\n', ' '] .openBracket "[", bare [' '] .integer "-07",
    bare [' '] .comma ",", bare [' '] .closeBracket "]", bare [' '] .closeBracket "]"]
  have hspace : IsSeparation [' '] := .blank (by decide) .nil
  have hline : IsSeparation ['\n'] := .blank (by decide) .nil
  have hgap : ∀ x ∈ xs, IsSeparation x.gap := by
    have hfirst : IsSeparation ('#' :: (['['] ++ ['\n'])) := .comment (by decide) (by decide) .nil
    have hsecond : IsSeparation (';' :: (['='] ++ ['\n'])) := .comment (by decide) (by decide) .nil
    have hthird : IsSeparation ('#' :: ([' ', ']'] ++ ['\n', ' '])) :=
      .comment (by decide) (by decide) hspace
    simp only [xs, bare, List.forall_mem_cons]
    exact ⟨hfirst, hspace, hline, hspace, hsecond, hspace, hspace, .blank (by decide) hthird,
      hspace, hspace, hspace, hspace, List.forall_mem_nil _⟩
  have hspan : ∀ x ∈ xs, Spells x.token x.span := by
    have hpadding (c : Char) (hc : isBlank c = true ∧ c ≠ '\n') : IsPadding [c] :=
      List.forall_mem_singleton.mpr hc
    have hquoted : Quoted.Encodes '\'' ['\\', '\'', '"'] "'\"".toList :=
      .escape rfl (.raw (by decide) (by decide) .nil)
    have hbare {kind : Kind} {lexeme : String} (hh : kind ≠ .header) (hs : kind ≠ .string) :
        Spells (t kind lexeme) lexeme.toList := .bare hh hs
    simp only [xs, bare, List.forall_mem_cons]
    exact ⟨.header _ (hpadding _ (by decide)) (hpadding _ (by decide)),
      .header _ isPadding_nil isPadding_nil, hbare (by decide) (by decide),
      hbare (by decide) (by decide), hbare (by decide) (by decide), .string _ (.inr rfl) hquoted,
      hbare (by decide) (by decide), hbare (by decide) (by decide), hbare (by decide) (by decide),
      hbare (by decide) (by decide), hbare (by decide) (by decide), hbare (by decide) (by decide),
      List.forall_mem_nil _⟩
  have hl : IsLayout IsSeparation Spells Apart xs ['\n'] source.toList :=
    ⟨by decide +kernel, hline, hgap, hspan, by simp [xs, bare, Apart]⟩
  exact ⟨hfile, hproper, exists_result_scan_eq_ok hfile hproper rfl hl⟩

end Token

end RowFilter.Config
