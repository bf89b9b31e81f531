import RowFilter.Proofs.Config.Layout

/-! The tokens of a source as spans of it, whether all of it can be read or not. -/

namespace RowFilter.Config.Token

open Text

inductive Spans : Token → List Char → Prop
  | header {inner : List Char} (p : Position) (hi : ∀ c ∈ inner, c ≠ ']' ∧ c ≠ '\n')
      (hne : trim inner ≠ []) :
      Spans ⟨.header, String.ofList (trim inner), p⟩ ('[' :: (inner ++ [']']))
  | string {quote : Char} {s : String} {cs : List Char} (p : Position) (hq : IsQuote quote)
      (h : Quoted.Encodes quote cs s.toList) : Spans ⟨.string, s, p⟩ (quote :: (cs ++ [quote]))
  | bare {t : Token} (hh : t.kind ≠ .header) (hs : t.kind ≠ .string) (ht : t.IsProper) :
      Spans t t.lexeme.toList

def Ends (t : Token) (rest : List Char) : Prop :=
  match t.kind with
  | .identifier | .boolean => EndsRun isIdentifierChar rest
  | .integer => EndsRun Char.isDigit rest
  | _ => True

structure Consumes (m : Mode) (p : Position) (c : Char) (cs : List Char) (s : Span) : Prop where
  spans : Spans s.token (c :: cs)
  placed : s.token.position = p
  position : s.position = p.after (c :: cs)
  admits : m.Admits s.token
  ends : Ends s.token s.rest
  next : ∀ rest, Ends s.token rest → next m p c (cs ++ rest) = .ok { s with rest := rest }

section Consumes

variable {m : Mode} {p : Position} {c : Char} {cs : List Char} {s : Span}

lemma Ends.of_append {t : Token} {cs ds : List Char} (h : Ends t (cs ++ ds)) : Ends t cs := by
  unfold Ends at h ⊢
  split
  · next hk =>
    rw [hk] at h
    exact EndsRun.of_append h
  · next hk =>
    rw [hk] at h
    exact EndsRun.of_append h
  · next hk =>
    rw [hk] at h
    exact EndsRun.of_append h
  · trivial

lemma isHeaderChar_iff : isHeaderChar c = true ↔ c ≠ ']' ∧ c ≠ '\n' := by
  rw [isHeaderChar, Bool.and_eq_true, bne_iff_ne, bne_iff_ne]

lemma header_closed {inner : List Char} (hi : ∀ c ∈ inner, isHeaderChar c = true)
    (hne : trim inner ≠ []) (m : Mode) (p : Position) (rest : List Char) :
    header m p (inner ++ ']' :: rest) = .ok ⟨⟨.header, String.ofList (trim inner), p⟩, m,
      p.after ('[' :: (inner ++ [']'])), rest⟩ := by
  have hend : EndsRun isHeaderChar (']' :: rest) := endsRun_cons (by decide) rest
  rw [header, takeWhile_run hi hend, dropWhile_run hi hend]
  simp only [List.isEmpty_iff, if_neg hne, List.cons_append]

lemma exists_header (h : header m p cs = .ok s) :
    ∃ inner rest, (∀ c ∈ inner, isHeaderChar c = true) ∧ trim inner ≠ [] ∧
      cs = inner ++ ']' :: rest := by
  have hcut := List.takeWhile_append_dropWhile (p := isHeaderChar) (l := cs)
  simp only [header] at h
  split at h
  · next rest hrest =>
    split at h
    · cases h
    · next hne =>
      refine ⟨cs.takeWhile isHeaderChar, rest, fun c => List.mem_takeWhile_imp, ?_, ?_⟩
      · simpa using hne
      · rw [← hrest, hcut]
  · cases h

lemma consumes_header (hm : m.inValue = false) (h : header m p cs = .ok s) :
    ∃ w, cs = w ++ s.rest ∧ Consumes m p '[' w s := by
  obtain ⟨inner, rest, hi, hne, rfl⟩ := exists_header h
  rw [header_closed hi hne m p] at h
  cases h
  refine ⟨inner ++ [']'], by simp, ?_, rfl, rfl, hm, trivial, fun rest _ => ?_⟩
  · exact .header p (fun c hc => isHeaderChar_iff.mp (hi c hc)) hne
  · rw [List.append_assoc, List.singleton_append, next, if_pos rfl, if_neg (by simp [hm])]
    exact header_closed hi hne m p rest

lemma consumes_mark {kind : Kind} {n : Mode} (h : IsMark m c kind n) (cs : List Char) :
    Consumes m p c [] ⟨⟨kind, c.toString, p⟩, n, p.step c, cs⟩ where
  spans := by
    have hlist : c.toString.toList = [c] := by simp
    have hbare : Spans ⟨kind, c.toString, p⟩ c.toString.toList := by
      cases h <;> exact .bare (by simp) (by simp) rfl
    rwa [hlist] at hbare
  placed := rfl
  position := rfl
  admits := by
    cases h with
    | openBracket h => exact h
    | closeBracket h => exact h
    | comma h => exact h
    | assign => trivial
  ends := by cases h <;> trivial
  next := fun rest _ => h.next p rest

lemma consumes_quoted {i : Quoted.Item} (hq : IsQuote c)
    (h : Quoted.read c (p.step c) cs = .ok i) :
    ∃ w, cs = w ++ i.rest ∧
      Consumes m p c w ⟨⟨.string, String.ofList i.text, p⟩, m.literal, i.position, i.rest⟩ := by
  obtain ⟨es, rfl, hes, hposition⟩ := (Quoted.read_eq_ok_iff hq).mp h
  refine ⟨es ++ [c], by simp, ?_, rfl, hposition, trivial, trivial, fun rest _ => ?_⟩
  · exact .string p hq (by rwa [String.toList_ofList])
  · rw [List.append_assoc, List.singleton_append, next_eq_ok_iff, hposition]
    exact .quoted hq (Quoted.read_of_encodes hq hes _ rest)

lemma head?_takeWhile_any (f : Char → Bool) (cs rest : List Char) (h : cs.head?.any f = true) :
    (cs.takeWhile f ++ rest).head?.any f = true := by
  cases cs with
  | nil => cases h
  | cons c cs =>
    have hc : f c = true := h
    simp [hc]

lemma isNumeral_takeWhile
    (hc : c.isDigit = true ∨ (c = '-' ∧ cs.head?.any Char.isDigit = true)) :
    IsNumeral (c :: cs.takeWhile Char.isDigit) := by
  have hd : ∀ d ∈ cs.takeWhile Char.isDigit, d.isDigit = true := fun d => List.mem_takeWhile_imp
  rcases hc with hc | ⟨rfl, hc⟩
  · exact .plain (List.cons_ne_nil _ _) (List.forall_mem_cons.mpr ⟨hc, hd⟩)
  · refine .minus ?_ hd
    intro hnil
    have hhead := head?_takeWhile_any _ _ [] hc
    rw [hnil] at hhead
    cases hhead

lemma consumes_integer (hc : c.isDigit = true ∨ (c = '-' ∧ cs.head?.any Char.isDigit = true))
    (h : integer m p c cs = .ok s) : ∃ w, cs = w ++ s.rest ∧ Consumes m p c w s := by
  have hd : ∀ d ∈ cs.takeWhile Char.isDigit, d.isDigit = true := fun d => List.mem_takeWhile_imp
  have hc' : ∀ rest, c.isDigit = true ∨
      (c = '-' ∧ (cs.takeWhile Char.isDigit ++ rest).head?.any Char.isDigit = true) := fun rest =>
    hc.imp_right (And.imp_right (head?_takeWhile_any _ _ rest))
  simp only [integer] at h
  split at h
  · next n hn =>
    cases h
    refine ⟨cs.takeWhile Char.isDigit, List.takeWhile_append_dropWhile.symm, ?_, rfl, rfl, trivial,
      endsRun_dropWhile _ cs, fun rest hr => ?_⟩
    · have hbare : IsProper ⟨.integer, String.ofList (c :: cs.takeWhile Char.isDigit), p⟩ := by
        simpa [IsProper] using ⟨isNumeral_takeWhile hc, n, hn⟩
      simpa using Spans.bare (by simp) (by simp) hbare
    · rw [next_integer (hc' rest), integer, takeWhile_run hd hr, dropWhile_run hd hr, hn]
  · cases h

lemma isProper_word (hc : isIdentifierStart c = true) (m : Mode) (p : Position) (cs : List Char) :
    (word m p c cs).token.IsProper := by
  have hname : IsIdentifier (c :: cs.takeWhile isIdentifierChar) := by
    rw [← isName_iff, isName, hc, Bool.true_and, List.all_eq_true]
    exact fun d => List.mem_takeWhile_imp
  let name := String.ofList (c :: cs.takeWhile isIdentifierChar)
  by_cases hb : (name == "true" || name == "false") = true
  · have hkind : (word m p c cs).token.kind = .boolean := if_pos hb
    rw [IsProper, hkind]
    rwa [Bool.or_eq_true, beq_iff_eq, beq_iff_eq] at hb
  · have hkind : (word m p c cs).token.kind = .identifier := if_neg hb
    rw [IsProper, hkind]
    rw [Bool.or_eq_true, beq_iff_eq, beq_iff_eq, not_or] at hb
    exact ⟨by simpa [word] using hname, hb⟩

lemma kind_word (m : Mode) (p : Position) (c : Char) (cs : List Char) :
    (word m p c cs).token.kind = .boolean ∨ (word m p c cs).token.kind = .identifier := by
  simp only [word]
  split
  · exact .inl rfl
  · exact .inr rfl

lemma ends_word_iff {rest : List Char} :
    Ends (word m p c cs).token rest ↔ EndsRun isIdentifierChar rest := by
  rcases kind_word m p c cs with hk | hk <;> rw [Ends, hk]

lemma consumes_word (hc : isIdentifierStart c = true) (cs : List Char) :
    ∃ w, cs = w ++ (word m p c cs).rest ∧ Consumes m p c w (word m p c cs) := by
  have hd : ∀ d ∈ cs.takeWhile isIdentifierChar, isIdentifierChar d = true := fun d =>
    List.mem_takeWhile_imp
  refine ⟨cs.takeWhile isIdentifierChar, List.takeWhile_append_dropWhile.symm, ?_, rfl, rfl, ?_,
    ends_word_iff.mpr (endsRun_dropWhile _ cs), fun rest hr => ?_⟩
  · have hkind := kind_word m p c cs
    have hbare := Spans.bare (t := (word m p c cs).token) (by grind) (by grind) (isProper_word hc m p cs)
    simpa [word] using hbare
  · rcases kind_word m p c cs with hk | hk <;> rw [Mode.Admits, hk] <;> trivial
  · rw [ends_word_iff] at hr
    rw [next_word hc, word, takeWhile_run hd hr, dropWhile_run hd hr]
    rfl

lemma exists_consumes (h : next m p c cs = .ok s) : ∃ w, cs = w ++ s.rest ∧ Consumes m p c w s := by
  rw [next_eq_ok_iff] at h
  cases h with
  | header hm h => exact consumes_header hm h
  | mark hm cs => exact ⟨[], rfl, consumes_mark hm cs⟩
  | quoted hq h => exact consumes_quoted hq h
  | integer hc h => exact consumes_integer hc h
  | word hc cs => exact consumes_word hc cs

end Consumes

def IsSolid (c : Char) : Prop := isBlank c = false ∧ startsComment c = false

/-- How a source is read, token by token. Before a token or a fault there can be a gap, and at the
end of the source a gap of which the last line need not be ended. -/
inductive Runs : Mode → Position → List Char → Scan Token LexError → Prop
  | done {m : Mode} {p : Position} {tail : List Char} (ht : IsSeparation (tail ++ ['\n'])) :
      Runs m p tail .done
  | fault {m : Mode} {p : Position} {gap cs : List Char} {c : Char} {e : LexError}
      (hg : IsSeparation gap) (hc : IsSolid c) (h : next m (p.after gap) c cs = .error e) :
      Runs m p (gap ++ c :: cs) (.fail e)
  | token {m : Mode} {p : Position} {gap cs : List Char} {c : Char} {s : Span}
      {r : Scan Token LexError} (hg : IsSeparation gap) (hc : IsSolid c)
      (h : next m (p.after gap) c cs = .ok s) (hr : Runs s.mode s.position s.rest r) :
      Runs m p (gap ++ c :: cs) (r.cons s.token)

section Runs

variable {m : Mode} {p : Position} {c : Char} {cs text : List Char} {r : Scan Token LexError}

lemma Runs.blank (h : Runs m (p.step c) cs r) (hc : isBlank c = true) : Runs m p (c :: cs) r := by
  cases h with
  | done ht => exact .done (.blank hc ht)
  | fault hg hc' h =>
    rw [← List.cons_append]
    exact .fault (.blank hc hg) hc' h
  | token hg hc' h hr =>
    rw [← List.cons_append]
    exact .token (.blank hc hg) hc' h hr

lemma IsSeparation.of_newLine (h : IsSeparation ('\n' :: cs)) : IsSeparation cs := by
  cases h with
  | blank hc h => exact h
  | comment hc ht h => exact absurd hc (by decide)

lemma IsSeparation.behind_comment {gap : List Char} (h : IsSeparation gap) (hl : EndsLine gap)
    (hne : gap ≠ []) (hc : startsComment c = true) (ht : '\n' ∉ text) :
    IsSeparation (c :: (text ++ gap)) := by
  obtain ⟨d, gap, rfl⟩ := List.exists_cons_of_ne_nil hne
  obtain rfl := hl d rfl
  exact .comment hc ht h.of_newLine

lemma EndsLine.gap {gap : List Char} {d : Char} (h : EndsLine (gap ++ d :: cs)) (hd : IsSolid d) :
    EndsLine gap ∧ gap ≠ [] := by
  cases gap with
  | nil =>
    obtain rfl := h d rfl
    exact absurd hd.1 (by decide)
  | cons g gap => exact ⟨h, List.cons_ne_nil _ _⟩

lemma Runs.comment (h : Runs m (p.after (c :: text)) cs r) (hl : EndsLine cs)
    (hc : startsComment c = true) (ht : '\n' ∉ text) : Runs m p (c :: (text ++ cs)) r := by
  cases h with
  | done htail =>
    have hend : EndsLine (cs ++ ['\n']) := by
      cases cs with
      | nil =>
        intro d hd
        cases hd
        rfl
      | cons d cs => exact hl
    apply Runs.done
    rw [List.cons_append, List.append_assoc]
    exact htail.behind_comment hend (by simp) hc ht
  | @fault _ _ gap ds d e hg hd h =>
    obtain ⟨hend, hne⟩ := hl.gap hd
    rw [← Position.after_append] at h
    simpa using Runs.fault (hg.behind_comment hend hne hc ht) hd h
  | @token _ _ gap ds d s r hg hd h hr =>
    obtain ⟨hend, hne⟩ := hl.gap hd
    rw [← Position.after_append] at h
    simpa using Runs.token (hg.behind_comment hend hne hc ht) hd h hr

theorem runs_scanFrom (m : Mode) (p : Position) (cs : List Char) : Runs m p cs (scanFrom m p cs) := by
  fun_induction scanFrom m p cs with
  | case1 m p => exact .done (.blank (by decide) .nil)
  | case2 m p c cs hb ih => exact ih.blank hb
  | case3 m p c cs hb hc hl ih =>
    -- what follows the comment is empty or begins with the end of its line
    have hend : EndsLine (cs.dropWhile (· != '\n')) := by
      intro d hd
      simpa using endsRun_dropWhile (· != '\n') cs d hd
    have htext : '\n' ∉ cs.takeWhile (· != '\n') := by
      intro hd
      simpa using List.mem_takeWhile_imp hd
    simpa using ih.comment hend hc htext
  | case4 m p c cs hb hc e he =>
    rw [Bool.not_eq_true] at hb hc
    exact .fault .nil ⟨hb, hc⟩ he
  | case5 m p c cs hb hc s hs hl ih =>
    rw [Bool.not_eq_true] at hb hc
    exact .token .nil ⟨hb, hc⟩ hs ih

end Runs

def IsWord (t : Token) : Prop := t.kind = .identifier ∨ t.kind = .boolean

/-- Whether no longer word than the span stands there. -/
def IsMaximal (before span behind : List Char) : Prop :=
  ∀ a b, a <:+ before → b <+: behind → IsIdentifier (a ++ span ++ b) → a = [] ∧ b = []

def IsCut (before cs : List Char) : Prop :=
  ∀ a, a <:+ before → IsIdentifier a → EndsRun isIdentifierChar cs

section Words

variable {m : Mode} {p : Position} {t : Token} {s : Span} {before gap span a b cs : List Char}
  {c : Char}

lemma not_isIdentifier_of_isSuffix (hc : isIdentifierChar c = false) (ha : a <:+ before ++ [c]) :
    ¬ IsIdentifier a := by
  intro h
  rcases List.suffix_concat_iff.mp ha with rfl | ⟨t, rfl, -⟩
  · exact h.ne_nil rfl
  · have hchar := h.isIdentifierChar c (by simp)
    rw [hc] at hchar
    cases hchar

lemma isCut_nil (cs : List Char) : IsCut [] cs := by
  intro a ha h
  exact absurd (List.suffix_nil.mp ha) h.ne_nil

lemma isCut_concat (hc : isIdentifierChar c = false) (before cs : List Char) :
    IsCut (before ++ [c]) cs := by
  intro a ha h
  exact absurd h (not_isIdentifier_of_isSuffix hc ha)

lemma IsSeparation.exists_concat (h : IsSeparation gap) (hne : gap ≠ []) :
    ∃ cs c, gap = cs ++ [c] ∧ isBlank c = true := by
  induction h with
  | nil => exact absurd rfl hne
  | @blank c cs hc h ih =>
    by_cases hcs : cs = []
    · exact ⟨[], c, by rw [hcs]; rfl, hc⟩
    · obtain ⟨ds, d, rfl, hd⟩ := ih hcs
      exact ⟨c :: ds, d, rfl, hd⟩
  | @comment c text cs hc ht h ih =>
    by_cases hcs : cs = []
    · exact ⟨c :: text, '\n', by rw [hcs]; rfl, by decide⟩
    · obtain ⟨ds, d, rfl, hd⟩ := ih hcs
      exact ⟨c :: (text ++ '\n' :: ds), d, by simp, hd⟩

lemma isIdentifierChar_of_isBlank (h : isBlank c = true) : isIdentifierChar c = false := by
  by_contra hc
  rw [isBlank_of_isIdentifierChar (Bool.not_eq_false _ ▸ hc)] at h
  cases h

lemma IsCut.behind_gap (h : IsCut before (gap ++ cs)) (hg : IsSeparation gap) : IsCut (before ++ gap) cs := by
  by_cases hne : gap = []
  · subst hne
    rwa [List.append_nil]
  · obtain ⟨ds, d, rfl, hd⟩ := hg.exists_concat hne
    rw [← List.append_assoc]
    exact isCut_concat (isIdentifierChar_of_isBlank hd) _ cs

lemma IsNumeral.mem (h : IsNumeral a) : ∀ c ∈ a, c.isDigit = true ∨ c = '-' := by
  cases h with
  | plain hne h => exact fun c hc => .inl (h c hc)
  | minus hne h => exact List.forall_mem_cons.mpr ⟨.inr rfl, fun c hc => .inl (h c hc)⟩

lemma IsNumeral.forall_isIdentifierChar (h : IsNumeral a) : ∀ c ∈ a, isIdentifierChar c = true := by
  intro c hc
  rcases h.mem c hc with hd | rfl
  · simp [isIdentifierChar, isAlphanum_of_isDigit hd]
  · decide

lemma IsNumeral.exists_head (h : IsNumeral a) : ∃ c ds, a = c :: ds ∧ isIdentifierChar c = true := by
  obtain ⟨c, ds, rfl, -⟩ := h.exists_cons
  exact ⟨c, ds, rfl, h.forall_isIdentifierChar c List.mem_cons_self⟩

lemma IsNumeral.not_isIdentifier (h : IsNumeral a) (hb : b <:+ a) : ¬ IsIdentifier b := by
  rintro ⟨c, ds, rfl, hc, -⟩
  rw [← isIdentifierStart_iff, isIdentifierStart, Bool.or_eq_true, beq_iff_eq] at hc
  rcases h.mem c (hb.subset List.mem_cons_self) with hd | rfl
  · rcases hc with hc | rfl
    · rw [isAlpha_of_isDigit hd] at hc
      cases hc
    · cases hd
  · revert hc
    decide

lemma IsCut.numeral (h : IsCut before (span ++ cs)) (hs : IsNumeral span) :
    IsCut (before ++ span) cs := by
  rintro a ⟨pre, ha⟩ hid
  exfalso
  -- a word that ends with the number began before it, and would have gone on with the digits
  rcases List.append_eq_append_iff.mp ha with ⟨a', rfl, rfl⟩ | ⟨b', rfl, rfl⟩
  · by_cases ha' : a' = []
    · subst ha'
      exact hs.not_isIdentifier List.suffix_rfl hid
    · obtain ⟨c, ds, rfl, hc⟩ := hs.exists_head
      have hend := h a' (List.suffix_append _ _) (hid.of_append ha') c rfl
      rw [hc] at hend
      cases hend
  · exact hs.not_isIdentifier (List.suffix_append b' a) hid

lemma Spans.isCut (h : Spans t span) (he : Ends t cs) (hcut : IsCut before (span ++ cs)) :
    IsCut (before ++ span) cs := by
  cases h with
  | @header inner p hi hne =>
    have hlast : before ++ '[' :: (inner ++ [']']) = before ++ '[' :: inner ++ [']'] := by simp
    rw [hlast]
    exact isCut_concat (by decide) _ cs
  | @string quote s es p hq h =>
    have hlast : before ++ quote :: (es ++ [quote]) = before ++ quote :: es ++ [quote] := by simp
    have hquote : isIdentifierChar quote = false := by rcases hq with rfl | rfl <;> decide
    rw [hlast]
    exact isCut_concat hquote _ cs
  | bare hh hs ht =>
    obtain ⟨kind, lexeme, q⟩ := t
    have hmark (d : Char) (hd : isIdentifierChar d = false) (hl : lexeme.toList = [d]) :
        IsCut (before ++ lexeme.toList) cs := by
      rw [hl]
      exact isCut_concat hd before cs
    cases kind with
    | header => exact absurd rfl hh
    | string => exact absurd rfl hs
    | identifier => exact fun _ _ _ => he
    | boolean => exact fun _ _ _ => he
    | integer => exact hcut.numeral ht.1
    | assign =>
      obtain rfl : lexeme = "=" := ht
      exact hmark '=' (by decide) rfl
    | openBracket =>
      obtain rfl : lexeme = "[" := ht
      exact hmark '[' (by decide) rfl
    | closeBracket =>
      obtain rfl : lexeme = "]" := ht
      exact hmark ']' (by decide) rfl
    | comma =>
      obtain rfl : lexeme = "," := ht
      exact hmark ',' (by decide) rfl

lemma IsWord.endsRun (h : t.IsWord) (he : Ends t cs) : EndsRun isIdentifierChar cs := by
  rcases h with hk | hk
  · rwa [Ends, hk] at he
  · rwa [Ends, hk] at he

lemma Spans.isIdentifier (h : Spans t span) (hw : t.IsWord) : IsIdentifier span := by
  cases h with
  | header => rcases hw with hk | hk <;> cases hk
  | string => rcases hw with hk | hk <;> cases hk
  | bare hh hs ht =>
    rcases hw with hk | hk
    · rw [IsProper, hk] at ht
      exact ht.1
    · rw [IsProper, hk] at ht
      rcases ht with ht | ht <;> rw [ht] <;> exact (isName_iff _).mp (by decide)

lemma Spans.isMaximal (h : Spans t span) (hw : t.IsWord) (he : Ends t cs)
    (hcut : IsCut before (span ++ cs)) : IsMaximal before span cs := by
  have hspan := h.isIdentifier hw
  intro a b ha hb hid
  have hnil : b = [] := by
    by_contra hne
    obtain ⟨d, b, rfl⟩ := List.exists_cons_of_ne_nil hne
    obtain ⟨rest, rfl⟩ := hb
    have hchar := hid.isIdentifierChar d (by simp)
    rw [hw.endsRun he d rfl] at hchar
    cases hchar
  refine ⟨?_, hnil⟩
  by_contra hne
  obtain ⟨d, ds, rfl⟩ := List.exists_cons_of_ne_nil hspan.ne_nil
  rw [List.append_assoc] at hid
  have hend := hcut a ha (hid.of_append hne) d rfl
  rw [hspan.isIdentifierChar d List.mem_cons_self] at hend
  cases hend

end Words

def AreMaximal (before : List Char) (xs : List (Piece Token)) (tail : List Char) : Prop :=
  ∀ l x r, xs = l ++ x :: r → x.token.IsWord →
    IsMaximal (before ++ (Piece.texts l ++ x.gap)) x.span (Piece.texts r ++ tail)

section Pieces

variable {m : Mode} {p : Position} {before tail cs : List Char} {x : Piece Token}
  {xs : List (Piece Token)} {r : Scan Token LexError}

lemma areMaximal_nil : AreMaximal before [] tail := by
  intro l x r h
  simp at h

lemma AreMaximal.cons (h : AreMaximal (before ++ x.gap ++ x.span) xs tail)
    (hx : x.token.IsWord → IsMaximal (before ++ x.gap) x.span (Piece.texts xs ++ tail)) :
    AreMaximal before (x :: xs) tail := by
  intro l y r heq hw
  cases l with
  | nil =>
    cases heq
    exact hx hw
  | cons z l =>
    cases heq
    have hy := h l y r rfl hw
    rw [Piece.texts_cons]
    simpa using hy

lemma Runs.exists_pieces (h : Runs m p cs r) (hcut : IsCut before cs) :
    ∃ xs tail, xs.map Piece.token = r.tokens ∧ cs = Piece.texts xs ++ tail ∧
      (∀ x ∈ xs, IsSeparation x.gap ∧ Spans x.token x.span) ∧ ArePlaced Token.position p xs ∧
      AreMaximal before xs tail ∧ (r.fault? = none → IsSeparation (tail ++ ['\n'])) := by
  induction h generalizing before with
  | @done m p tail ht =>
    exact ⟨[], tail, rfl, rfl, List.forall_mem_nil _, arePlaced_nil, areMaximal_nil, fun _ => ht⟩
  | fault hg hc h =>
    exact ⟨[], _, rfl, rfl, List.forall_mem_nil _, arePlaced_nil, areMaximal_nil, nofun⟩
  | @token m p gap cs c s r hg hc h hr ih =>
    obtain ⟨w, rfl, hw⟩ := exists_consumes h
    -- the text before the rest grows by the gap and by the span
    have hgap := hcut.behind_gap hg
    obtain ⟨xs, tail, htokens, hrest, hall, hplaced, hmax, htail⟩ := ih (hw.spans.isCut hw.ends hgap)
    refine ⟨⟨gap, c :: w, s.token⟩ :: xs, tail, congrArg (s.token :: ·) htokens, ?_,
      List.forall_mem_cons.mpr ⟨⟨hg, hw.spans⟩, hall⟩, ?_, hmax.cons fun hword => ?_, htail⟩
    · rw [Piece.texts_cons, hrest]
      simp
    · rw [hw.position, ← Position.after_append] at hplaced
      exact arePlaced_cons.mpr ⟨hw.placed, hplaced⟩
    · rw [← hrest]
      exact hw.spans.isMaximal hword hw.ends hgap

end Pieces

def opened (ts : List Token) : Nat := ts.countP fun t => t.kind = .openBracket

def closed (ts : List Token) : Nat := ts.countP fun t => t.kind = .closeBracket

/-- Whether brackets are closed only where they are open, and whether they are open where there is a
comma and nowhere that there is a header. -/
structure IsBracketed (ts : List Token) : Prop where
  closed_le : ∀ us, us <+: ts → closed us ≤ opened us
  comma : ∀ l t r, ts = l ++ t :: r → t.kind = .comma → closed l < opened l
  header : ∀ l t r, ts = l ++ t :: r → t.kind = .header → closed l = opened l

section Brackets

variable {m m' : Mode} {p : Position} {t : Token} {ts us : List Token}

lemma Mode.depth_literal (m : Mode) : m.literal.depth = m.depth := by
  rw [literal]
  split <;> rfl

lemma Mode.Admits.depth (h : m.Admits t) :
    m.depth + opened [t] = (m.behind t).depth + closed [t] := by
  unfold Admits at h
  unfold behind
  cases hk : t.kind <;> simp [hk, opened, closed, depth_literal] at h ⊢
  omega

lemma Mode.Takes.depth (h : m.Takes ts m') : m.depth + opened ts = m'.depth + closed ts := by
  induction h with
  | nil m => rfl
  | @cons m m' t ts ha hs ih =>
    have hstep := ha.depth
    have hopened : opened ([t] ++ ts) = opened [t] + opened ts := List.countP_append
    have hclosed : closed ([t] ++ ts) = closed [t] + closed ts := List.countP_append
    rw [List.singleton_append] at hopened hclosed
    omega

lemma Mode.Takes.of_append (h : m.Takes (ts ++ us) m') : ∃ n, m.Takes ts n ∧ n.Takes us m' := by
  induction ts generalizing m with
  | nil => exact ⟨m, .nil m, h⟩
  | cons t ts ih =>
    cases h with
    | cons ha hs =>
      obtain ⟨n, hts, hus⟩ := ih hs
      exact ⟨n, .cons ha hts, hus⟩

lemma isBracketed_of_takes (h : Mode.start.Takes ts m') : IsBracketed ts where
  closed_le := by
    rintro us ⟨rest, rfl⟩
    obtain ⟨n, hus, -⟩ := h.of_append
    have hd := hus.depth
    simp only [Mode.start] at hd
    omega
  comma := by
    rintro l t r rfl hk
    obtain ⟨n, hl, hr⟩ := h.of_append
    cases hr with
    | cons ha hr =>
      rw [Mode.Admits, hk] at ha
      have hd := hl.depth
      simp only [Mode.start] at hd ha
      omega
  header := by
    rintro l t r rfl hk
    obtain ⟨n, hl, hr⟩ := h.of_append
    cases hr with
    | cons ha hr =>
      rw [Mode.Admits, hk] at ha
      have hd := hl.depth
      simp [Mode.inValue] at ha
      simp only [Mode.start] at hd
      omega

lemma Runs.takes {cs : List Char} {r : Scan Token LexError} (h : Runs m p cs r) :
    m.Takes r.tokens (r.tokens.foldl Mode.behind m) := by
  induction h with
  | done ht => exact .nil _
  | fault hg hc h => exact .nil _
  | token hg hc h hr ih =>
    obtain ⟨w, -, hw⟩ := exists_consumes h
    rw [mode_of_next h] at ih
    exact .cons hw.admits ih

end Brackets

structure IsFaithful (source : List Char) (xs : List (Piece Token)) (tail : List Char) : Prop where
  source_eq : source = Piece.texts xs ++ tail
  gap : ∀ x ∈ xs, IsSeparation x.gap
  span : ∀ x ∈ xs, Spans x.token x.span
  position : ∀ l x r, xs = l ++ x :: r → x.token.position = .behind (Piece.texts l ++ x.gap)
  maximal : ∀ l x r, xs = l ++ x :: r → x.token.IsWord →
    IsMaximal (Piece.texts l ++ x.gap) x.span (Piece.texts r ++ tail)

/-- Whether a source can be read or not, the tokens that are read from it are those of spans in it,
and brackets are open where they have to be. If it can be read, nothing but a gap is left. -/
theorem scan_isFaithful (s : String) :
    ∃ xs tail, xs.map Piece.token = (scan s).tokens ∧ IsFaithful s.toList xs tail ∧
      ((scan s).fault? = none → IsSeparation (tail ++ ['\n'])) ∧ IsBracketed (scan s).tokens := by
  have hruns := runs_scanFrom .start .start s.toList
  obtain ⟨xs, tail, htokens, hsource, hall, hplaced, hmax, htail⟩ :=
    hruns.exists_pieces (isCut_nil s.toList)
  refine ⟨xs, tail, htokens, ?_, htail, isBracketed_of_takes hruns.takes⟩
  refine ⟨hsource, fun x hx => (hall x hx).1, fun x hx => (hall x hx).2, fun l x r hxs => ?_, hmax⟩
  rw [← Position.after_start]
  exact hplaced l x r hxs

end RowFilter.Config.Token
