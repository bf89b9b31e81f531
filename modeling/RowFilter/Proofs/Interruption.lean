import RowFilter.Proofs.Config.Spans
import RowFilter.Proofs.Filter.Word

/-! Texts that cannot be read to their end: the tokens before the fault, and the fault with its
place. -/

namespace RowFilter

open Number (FitsDecimal FitsInteger WritesDecimal WritesInteger withSign)
open Text

lemma Text.eq_append_of_toList {s : String} {before rest : List Char} (h : s.toList = before ++ rest) :
    s = String.ofList before ++ String.ofList rest := by
  rw [← String.ofList_append, ← h, String.ofList_toList]

namespace Filter.Token

inductive IsFault (p : Position) : List Char → LexError → Prop
  | stray {c : Char} (hb : isBlank c = false) (hm : ∀ kind, (c, kind) ∉ marks) (hq : ¬ IsQuote c)
      (hw : isWordChar c = false) (cs : List Char) : IsFault p (c :: cs) (.unexpectedChar c p)
  | quoted {quote : Char} {cs : List Char} {fault : Quoted.Fault} (hq : IsQuote quote)
      (h : Quoted.Breaks quote (p.step quote) cs fault) :
      IsFault p (quote :: cs) (.ofQuoted p fault)
  | number {w rest : List Char} (hw : IsWord w) (hr : EndsRun isWordChar rest)
      (h : (∃ n, WritesInteger n w ∧ ¬ FitsInteger n) ∨
        ∃ n k, WritesDecimal n k w ∧ ¬ FitsDecimal n k) :
      IsFault p (w ++ rest) (.numberOutOfRange (String.ofList w) p)

section Interruption

variable {p : Position} {c : Char} {cs : List Char} {e : LexError}

lemma isFault_of_word (hc : isWordChar c = true)
    (hk : classify (c :: cs.takeWhile isWordChar) = none) :
    IsFault p (c :: cs) (.numberOutOfRange (String.ofList (c :: cs.takeWhile isWordChar)) p) := by
  have hcut : c :: cs = (c :: cs.takeWhile isWordChar) ++ cs.dropWhile isWordChar := by simp
  nth_rewrite 1 [hcut]
  exact .number (isWord_takeWhile hc cs) (endsRun_dropWhile isWordChar cs) (classify_eq_none_iff.mp hk)

lemma isFault_of_next (hb : isBlank c = false) (h : next p c cs = .error e) :
    IsFault p (c :: cs) e := by
  unfold next at h
  split at h
  · cases h
  · cases h
  · cases h
  · cases h
  · next hcolon hcomma hopen hclose =>
    split at h
    · next hq =>
      split at h
      · cases h
      · next fault hfault =>
        cases h
        exact .quoted hq (Quoted.breaks_of_read hfault)
    · next hq =>
      split at h
      · next hc =>
        simp only at h
        split at h
        · cases h
        · next hk =>
          cases h
          exact isFault_of_word hc hk
      · next hc =>
        cases h
        rw [Bool.not_eq_true] at hc
        refine .stray hb (fun kind hmem => ?_) hq hc cs
        simp only [marks, List.mem_cons, Prod.mk.injEq, List.not_mem_nil, or_false] at hmem
        tauto

lemma exists_isFault (h : (scanFrom p cs).fault? = some e) :
    ∃ before rest, cs = before ++ rest ∧ scanFrom p before = ⟨(scanFrom p cs).tokens, none⟩ ∧
      IsFault (p.after before) rest e := by
  fun_induction scanFrom p cs with
  | case1 p => cases h
  | case2 p c cs hb ih =>
    obtain ⟨before, rest, rfl, hscan, hfault⟩ := ih h
    refine ⟨c :: before, rest, rfl, ?_, hfault⟩
    rw [scanFrom, if_pos hb, hscan]
  | case3 p c cs hb e' he =>
    cases h
    refine ⟨[], c :: cs, rfl, ?_, isFault_of_next (by simpa using hb) he⟩
    rw [scanFrom]
    rfl
  | case4 p c cs hb s hs hl ih =>
    obtain ⟨span, hspan, hspells, hposition, hafter, hends⟩ := cuts_of_next hs
    obtain ⟨before, rest, hrest, hscan, hfault⟩ := ih h
    rw [hrest] at hends
    -- the text may end where the fault was, and a word ends there as well
    have hread := hspells.scanFrom fun hw => (hends hw).of_append
    rw [hposition, ← hafter, hscan] at hread
    refine ⟨span ++ before, rest, by rw [hspan, hrest, List.append_assoc], hread, ?_⟩
    rwa [Position.after_append, ← hafter]

lemma exists_before {s : String} (hs : s.utf8ByteSize ≤ maxLength) (h : (scan s).fault? = some e) :
    ∃ before rest : String, s = before ++ rest ∧ (scan before).result = .ok (scan s).tokens ∧
      IsFault (.behind before.toList) rest.toList e := by
  simp only [scan, if_pos hs] at h ⊢
  obtain ⟨before, rest, hcut, hscan, hfault⟩ := exists_isFault h
  have hsplit := Text.eq_append_of_toList hcut
  have hsize : (String.ofList before).utf8ByteSize ≤ maxLength := by
    rw [hsplit, String.utf8ByteSize_append] at hs
    omega
  rw [Position.after_start] at hfault
  refine ⟨_, _, hsplit, ?_, by simpa using hfault⟩
  rw [if_pos hsize, String.toList_ofList, hscan, Scan.result]

end Interruption

end Filter.Token

lemma Text.trim_eq_nil {cs : List Char} (h : trim cs = []) : ∀ c ∈ cs, isBlank c = true := by
  rw [trim, List.reverse_eq_nil_iff, List.dropWhile_eq_nil_iff] at h
  by_contra hne
  have hdrop : cs.dropWhile isBlank ≠ [] := by
    intro he
    exact hne (List.dropWhile_eq_nil_iff.mp he)
  have hhead := List.head_dropWhile_not isBlank hdrop
  rw [h _ (List.mem_reverse.mpr (List.head_mem hdrop))] at hhead
  cases hhead

namespace Config.Token

structure IsStray (m : Mode) (c : Char) (cs : List Char) : Prop where
  solid : IsSolid c
  bracket : c ≠ '['
  mark : ∀ kind n, ¬ IsMark m c kind n
  quote : ¬ IsQuote c
  digit : ¬ (c.isDigit = true ∨ c = '-' ∧ cs.head?.any Char.isDigit = true)
  letter : isIdentifierStart c = false

inductive IsFault (m : Mode) (p : Position) : List Char → LexError → Prop
  | stray {c : Char} {cs : List Char} (h : IsStray m c cs) : IsFault m p (c :: cs) (.unexpectedChar c p)
  | quoted {quote : Char} {cs : List Char} {fault : Quoted.Fault} (hq : IsQuote quote)
      (h : Quoted.Breaks quote (p.step quote) cs fault) :
      IsFault m p (quote :: cs) (.ofQuoted p fault)
  | openHeader {inner rest : List Char} (hm : m.inValue = false)
      (hi : ∀ c ∈ inner, c ≠ ']' ∧ c ≠ '\n') (hr : EndsLine rest) :
      IsFault m p ('[' :: (inner ++ rest)) (.unterminatedHeader p)
  | emptyHeader {inner : List Char} (hm : m.inValue = false) (hi : IsPadding inner) (rest : List Char) :
      IsFault m p ('[' :: (inner ++ ']' :: rest)) (.emptyHeader p)
  | integer (negative : Bool) {ds rest : List Char} (hne : ds ≠ []) (hd : ∀ d ∈ ds, d.isDigit = true)
      (hn : ¬ FitsInteger (withSign negative (Nat.ofDigitChars 10 ds 0)))
      (hr : EndsRun Char.isDigit rest) :
      IsFault m p ((if negative then ['-'] else []) ++ ds ++ rest)
        (.integerOverflow (String.ofList ((if negative then ['-'] else []) ++ ds)) p)

section Interruption

variable {m : Mode} {p : Position} {c : Char} {cs : List Char} {e : LexError}
  {r : Scan Token LexError}

lemma isFault_of_header (hm : m.inValue = false) (h : header m p cs = .error e) :
    IsFault m p ('[' :: cs) e := by
  have hi : ∀ c ∈ cs.takeWhile isHeaderChar, c ≠ ']' ∧ c ≠ '\n' := fun c hc =>
    isHeaderChar_iff.mp (List.mem_takeWhile_imp hc)
  have hcut := List.takeWhile_append_dropWhile (p := isHeaderChar) (l := cs)
  have hend := endsRun_dropWhile isHeaderChar cs
  simp only [header] at h
  split at h
  · next rest hrest =>
    split at h
    · next hname =>
      cases h
      have hblank := trim_eq_nil (List.isEmpty_iff.mp hname)
      rw [← hcut, hrest]
      exact .emptyHeader hm (fun c hc => ⟨hblank c hc, (hi c hc).2⟩) rest
    · cases h
  · next hne =>
    cases h
    rw [← hcut]
    refine .openHeader hm hi fun d hd => ?_
    have hchar := hend d hd
    rw [← Bool.not_eq_true, isHeaderChar_iff, not_and, not_not] at hchar
    apply hchar
    rintro rfl
    obtain ⟨rest, hrest⟩ := List.head?_eq_some_iff.mp hd
    exact hne rest hrest

lemma isFault_of_integer (hc : c.isDigit = true ∨ c = '-' ∧ cs.head?.any Char.isDigit = true)
    (h : integer m p c cs = .error e) : IsFault m p (c :: cs) e := by
  have hcut : c :: cs = (c :: cs.takeWhile Char.isDigit) ++ cs.dropWhile Char.isDigit := by simp
  have hend := endsRun_dropWhile Char.isDigit cs
  obtain ⟨negative, ds, hlexeme, hne, hd⟩ := (isNumeral_takeWhile hc).exists_signed
  simp only [integer, hlexeme, Number.int64?_signed negative hne hd] at h
  rw [hcut, hlexeme]
  split at h
  · cases h
  · next hn =>
    cases h
    exact .integer negative hne hd (by simpa using hn) hend

lemma isFault_of_next (hc : IsSolid c) (h : next m p c cs = .error e) : IsFault m p (c :: cs) e := by
  unfold next at h
  split at h
  · next hbracket =>
    subst hbracket
    split at h
    · cases h
    · next hm => exact isFault_of_header (by simpa using hm) h
  split at h
  · cases h
  split at h
  · cases h
  split at h
  · cases h
  next hbracket hclose hcomma hassign =>
  split at h
  · next hq =>
    split at h
    · cases h
    · next fault hfault =>
      cases h
      exact .quoted hq (Quoted.breaks_of_read hfault)
  split at h
  · next hdigit => exact isFault_of_integer hdigit h
  split at h
  · cases h
  next hq hdigit hletter =>
  cases h
  refine .stray ⟨hc, hbracket, fun kind n hm => ?_, hq, hdigit, by simpa using hletter⟩
  cases hm with
  | openBracket h => exact hbracket rfl
  | closeBracket h => exact hclose ⟨rfl, h⟩
  | comma h => exact hcomma ⟨rfl, h⟩
  | assign => exact hassign rfl

lemma Runs.exists_isFault (h : Runs m p cs r) (hf : r.fault? = some e) :
    ∃ before rest, cs = before ++ rest ∧ scanFrom m p before = ⟨r.tokens, none⟩ ∧
      IsFault (r.tokens.foldl Mode.behind m) (p.after before) rest e := by
  induction h with
  | done ht => cases hf
  | @fault m p gap cs c e' hg hc h =>
    cases hf
    refine ⟨gap, c :: cs, rfl, ?_, isFault_of_next hc h⟩
    have hscan := scanFrom_separation hg m p []
    rw [List.append_nil, scanFrom] at hscan
    exact hscan
  | @token m p gap cs c s r hg hc h hr ih =>
    obtain ⟨w, rfl, hw⟩ := exists_consumes h
    obtain ⟨before, rest, hrest, hscan, hfault⟩ := ih hf
    have hends := hw.ends
    rw [hrest] at hends
    -- the token is read before less of the rest as well, for it can end there
    refine ⟨gap ++ c :: (w ++ before), rest, by simp [hrest], ?_, ?_⟩
    · rw [scanFrom_separation hg, scanFrom_cons hc.1 hc.2 (hw.next before hends.of_append), hscan]
      rfl
    · rw [mode_of_next h, hw.position] at hfault
      simpa [Scan.cons] using hfault

lemma exists_before {s : String} (h : (scan s).fault? = some e) :
    ∃ before rest : String, s = before ++ rest ∧ (scan before).result = .ok (scan s).tokens ∧
      IsFault ((scan s).tokens.foldl Mode.behind .start) (.behind before.toList) rest.toList e := by
  have hruns := runs_scanFrom .start .start s.toList
  obtain ⟨before, rest, hcut, hscan, hfault⟩ := hruns.exists_isFault h
  rw [Position.after_start] at hfault
  simp only [scan]
  refine ⟨_, _, Text.eq_append_of_toList hcut, ?_, by simpa using hfault⟩
  rw [String.toList_ofList, hscan, Scan.result]

end Interruption

end Config.Token

/-- What is left of a text that cannot be read to its end are the tokens of the text before the
token at fault, unless a filter is too long, of which nothing is read. -/
theorem scan_interrupted (s : String) :
    (∀ e, (Filter.Token.scan s).fault? = some e →
      (e = .tooLong s.utf8ByteSize ∧ (Filter.Token.scan s).tokens = []) ∨
      ∃ before rest : String, s = before ++ rest ∧
        (Filter.Token.scan before).result = .ok (Filter.Token.scan s).tokens ∧
        Filter.Token.IsFault (.behind before.toList) rest.toList e) ∧
    ∀ e, (Config.Token.scan s).fault? = some e →
      ∃ before rest : String, s = before ++ rest ∧
        (Config.Token.scan before).result = .ok (Config.Token.scan s).tokens ∧
        Config.Token.IsFault ((Config.Token.scan s).tokens.foldl Config.Token.Mode.behind .start)
          (.behind before.toList) rest.toList e := by
  constructor
  · intro e he
    by_cases hs : s.utf8ByteSize ≤ Filter.maxLength
    · right
      exact Filter.Token.exists_before hs he
    · left
      simp only [Filter.Token.scan, if_neg hs] at he ⊢
      cases he
      exact ⟨rfl, rfl⟩
  · intro e he
    exact Config.Token.exists_before he

theorem scan_interrupted_escape :
    let s := "k = 'x\\q'"
    (Filter.Token.scan s).fault? = some (.unexpectedChar '=' ⟨1, 3⟩) ∧
      (Config.Token.scan s).fault? = some (.invalidEscape 'q' ⟨1, 7⟩) ∧
      (∃ before rest : String, s = before ++ rest ∧
        (Filter.Token.scan before).result = .ok (Filter.Token.scan s).tokens ∧
        Filter.Token.IsFault (.behind before.toList) rest.toList (.unexpectedChar '=' ⟨1, 3⟩)) ∧
      ∃ before rest : String, s = before ++ rest ∧
        (Config.Token.scan before).result = .ok (Config.Token.scan s).tokens ∧
        Config.Token.IsFault ((Config.Token.scan s).tokens.foldl Config.Token.Mode.behind .start)
          (.behind before.toList) rest.toList (.invalidEscape 'q' ⟨1, 7⟩) := by
  intro s
  have hfilter : (Filter.Token.scan s).fault? = some (.unexpectedChar '=' ⟨1, 3⟩) := by decide +kernel
  have hconfig : (Config.Token.scan s).fault? = some (.invalidEscape 'q' ⟨1, 7⟩) := by decide +kernel
  refine ⟨hfilter, hconfig, ?_, (scan_interrupted s).2 _ hconfig⟩
  exact ((scan_interrupted s).1 _ hfilter).resolve_left fun h => nomatch h.1

end RowFilter
