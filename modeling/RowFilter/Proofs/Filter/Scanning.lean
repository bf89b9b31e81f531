import RowFilter.Filter.Token.Lexer
import RowFilter.Filter.Tree.Parser
import RowFilter.Proofs.Number.Writing
import RowFilter.Proofs.Text.Ascii
import RowFilter.Proofs.Text.Quoted
import RowFilter.Proofs.Text.Scan

namespace RowFilter.Filter.Token

open Text

def Yields (p : Position) (cs : List Char) (ts : List Token) : Prop :=
  ∀ rest, EndsRun isWordChar rest →
    scanFrom p (cs ++ rest) = ts.foldr Scan.cons (scanFrom (p.after cs) rest)

section Compose

variable {p : Position} {cs ds : List Char} {ts us : List Token}

lemma Yields.append (h : Yields p cs ts) (h' : Yields (p.after cs) ds us)
    (he : EndsRun isWordChar ds) : Yields p (cs ++ ds) (ts ++ us) := by
  intro rest hr
  rw [List.append_assoc, h _ (he.append hr), h' rest hr, List.foldr_append, Position.after_append]

lemma scanFrom_fail {c : Char} {e : LexError} (hb : isBlank c = false)
    (h : next p c cs = .error e) : scanFrom p (c :: cs) = .fail e := by
  rw [scanFrom, if_neg (by simp [hb])]
  split
  · next e' he => rw [h] at he; cases he; rfl
  · next s hs => rw [h] at hs; cases hs

lemma scanFrom_cons {c : Char} {s : Span} (hb : isBlank c = false) (h : next p c cs = .ok s) :
    scanFrom p (c :: cs) = (scanFrom s.position s.rest).cons s.token := by
  rw [scanFrom, if_neg (by simp [hb])]
  split
  · next e he => rw [h] at he; cases he
  · next s' hs => rw [h] at hs; cases hs; rfl

end Compose

structure IsMark (c : Char) (kind : Kind) : Prop where
  next : ∀ p cs, next p c cs = single kind c p cs
  blank : isBlank c = false
  word : isWordChar c = false

lemma isMark_colon : IsMark ':' .colon := ⟨fun _ _ => rfl, by decide, by decide⟩

lemma isMark_comma : IsMark ',' .comma := ⟨fun _ _ => rfl, by decide, by decide⟩

lemma isMark_openBracket : IsMark '[' .openBracket := ⟨fun _ _ => rfl, by decide, by decide⟩

lemma isMark_closeBracket : IsMark ']' .closeBracket := ⟨fun _ _ => rfl, by decide, by decide⟩

section Marks

variable {p : Position} {c : Char} {kind : Kind} {cs : List Char} {ts : List Token}

lemma IsMark.endsRun (h : IsMark c kind) (cs : List Char) : EndsRun isWordChar (c :: cs) :=
  endsRun_cons h.word cs

lemma IsMark.yields (h : IsMark c kind) (hcs : Yields (p.step c) cs ts) :
    Yields p (c :: cs) (⟨kind, c.toString, p⟩ :: ts) := by
  intro rest hr
  rw [List.cons_append, scanFrom_cons h.blank (h.next p _)]
  exact congrArg (Scan.cons _) (hcs rest hr)

end Marks

lemma yields_nil {p : Position} : Yields p [] [] := fun _ _ => rfl

lemma Yields.close {p : Position} {cs : List Char} {ts : List Token} (h : Yields p cs ts) :
    Yields p (cs ++ [']']) (ts ++ [⟨.closeBracket, "]", p.after cs⟩]) :=
  h.append (isMark_closeBracket.yields yields_nil) (isMark_closeBracket.endsRun [])

lemma next_wordChar {c : Char} (hc : isWordChar c = true) (p : Position) (cs : List Char) :
    next p c cs =
      match classify (c :: cs.takeWhile isWordChar) with
      | some kind => .ok ⟨⟨kind, String.ofList (c :: cs.takeWhile isWordChar), p⟩,
          p.after (c :: cs.takeWhile isWordChar), cs.dropWhile isWordChar⟩
      | none => .error (.numberOutOfRange (String.ofList (c :: cs.takeWhile isWordChar)) p) := by
  unfold next
  split
  · exact absurd hc (by decide)
  · exact absurd hc (by decide)
  · exact absurd hc (by decide)
  · exact absurd hc (by decide)
  · have hq : ¬ (c = '"' ∨ c = '\'') := by
      rintro (rfl | rfl)
      · exact absurd hc (by decide)
      · exact absurd hc (by decide)
    exact (if_neg hq).trans (if_pos hc)

lemma next_word {p : Position} {c : Char} {cs : List Char} {kind : Kind}
    (hc : isWordChar c = true) (hk : classify (c :: cs.takeWhile isWordChar) = some kind) :
    next p c cs = .ok ⟨⟨kind, String.ofList (c :: cs.takeWhile isWordChar), p⟩,
      p.after (c :: cs.takeWhile isWordChar), cs.dropWhile isWordChar⟩ := by
  rw [next_wordChar hc, hk]

lemma yields_word {p : Position} {w : List Char} {kind : Kind} (hne : w ≠ [])
    (hw : ∀ c ∈ w, isWordChar c = true ∧ isBlank c = false) (hk : classify w = some kind) :
    Yields p w [⟨kind, String.ofList w, p⟩] := by
  obtain ⟨c, cs, rfl⟩ := List.exists_cons_of_ne_nil hne
  intro rest hr
  rw [List.forall_mem_cons] at hw
  obtain ⟨⟨hc, hb⟩, htail⟩ := hw
  have hcs : ∀ d ∈ cs, isWordChar d = true := fun d hd => (htail d hd).1
  have ht := takeWhile_run hcs hr
  have hd := dropWhile_run hcs hr
  have hk' : classify (c :: (cs ++ rest).takeWhile isWordChar) = some kind := by rw [ht]; exact hk
  have hn := next_word (p := p) hc hk'
  rw [List.cons_append, scanFrom_cons hb hn, ht, hd]
  rfl

section Quoted

variable {p : Position} {quote : Char} {cs : List Char} {s : String}

lemma isBlank_quote (hq : IsQuote quote) : isBlank quote = false := by
  rcases hq with rfl | rfl <;> decide

lemma next_quote (hq : IsQuote quote) (p : Position) (cs : List Char) :
    next p quote cs =
      match Quoted.read quote (p.step quote) cs with
      | .ok i => .ok ⟨⟨.string, String.ofList i.text, p⟩, i.position, i.rest⟩
      | .error e => .error (.ofQuoted p e) := by
  rcases hq with rfl | rfl <;> rfl

lemma next_quoted (hq : IsQuote quote) (h : Quoted.Encodes quote cs s.toList) (rest : List Char) :
    next p quote (cs ++ quote :: rest) =
      .ok ⟨⟨.string, s, p⟩, (p.step quote).after (cs ++ [quote]), rest⟩ := by
  rw [next_quote hq, Quoted.read_of_encodes hq h]
  simp only [String.ofList_toList]

lemma yields_quoted (hq : IsQuote quote) (h : Quoted.Encodes quote cs s.toList) :
    Yields p (quote :: (cs ++ [quote])) [⟨.string, s, p⟩] := by
  intro rest hr
  rw [List.cons_append, List.append_assoc, List.singleton_append,
    scanFrom_cons (isBlank_quote hq) (next_quoted hq h rest)]
  rfl

end Quoted

lemma isWordChar_of_isAlphanum {c : Char} (h : c.isAlphanum = true) :
    isWordChar c = true ∧ isBlank c = false :=
  ⟨by simp [isWordChar, isAlphanumeric_of_isAlphanum h], isBlank_of_isAlphanum h⟩

lemma yields_keyword {p : Position} {w : String} {kind : Kind} (h : (w, kind) ∈ Kind.keywords) :
    Yields p w.toList [⟨kind, w, p⟩] := by
  have hkind : ∀ x ∈ Kind.keywords, classify x.1.toList = some x.2 := by decide +kernel
  have hletters : ∀ x ∈ Kind.keywords, x.1.toList ≠ [] ∧ ∀ c ∈ x.1.toList, c.isAlphanum = true := by
    simp [Kind.keywords]
  obtain ⟨hne, hw⟩ := hletters _ h
  simpa using yields_word (p := p) hne (fun c hc => isWordChar_of_isAlphanum (hw c hc)) (hkind _ h)

lemma ofKeyword?_eq_none {w : String} {c : Char} {cs : List Char} (hw : w.toList = c :: cs)
    (hc : c.isAlpha = false) : Kind.ofKeyword? w = none := by
  have hl : c.toLower = c := by
    simp only [Char.isAlpha, Bool.or_eq_false_iff, Char.isUpper, decide_eq_false_iff_not] at hc
    exact dif_neg hc.1
  -- keywords begin with a letter
  have hletter : ∀ x ∈ Kind.keywords, ∃ d ∈ x.1.toList.head?, d.isAlpha = true := by
    simp [Kind.keywords]
  rw [Kind.ofKeyword?, List.lookup_eq_none_iff]
  intro x hx
  obtain ⟨d, hd, ha⟩ := hletter x hx
  rw [bne_iff_ne]
  intro he
  rw [← he, String.toList_map, hw, List.map_cons, hl] at hd
  obtain rfl := Option.some.inj hd
  rw [hc] at ha
  cases ha

lemma dropMinus_digits {cs : List Char} (h : ∀ c ∈ cs.head?, c.isDigit = true) (negative : Prop)
    [Decidable negative] : dropMinus ((if negative then ['-'] else []) ++ cs) = cs := by
  by_cases hn : negative
  · rw [if_pos hn]
    rfl
  · rw [if_neg hn, List.nil_append]
    unfold dropMinus
    split
    · exact absurd (h '-' rfl) (by decide)
    · rfl

lemma not_mem_of_digits {cs : List Char} (h : ∀ c ∈ cs, c.isDigit = true) : '.' ∉ cs :=
  fun hp => absurd (h _ hp) (by decide)

section Point

variable {cs : List Char} (h : '.' ∉ cs)
include h

lemma bne_point {c : Char} (hc : c ∈ cs) : (c != '.') = true := bne_iff_ne.mpr fun he => h (he ▸ hc)

lemma takeWhile_point (ds : List Char) : (cs ++ '.' :: ds).takeWhile (· != '.') = cs := by
  rw [List.takeWhile_append_of_pos fun _ => bne_point h, List.takeWhile_cons_of_neg (by simp),
    List.append_nil]

lemma dropWhile_point (ds : List Char) : (cs ++ '.' :: ds).dropWhile (· != '.') = '.' :: ds := by
  rw [List.dropWhile_append_of_pos fun _ => bne_point h, List.dropWhile_cons_of_neg (by simp)]

lemma takeWhile_no_point : cs.takeWhile (· != '.') = cs :=
  List.takeWhile_eq_self_iff.mpr fun _ => bne_point h

lemma dropWhile_no_point : cs.dropWhile (· != '.') = [] :=
  List.dropWhile_eq_nil_iff.mpr fun _ => bne_point h

end Point

lemma mem_key {key : String} (hv : isValidKey key = true) :
    ∀ c ∈ key.toList, c.isAlphanum = true ∨ c = '_' := by
  unfold isValidKey at hv
  split at hv
  · cases hv
  next c cs hcs =>
  rw [Bool.and_eq_true, List.all_eq_true, Bool.or_eq_true, beq_iff_eq] at hv
  rw [hcs, List.forall_mem_cons]
  exact ⟨hv.1.imp_left fun ha => by simp [Char.isAlphanum, ha],
    fun d hd => by simpa using hv.2 d hd⟩

lemma yields_key {p : Position} {key : String} (hv : isValidKey key = true)
    (hk : Kind.ofKeyword? key = none) : Yields p key.toList [⟨.word, key, p⟩] := by
  have hw := mem_key hv
  unfold isValidKey at hv
  split at hv
  · cases hv
  next c cs hcs =>
  rw [Bool.and_eq_true, List.all_eq_true] at hv
  have hdigit : c.isDigit = false := by
    by_contra hd
    have hc := hv.1
    rw [Bool.not_eq_false] at hd
    rw [isAlpha_of_isDigit hd, Bool.false_or, beq_iff_eq] at hc
    subst hc
    cases hd
  have hp : '.' ∉ key.toList := fun h => (hw _ h).elim (by decide) (by decide)
  have hminus : dropMinus key.toList = key.toList := by
    rw [hcs]
    unfold dropMinus
    split
    · next he =>
      cases he
      exact absurd hv.1 (by decide)
    · rfl
  have hkind : classify key.toList = some .word := by
    rw [classify, String.ofList_toList, hk]
    simp only [hminus, takeWhile_no_point hp, dropWhile_no_point hp]
    simp [isNumeral, Number.isDigits, hcs, hdigit]
  have hword : ∀ d ∈ key.toList, isWordChar d = true ∧ isBlank d = false := by
    intro d hd
    rcases hw d hd with ha | rfl
    · exact isWordChar_of_isAlphanum ha
    · exact ⟨by decide, by decide⟩
  simpa using yields_word (p := p) (by simp [hcs]) hword hkind

section Number

variable {whole tail : List Char} (hne : whole ≠ []) (hw : ∀ c ∈ whole, c.isDigit = true)
  (negative : Prop) [Decidable negative]
include hne hw

lemma ofKeyword?_number (tail : List Char) :
    Kind.ofKeyword? (String.ofList ((if negative then ['-'] else []) ++ (whole ++ tail))) = none := by
  obtain ⟨c, cs, rfl⟩ := List.exists_cons_of_ne_nil hne
  by_cases hn : negative
  · rw [if_pos hn]
    exact ofKeyword?_eq_none String.toList_ofList (by decide)
  · rw [if_neg hn]
    exact ofKeyword?_eq_none String.toList_ofList (isAlpha_of_isDigit (hw c List.mem_cons_self))

omit hne in
lemma isWordChar_number (ht : ∀ c ∈ tail, c.isDigit = true ∨ c = '.') :
    ∀ c ∈ (if negative then ['-'] else []) ++ (whole ++ tail),
      isWordChar c = true ∧ isBlank c = false := by
  have hchar : ∀ c ∈ (if negative then ['-'] else []) ++ (whole ++ tail),
      c.isDigit = true ∨ c = '-' ∨ c = '.' := by
    intro c hc
    rcases List.mem_append.mp hc with hc | hc
    · split at hc
      · exact .inr (.inl (List.mem_singleton.mp hc))
      · cases hc
    · exact (List.mem_append.mp hc).elim (fun hc => .inl (hw c hc)) fun hc => (ht c hc).imp_right .inr
  intro c hc
  rcases hchar c hc with hd | rfl | rfl
  · exact isWordChar_of_isAlphanum (isAlphanum_of_isDigit hd)
  · exact ⟨by decide, by decide⟩
  · exact ⟨by decide, by decide⟩

lemma yields_number {p : Position} {kind : Kind} (ht : ∀ c ∈ tail, c.isDigit = true ∨ c = '.')
    (hk : classify ((if negative then ['-'] else []) ++ (whole ++ tail)) = some kind) :
    Yields p ((if negative then ['-'] else []) ++ (whole ++ tail))
      [⟨kind, String.ofList ((if negative then ['-'] else []) ++ (whole ++ tail)), p⟩] := by
  refine yields_word ?_ (isWordChar_number hw negative ht) hk
  exact List.append_ne_nil_of_right_ne_nil _ (List.append_ne_nil_of_left_ne_nil hne _)

end Number

lemma isNumeral_toDigits (n : Nat) : isNumeral (Nat.toDigits 10 n) = true := by
  rw [isNumeral, Number.isDigits_toDigits, Bool.true_and, Bool.or_eq_true, beq_iff_eq, bne_iff_ne]
  by_cases hn : n = 0
  · left
    rw [hn, Nat.toDigits_zero]
  · exact .inr (Number.head?_toDigits_ne_zero hn)

lemma isNumeral_whole (d : Decimal) : isNumeral d.whole = true := by
  rw [isNumeral, Number.isDigits_of_ne_nil d.whole_ne_nil fun _ => d.isDigit_of_mem_whole,
    Bool.true_and, Bool.or_eq_true, beq_iff_eq, bne_iff_ne]
  exact d.whole_eq_zero_or

lemma yields_integer {p : Position} (n : Int64) :
    Yields p (toString n.toInt).toList [⟨.integer, toString n.toInt, p⟩] := by
  have hw : ∀ c ∈ Nat.toDigits 10 n.toInt.natAbs, c.isDigit = true := fun c hc =>
    Nat.isDigit_of_mem_toDigits (by decide) (by decide) hc
  have hne : Nat.toDigits 10 n.toInt.natAbs ≠ [] := Nat.toDigits_ne_nil
  have htext : (toString n.toInt).toList =
      (if n.toInt < 0 then ['-'] else []) ++ (Nat.toDigits 10 n.toInt.natAbs ++ []) := by
    rw [Number.toList_toString, Number.written, List.append_nil]
  have hread := Number.int64?_toString n
  have hp := not_mem_of_digits hw
  have hkind : classify (toString n.toInt).toList = some .integer := by
    rw [classify, hread, htext, ofKeyword?_number hne hw,
      dropMinus_digits (Number.isDigit_of_mem_head? hne hw [])]
    simp only [List.append_nil, takeWhile_no_point hp, dropWhile_no_point hp, isNumeral_toDigits]
    rfl
  rw [htext] at hkind
  have hy := yields_number (p := p) hne hw (n.toInt < 0) (List.forall_mem_nil _) hkind
  rwa [← htext, String.ofList_toList] at hy

lemma yields_decimal {p : Position} {d : Decimal} (hs : d.scale ≠ 0) :
    Yields p d.text.toList [⟨.decimal, d.text, p⟩] := by
  have hw : ∀ c ∈ d.whole, c.isDigit = true := fun _ => d.isDigit_of_mem_whole
  have hf : ∀ c ∈ d.fraction, c.isDigit = true := fun _ => d.isDigit_of_mem_fraction
  have htext : d.text.toList =
      (if d.coefficient < 0 then ['-'] else []) ++ (d.whole ++ '.' :: d.fraction) := by
    rw [d.toList_text, if_neg hs, List.append_assoc]
  have hread := d.ofText?_text
  have hp := not_mem_of_digits hw
  have hfrac : Number.isDigits d.fraction = true := by
    refine Number.isDigits_of_ne_nil ?_ hf
    exact List.ne_nil_of_length_pos (d.length_fraction ▸ Nat.pos_of_ne_zero hs)
  have hkind : classify d.text.toList = some .decimal := by
    rw [classify, hread, htext, ofKeyword?_number d.whole_ne_nil hw,
      dropMinus_digits (Number.isDigit_of_mem_head? d.whole_ne_nil hw _)]
    simp only [takeWhile_point hp, dropWhile_point hp, isNumeral_whole, hfrac]
    rfl
  rw [htext] at hkind
  have ht : ∀ c ∈ '.' :: d.fraction, c.isDigit = true ∨ c = '.' :=
    List.forall_mem_cons.mpr ⟨.inr rfl, fun c hc => .inl (hf c hc)⟩
  have hy := yields_number (p := p) d.whole_ne_nil hw (d.coefficient < 0) ht hkind
  rwa [← htext, String.ofList_toList] at hy

end RowFilter.Filter.Token
