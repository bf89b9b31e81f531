import RowFilter.Command.Compile
import RowFilter.Proofs.Filter.Layout
import RowFilter.Proofs.Filter.Refusal
import RowFilter.Proofs.Number.Form

namespace RowFilter

structure Scalar.Prints (s : Scalar) (text : String) : Prop where
  shown : s.text = text
  document : s.json = .string text ∨ ∀ l, s.json.write l = text

namespace Filter.Token

open Number (FitsDecimal FitsInteger IsWhole WritesDecimal WritesInteger)
open Text

variable {w : List Char} {n : Int} {k : Nat}

lemma isNumeral_iff {cs : List Char} : isNumeral cs = true ↔ IsWhole cs := by
  rw [isNumeral, Number.isDigits, Bool.and_eq_true, Bool.and_eq_true, List.all_eq_true,
    Bool.or_eq_true, beq_iff_eq, bne_iff_ne]
  constructor
  · rintro ⟨⟨hne, hd⟩, rfl | hz⟩
    · exact .zero
    · cases cs with
      | nil => cases hne
      | cons c cs =>
        rw [List.forall_mem_cons] at hd
        exact .digits hd.1 (fun hc => hz (congrArg some hc)) hd.2
  · intro h
    refine ⟨⟨by simpa using h.ne_nil, fun _ => h.isDigit_of_mem⟩, ?_⟩
    cases h with
    | zero => exact .inl rfl
    | digits hc hz h => exact .inr fun he => hz (Option.some.inj he)

lemma ofKeyword?_signed {whole : List Char} (h : IsWhole whole) (negative : Bool)
    (tail : List Char) :
    Kind.ofKeyword? (String.ofList ((if negative then ['-'] else []) ++ (whole ++ tail))) = none :=
  ofKeyword?_number h.ne_nil (fun _ => h.isDigit_of_mem) (negative = true) tail

lemma classify_integer (h : WritesInteger n w) :
    classify w = (Number.int64? w).map fun _ => .integer := by
  cases h with
  | @signed negative whole hw =>
    have hk := ofKeyword?_signed hw negative []
    have hm := dropMinus_digits (hw.isDigit_of_mem_head? []) (negative = true)
    have hp : '.' ∉ whole := not_mem_of_digits fun _ => hw.isDigit_of_mem
    rw [List.append_nil] at hk hm
    simp only [classify, hk, hm, takeWhile_no_point hp, dropWhile_no_point hp,
      isNumeral_iff.mpr hw, if_true]

lemma classify_decimal (h : WritesDecimal n k w) :
    classify w = (Decimal.ofText? w).map fun _ => .decimal := by
  cases h with
  | @signed negative whole fraction hw hne hf =>
    have hk := ofKeyword?_signed hw negative ('.' :: fraction)
    have hm := dropMinus_digits (hw.isDigit_of_mem_head? ('.' :: fraction)) (negative = true)
    have hp : '.' ∉ whole := not_mem_of_digits fun _ => hw.isDigit_of_mem
    simp only [classify, hk, hm, takeWhile_point hp, dropWhile_point hp, isNumeral_iff.mpr hw,
      Number.isDigits_of_ne_nil hne hf, Bool.and_self, if_true]

lemma exists_dropMinus (w : List Char) :
    ∃ negative : Bool, w = (if negative then ['-'] else []) ++ dropMinus w := by
  unfold dropMinus
  split
  · exact ⟨true, rfl⟩
  · exact ⟨false, rfl⟩

lemma classify_form (hk : Kind.ofKeyword? (String.ofList w) = none) :
    (∃ n, WritesInteger n w) ∨ (∃ n k, WritesDecimal n k w) ∨ classify w = some .word := by
  obtain ⟨negative, hw⟩ := exists_dropMinus w
  have hcut := List.takeWhile_append_dropWhile (p := (· != '.')) (l := dropMinus w)
  rw [classify, hk]
  simp only
  split
  · next hd =>
    rw [hd, List.append_nil] at hcut
    split
    · next hi =>
      rw [hcut, isNumeral_iff] at hi
      rw [hw]
      exact .inl ⟨_, .signed negative hi⟩
    · exact .inr (.inr rfl)
  · next c fraction hd =>
    split
    · next hi =>
      rw [Bool.and_eq_true, isNumeral_iff, Number.isDigits, Bool.and_eq_true, List.all_eq_true] at hi
      obtain ⟨hi, hne, hf⟩ := hi
      have hc := List.head?_dropWhile_not (· != '.') (dropMinus w)
      rw [hd] at hc
      obtain rfl : c = '.' := by simpa using hc
      rw [hw, ← hcut, hd]
      exact .inr (.inl ⟨_, _, .signed negative hi (by simpa using hne) hf⟩)
    · exact .inr (.inr rfl)

inductive Classified (w : List Char) : Option Kind → Prop
  | keyword {kind : Kind} (h : kind ∉ [.word, .integer, .decimal]) : Classified w (some kind)
  | integer {n : Int} (h : WritesInteger n w) (hn : FitsInteger n) : Classified w (some .integer)
  | decimal {n : Int} {k : Nat} (h : WritesDecimal n k w) (hn : FitsDecimal n k) :
      Classified w (some .decimal)
  | outOfRange (h : (∃ n, WritesInteger n w ∧ ¬ FitsInteger n) ∨
      ∃ n k, WritesDecimal n k w ∧ ¬ FitsDecimal n k) : Classified w none
  | word (hk : Kind.ofKeyword? (String.ofList w) = none) (hi : ∀ n, ¬ WritesInteger n w)
      (hd : ∀ n k, ¬ WritesDecimal n k w) : Classified w (some .word)

lemma ofKeyword?_kind {s : String} {kind : Kind} (h : Kind.ofKeyword? s = some kind) :
    kind ∉ [.word, .integer, .decimal] := by
  obtain ⟨l, r, hkeywords, -⟩ := List.lookup_eq_some_iff.mp h
  have hall : ∀ x ∈ Kind.keywords, x.2 ∉ [.word, .integer, .decimal] := by decide
  exact hall _ (hkeywords ▸ List.mem_append_cons_self)

lemma classified_classify (w : List Char) : Classified w (classify w) := by
  cases hk : Kind.ofKeyword? (String.ofList w) with
  | some kind =>
    rw [classify, hk]
    exact .keyword (ofKeyword?_kind hk)
  | none =>
    rcases classify_form hk with ⟨n, h⟩ | ⟨n, k, h⟩ | h
    · rw [classify_integer h, h.int64?_eq]
      split
      · next hn => exact .integer h hn
      · next hn => exact .outOfRange (.inl ⟨n, h, hn⟩)
    · rw [classify_decimal h, Decimal.ofText?_eq h]
      cases hd : Decimal.ofParts? n k with
      | none => exact .outOfRange (.inr ⟨n, k, h, Decimal.ofParts?_eq_none_iff.mp hd⟩)
      | some d =>
        obtain ⟨rfl, rfl⟩ := Decimal.ofParts?_eq_some_iff.mp hd
        exact .decimal h ⟨d.coefficient_lt, d.scale_le⟩
    · rw [h]
      refine .word hk (fun n hn => ?_) fun n k hn => ?_
      · rw [classify_integer hn] at h
        obtain ⟨_, -, he⟩ := Option.map_eq_some_iff.mp h
        cases he
      · rw [classify_decimal hn] at h
        obtain ⟨_, -, he⟩ := Option.map_eq_some_iff.mp h
        cases he

lemma classify_eq_integer_iff :
    classify w = some .integer ↔
      Kind.ofKeyword? (String.ofList w) = none ∧ ∃ n, WritesInteger n w ∧ FitsInteger n := by
  constructor
  · intro h
    have hs := classified_classify w
    rw [h] at hs
    cases hs with
    | keyword hk => exact absurd (by simp) hk
    | @integer n h hn =>
      refine ⟨?_, n, h, hn⟩
      obtain ⟨negative, hw⟩ := h
      simpa using ofKeyword?_signed hw negative []
  · rintro ⟨-, n, h, hn⟩
    rw [classify_integer h, h.int64?_eq, if_pos hn]
    rfl

lemma classify_eq_decimal_iff :
    classify w = some .decimal ↔
      Kind.ofKeyword? (String.ofList w) = none ∧ ∃ n k, WritesDecimal n k w ∧ FitsDecimal n k := by
  constructor
  · intro h
    have hs := classified_classify w
    rw [h] at hs
    cases hs with
    | keyword hk => exact absurd (by simp) hk
    | @decimal n k h hn =>
      refine ⟨?_, n, k, h, hn⟩
      obtain ⟨negative, hw, -, -⟩ := h
      exact ofKeyword?_signed hw negative _
  · rintro ⟨-, n, k, h, hn⟩
    obtain ⟨d, hd, -, -⟩ := Decimal.exists_ofText? h hn
    rw [classify_decimal h, hd]
    rfl

lemma classify_eq_none_iff :
    classify w = none ↔ (∃ n, WritesInteger n w ∧ ¬ FitsInteger n) ∨
      ∃ n k, WritesDecimal n k w ∧ ¬ FitsDecimal n k := by
  constructor
  · intro h
    have hs := classified_classify w
    rw [h] at hs
    cases hs with
    | outOfRange h => exact h
  · rintro (⟨n, h, hn⟩ | ⟨n, k, h, hn⟩)
    · rw [classify_integer h, h.int64?_eq, if_neg hn]
      rfl
    · rw [classify_decimal h, Decimal.ofText?_eq h, Decimal.ofParts?_eq_none_iff.mpr hn]
      rfl

lemma classify_eq_word_iff :
    classify w = some .word ↔ Kind.ofKeyword? (String.ofList w) = none ∧
      (∀ n, ¬ WritesInteger n w) ∧ ∀ n k, ¬ WritesDecimal n k w := by
  constructor
  · intro h
    have hs := classified_classify w
    rw [h] at hs
    cases hs with
    | keyword hk => exact absurd (by simp) hk
    | word hk hi hd => exact ⟨hk, hi, hd⟩
  · rintro ⟨hk, hi, hd⟩
    rcases classify_form hk with ⟨n, h⟩ | ⟨n, k, h⟩ | h
    · exact absurd h (hi n)
    · exact absurd h (hd n k)
    · exact h

lemma exists_integer (h : classify w = some .integer) :
    ∃ m, Number.int64? w = some m ∧
      (Scalar.integer m).Prints (String.ofList (if w = ['-', '0'] then ['0'] else w)) := by
  obtain ⟨-, n, hw, hn⟩ := classify_eq_integer_iff.mp h
  have ht : toString (Int64.ofInt n).toInt = String.ofList (if w = ['-', '0'] then ['0'] else w) := by
    rw [Int64.toInt_ofInt_of_le hn.1 hn.2, hw.toString_eq]
  exact ⟨_, hw.int64?_eq.trans (if_pos hn), ht, .inr fun _ => ht⟩

lemma exists_decimal (h : classify w = some .decimal) :
    ∃ d, Decimal.ofText? w = some d ∧ WritesDecimal d.coefficient d.scale w ∧
      (Scalar.decimal d).Prints
        (String.ofList (if d.coefficient = 0 then (Number.splitSign w).2 else w)) := by
  obtain ⟨-, n, k, hw, hn⟩ := classify_eq_decimal_iff.mp h
  obtain ⟨d, hd, rfl, rfl⟩ := Decimal.exists_ofText? hw hn
  have ht := Decimal.text_eq hw rfl rfl
  exact ⟨d, hd, hw, ht, .inl (congrArg Json.string ht)⟩

lemma Spells.parses {t : Token} {span : List Char} (h : Spells t span) : t.Parses := by
  cases h with
  | mark p h =>
    have hall : ∀ x ∈ marks, x.2 ≠ .integer ∧ x.2 ≠ .decimal := by decide
    exact ⟨fun hk => absurd hk (hall _ h).1, fun hk => absurd hk (hall _ h).2⟩
  | quoted p hq h => exact ⟨nofun, nofun⟩
  | word p hw hk =>
    constructor
    · rintro rfl
      obtain ⟨m, hm, -⟩ := exists_integer hk
      exact ⟨m, by rwa [String.toList_ofList]⟩
    · rintro rfl
      obtain ⟨d, hd, -⟩ := exists_decimal hk
      exact ⟨d, by rwa [String.toList_ofList]⟩

lemma exists_spells {s : String} {ts : List Token} {t : Token} (h : (scan s).result = .ok ts)
    (ht : t ∈ ts) : ∃ span, Spells t span := by
  rw [scan] at h
  split at h
  · obtain ⟨hf, rfl⟩ := Scan.result_eq_ok_iff.mp h
    obtain ⟨xs, tail, hl, -, hxs⟩ := exists_isLayout hf
    rw [← hxs] at ht
    obtain ⟨x, hx, rfl⟩ := List.mem_map.mp ht
    exact ⟨x.span, hl.span x hx⟩
  · cases h

lemma scanFrom_word (hw : IsWord w) {rest : List Char} (hr : EndsRun isWordChar rest)
    (p : Position) :
    scanFrom p (w ++ rest) =
      match classify w with
      | some kind => (scanFrom (p.after w) rest).cons ⟨kind, String.ofList w, p⟩
      | none => .fail (.numberOutOfRange (String.ofList w) p) := by
  cases hk : classify w with
  | some kind => exact (Spells.word p hw hk).scanFrom fun _ => hr
  | none =>
    obtain ⟨hne, hchar⟩ := hw
    obtain ⟨c, cs, rfl⟩ := List.exists_cons_of_ne_nil hne
    rw [List.forall_mem_cons] at hchar
    have hn := next_wordChar hchar.1 p (cs ++ rest)
    rw [takeWhile_run hchar.2 hr, hk] at hn
    exact scanFrom_fail (isBlank_of_isWordChar hchar.1) hn

end Filter.Token

namespace Filter.Tree

open Number (FitsDecimal FitsInteger WritesDecimal WritesInteger)
open Text (EndsRun)
open Token (IsWord classify isWordChar scanFrom)

lemma Stops.expected?_ne {ts : List Token} {e : ParseError} (hts : ∀ t ∈ ts, t.Parses)
    (h : Stops ts e) : e.expected? ≠ some .integer ∧ e.expected? ≠ some .decimal := by
  have hstate : ∀ s : State, some s.expected ≠ some .integer ∧ some s.expected ≠ some .decimal :=
    fun s => ⟨fun h => s.expected_ne.1 (Option.some.inj h),
      fun h => s.expected_ne.2 (Option.some.inj h)⟩
  cases h with
  | empty h => exact ⟨nofun, nofun⟩
  | @token l r t s e h hs he =>
    cases State.refuses_of_step he with
    | unexpected => exact hstate s
    | value hx =>
      subst h
      rw [(hts t List.mem_append_cons_self).eq_value hx]
      exact ⟨nofun, nofun⟩
    | construct hx =>
      rw [(Construct.of_fault? hx).1]
      exact ⟨nofun, nofun⟩
  | finish hne hs he => exact hstate _

lemma expected?_of_ofText {s : String} {e : ParseError} (h : ofText s = .error (.parse e)) :
    e.expected? ≠ some .integer ∧ e.expected? ≠ some .decimal := by
  rw [ofText] at h
  cases hs : (Token.scan s).result with
  | error e' =>
    rw [hs] at h
    cases h
  | ok ts =>
    rw [hs] at h
    have hts : ∀ t ∈ ts, t.Parses := by
      intro t ht
      obtain ⟨span, hspan⟩ := Token.exists_spells hs ht
      exact hspan.parses
    cases he : ofTokens ts with
    | ok tree =>
      simp only [he] at h
      cases h
    | error e' =>
      simp only [he] at h
      cases h
      exact (stops_of_ofTokens he).expected?_ne hts

/-- A word that is no keyword is an integer or a decimal just if it has the form of one and the
number fits its type, and plain text just if it has neither form; a number that does not fit is told
as such. A number is printed as it was written, but for the sign of a zero, and plain text is kept.
So no token that has been read as a number fails to be one. -/
theorem classify_number :
    (∀ w : List Char,
      (classify w = some .integer ↔ Kind.ofKeyword? (String.ofList w) = none ∧
        ∃ n, WritesInteger n w ∧ FitsInteger n) ∧
      (classify w = some .decimal ↔ Kind.ofKeyword? (String.ofList w) = none ∧
        ∃ n k, WritesDecimal n k w ∧ FitsDecimal n k) ∧
      (classify w = none ↔ (∃ n, WritesInteger n w ∧ ¬ FitsInteger n) ∨
        ∃ n k, WritesDecimal n k w ∧ ¬ FitsDecimal n k) ∧
      (classify w = some .word ↔ Kind.ofKeyword? (String.ofList w) = none ∧
        (∀ n, ¬ WritesInteger n w) ∧ ∀ n k, ¬ WritesDecimal n k w)) ∧
    (∀ w rest p, IsWord w → EndsRun isWordChar rest →
      scanFrom p (w ++ rest) =
        match classify w with
        | some kind => (scanFrom (p.after w) rest).cons ⟨kind, String.ofList w, p⟩
        | none => .fail (.numberOutOfRange (String.ofList w) p)) ∧
    (∀ w p, classify w = some .integer →
      ∃ m, Literal.ofToken ⟨.integer, String.ofList w, p⟩ = .ok (.scalar (.integer m)) ∧
        (Scalar.integer m).Prints (String.ofList (if w = ['-', '0'] then ['0'] else w))) ∧
    (∀ w p, classify w = some .decimal →
      ∃ d, Literal.ofToken ⟨.decimal, String.ofList w, p⟩ = .ok (.scalar (.decimal d)) ∧
        WritesDecimal d.coefficient d.scale w ∧ (Scalar.decimal d).Prints
          (String.ofList (if d.coefficient = 0 then (Number.splitSign w).2 else w))) ∧
    (∀ w p, classify w = some .word →
      Literal.ofToken ⟨.word, String.ofList w, p⟩ = .ok (.scalar (.string (String.ofList w)))) ∧
    ∀ s e, ofText s = .error (.parse e) →
      e.expected? ≠ some .integer ∧ e.expected? ≠ some .decimal := by
  refine ⟨fun w => ⟨Token.classify_eq_integer_iff, Token.classify_eq_decimal_iff,
    Token.classify_eq_none_iff, Token.classify_eq_word_iff⟩,
    fun w rest p hw hr => Token.scanFrom_word hw hr p, fun w p hw => ?_, fun w p hw => ?_,
    fun w p _ => rfl, fun s e => expected?_of_ofText⟩
  · obtain ⟨m, hm, hprints⟩ := Token.exists_integer hw
    refine ⟨m, ?_, hprints⟩
    simp only [Literal.ofToken, String.toList_ofList, hm]
  · obtain ⟨d, hd, hw, hprints⟩ := Token.exists_decimal hw
    refine ⟨d, ?_, hw, hprints⟩
    simp only [Literal.ofToken, String.toList_ofList, hd]

theorem classify_number_minus_zero_and_limit :
    (classify ['-', '0'] = some .integer ∧
      ∃ m, Literal.ofToken ⟨.integer, "-0", .start⟩ = .ok (.scalar (.integer m)) ∧
        (Scalar.integer m).Prints "0") ∧
    (classify ['-', '0', '.', '5', '0'] = some .decimal ∧
      ∃ d, Literal.ofToken ⟨.decimal, "-0.50", .start⟩ = .ok (.scalar (.decimal d)) ∧
        WritesDecimal d.coefficient d.scale ['-', '0', '.', '5', '0'] ∧
        (Scalar.decimal d).Prints "-0.50") ∧
    IsWord "9223372036854775808".toList ∧ EndsRun isWordChar [','] ∧
      scanFrom .start ("9223372036854775808".toList ++ [',']) =
        .fail (.numberOutOfRange "9223372036854775808" .start) := by
  obtain ⟨hkind, hscan, hinteger, hdecimal, -⟩ := classify_number
  have hzero : classify ['-', '0'] = some .integer := by decide +kernel
  have hhalf : classify ['-', '0', '.', '5', '0'] = some .decimal := by decide +kernel
  obtain ⟨d, hd, hwrites, hprints⟩ := hdecimal ['-', '0', '.', '5', '0'] .start hhalf
  have hvalue : Literal.ofToken ⟨.decimal, "-0.50", .start⟩ = .ok (.scalar (.decimal ⟨-50, 2, by decide,
      by decide⟩)) := by rfl
  obtain rfl := Scalar.decimal.inj (Literal.scalar.inj (Except.ok.inj (hvalue.symm.trans hd)))
  have hlimit : "9223372036854775808".toList = '9' :: "223372036854775808".toList := rfl
  have hdigits : "223372036854775808".toList.all Char.isDigit = true := by decide +kernel
  rw [List.all_eq_true] at hdigits
  have hwhole : Number.IsWhole "9223372036854775808".toList := by
    rw [hlimit]
    exact .digits rfl (by decide) hdigits
  have hword : IsWord "9223372036854775808".toList :=
    Token.isWord_of_isAlphanum hwhole.ne_nil fun c hc =>
      Text.isAlphanum_of_isDigit (hwhole.isDigit_of_mem hc)
  have hends : EndsRun isWordChar [','] := Token.isMark_comma.endsRun []
  have hfits : ¬ FitsInteger (Number.withSign false
      (Nat.ofDigitChars 10 "9223372036854775808".toList 0)) := by decide +kernel
  have hnone : classify "9223372036854775808".toList = none :=
    (hkind _).2.2.1.mpr (.inl ⟨_, .signed false hwhole, hfits⟩)
  have hfail := hscan _ [','] .start hword hends
  rw [hnone] at hfail
  exact ⟨⟨hzero, hinteger ['-', '0'] .start hzero⟩, ⟨hhalf, _, hd, hwrites, hprints⟩, hword, hends,
    hfail⟩

end Filter.Tree

end RowFilter
