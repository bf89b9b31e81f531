import RowFilter.Proofs.Number.Writing

/-! A number is printed as it was written. Only a zero loses its sign. -/

namespace RowFilter

namespace Number

/-- `0|[1-9][0-9]*` -/
inductive IsWhole : List Char → Prop
  | zero : IsWhole ['0']
  | digits {c : Char} {cs : List Char} (hc : c.isDigit = true) (hz : c ≠ '0')
      (h : ∀ d ∈ cs, d.isDigit = true) : IsWhole (c :: cs)

/-- `-?(0|[1-9][0-9]*)` -/
inductive WritesInteger : Int → List Char → Prop
  | signed (negative : Bool) {whole : List Char} (h : IsWhole whole) :
      WritesInteger (withSign negative (Nat.ofDigitChars 10 whole 0))
        ((if negative then ['-'] else []) ++ whole)

/-- `-?(0|[1-9][0-9]*)\.[0-9]+`, with all digits as one number, and how many stand behind the point.
-/
inductive WritesDecimal : Int → Nat → List Char → Prop
  | signed (negative : Bool) {whole fraction : List Char} (h : IsWhole whole) (hne : fraction ≠ [])
      (hf : ∀ c ∈ fraction, c.isDigit = true) :
      WritesDecimal (withSign negative (Nat.ofDigitChars 10 (whole ++ fraction) 0)) fraction.length
        ((if negative then ['-'] else []) ++ (whole ++ '.' :: fraction))

def FitsInteger (n : Int) : Prop := -2 ^ 63 ≤ n ∧ n < 2 ^ 63

instance : DecidablePred FitsInteger := fun _ => inferInstanceAs (Decidable (_ ∧ _))

def FitsDecimal (n : Int) (scale : Nat) : Prop := n.natAbs < 2 ^ 96 ∧ scale ≤ 28

section Digits

variable {c : Char} {cs : List Char}

lemma digit_lt (h : c.isDigit = true) : c.toNat - '0'.toNat < 10 := by
  have hu : c.toNat ≤ 57 := (Char.isDigit_iff_toNat.mp h).2
  change c.toNat - 48 < 10
  omega

lemma toDigits_digit (h : c.isDigit = true) : Nat.toDigits 10 (c.toNat - '0'.toNat) = [c] := by
  have hl : 48 ≤ c.toNat := (Char.isDigit_iff_toNat.mp h).1
  have hn := Nat.toNat_digitChar_of_lt_ten (digit_lt h)
  have hc : 48 + (c.toNat - '0'.toNat) = c.toNat := Nat.add_sub_of_le hl
  rw [hc, Char.toNat_inj] at hn
  rw [Nat.toDigits_of_lt_base (digit_lt h), hn]

lemma digit_pos (h : c.isDigit = true) (hz : c ≠ '0') : 0 < c.toNat - '0'.toNat := by
  have hl : 48 ≤ c.toNat := (Char.isDigit_iff_toNat.mp h).1
  have hne : c.toNat ≠ 48 := fun he => hz (Char.toNat_inj.mp he)
  change 0 < c.toNat - 48
  omega

lemma toDigits_append {n : Nat} (hn : 0 < n) (h : ∀ c ∈ cs, c.isDigit = true) :
    Nat.toDigits 10 n ++ cs = Nat.toDigits 10 (Nat.ofDigitChars 10 cs n) := by
  induction cs generalizing n with
  | nil => rw [List.append_nil, Nat.ofDigitChars_nil]
  | cons c cs ih =>
    rw [List.forall_mem_cons] at h
    have hd := Nat.toDigits_append_toDigits (by decide : 1 < 10) hn (digit_lt h.1)
    rw [toDigits_digit h.1] at hd
    rw [Nat.ofDigitChars_cons, ← ih (by omega) h.2, ← hd, List.append_assoc, List.singleton_append]

lemma exists_replicate_zero (hne : cs ≠ []) (h : ∀ c ∈ cs, c.isDigit = true) :
    ∃ k, cs = List.replicate k '0' ++ Nat.toDigits 10 (Nat.ofDigitChars 10 cs 0) := by
  induction cs with
  | nil => exact absurd rfl hne
  | cons c cs ih =>
    rw [List.forall_mem_cons] at h
    rw [Nat.ofDigitChars_cons, Nat.mul_zero, Nat.zero_add]
    by_cases hz : c = '0'
    · subst hz
      by_cases hcs : cs = []
      · subst hcs
        exact ⟨0, rfl⟩
      · obtain ⟨k, hk⟩ := ih hcs h.2
        exact ⟨k + 1, congrArg ('0' :: ·) hk⟩
    · refine ⟨0, ?_⟩
      rw [← toDigits_append (digit_pos h.1 hz) h.2, toDigits_digit h.1]
      rfl

end Digits

namespace IsWhole

variable {whole fraction : List Char} {n : Nat} (h : IsWhole whole)
include h

lemma ne_nil : whole ≠ [] := by
  cases h <;> exact List.cons_ne_nil _ _

lemma isDigit_of_mem {c : Char} (hc : c ∈ whole) : c.isDigit = true := by
  cases h with
  | zero =>
    rw [List.mem_singleton.mp hc]
    rfl
  | digits hd hz htail =>
    rcases List.mem_cons.mp hc with rfl | hc
    · exact hd
    · exact htail c hc

lemma padded (hf : ∀ c ∈ fraction, c.isDigit = true)
    (hn : Nat.ofDigitChars 10 (whole ++ fraction) 0 = n) :
    List.replicate (fraction.length + 1 - (Nat.toDigits 10 n).length) '0' ++ Nat.toDigits 10 n =
      whole ++ fraction := by
  have hdigit : ∀ c ∈ whole ++ fraction, c.isDigit = true := fun c hc =>
    (List.mem_append.mp hc).elim h.isDigit_of_mem (hf c)
  obtain ⟨k, hk⟩ :=
    exists_replicate_zero (List.append_ne_nil_of_left_ne_nil h.ne_nil fraction) hdigit
  rw [hn] at hk
  have hlen := congrArg List.length hk
  rw [List.length_append, List.length_append, List.length_replicate] at hlen
  suffices hzeros : fraction.length + 1 - (Nat.toDigits 10 n).length = k by rw [hzeros, ← hk]
  cases h with
  | zero =>
    rw [List.length_singleton] at hlen
    omega
  | digits hd hz htail =>
    -- the first digit is no zero, so it is that of the value
    obtain rfl : k = 0 := by
      cases k with
      | zero => rfl
      | succ k => exact absurd (List.cons.inj hk).1 hz
    rw [List.length_cons] at hlen
    omega

lemma toDigits (hn : Nat.ofDigitChars 10 whole 0 = n) : Nat.toDigits 10 n = whole := by
  have hp := h.padded (List.forall_mem_nil _) (by rw [List.append_nil, hn])
  have hpos : (Nat.toDigits 10 n).length ≠ 0 := by simp [Nat.toDigits_ne_nil]
  rwa [List.append_nil, List.length_nil, Nat.sub_eq_zero_of_le (by omega), List.replicate_zero,
    List.nil_append] at hp

lemma isDigit_of_mem_head? (tail : List Char) : ∀ c ∈ (whole ++ tail).head?, c.isDigit = true :=
  Number.isDigit_of_mem_head? h.ne_nil (fun _ => h.isDigit_of_mem) tail

lemma splitSign (negative : Bool) (tail : List Char) :
    splitSign ((if negative then ['-'] else []) ++ (whole ++ tail)) = (negative, whole ++ tail) := by
  rw [splitSign_digits (h.isDigit_of_mem_head? tail), Bool.decide_eq_true]

end IsWhole

lemma natAbs_withSign (negative : Bool) (n : Nat) : (withSign negative n).natAbs = n := by
  cases negative <;> simp [withSign]

lemma sign_withSign {negative : Bool} {n : Nat} (hn : withSign negative n ≠ 0) :
    (if withSign negative n < 0 then ['-'] else []) = if negative then ['-'] else [] := by
  have hlt : withSign negative n < 0 ↔ negative = true := by
    cases negative
    · simp [withSign]
    · simp only [withSign, if_true] at hn ⊢
      simp
      omega
  simp only [hlt]

lemma int64?_signed (negative : Bool) {ds : List Char} (hne : ds ≠ [])
    (hd : ∀ d ∈ ds, d.isDigit = true) :
    int64? ((if negative then ['-'] else []) ++ ds) =
      if FitsInteger (withSign negative (Nat.ofDigitChars 10 ds 0)) then
        some (Int64.ofInt (withSign negative (Nat.ofDigitChars 10 ds 0)))
      else none := by
  have hs := splitSign_digits (isDigit_of_mem_head? hne hd []) (negative = true)
  have hdigits : isDigits ds = true := isDigits_of_ne_nil hne hd
  have hmin : Int64.minValue.toInt = -2 ^ 63 := rfl
  have hmax : Int64.maxValue.toInt = 2 ^ 63 - 1 := rfl
  rw [List.append_nil] at hs
  rw [int64?, hs]
  simp only [ofDigits_eq, hdigits, hmin, hmax, Int.le_sub_one_iff, Bool.true_and, Bool.and_eq_true,
    decide_eq_true_eq, Bool.decide_eq_true, FitsInteger]
  rfl

namespace WritesInteger

variable {n : Int} {w : List Char} (h : WritesInteger n w)
include h

lemma int64?_eq : int64? w = if FitsInteger n then some (Int64.ofInt n) else none := by
  obtain ⟨negative, hw⟩ := h
  exact int64?_signed negative hw.ne_nil fun _ => hw.isDigit_of_mem

lemma toString_eq : toString n = String.ofList (if w = ['-', '0'] then ['0'] else w) := by
  rw [← String.toList_inj, toList_toString, String.toList_ofList, written]
  cases h with
  | @signed negative whole hw =>
    by_cases hn : withSign negative (Nat.ofDigitChars 10 whole 0) = 0
    · have hzero := congrArg Int.natAbs hn
      rw [natAbs_withSign] at hzero
      obtain rfl : ['0'] = whole := hw.toDigits hzero
      cases negative <;> rfl
    · have hw0 : (if negative then ['-'] else []) ++ whole ≠ ['-', '0'] := by
        intro he
        have hs := hw.splitSign negative []
        rw [List.append_nil, he] at hs
        obtain ⟨rfl, rfl⟩ := Prod.mk.inj hs
        exact hn rfl
      rw [if_neg hw0, sign_withSign hn, natAbs_withSign, hw.toDigits rfl]

end WritesInteger

end Number

namespace Decimal

open Number

variable {n : Int} {k : Nat} {w : List Char}

lemma ofParts?_eq_some_iff {d : Decimal} :
    ofParts? n k = some d ↔ d.coefficient = n ∧ d.scale = k := by
  rw [ofParts?]
  split
  · next h =>
    obtain ⟨m, l, hm, hl⟩ := d
    simp [eq_comm]
  · next h =>
    simp only [reduceCtorEq, false_iff]
    rintro ⟨rfl, rfl⟩
    exact h ⟨d.coefficient_lt, d.scale_le⟩

lemma ofParts?_eq_none_iff : ofParts? n k = none ↔ ¬ FitsDecimal n k := by
  rw [ofParts?]
  split
  · next h => exact iff_of_false nofun (not_not.mpr h)
  · next h => exact iff_of_true rfl h

lemma read?_fraction_long {cs : List Char} (h : ∀ c ∈ cs, c.isDigit = true) (v : Nat) (hk : k ≤ 28)
    (hl : 28 < k + cs.length) : read? ⟨v, true, some k⟩ cs = none := by
  induction cs generalizing v k with
  | nil => exact absurd hl (by simpa using hk)
  | cons c cs ih =>
    rw [List.forall_mem_cons] at h
    rw [List.length_cons] at hl
    rw [read?]
    by_cases hk' : k = 28
    · rw [if_pos (congrArg some hk')]
    · rw [if_neg fun he => hk' (Option.some.inj he), if_pos h.1]
      have hk1 : k + 1 ≤ 28 := by omega
      have hl1 : 28 < k + 1 + cs.length := by omega
      exact ih h.2 _ hk1 hl1

lemma ofText?_eq (h : WritesDecimal n k w) : ofText? w = ofParts? n k := by
  cases h with
  | @signed negative whole fraction hw hne hf =>
    have hstart : (false || !whole.isEmpty) = true := by simpa using hw.ne_nil
    rw [ofText?, hw.splitSign negative]
    simp only
    rw [read?_digits 0 (fun _ => hw.isDigit_of_mem), hstart, read?, if_neg (by simp),
      if_neg (by decide), if_pos ⟨rfl, rfl⟩]
    by_cases hl : fraction.length ≤ 28
    · rw [read?_fraction _ hf (by simpa using hl), Option.bind_some, Nat.ofDigitChars_append,
        Option.getD_some, Nat.zero_add]
    · rw [read?_fraction_long hf _ (Nat.zero_le _) (by omega), Option.bind_none, ofParts?,
        dif_neg fun hfit => hl hfit.2]

lemma scale_ne_zero (h : WritesDecimal n k w) : k ≠ 0 := by
  cases h with
  | signed negative hw hne hf => exact fun hk => hne (List.eq_nil_of_length_eq_zero hk)

lemma exists_ofText? (h : WritesDecimal n k w) (hn : FitsDecimal n k) :
    ∃ d, ofText? w = some d ∧ d.coefficient = n ∧ d.scale = k := by
  cases hd : ofParts? n k with
  | none => exact absurd hn (ofParts?_eq_none_iff.mp hd)
  | some d => exact ⟨d, (ofText?_eq h).trans hd, ofParts?_eq_some_iff.mp hd⟩

lemma text_eq {d : Decimal} (h : WritesDecimal n k w) (hn : d.coefficient = n) (hk : d.scale = k) :
    d.text = String.ofList (if n = 0 then (splitSign w).2 else w) := by
  cases h with
  | @signed negative whole fraction hw hne hf =>
    have hpadded : d.padded = whole ++ fraction := by
      rw [padded, hn, hk, natAbs_withSign]
      exact hw.padded hf rfl
    have hcut : d.padded.length - d.scale = whole.length := by
      rw [hpadded, hk, List.length_append, Nat.add_sub_cancel]
    have hwhole : d.whole = whole := by rw [Decimal.whole, hcut, hpadded, List.take_left]
    have hfraction : d.fraction = fraction := by rw [Decimal.fraction, hcut, hpadded, List.drop_left]
    have hscale : d.scale ≠ 0 := by simpa [hk] using hne
    rw [← String.toList_inj, toList_text, String.toList_ofList, hwhole, hfraction, if_neg hscale, hn,
      hw.splitSign negative, List.append_assoc]
    by_cases hz : withSign negative (Nat.ofDigitChars 10 (whole ++ fraction) 0) = 0
    · rw [if_pos hz, hz]
      rfl
    · rw [if_neg hz, sign_withSign hz]

end Decimal

end RowFilter
