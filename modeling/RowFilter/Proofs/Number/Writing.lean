import Mathlib
import RowFilter.Scalar

namespace RowFilter

namespace Number

lemma ofDigits_eq (cs : List Char) : ofDigits cs = Nat.ofDigitChars 10 cs 0 := rfl

lemma isDigits_of_ne_nil {cs : List Char} (hne : cs ≠ []) (h : ∀ c ∈ cs, c.isDigit = true) :
    isDigits cs = true := by
  rw [isDigits, Bool.and_eq_true, List.all_eq_true]
  exact ⟨by simpa using hne, h⟩

lemma isDigit_of_mem_head? {cs : List Char} (hne : cs ≠ []) (h : ∀ c ∈ cs, c.isDigit = true)
    (tail : List Char) : ∀ c ∈ (cs ++ tail).head?, c.isDigit = true := by
  intro c hc
  rw [List.head?_append_of_ne_nil _ hne] at hc
  exact h c (List.mem_of_mem_head? hc)

lemma isDigits_toDigits (n : Nat) : isDigits (Nat.toDigits 10 n) = true :=
  isDigits_of_ne_nil Nat.toDigits_ne_nil fun _ hc =>
    Nat.isDigit_of_mem_toDigits (by decide) (by decide) hc

lemma head?_toDigits_ne_zero {n : Nat} (h : n ≠ 0) : (Nat.toDigits 10 n).head? ≠ some '0' := by
  induction n using Nat.strongRecOn with
  | ind n ih =>
    rw [Nat.toDigits_eq_if (by decide)]
    split
    · next hn => interval_cases n <;> simp_all
    · next hn =>
      have hd : n / 10 ≠ 0 := by omega
      rw [List.head?_append_of_ne_nil _ Nat.toDigits_ne_nil]
      exact ih (n / 10) (by omega) hd

def written (n : Int) : List Char := (if n < 0 then ['-'] else []) ++ Nat.toDigits 10 n.natAbs

lemma toList_toString (n : Int) : (toString n).toList = written n := by
  rw [Int.toString_eq_repr, Int.repr_eq_if, written]
  by_cases h : 0 ≤ n
  · rw [if_pos h, if_neg (not_lt.mpr h), Nat.toList_repr]
    rw [List.nil_append, show n.toNat = n.natAbs by omega]
  · rw [if_neg h, if_pos (not_le.mp h), String.toList_append, Nat.toList_repr]
    rw [show (-n).toNat = n.natAbs by omega]
    rfl

lemma splitSign_digits {cs : List Char} (h : ∀ c ∈ cs.head?, c.isDigit = true) (negative : Prop)
    [Decidable negative] :
    splitSign ((if negative then ['-'] else []) ++ cs) = (decide negative, cs) := by
  by_cases hn : negative
  · rw [if_pos hn, decide_eq_true hn]
    rfl
  · rw [if_neg hn, decide_eq_false hn, List.nil_append]
    unfold splitSign
    split
    · exact absurd (h '-' rfl) (by decide)
    · exact absurd (h '+' rfl) (by decide)
    · rfl

lemma splitSign_written (n : Int) :
    splitSign (written n) = (decide (n < 0), Nat.toDigits 10 n.natAbs) := by
  refine splitSign_digits (fun c hc => ?_) (n < 0)
  exact Nat.isDigit_of_mem_toDigits (by decide) (by decide) (List.mem_of_mem_head? hc)

lemma withSign_natAbs (n : Int) : withSign (decide (n < 0)) n.natAbs = n := by
  by_cases h : n < 0
  · rw [withSign, decide_eq_true h, if_pos rfl]
    omega
  · rw [withSign, decide_eq_false h, if_neg (by decide)]
    omega

lemma int64?_toString (n : Int64) : int64? (toString n.toInt).toList = some n := by
  have hd := isDigits_toDigits n.toInt.natAbs
  have hmin : Int64.minValue.toInt ≤ n.toInt := n.minValue_le_toInt
  have hmax : n.toInt ≤ Int64.maxValue.toInt := n.toInt_le
  rw [toList_toString, int64?, splitSign_written]
  simp only [ofDigits_eq, Nat.ofDigitChars_ten_toDigits, withSign_natAbs, hd, Bool.true_and]
  rw [decide_eq_true hmin, decide_eq_true hmax, Int64.ofInt_toInt]
  rfl

end Number

namespace Decimal

open Number

section Parts

variable (d : Decimal)

def padded : List Char :=
  let digits := Nat.toDigits 10 d.coefficient.natAbs
  List.replicate (d.scale + 1 - digits.length) '0' ++ digits

def whole : List Char := d.padded.take (d.padded.length - d.scale)

def fraction : List Char := d.padded.drop (d.padded.length - d.scale)

lemma toList_text :
    d.text.toList = (if d.coefficient < 0 then ['-'] else []) ++ d.whole ++
      if d.scale = 0 then [] else '.' :: d.fraction :=
  String.toList_ofList

lemma whole_append_fraction : d.whole ++ d.fraction = d.padded := List.take_append_drop _ _

lemma scale_lt_length : d.scale < d.padded.length := by
  rw [padded, List.length_append, List.length_replicate]
  omega

lemma length_fraction : d.fraction.length = d.scale := by
  have h := d.scale_lt_length
  rw [fraction, List.length_drop]
  omega

lemma isDigit_of_mem_padded {c : Char} (h : c ∈ d.padded) : c.isDigit = true := by
  rcases List.mem_append.mp h with h | h
  · rw [List.eq_of_mem_replicate h]
    rfl
  · exact Nat.isDigit_of_mem_toDigits (by decide) (by decide) h

lemma isDigit_of_mem_whole {c : Char} (h : c ∈ d.whole) : c.isDigit = true :=
  d.isDigit_of_mem_padded (List.mem_of_mem_take h)

lemma isDigit_of_mem_fraction {c : Char} (h : c ∈ d.fraction) : c.isDigit = true :=
  d.isDigit_of_mem_padded (List.mem_of_mem_drop h)

lemma whole_ne_nil : d.whole ≠ [] := by
  have h := d.scale_lt_length
  intro he
  have hl := congrArg List.length he
  rw [whole, List.length_take, List.length_nil] at hl
  omega

lemma ofDigitChars_padded : Nat.ofDigitChars 10 d.padded 0 = d.coefficient.natAbs := by
  rw [padded, Nat.ofDigitChars_append, Nat.ofDigitChars_replicate_zero, Nat.mul_zero,
    Nat.ofDigitChars_ten_toDigits]

lemma whole_eq_zero_or : d.whole = ['0'] ∨ d.whole.head? ≠ some '0' := by
  -- when the zeros before the digits reach beyond the point, just one of them does
  by_cases hl : (Nat.toDigits 10 d.coefficient.natAbs).length ≤ d.scale
  · left
    have hlen : d.padded.length - d.scale = 1 := by
      rw [padded, List.length_append, List.length_replicate]
      omega
    rw [whole, hlen, padded, show d.scale + 1 - (Nat.toDigits 10 d.coefficient.natAbs).length =
      (d.scale - (Nat.toDigits 10 d.coefficient.natAbs).length) + 1 by omega]
    rfl
  · have hp : d.padded = Nat.toDigits 10 d.coefficient.natAbs := by
      rw [padded, show d.scale + 1 - (Nat.toDigits 10 d.coefficient.natAbs).length = 0 by omega]
      rfl
    by_cases hc : d.coefficient.natAbs = 0
    · left
      rw [hc, Nat.toDigits_zero, List.length_singleton] at hl
      rw [whole, hp, hc, Nat.toDigits_zero, show d.scale = 0 by omega]
      rfl
    · right
      have hpos : d.padded.length - d.scale ≠ 0 := Nat.sub_ne_zero_of_lt d.scale_lt_length
      rw [whole, List.head?_take, if_neg hpos, hp]
      exact head?_toDigits_ne_zero hc

end Parts

section Read

variable {cs : List Char} (v : Nat)

lemma read?_digits (h : ∀ c ∈ cs, c.isDigit = true) (started : Bool) (rest : List Char) :
    read? ⟨v, started, none⟩ (cs ++ rest) =
      read? ⟨Nat.ofDigitChars 10 cs v, started || !cs.isEmpty, none⟩ rest := by
  induction cs generalizing v started with
  | nil => simp
  | cons c cs ih =>
    have hc : c.isDigit = true := h c List.mem_cons_self
    rw [List.cons_append, read?, if_neg (by simp), if_pos hc, Nat.ofDigitChars_cons]
    simp [ih _ fun d hd => h d (List.mem_cons_of_mem c hd)]

lemma read?_fraction (h : ∀ c ∈ cs, c.isDigit = true) {k : Nat} (hk : k + cs.length ≤ 28) :
    read? ⟨v, true, some k⟩ cs = some ⟨Nat.ofDigitChars 10 cs v, true, some (k + cs.length)⟩ := by
  induction cs generalizing v k with
  | nil => simp [read?]
  | cons c cs ih =>
    have hc : c.isDigit = true := h c List.mem_cons_self
    rw [List.length_cons] at hk
    rw [read?, if_neg (by simp; omega), if_pos hc, Nat.ofDigitChars_cons, List.length_cons]
    have := ih (10 * v + (c.toNat - '0'.toNat)) (fun d hd => h d (List.mem_cons_of_mem c hd))
      (k := k + 1) (by omega)
    simpa [Nat.add_comm 1, Nat.add_assoc] using this

end Read

lemma read?_unsigned (d : Decimal) :
    read? ⟨0, false, none⟩ (d.whole ++ if d.scale = 0 then [] else '.' :: d.fraction) =
      some ⟨d.coefficient.natAbs, true, if d.scale = 0 then none else some d.scale⟩ := by
  have hw : ∀ c ∈ d.whole, c.isDigit = true := fun _ => d.isDigit_of_mem_whole
  have hv := d.ofDigitChars_padded
  rw [← whole_append_fraction] at hv
  have hne : (false || !d.whole.isEmpty) = true := by simpa using d.whole_ne_nil
  rw [read?_digits 0 hw, hne]
  by_cases h : d.scale = 0
  · have hf : d.fraction = [] := List.eq_nil_of_length_eq_zero (d.length_fraction.trans h)
    rw [hf, List.append_nil] at hv
    simp [h, read?, hv]
  · have hk : 0 + d.fraction.length ≤ 28 := by
      rw [Nat.zero_add, length_fraction]
      exact d.scale_le
    have hf := read?_fraction (Nat.ofDigitChars 10 d.whole 0) (fun _ => d.isDigit_of_mem_fraction) hk
    rw [if_neg h, if_neg h, read?, if_neg (by simp), if_neg (by decide), if_pos ⟨rfl, rfl⟩, hf,
      ← Nat.ofDigitChars_append, hv, Nat.zero_add, length_fraction]

theorem ofText?_text (d : Decimal) : ofText? d.text.toList = some d := by
  have hd := isDigit_of_mem_head? d.whole_ne_nil (fun _ => d.isDigit_of_mem_whole)
    (if d.scale = 0 then [] else '.' :: d.fraction)
  have hs : (if d.scale = 0 then none else some d.scale).getD 0 = d.scale := by
    by_cases h : d.scale = 0 <;> simp [h]
  rw [ofText?, toList_text, List.append_assoc, splitSign_digits hd]
  simp only [read?_unsigned, Option.bind_some, withSign_natAbs, hs]
  exact dif_pos ⟨d.coefficient_lt, d.scale_le⟩

end Decimal

end RowFilter
