import Mathlib
import RowFilter.Text.Character

namespace RowFilter.Text

lemma isBlank_eq_false {c : Char} (h : 33 ≤ c.toNat) (h' : c.toNat < 127) : isBlank c = false := by
  simp only [isBlank, inRanges, blankRanges, List.any_cons, List.any_nil, Bool.or_false,
    Bool.or_eq_false_iff, Bool.and_eq_false_iff, decide_eq_false_iff_not]
  omega

section Alphanum

variable {c : Char} (h : c.isAlphanum = true)
include h

lemma toNat_of_isAlphanum : 48 ≤ c.toNat ∧ c.toNat ≤ 122 := by
  have hc : c.toNat = c.val.toNat := rfl
  simp [Char.isAlphanum, Char.isAlpha, Char.isUpper, Char.isLower, Char.isDigit,
    UInt32.le_iff_toNat_le] at h
  omega

lemma isBlank_of_isAlphanum : isBlank c = false :=
  have hc := toNat_of_isAlphanum h
  isBlank_eq_false (by omega) (by omega)

lemma isAlphanumeric_of_isAlphanum : isAlphanumeric c = true := by
  have hc := toNat_of_isAlphanum h
  rw [isAlphanumeric, if_pos (by omega), h]

end Alphanum

section Digit

variable {c : Char} (h : c.isDigit = true)
include h

lemma isAlphanum_of_isDigit : c.isAlphanum = true := by
  simp [Char.isAlphanum, h]

lemma isAlpha_of_isDigit : c.isAlpha = false := by
  have hc : c.toNat = c.val.toNat := rfl
  simp [Char.isDigit, UInt32.le_iff_toNat_le] at h
  simp [Char.isAlpha, Char.isUpper, Char.isLower, UInt32.le_iff_toNat_le]
  omega

end Digit

lemma isAlphanumeric_of_isBlank {c : Char} (h : isBlank c = true) : isAlphanumeric c = false := by
  have hapart : ∀ b ∈ blankRanges, b.2 < 48 ∨
      (128 ≤ b.1 ∧ ∀ r ∈ alphanumericRanges, b.2 < r.1 ∨ r.2 < b.1) := by decide +kernel
  obtain ⟨b, hb, hle, hge⟩ := (inRanges_iff _ c).mp h
  by_contra ha
  rw [Bool.not_eq_false, isAlphanumeric] at ha
  rcases hapart b hb with hlt | ⟨hlt, hr⟩
  · rw [if_pos (by omega)] at ha
    have := (toNat_of_isAlphanum ha).1
    omega
  · rw [if_neg (by omega)] at ha
    obtain ⟨r, hmem, hle', hge'⟩ := (inRanges_iff _ c).mp ha
    rcases hr r hmem with hr | hr
    · omega
    · omega

end RowFilter.Text
