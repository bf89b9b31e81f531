import Mathlib
import RowFilter.Config.Value

namespace RowFilter.Text.Dotted

variable {segments : List String}

lemma toList_join (segments : List String) :
    (join segments).toList = ['.'].intercalate (segments.map String.toList) :=
  String.toList_intercalate

lemma mem_join {c : Char} (h : c ∈ (join segments).toList) :
    c = '.' ∨ ∃ s ∈ segments, c ∈ s.toList := by
  rw [toList_join] at h
  induction segments with
  | nil => cases h
  | cons s segments ih =>
    cases segments with
    | nil =>
      rw [List.map_singleton, List.intercalate_singleton] at h
      exact .inr ⟨s, List.mem_cons_self, h⟩
    | cons s' segments =>
      rw [List.map_cons, List.map_cons, List.intercalate_cons_cons, ← List.map_cons] at h
      rcases List.mem_append.mp h with h | h
      · rcases List.mem_append.mp h with h | h
        · exact .inr ⟨s, List.mem_cons_self, h⟩
        · exact .inl (List.mem_singleton.mp h)
      · exact (ih h).imp_right fun ⟨s, hs, hc⟩ => ⟨s, List.mem_cons_of_mem _ hs, hc⟩

lemma splitOn_join (hne : segments ≠ []) (h : ∀ s ∈ segments, '.' ∉ s.toList) :
    (join segments).toList.splitOn '.' = segments.map String.toList := by
  rw [toList_join]
  exact List.splitOn_intercalate '.' (List.forall_mem_map.mpr h) (by simpa using hne)

lemma split_join (hne : segments ≠ []) (h : ∀ s ∈ segments, '.' ∉ s.toList) :
    split (join segments) = segments := by
  rw [split, splitOn_join hne h, List.map_map]
  simp [Function.comp_def]

lemma split_ne_nil (s : String) : split s ≠ [] := by
  simp [split, List.splitOn_ne_nil]

lemma join_split (s : String) : join (split s) = s := by
  rw [← String.toList_inj, toList_join, split, List.map_map]
  simp [Function.comp_def, List.intercalate_splitOn]

lemma not_mem_of_mem_splitOn {cs segment : List Char} (h : segment ∈ cs.splitOn '.') :
    '.' ∉ segment := by
  induction cs generalizing segment with
  | nil =>
    rw [List.splitOn_nil, List.mem_singleton] at h
    simp [h]
  | cons c cs ih =>
    rw [List.splitOn_cons_eq_if_modifyHead] at h
    obtain ⟨first, rest, hsplit⟩ := List.exists_cons_of_ne_nil (List.splitOn_ne_nil '.' cs)
    rw [hsplit] at h ih
    split at h
    · rcases List.mem_cons.mp h with rfl | h
      · exact List.not_mem_nil
      · exact ih h
    · next hc =>
      rcases List.mem_cons.mp h with rfl | h
      · rw [List.mem_cons, not_or]
        exact ⟨fun heq => hc (beq_iff_eq.mpr heq.symm), ih List.mem_cons_self⟩
      · exact ih (List.mem_cons_of_mem _ h)

lemma not_mem_of_mem_split {s segment : String} (h : segment ∈ split s) : '.' ∉ segment.toList := by
  obtain ⟨cs, hcs, rfl⟩ := List.mem_map.mp h
  rw [String.toList_ofList]
  exact not_mem_of_mem_splitOn hcs

end RowFilter.Text.Dotted
