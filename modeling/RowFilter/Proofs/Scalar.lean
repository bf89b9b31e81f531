import RowFilter.Proofs.Number.Writing
import RowFilter.Proofs.Text.Shown
import RowFilter.Proofs.Text.Told
import RowFilter.Scalar

/-! The text of a scalar tells the scalar, unless it is a decimal without fraction digits. -/

namespace RowFilter

open Text (EndsRun run_append_inj shown_append_inj IsTold)

def isNumberChar (c : Char) : Bool := c.isDigit || c == '-' || c == '.'

lemma isNumberChar_of_isDigit {c : Char} (h : c.isDigit = true) : isNumberChar c = true := by
  rw [isNumberChar, h]
  rfl

lemma mem_integer {n : Int64} {c : Char} (h : c ∈ (toString n.toInt).toList) :
    isNumberChar c = true ∧ c ≠ '.' := by
  rw [Number.toList_toString, Number.written] at h
  rcases List.mem_append.mp h with h | h
  · split at h
    · rw [List.mem_singleton.mp h]
      exact ⟨rfl, by decide⟩
    · cases h
  · have hd : c.isDigit = true := Nat.isDigit_of_mem_toDigits (by decide) (by decide) h
    refine ⟨isNumberChar_of_isDigit hd, ?_⟩
    rintro rfl
    cases hd

lemma mem_decimal {d : Decimal} {c : Char} (h : c ∈ d.text.toList) : isNumberChar c = true := by
  rw [d.toList_text] at h
  rcases List.mem_append.mp h with h | h
  · rcases List.mem_append.mp h with h | h
    · split at h
      · rw [List.mem_singleton.mp h]
        rfl
      · cases h
    · exact isNumberChar_of_isDigit (d.isDigit_of_mem_whole h)
  · split at h
    · cases h
    · rcases List.mem_cons.mp h with rfl | h
      · rfl
      · exact isNumberChar_of_isDigit (d.isDigit_of_mem_fraction h)

lemma point_mem_decimal {d : Decimal} (h : d.scale ≠ 0) : '.' ∈ d.text.toList := by
  rw [d.toList_text, if_neg h]
  exact List.mem_append_right _ List.mem_cons_self

inductive Look
  | number | string | boolean

def Look.ofChar (c : Char) : Look :=
  if c = '"' then .string else if isNumberChar c then .number else .boolean

lemma Look.ofChar_number {c : Char} (h : isNumberChar c = true) : ofChar c = .number := by
  have hq : c ≠ '"' := by
    rintro rfl
    cases h
  rw [ofChar, if_neg hq, if_pos h]

def Scalar.look : Scalar → Look
  | .integer _ => .number
  | .decimal _ => .number
  | .string _ => .string
  | .boolean _ => .boolean

lemma Scalar.exists_head (s : Scalar) :
    ∃ c cs, s.text.toList = c :: cs ∧ Look.ofChar c = s.look := by
  cases s with
  | integer n =>
    have hne : (toString n.toInt).toList ≠ [] := by
      rw [Number.toList_toString]
      exact List.append_ne_nil_of_right_ne_nil _ Nat.toDigits_ne_nil
    obtain ⟨c, cs, hc⟩ := List.exists_cons_of_ne_nil hne
    exact ⟨c, cs, hc, Look.ofChar_number (mem_integer (hc ▸ List.mem_cons_self)).1⟩
  | decimal d =>
    have hne : d.text.toList ≠ [] := by
      rw [d.toList_text]
      exact List.append_ne_nil_of_left_ne_nil (List.append_ne_nil_of_right_ne_nil _ d.whole_ne_nil) _
    obtain ⟨c, cs, hc⟩ := List.exists_cons_of_ne_nil hne
    exact ⟨c, cs, hc, Look.ofChar_number (mem_decimal (hc ▸ List.mem_cons_self))⟩
  | string s => exact ⟨'"', _, String.toList_ofList, rfl⟩
  | boolean b => cases b <;> exact ⟨_, _, rfl, rfl⟩

lemma Scalar.look_eq {s t : Scalar} {u v : List Char} (h : s.text.toList ++ u = t.text.toList ++ v) :
    s.look = t.look := by
  obtain ⟨c, cs, hc, hs⟩ := s.exists_head
  obtain ⟨d, ds, hd, ht⟩ := t.exists_head
  rw [hc, hd] at h
  obtain ⟨rfl, -⟩ := List.cons.inj h
  exact hs.symm.trans ht

def Scalar.IsPlain : Scalar → Prop
  | .decimal d => d.scale ≠ 0
  | _ => True

lemma Scalar.number_told {s t : Scalar} (hs : s.IsPlain) (ht : t.IsPlain) (hs' : s.look = .number)
    (ht' : t.look = .number) (h : s.text = t.text) : s = t := by
  cases s with
  | string _ => cases hs'
  | boolean _ => cases hs'
  | integer m =>
    cases t with
    | string _ => cases ht'
    | boolean _ => cases ht'
    | integer n =>
      have hm := Number.int64?_toString m
      have hn := Number.int64?_toString n
      have he : toString m.toInt = toString n.toInt := h
      rw [he, hn] at hm
      exact congrArg _ (Option.some.inj hm).symm
    | decimal d =>
      have hp : '.' ∈ (toString m.toInt).toList := by
        rw [show toString m.toInt = d.text from h]
        exact point_mem_decimal ht
      exact absurd rfl (mem_integer hp).2
  | decimal c =>
    cases t with
    | string _ => cases ht'
    | boolean _ => cases ht'
    | integer n =>
      have hp : '.' ∈ (toString n.toInt).toList := by
        rw [show toString n.toInt = c.text from h.symm]
        exact point_mem_decimal hs
      exact absurd rfl (mem_integer hp).2
    | decimal d =>
      have hc := c.ofText?_text
      have hd := d.ofText?_text
      rw [show c.text = d.text from h, hd] at hc
      exact congrArg _ (Option.some.inj hc).symm

lemma Scalar.isNumberChar_of_mem {s : Scalar} (h : s.look = .number) {c : Char}
    (hc : c ∈ s.text.toList) : isNumberChar c = true := by
  cases s with
  | integer n => exact (mem_integer hc).1
  | decimal d => exact mem_decimal hc
  | string _ => cases h
  | boolean _ => cases h

lemma Scalar.told {s : Scalar} (hs : s.IsPlain) :
    IsTold isNumberChar (fun s => s.text.toList) Scalar.IsPlain s := by
  intro t ht u v hu hv h
  have hlook := Scalar.look_eq h
  have hnumber : s.look = .number → s = t ∧ u = v := fun hn => by
    obtain ⟨htext, huv⟩ := run_append_inj (fun _ => isNumberChar_of_mem hn) hu
      (fun _ => isNumberChar_of_mem (hlook.symm.trans hn)) hv h
    exact ⟨number_told hs ht hn (hlook.symm.trans hn) (String.toList_inj.mp htext), huv⟩
  cases s with
  | integer n => exact hnumber rfl
  | decimal d => exact hnumber rfl
  | string a =>
    cases t with
    | string b =>
      obtain ⟨rfl, huv⟩ := shown_append_inj h
      exact ⟨rfl, huv⟩
    | _ => cases hlook
  | boolean a =>
    cases t with
    | boolean b => cases a <;> cases b <;> simp_all [Scalar.text]
    | _ => cases hlook

end RowFilter
