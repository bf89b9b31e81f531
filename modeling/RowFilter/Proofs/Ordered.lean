import Mathlib
import RowFilter.Ordered

namespace RowFilter.Ordered

variable {κ α : Type}

section Insert

variable [Ord κ] [Std.OrientedOrd κ]

lemma insert_insert (k : κ) (a b : α) (l : List (κ × α)) :
    insert k b (insert k a l) = insert k b l := by
  induction l with
  | nil => simp [insert]
  | cons x l ih =>
    obtain ⟨j, c⟩ := x
    cases h : compare k j with
    | lt => simp [insert, h]
    | eq => simp [insert, h]
    | gt => simp [insert, h, ih]

lemma insert_between {k : κ} {a : α} {l r : List (κ × α)} (hl : ∀ e ∈ l, compare e.1 k = .lt)
    (hr : ∀ e ∈ r, compare k e.1 = .lt) : insert k a (l ++ r) = l ++ (k, a) :: r := by
  induction l with
  | nil =>
    cases r with
    | nil => rfl
    | cons x r => rw [List.nil_append, insert, hr x List.mem_cons_self, List.nil_append]
  | cons x l ih =>
    rw [List.forall_mem_cons] at hl
    have hx : compare k x.1 = .gt := Std.OrientedCmp.gt_of_lt hl.1
    rw [List.cons_append, insert, hx]
    exact congrArg (x :: ·) (ih hl.2)

end Insert

section Lookup

variable [BEq κ] [LawfulBEq κ] {k : κ} {a : α} {l : List (κ × α)}

lemma mem_of_lookup (h : l.lookup k = some a) : (k, a) ∈ l := by
  obtain ⟨l₁, l₂, rfl, -⟩ := List.lookup_eq_some_iff.mp h
  simp

lemma lookup_of_mem [Ord κ] [Std.LawfulEqOrd κ] (h : Increasing l) (he : (k, a) ∈ l) :
    l.lookup k = some a := by
  induction l with
  | nil => cases he
  | cons x l ih =>
    obtain ⟨hx, hl⟩ := List.pairwise_cons.mp h
    rcases List.mem_cons.mp he with rfl | he
    · simp
    · have hne : (k == x.1) = false := by
        rw [beq_eq_false_iff_ne]
        rintro rfl
        simpa using hx _ he
      rw [List.lookup_cons, hne]
      exact ih hl he

lemma lookup_cons_self (x : κ × α) (l : List (κ × α)) : (x :: l).lookup x.1 = some x.2 :=
  List.lookup_cons_self

lemma lookup_cons_ne {j : κ} (x : κ × α) (l : List (κ × α)) (h : j ≠ x.1) :
    (x :: l).lookup j = l.lookup j := by
  rw [List.lookup_cons, beq_eq_false_iff_ne.mpr h]

section Extensional

variable [Ord κ] [Std.LawfulEqOrd κ] {x : κ × α} {l' : List (κ × α)}

lemma lookup_tail (h : Increasing (x :: l)) : l.lookup x.1 = none := by
  rw [List.lookup_eq_none_iff]
  intro e he
  rw [bne_iff_ne]
  intro heq
  have hlt := (List.pairwise_cons.mp h).1 e he
  rw [heq] at hlt
  simp at hlt

lemma ext [Std.OrientedOrd κ] (h : Increasing l) (h' : Increasing l')
    (heq : ∀ k, l.lookup k = l'.lookup k) : l = l' := by
  induction l generalizing l' with
  | nil =>
    cases l' with
    | nil => rfl
    | cons y l' =>
      have := heq y.1
      rw [lookup_cons_self] at this
      cases this
  | cons x l ih =>
    cases l' with
    | nil =>
      have := heq x.1
      rw [lookup_cons_self] at this
      cases this
    | cons y l' =>
      obtain ⟨hx, hl⟩ := List.pairwise_cons.mp h
      obtain ⟨hy, hl'⟩ := List.pairwise_cons.mp h'
      have hxy : x = y := by
        have hmem : x ∈ y :: l' := mem_of_lookup ((heq x.1).symm.trans (lookup_cons_self x l))
        have hmem' : y ∈ x :: l := mem_of_lookup ((heq y.1).trans (lookup_cons_self y l'))
        rcases List.mem_cons.mp hmem with rfl | hmem
        · rfl
        · rcases List.mem_cons.mp hmem' with rfl | hmem'
          · rfl
          · have hlt := hx y hmem'
            rw [Std.OrientedCmp.gt_of_lt (hy x hmem)] at hlt
            cases hlt
      subst hxy
      refine congrArg (x :: ·) (ih hl hl' fun k => ?_)
      by_cases hk : k = x.1
      · rw [hk, lookup_tail h, lookup_tail h']
      · have := heq k
        rwa [lookup_cons_ne x l hk, lookup_cons_ne x l' hk] at this

end Extensional

end Lookup

end RowFilter.Ordered
