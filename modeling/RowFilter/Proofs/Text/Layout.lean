import Mathlib
import RowFilter.Text.Position

namespace RowFilter

namespace Position

def past (p : Position) (cs : List Char) : Position :=
  ⟨p.line + cs.count '\n',
    (if '\n' ∈ cs then 1 else p.column) + (cs.reverse.takeWhile (· != '\n')).length⟩

lemma after_eq_past (p : Position) (cs : List Char) : p.after cs = p.past cs := by
  induction cs using List.reverseRecOn with
  | nil => rfl
  | append_singleton cs c ih =>
    rw [after_append, ih, after_cons, after_nil]
    by_cases hc : c = '\n'
    · simp [step, past, hc, Nat.add_assoc]
    · simp [step, past, hc, Ne.symm hc, Nat.add_assoc]

def behind (cs : List Char) : Position :=
  ⟨1 + cs.count '\n', 1 + (cs.reverse.takeWhile (· != '\n')).length⟩

lemma after_start (cs : List Char) : start.after cs = behind cs := by
  simp [after_eq_past, past, behind, start]

end Position

namespace Text

structure Piece (τ : Type) where
  gap : List Char
  span : List Char
  token : τ

namespace Piece

variable {τ : Type}

def text (x : Piece τ) : List Char := x.gap ++ x.span

def texts (xs : List (Piece τ)) : List Char := xs.flatMap text

lemma texts_cons (x : Piece τ) (xs : List (Piece τ)) :
    texts (x :: xs) = x.gap ++ (x.span ++ texts xs) := by
  simp [texts, text]

end Piece

section Layout

variable {τ : Type} (IsGap : List Char → Prop) (Spells : τ → List Char → Prop)
  (Apart : Piece τ → Piece τ → Prop)

/-- A text is made of pieces, of which each two neighbours are kept apart, and of a gap behind them.
-/
structure IsLayout (xs : List (Piece τ)) (tail source : List Char) : Prop where
  source_eq : source = Piece.texts xs ++ tail
  tail : IsGap tail
  gap : ∀ x ∈ xs, IsGap x.gap
  span : ∀ x ∈ xs, Spells x.token x.span
  apart : xs.IsChain Apart

variable {IsGap Spells Apart} {x : Piece τ} {xs : List (Piece τ)} {tail source : List Char}

lemma isLayout_nil (h : IsGap tail) : IsLayout IsGap Spells Apart [] tail tail :=
  ⟨rfl, h, List.forall_mem_nil _, List.forall_mem_nil _, .nil⟩

lemma isLayout_cons :
    IsLayout IsGap Spells Apart (x :: xs) tail source ↔
      IsGap x.gap ∧ Spells x.token x.span ∧ (∀ y ∈ xs.head?, Apart x y) ∧
        ∃ rest, source = x.gap ++ (x.span ++ rest) ∧
          IsLayout IsGap Spells Apart xs tail rest := by
  constructor
  · rintro ⟨rfl, ht, hg, hs, ha⟩
    rw [List.forall_mem_cons] at hg hs
    rw [List.isChain_cons] at ha
    refine ⟨hg.1, hs.1, ha.1, Piece.texts xs ++ tail, ?_, rfl, ht, hg.2, hs.2, ha.2⟩
    rw [Piece.texts_cons, List.append_assoc, List.append_assoc]
  · rintro ⟨hg, hs, ha, rest, rfl, ⟨rfl, ht, hgs, hss, has⟩⟩
    refine ⟨?_, ht, List.forall_mem_cons.mpr ⟨hg, hgs⟩, List.forall_mem_cons.mpr ⟨hs, hss⟩,
      List.isChain_cons.mpr ⟨ha, has⟩⟩
    rw [Piece.texts_cons, List.append_assoc, List.append_assoc]

def ArePlaced (position : τ → Position) (p : Position) (xs : List (Piece τ)) : Prop :=
  ∀ l x r, xs = l ++ x :: r → position x.token = p.after (Piece.texts l ++ x.gap)

lemma arePlaced_nil {position : τ → Position} {p : Position} : ArePlaced position p [] := by
  intro l x r h
  simp at h

lemma arePlaced_cons {position : τ → Position} {p : Position} :
    ArePlaced position p (x :: xs) ↔
      position x.token = p.after x.gap ∧ ArePlaced position (p.after (x.gap ++ x.span)) xs := by
  constructor
  · intro h
    refine ⟨h [] x xs rfl, fun l y r hxs => ?_⟩
    rw [h (x :: l) y r (congrArg (x :: ·) hxs), Piece.texts_cons]
    simp
  · rintro ⟨hx, hxs⟩ l y r h
    cases l with
    | nil =>
      cases h
      exact hx
    | cons z l =>
      cases h
      rw [hxs l y r rfl, Piece.texts_cons]
      simp

end Layout

end Text

end RowFilter
