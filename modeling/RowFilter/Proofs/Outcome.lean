import Mathlib.Data.List.Forall2

/-! Results that may be errors, and chains of steps with such results. -/

namespace RowFilter.Outcome

variable {ε α β σ : Type}

def error? : Except ε α → Option ε
  | .ok _ => none
  | .error e => some e

lemma error?_eq_some_iff {x : Except ε α} {e : ε} : error? x = some e ↔ x = .error e := by
  cases x <;> simp [error?]

lemma error?_eq_none_iff {x : Except ε α} : error? x = none ↔ ∃ a, x = .ok a := by
  cases x <;> simp [error?]

lemma map_eq_ok {f : α → β} {x : Except ε α} {y : β} (h : x.map f = .ok y) :
    ∃ a, x = .ok a ∧ f a = y := by
  cases x with
  | error e => cases h
  | ok a =>
    cases h
    exact ⟨a, rfl, rfl⟩

lemma map_eq_error {f : α → β} {x : Except ε α} {e : ε} (h : x.map f = .error e) : x = .error e := by
  cases x with
  | error e' =>
    cases h
    rfl
  | ok a => cases h

lemma mapError_eq_error {δ : Type} {f : ε → δ} {x : Except ε α} {d : δ}
    (h : x.mapError f = .error d) : ∃ e, x = .error e ∧ f e = d := by
  cases x with
  | error e =>
    cases h
    exact ⟨e, rfl, rfl⟩
  | ok a => cases h

lemma mapError_eq_ok_iff {δ : Type} {f : ε → δ} {x : Except ε α} {a : α} :
    x.mapError f = .ok a ↔ x = .ok a := by
  cases x <;> simp [Except.mapError]

lemma mapError_eq_ok {δ : Type} {f : ε → δ} {x : Except ε α} {a : α}
    (h : x.mapError f = .ok a) : x = .ok a :=
  mapError_eq_ok_iff.mp h

lemma exists_mapError_eq_error {δ : Type} {f : ε → δ} {x : Except ε α} :
    (∃ e, x.mapError f = .error e) ↔ ∃ e, x = .error e := by
  cases x <;> simp [Except.mapError]

lemma bind_eq_ok {x : Except ε α} {f : α → Except ε β} {y : β} (h : x.bind f = .ok y) :
    ∃ a, x = .ok a ∧ f a = .ok y := by
  cases x with
  | error e => cases h
  | ok a => exact ⟨a, rfl, h⟩

lemma mapM_eq_ok {f : α → Except ε β} {l : List α} {ys : List β} (h : l.mapM f = .ok ys) :
    List.Forall₂ (fun x y => f x = .ok y) l ys := by
  induction l generalizing ys with
  | nil =>
    cases h
    exact .nil
  | cons x l ih =>
    rw [List.mapM_cons] at h
    obtain ⟨y, hx, h⟩ := bind_eq_ok h
    obtain ⟨zs, hl, h⟩ := bind_eq_ok h
    cases h
    exact .cons hx (ih hl)

section Fold

variable {f : σ → α → Except ε σ} {a : α} {l k : List α} {s s' : σ} {e : ε}

lemma foldlM_singleton : [a].foldlM f s = f s a := by
  rw [List.foldlM_cons]
  cases f s a <;> rfl

lemma foldlM_cons_of_ok (h : f s a = .ok s') : (a :: l).foldlM f s = l.foldlM f s' := by
  rw [List.foldlM_cons, h]
  rfl

lemma foldlM_cons_of_error (h : f s a = .error e) : (a :: l).foldlM f s = .error e := by
  rw [List.foldlM_cons, h]
  rfl

lemma foldlM_append_of_ok (h : l.foldlM f s = .ok s') : (l ++ k).foldlM f s = k.foldlM f s' := by
  rw [List.foldlM_append, h]
  rfl

lemma foldlM_append_of_error (h : l.foldlM f s = .error e) : (l ++ k).foldlM f s = .error e := by
  rw [List.foldlM_append, h]
  rfl

lemma foldlM_append_eq_ok :
    (l ++ k).foldlM f s = .ok s' ↔ ∃ s₁, l.foldlM f s = .ok s₁ ∧ k.foldlM f s₁ = .ok s' := by
  rw [List.foldlM_append]
  constructor
  · exact bind_eq_ok
  · rintro ⟨s₁, hl, hk⟩
    rw [hl]
    exact hk

lemma foldlM_concat_eq_ok :
    (l ++ [a]).foldlM f s = .ok s' ↔ ∃ s₁, l.foldlM f s = .ok s₁ ∧ f s₁ a = .ok s' := by
  simp only [foldlM_append_eq_ok, foldlM_singleton]

lemma foldlM_eq_error (h : l.foldlM f s = .error e) :
    ∃ k a r s', l = k ++ a :: r ∧ k.foldlM f s = .ok s' ∧ f s' a = .error e := by
  induction l generalizing s with
  | nil => cases h
  | cons a l ih =>
    cases ha : f s a with
    | error e' =>
      rw [foldlM_cons_of_error ha] at h
      cases h
      exact ⟨[], a, l, s, rfl, rfl, ha⟩
    | ok s₁ =>
      rw [foldlM_cons_of_ok ha] at h
      obtain ⟨k, b, r, s', rfl, hk, hb⟩ := ih h
      exact ⟨a :: k, b, r, s', rfl, (foldlM_cons_of_ok ha).trans hk, hb⟩

lemma foldlM_append_cons_of_error (hl : l.foldlM f s = .ok s') (ha : f s' a = .error e) (k : List α) :
    (l ++ a :: k).foldlM f s = .error e := by
  rw [foldlM_append_of_ok hl, foldlM_cons_of_error ha]

lemma foldlM_bind_eq_error {g : σ → Except ε β} (h : (l.foldlM f s).bind g = .error e) :
    (∃ k a r s', l = k ++ a :: r ∧ k.foldlM f s = .ok s' ∧ f s' a = .error e) ∨
      ∃ s', l.foldlM f s = .ok s' ∧ g s' = .error e := by
  cases hl : l.foldlM f s with
  | error e' =>
    rw [hl] at h
    cases h
    exact .inl (foldlM_eq_error hl)
  | ok s' =>
    rw [hl] at h
    exact .inr ⟨s', rfl, h⟩

theorem foldlM_reads {R : List α → σ → Prop}
    (step : ∀ k s a s', R k s → f s a = .ok s' → R (k ++ [a]) s') (hs : R k s)
    (h : l.foldlM f s = .ok s') : R (k ++ l) s' := by
  induction l generalizing k s with
  | nil =>
    cases h
    simpa using hs
  | cons a l ih =>
    rw [List.foldlM_cons] at h
    obtain ⟨s₁, ha, hl⟩ := bind_eq_ok h
    simpa using ih (step k s a s₁ hs ha) hl

theorem foldlM_invariant {P : σ → Prop} (step : ∀ s a s', P s → f s a = .ok s' → P s') (hs : P s)
    (h : l.foldlM f s = .ok s') : P s' :=
  foldlM_reads (k := []) (R := fun _ => P) (fun _ => step) hs h

end Fold

end RowFilter.Outcome
