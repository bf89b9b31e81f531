import RowFilter.Proofs.Text.Scan

/-! Texts that tell what they stand for, as long as what comes next does not go on with them. -/

namespace RowFilter.Text

variable {α : Type} {f : Char → Bool} {text : α → List Char} {P : α → Prop}

/-- Before what ends a run of the class, the text of `x` is that of no other. -/
def IsTold (f : Char → Bool) (text : α → List Char) (P : α → Prop) (x : α) : Prop :=
  ∀ ⦃y⦄, P y → ∀ ⦃u v⦄, EndsRun f u → EndsRun f v → text x ++ u = text y ++ v → x = y ∧ u = v

def separated (sep : List Char) (text : α → List Char) (xs : List α) : List Char :=
  xs.flatMap fun x => sep ++ text x

lemma separated_map (sep : List Char) (xs : List α) :
    separated sep id (xs.map text) = separated sep text xs :=
  List.flatMap_map ..

lemma toList_intercalate_cons (sep s : String) (ss : List String) :
    (sep.intercalate (s :: ss)).toList = s.toList ++ separated sep.toList String.toList ss := by
  rw [String.toList_intercalate]
  induction ss generalizing s with
  | nil => simp [separated]
  | cons s' ss ih =>
    rw [List.map_cons, List.map_cons, List.intercalate_cons_cons, ← List.map_cons, ih]
    simp [separated]

lemma endsRun_separated {g : Char → Bool} {c : Char} (hc : g c = false) (sep : List Char)
    (xs : List α) {u : List Char} (hu : EndsRun g u) :
    EndsRun g (separated (c :: sep) text xs ++ u) := by
  cases xs with
  | nil => exact hu
  | cons x xs => exact endsRun_cons hc _

lemma separated_append_inj {c : Char} {sep : List Char} (hc : f c = false) {xs ys : List α}
    (hx : ∀ x ∈ xs, IsTold f text P x) (hy : ∀ y ∈ ys, P y) {u v : List Char}
    (hu : EndsRun f u) (hv : EndsRun f v) (hcu : EndsRun (· == c) u) (hcv : EndsRun (· == c) v)
    (h : separated (c :: sep) text xs ++ u = separated (c :: sep) text ys ++ v) :
    xs = ys ∧ u = v := by
  induction xs generalizing ys with
  | nil =>
    cases ys with
    | nil => exact ⟨rfl, h⟩
    | cons y ys =>
      subst h
      exact absurd (hcu c rfl) (by simp)
  | cons x xs ih =>
    cases ys with
    | nil =>
      subst h
      exact absurd (hcv c rfl) (by simp)
    | cons y ys =>
      rw [List.forall_mem_cons] at hx hy
      have hrest : text x ++ (separated (c :: sep) text xs ++ u) =
          text y ++ (separated (c :: sep) text ys ++ v) := by
        simpa [separated] using h
      obtain ⟨rfl, htail⟩ := hx.1 hy.1 (endsRun_separated hc sep xs hu)
        (endsRun_separated hc sep ys hv) hrest
      obtain ⟨rfl, huv⟩ := ih hx.2 hy.2 htail
      exact ⟨rfl, huv⟩

lemma joined_append_inj {c : Char} {sep : List Char} (hc : f c = false) {x y : α} {xs ys : List α}
    (hx : ∀ z ∈ x :: xs, IsTold f text P z) (hy : ∀ z ∈ y :: ys, P z) {u v : List Char}
    (hu : EndsRun f u) (hv : EndsRun f v) (hcu : EndsRun (· == c) u) (hcv : EndsRun (· == c) v)
    (h : text x ++ (separated (c :: sep) text xs ++ u) =
      text y ++ (separated (c :: sep) text ys ++ v)) : x :: xs = y :: ys ∧ u = v := by
  have hall : separated (c :: sep) text (x :: xs) ++ u = separated (c :: sep) text (y :: ys) ++ v := by
    simpa [separated] using h
  exact separated_append_inj hc hx hy hu hv hcu hcv hall

lemma code_append_inj {code : α → List Char} {xs : List α} (hxs : ∀ x, x ∈ xs)
    (hcode : ∀ x ∈ xs, ∀ y ∈ xs, code x <+: code y → x = y) {x y : α} {u v : List Char}
    (h : code x ++ u = code y ++ v) : x = y ∧ u = v := by
  have hxy : x = y := by
    rcases List.prefix_or_prefix_of_prefix ⟨u, h⟩ (List.prefix_append (code y) v) with hp | hp
    · exact hcode x (hxs x) y (hxs y) hp
    · exact (hcode y (hxs y) x (hxs x) hp).symm
  subst hxy
  exact ⟨rfl, List.append_cancel_left h⟩

end RowFilter.Text
