/-! Association lists in increasing order of their keys, so that equal contents are equal lists. -/

namespace RowFilter.Ordered

variable {κ α : Type} [Ord κ]

def insert (k : κ) (a : α) : List (κ × α) → List (κ × α)
  | [] => [(k, a)]
  | (j, b) :: l =>
    match compare k j with
    | .lt => (k, a) :: (j, b) :: l
    | .eq => (k, a) :: l
    | .gt => (j, b) :: insert k a l

def ofList (l : List (κ × α)) : List (κ × α) := l.foldl (fun m e => insert e.1 e.2 m) []

def Increasing (l : List (κ × α)) : Prop := l.Pairwise fun x y => compare x.1 y.1 = .lt

instance [DecidableEq κ] (l : List (κ × α)) : Decidable (Increasing l) :=
  inferInstanceAs (Decidable (l.Pairwise _))

@[simp] theorem increasing_nil : Increasing ([] : List (κ × α)) := List.Pairwise.nil

theorem mem_insert {k : κ} {a : α} {l : List (κ × α)} {e : κ × α} (h : e ∈ insert k a l) :
    e = (k, a) ∨ e ∈ l := by
  induction l with
  | nil => simpa [insert] using h
  | cons x l ih =>
    obtain ⟨j, b⟩ := x
    simp only [insert] at h
    split at h
    · simpa using h
    · rcases List.mem_cons.mp h with rfl | h
      · exact .inl rfl
      · exact .inr (List.mem_cons_of_mem _ h)
    · rcases List.mem_cons.mp h with rfl | h
      · exact .inr List.mem_cons_self
      · exact (ih h).imp_right (List.mem_cons_of_mem _)

section Lawful

variable [Std.TransOrd κ] [Std.LawfulEqOrd κ]

theorem increasing_insert {l : List (κ × α)} (k : κ) (a : α) (h : Increasing l) :
    Increasing (insert k a l) := by
  induction l with
  | nil => simp [insert, Increasing]
  | cons x l ih =>
    obtain ⟨j, b⟩ := x
    obtain ⟨hj, hl⟩ := List.pairwise_cons.mp h
    simp only [insert]
    split
    · next hk =>
      refine List.pairwise_cons.mpr ⟨fun e he => ?_, h⟩
      rcases List.mem_cons.mp he with rfl | he
      · exact hk
      · exact Std.TransCmp.lt_trans hk (hj e he)
    · next hk =>
      obtain rfl := Std.LawfulEqOrd.eq_of_compare hk
      exact List.pairwise_cons.mpr ⟨hj, hl⟩
    · next hk =>
      refine List.pairwise_cons.mpr ⟨fun e he => ?_, ih hl⟩
      rcases mem_insert he with rfl | he
      · exact Std.OrientedCmp.lt_of_gt hk
      · exact hj e he

theorem increasing_ofList (l : List (κ × α)) : Increasing (ofList l) := by
  have go : ∀ m : List (κ × α), Increasing m →
      Increasing (l.foldl (fun m e => insert e.1 e.2 m) m) := by
    induction l with
    | nil => exact fun _ h => h
    | cons e l ih => exact fun m h => ih _ (increasing_insert e.1 e.2 h)
  exact go [] increasing_nil

end Lawful

section Lookup

variable [BEq κ] [LawfulBEq κ] [Std.LawfulEqOrd κ]

theorem lookup_insert_self (k : κ) (a : α) (l : List (κ × α)) :
    (insert k a l).lookup k = some a := by
  induction l with
  | nil => simp [insert]
  | cons x l ih =>
    obtain ⟨j, b⟩ := x
    simp only [insert]
    split
    · simp
    · simp
    · next hk =>
      have : (k == j) = false := by
        rw [beq_eq_false_iff_ne]
        rintro rfl
        simp at hk
      simpa [List.lookup_cons, this] using ih

theorem lookup_insert_ne {j k : κ} (a : α) (l : List (κ × α)) (h : j ≠ k) :
    (insert k a l).lookup j = l.lookup j := by
  have hb : (j == k) = false := beq_eq_false_iff_ne.mpr h
  induction l with
  | nil => simp [insert, List.lookup_cons, hb]
  | cons x l ih =>
    obtain ⟨i, b⟩ := x
    simp only [insert]
    split
    · simp [List.lookup_cons, hb]
    · next hk =>
      obtain rfl := Std.LawfulEqOrd.eq_of_compare hk
      simp [List.lookup_cons, hb]
    · simp only [List.lookup_cons, ih]

end Lookup

end RowFilter.Ordered
