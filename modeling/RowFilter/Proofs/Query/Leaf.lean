import RowFilter.Proofs.Query.Numbering

namespace RowFilter.Query

/-- A test of a column. The operands are placeholders, or the values bound to them. -/
structure Leaf (α : Type) where
  test : Test
  column : String
  operands : List α

def Leaf.map {α β : Type} (f : α → β) (l : Leaf α) : Leaf β := ⟨l.test, l.column, l.operands.map f⟩

namespace Predicate

@[elab_as_elim, induction_eliminator]
theorem induction {motive : Predicate → Prop}
    (comparison : ∀ column op s, motive (.comparison column op s))
    (membership : ∀ column negated ss, motive (.membership column negated ss))
    (nullity : ∀ column negated, motive (.nullity column negated))
    (junction : ∀ c parts, (∀ p ∈ parts, motive p) → motive (.junction c parts))
    (p : Predicate) : motive p := by
  refine @Predicate.rec motive (fun ps => ∀ p ∈ ps, motive p) comparison membership nullity junction
    ?_ ?_ p
  · intro p hp
    cases hp
  · intro p ps hp hps r hr
    rcases List.mem_cons.mp hr with rfl | hr
    · exact hp
    · exact hps r hr

mutual

def leaves : Predicate → List (Leaf String)
  | comparison column op s => [⟨.comparison op, column, [s]⟩]
  | membership column negated ss => [⟨.membership negated, column, ss⟩]
  | nullity column negated => [⟨.nullity negated, column, []⟩]
  | junction _ parts => leavesAll parts

def leavesAll : List Predicate → List (Leaf String)
  | [] => []
  | p :: ps => p.leaves ++ leavesAll ps

end

def placeholders (p : Predicate) : List String := p.leaves.flatMap Leaf.operands

lemma leavesAll_eq_flatMap (ps : List Predicate) : leavesAll ps = ps.flatMap leaves := by
  induction ps with
  | nil => rfl
  | cons p ps ih => rw [leavesAll, ih, List.flatMap_cons]

lemma leavesAll_append (ps qs : List Predicate) :
    leavesAll (ps ++ qs) = leavesAll ps ++ leavesAll qs := by
  simp only [leavesAll_eq_flatMap, List.flatMap_append]

lemma leafCounts_eq_sum (ps : List Predicate) : leafCounts ps = (ps.map leafCount).sum := by
  induction ps with
  | nil => rfl
  | cons p ps ih => rw [leafCounts, ih, List.map_cons, List.sum_cons]

lemma length_leaves (p : Predicate) : p.leaves.length = p.leafCount := by
  induction p with
  | comparison column op s => rfl
  | membership column negated ss => rfl
  | nullity column negated => rfl
  | junction c parts ih =>
    rw [leaves, leafCount, leavesAll_eq_flatMap, leafCounts_eq_sum, List.length_flatMap]
    exact congrArg List.sum (List.map_congr_left ih)

lemma mem_leavesAll {l : Leaf String} {p : Predicate} {ps : List Predicate} (hp : p ∈ ps)
    (hl : l ∈ p.leaves) : l ∈ leavesAll ps := by
  rw [leavesAll_eq_flatMap]
  exact List.mem_flatMap_of_mem hp hl

end Predicate

namespace Select

variable (q : Select)

def leaves : List (Leaf String) :=
  match q.where? with
  | none => []
  | some p => p.leaves

def placeholders : List String := q.leaves.flatMap Leaf.operands

def columns : List String := q.leaves.map Leaf.column

def AllBound : Prop := ∀ s ∈ q.placeholders, ∃ n ∈ q.bindings.numbers, s = placeholder n

structure Numbered (k : Nat) : Prop where
  placeholders : q.placeholders = (List.range' 1 k).map placeholder
  numbers : q.bindings.numbers = List.range' 1 k

lemma combine_cases (c : Connective) (p w : Predicate) :
    (∃ parts, w = .junction c parts ∧ combine c p (some w) = .junction c (parts ++ [p])) ∨
      combine c p (some w) = .junction c [w, p] := by
  cases w with
  | comparison column op s => exact .inr rfl
  | membership column negated ss => exact .inr rfl
  | nullity column negated => exact .inr rfl
  | junction d parts =>
    by_cases h : d = c
    · subst h
      exact .inl ⟨parts, rfl, if_pos rfl⟩
    · exact .inr (if_neg h)

lemma leaves_addWhere (c : Connective) (p : Predicate) :
    (q.addWhere c p).leaves = q.leaves ++ p.leaves := by
  obtain ⟨table, tableAlias, w?, b⟩ := q
  cases w? with
  | none => rfl
  | some w =>
    simp only [addWhere, leaves]
    rcases combine_cases c p w with ⟨parts, rfl, hc⟩ | hc
    · simp [hc, Predicate.leaves, Predicate.leavesAll_append, Predicate.leavesAll]
    · simp [hc, Predicate.leaves, Predicate.leavesAll]

def extend (p : Predicate) (vs : List Scalar) : Select :=
  { q with bindings := q.bindings.insertFrom q.bindings.next vs }.addWhere .and p

lemma leaves_extend (p : Predicate) (vs : List Scalar) :
    (q.extend p vs).leaves = q.leaves ++ p.leaves :=
  leaves_addWhere _ .and p

lemma numbers_extend (p : Predicate) (vs : List Scalar) :
    (q.extend p vs).bindings.numbers =
      q.bindings.numbers ++ List.range' q.bindings.next vs.length :=
  q.bindings.numbers_insertFrom le_rfl vs

variable {q}

lemma Numbered.allBound {k : Nat} (h : q.Numbered k) : q.AllBound := by
  intro s hs
  rw [h.placeholders] at hs
  obtain ⟨n, hn, rfl⟩ := List.mem_map.mp hs
  exact ⟨n, h.numbers ▸ hn, rfl⟩

lemma Numbered.next {k : Nat} (h : q.Numbered k) : q.bindings.next = 1 + k := by
  rw [q.bindings.next_eq, h.numbers]
  cases k with
  | zero => rfl
  | succ k => simp [List.getLast?_range', Nat.add_comm]

lemma Numbered.extend {k : Nat} (h : q.Numbered k) {p : Predicate} {vs : List Scalar}
    (hp : p.placeholders = (List.range' q.bindings.next vs.length).map placeholder) :
    (q.extend p vs).Numbered (k + vs.length) where
  placeholders := by
    rw [Select.placeholders, leaves_extend, List.flatMap_append, ← List.range'_append_1,
      List.map_append, ← h.next]
    exact congrArg₂ _ h.placeholders hp
  numbers := by rw [numbers_extend, h.numbers, h.next, List.range'_append_1]

end Select

end RowFilter.Query
