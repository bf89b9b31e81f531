import Mathlib.Data.List.Perm.Basic
import Mathlib.Order.BoundedOrder.Lattice
import Mathlib.Order.Fin.Basic
import Mathlib.Order.MinMax
import RowFilter.Operator

namespace RowFilter.Query

inductive Truth
  | false | unknown | true

namespace Truth

def rank : Truth → Fin 3
  | .false => 0
  | .unknown => 1
  | .true => 2

lemma rank_injective : Function.Injective rank := by
  intro u v h
  cases u <;> cases v <;> simp_all [rank]

instance : LinearOrder Truth := .lift' rank rank_injective

instance : BoundedOrder Truth where
  top := .true
  le_top v := by cases v <;> decide
  bot := .false
  bot_le v := by cases v <;> decide

def conjunction (vs : List Truth) : Truth := vs.foldr min ⊤

def disjunction (vs : List Truth) : Truth := vs.foldr max ⊥

def junction : Connective → List Truth → Truth
  | .and => conjunction
  | .or => disjunction

def combine : Connective → Truth → Truth → Truth
  | .and => min
  | .or => max

@[simp] lemma conjunction_nil : conjunction [] = ⊤ := rfl

@[simp] lemma conjunction_cons (v : Truth) (vs : List Truth) :
    conjunction (v :: vs) = min v (conjunction vs) := rfl

@[simp] lemma conjunction_append (us vs : List Truth) :
    conjunction (us ++ vs) = min (conjunction us) (conjunction vs) := by
  induction us with
  | nil => rw [List.nil_append, conjunction_nil, min_top_left]
  | cons u us ih => rw [List.cons_append, conjunction_cons, ih, conjunction_cons, min_assoc]

@[simp] lemma disjunction_nil : disjunction [] = ⊥ := rfl

@[simp] lemma disjunction_cons (v : Truth) (vs : List Truth) :
    disjunction (v :: vs) = max v (disjunction vs) := rfl

@[simp] lemma disjunction_append (us vs : List Truth) :
    disjunction (us ++ vs) = max (disjunction us) (disjunction vs) := by
  induction us with
  | nil => rw [List.nil_append, disjunction_nil, max_bot_left]
  | cons u us ih => rw [List.cons_append, disjunction_cons, ih, disjunction_cons, max_assoc]

lemma junction_singleton (c : Connective) (v : Truth) : junction c [v] = v := by
  cases c with
  | and => exact min_top_right v
  | or => exact max_bot_right v

lemma junction_append (c : Connective) (us vs : List Truth) :
    junction c (us ++ vs) = combine c (junction c us) (junction c vs) := by
  cases c with
  | and => exact conjunction_append us vs
  | or => exact disjunction_append us vs

lemma conjunction_perm {us vs : List Truth} (h : us.Perm vs) :
    conjunction us = conjunction vs :=
  h.foldr_op_eq

lemma conjunction_le {v : Truth} {vs : List Truth} (h : v ∈ vs) : conjunction vs ≤ v := by
  induction vs with
  | nil => cases h
  | cons u vs ih =>
    rcases List.mem_cons.mp h with rfl | h
    · exact min_le_left _ _
    · exact (min_le_right _ _).trans (ih h)

lemma conjunction_anti {us vs : List Truth} (h : vs ⊆ us) : conjunction us ≤ conjunction vs := by
  induction vs with
  | nil => exact le_top
  | cons v vs ih =>
    rw [conjunction_cons]
    exact le_min (conjunction_le (h List.mem_cons_self))
      (ih fun u hu => h (List.mem_cons_of_mem v hu))

end Truth

end RowFilter.Query
