import RowFilter.Proofs.Query.Leaf
import RowFilter.Proofs.Query.Truth

/-! The truth value of a condition, from the values of its leaves. -/

namespace RowFilter.Query

abbrev Interpretation := Leaf (Option Scalar) → Truth

def Interpretation.under (I : Interpretation) (b : Bindings) (l : Leaf String) : Truth :=
  I (l.map b.value?)

namespace Predicate

mutual

def value (V : Leaf String → Truth) : Predicate → Truth
  | comparison column op s => V ⟨.comparison op, column, [s]⟩
  | membership column negated ss => V ⟨.membership negated, column, ss⟩
  | nullity column negated => V ⟨.nullity negated, column, []⟩
  | junction c parts => Truth.junction c (values V parts)

def values (V : Leaf String → Truth) : List Predicate → List Truth
  | [] => []
  | p :: ps => p.value V :: values V ps

end

lemma values_eq_map (V : Leaf String → Truth) (ps : List Predicate) :
    values V ps = ps.map (value V) := by
  induction ps with
  | nil => rfl
  | cons p ps ih => rw [values, ih, List.map_cons]

lemma value_congr {V W : Leaf String → Truth} {p : Predicate} (h : ∀ l ∈ p.leaves, V l = W l) :
    p.value V = p.value W := by
  induction p with
  | comparison column op s => exact h _ (List.mem_singleton.mpr rfl)
  | membership column negated ss => exact h _ (List.mem_singleton.mpr rfl)
  | nullity column negated => exact h _ (List.mem_singleton.mpr rfl)
  | junction c parts ih =>
    rw [value, value, values_eq_map, values_eq_map]
    refine congrArg _ (List.map_congr_left fun p hp => ih p hp fun l hl => ?_)
    exact h l (mem_leavesAll hp hl)

end Predicate

namespace Select

variable (q : Select)

def value (I : Interpretation) : Truth :=
  match q.where? with
  | none => .true
  | some p => p.value (I.under q.bindings)

lemma value_combine (c : Connective) (p w : Predicate) (V : Leaf String → Truth) :
    (combine c p (some w)).value V = Truth.combine c (w.value V) (p.value V) := by
  rcases combine_cases c p w with ⟨parts, rfl, h⟩ | h
  · rw [h, Predicate.value, Predicate.value, Predicate.values_eq_map, Predicate.values_eq_map,
      List.map_append, Truth.junction_append, List.map_singleton, Truth.junction_singleton]
  · rw [h, Predicate.value, Predicate.values_eq_map, List.map_cons, List.map_singleton,
      ← List.singleton_append, Truth.junction_append, Truth.junction_singleton,
      Truth.junction_singleton]

lemma value_addWhere_and (p : Predicate) (I : Interpretation) :
    (q.addWhere .and p).value I = min (q.value I) (p.value (I.under q.bindings)) := by
  obtain ⟨table, tableAlias, w?, b⟩ := q
  cases w? with
  | none => exact (min_top_left _).symm
  | some w => exact value_combine .and p w _

variable {q}

lemma AllBound.value_insertFrom (h : q.AllBound) (vs : List Scalar) (I : Interpretation) :
    { q with bindings := q.bindings.insertFrom q.bindings.next vs }.value I = q.value I := by
  -- the old placeholders are bound, so the new numbers lie behind all of theirs
  have hs : ∀ s ∈ q.placeholders,
      (q.bindings.insertFrom q.bindings.next vs).value? s = q.bindings.value? s := by
    intro s hs
    obtain ⟨n, hn, rfl⟩ := h s hs
    rw [Bindings.value?_placeholder, Bindings.value?_placeholder,
      q.bindings.get?_insertFrom_of_lt (q.bindings.lt_next hn)]
  obtain ⟨table, tableAlias, w?, b⟩ := q
  cases w? with
  | none => rfl
  | some p =>
    refine Predicate.value_congr fun l hl => congrArg I ?_
    exact congrArg _ (List.map_congr_left fun s hm => hs s (List.mem_flatMap.mpr ⟨l, hl, hm⟩))

lemma AllBound.value_extend (h : q.AllBound) (p : Predicate) (vs : List Scalar)
    (I : Interpretation) :
    (q.extend p vs).value I =
      min (q.value I) (p.value (I.under (q.extend p vs).bindings)) := by
  rw [← h.value_insertFrom vs I]
  exact value_addWhere_and _ p I

end Select

end RowFilter.Query
