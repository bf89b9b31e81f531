import RowFilter.Proofs.Query.Meaning

namespace RowFilter.Query

structure Addition where
  connective : Connective
  predicate : Predicate

namespace Addition

variable (V : Leaf String → Truth)

def step (v : Truth) (a : Addition) : Truth := v.combine a.connective (a.predicate.value V)

/-- The value of the first condition, combined from left to right with that of each next one by the
connective it is added with. -/
def leftToRight : List Addition → Option Truth
  | [] => none
  | a :: as => some (as.foldl (step V) (a.predicate.value V))

end Addition

namespace Select

variable (q : Select)

def addAll (as : List Addition) : Select :=
  as.foldl (fun q a => q.addWhere a.connective a.predicate) q

variable {q}

lemma value_addAll (V : Leaf String → Truth) {w : Predicate} (h : q.where? = some w)
    (as : List Addition) :
    (q.addAll as).where?.map (Predicate.value V) =
      some (as.foldl (Addition.step V) (w.value V)) := by
  induction as generalizing q w with
  | nil =>
    rw [addAll, List.foldl_nil, h]
    rfl
  | cons a as ih =>
    have hadd : (q.addWhere a.connective a.predicate).where? =
        some (combine a.connective a.predicate (some w)) := by
      rw [addWhere, h]
    have hstep : (combine a.connective a.predicate (some w)).value V =
        Addition.step V (w.value V) a := value_combine _ _ _ _
    rw [List.foldl_cons, ← hstep]
    exact ih hadd

lemma leaves_addAll (q : Select) (as : List Addition) :
    (q.addAll as).leaves = q.leaves ++ as.flatMap fun a => a.predicate.leaves := by
  induction as generalizing q with
  | nil => exact (List.append_nil _).symm
  | cons a as ih =>
    rw [List.flatMap_cons, ← List.append_assoc, ← leaves_addWhere]
    exact ih (q.addWhere a.connective a.predicate)

theorem where_addAll (table tableAlias : String) (as : List Addition) (V : Leaf String → Truth) :
    ((ofTable table tableAlias).addAll as).where?.map (Predicate.value V) =
        Addition.leftToRight V as ∧
      ((ofTable table tableAlias).addAll as).leaves =
        as.flatMap fun a => a.predicate.leaves := by
  refine ⟨?_, leaves_addAll _ as⟩
  cases as with
  | nil => rfl
  | cons a as => exact value_addAll V rfl as

end Select

end RowFilter.Query
