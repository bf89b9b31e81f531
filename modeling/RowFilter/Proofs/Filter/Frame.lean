import RowFilter.Proofs.Filter.Fault

namespace RowFilter.Filter

open Query

namespace Tree

def isTest : Tree → Bool
  | .operator (.test _) _ _ => true
  | _ => false

def compared : Tree → List Scalar
  | .operator (.test (.comparison _)) _ [.operand _ (.scalar s) _] => [s]
  | .operator (.test (.membership _)) _ [.operand _ (.list items) _] =>
    items.filterMap Literal.scalar?
  | _ => []

/-- The scalars of the operands of comparisons and of the items of lists, in preorder. An operand is
a leaf of the filter; what a tree has below one is not read. -/
def scalars (tree : Tree) : List Scalar := tree.conditions.flatMap compared

def testCount (tree : Tree) : Nat := tree.conditions.countP isTest

variable {t : Target} {n : Nat}

lemma filterMap_of_scalars {items : List Literal} {ss : List Scalar}
    (h : Literal.scalars? items = some ss) : items.filterMap Literal.scalar? = ss := by
  rw [scalars?_eq_some_iff.mp h, List.filterMap_map]
  exact List.filterMap_some

lemma compared_of_operands {x : Test} {v : Literal} {ss : List Scalar} (h : v.operands? x = some ss)
    (p : Position) (key : String) (ds : List Tree) :
    compared (.operator (.test x) p [.operand key v ds]) = ss := by
  cases x with
  | comparison c =>
    cases v with
    | scalar s =>
      cases h
      rfl
    | null => cases h
    | list items => cases h
  | membership negated =>
    cases v with
    | scalar s => cases h
    | null => cases h
    | list items => exact filterMap_of_scalars ((Literal.scalars?_eq_mapM items).trans h)
  | nullity negated =>
    cases h
    rfl

lemma values_bind {tree : Tree} {b : Bound} (h : bind t n tree = .ok b) :
    b.values = tree.scalars := by
  refine bind_induction (motive := fun _ tree b => b.values = tree.scalars)
    (M := fun _ cs _ vs => vs = (conditionsAll cs).flatMap compared) ?_ ?_ ?_ ?_ h
  · intro n x p key v ds b ha hb
    rw [scalars, conditions, List.flatMap_singleton, compared_of_operands (bindTest_eq_ok hb).1]
  · intro n c p children ps vs hall
    exact hall
  · intro n
    rfl
  · intro n c cs b ps vs hb hall
    rw [conditionsAll, List.flatMap_append, hb, hall]
    rfl

lemma leafCount_bind {tree : Tree} {b : Bound} (h : bind t n tree = .ok b) :
    b.predicate.leafCount = tree.testCount := by
  refine bind_induction (motive := fun _ tree b => b.predicate.leafCount = tree.testCount)
    (M := fun _ cs ps _ => Predicate.leafCounts ps = (conditionsAll cs).countP isTest)
    ?_ ?_ ?_ ?_ h
  · intro n x p key v ds b ha hb
    rw [← Predicate.length_leaves, (bindTest_eq_ok hb).2.1]
    rfl
  · intro n c p children ps vs hall
    rw [Predicate.leafCount, hall, testCount, conditions, List.countP_cons]
    rfl
  · intro n
    rfl
  · intro n c cs b ps vs hb hall
    rw [Predicate.leafCounts, conditionsAll, List.countP_append, hb, hall]
    rfl

end Tree

end RowFilter.Filter

namespace RowFilter.Query.Select

open RowFilter.Filter

/-- A narrowed query has one more condition, with a leaf for each test of the tree, behind the
leaves it had. The scalars of the tree are bound behind those of the query, to the placeholders of
this condition from left to right; the table, its alias and what was bound before stay. -/
theorem narrow_frame {q q' : Select} {t : Target} {tree : Tree} (h : q.narrow t tree = .ok q') :
    q'.table = q.table ∧ q'.tableAlias = q.tableAlias ∧
    q'.bindings.entries = q.bindings.entries ++
      (List.range' q.bindings.next tree.scalars.length).zip tree.scalars ∧
    ∃ p, q'.where? = some (combine .and p q.where?) ∧ q'.leaves = q.leaves ++ p.leaves ∧
      p.placeholders = (List.range' q.bindings.next tree.scalars.length).map placeholder ∧
      p.leafCount = tree.testCount := by
  obtain ⟨b, hb, rfl⟩ := narrow_eq_ok h
  rw [← Tree.values_bind hb]
  refine ⟨rfl, rfl, q.bindings.entries_insertFrom le_rfl b.values, b.predicate, rfl,
    q.leaves_extend b.predicate b.values, ?_, Tree.leafCount_bind hb⟩
  rw [Tree.placeholders_bind hb, placeholders_eq_map]

theorem narrow_frame_behind_gap :
    let q : Select := ⟨"users", "u", some (.comparison "u.scope" .eq (placeholder 3)),
      Bindings.empty.insert 3 (.string "public")⟩
    let tree : Tree := .operator (.connective .and) .start
      [.test (.membership true) .start "id" (.list [.scalar (.integer 7), .scalar (.integer 8)]),
        .operator (.connective .or) .start
          [.test (.nullity false) .start "name" (.scalar (.string "ignored")),
            .test (.comparison .like) .start "name" (.scalar (.string "J%"))]]
    ∃ q', q.narrow ⟨"u", fun _ => true⟩ tree = .ok q' ∧
      q'.bindings.entries = [(3, .string "public"), (4, .integer 7), (5, .integer 8),
        (6, .string "J%")] ∧
      ∃ p, q'.where? = some (combine .and p q.where?) ∧ q'.leaves = q.leaves ++ p.leaves ∧
        p.placeholders = [placeholder 4, placeholder 5, placeholder 6] ∧ p.leafCount = 3 := by
  intro q tree
  obtain ⟨q', h⟩ : ∃ q', q.narrow ⟨"u", fun _ => true⟩ tree = .ok q' := ⟨_, rfl⟩
  obtain ⟨-, -, hentries, p, hwhere, hleaves, hplaceholders, hcount⟩ := narrow_frame h
  exact ⟨q', h, hentries, p, hwhere, hleaves, hplaceholders, hcount⟩

end RowFilter.Query.Select
