import RowFilter.Proofs.Filter.Binding

namespace RowFilter.Filter

open Query

namespace Tree

mutual

/-- The value of a tree whose fields are columns of the table with this alias. A tree that is not
well formed has no meaning; its value is left unknown. -/
def value (I : Interpretation) (tableAlias : String) : Tree → Truth
  | .operator (.connective c) _ children => Truth.junction c (values I tableAlias children)
  | .operator (.test x) _ [.operand key v _] =>
    match v.operands? x with
    | some ss => I ⟨x, tableAlias ++ "." ++ key, ss.map some⟩
    | none => .unknown
  | _ => .unknown

def values (I : Interpretation) (tableAlias : String) : List Tree → List Truth
  | [] => []
  | c :: cs => c.value I tableAlias :: values I tableAlias cs

end

lemma value_bind {t : Target} {n : Nat} {tree : Tree} {b : Bound} (h : bind t n tree = .ok b)
    {β : Bindings} (hβ : (List.range' n b.values.length).map β.get? = b.values.map some)
    (I : Interpretation) : b.predicate.value (I.under β) = tree.value I t.tableAlias := by
  revert hβ
  refine bind_induction (motive := fun n tree b =>
      (List.range' n b.values.length).map β.get? = b.values.map some →
        b.predicate.value (I.under β) = tree.value I t.tableAlias)
    (M := fun n cs ps vs => (List.range' n vs.length).map β.get? = vs.map some →
      Predicate.values (I.under β) ps = values I t.tableAlias cs) ?_ ?_ ?_ ?_ h
  · intro n x p key v ds b ha hb hβ
    obtain ⟨hv, -, hp⟩ := bindTest_eq_ok hb
    have hs : (placeholders n b.values.length).map β.value? = b.values.map some := by
      rw [placeholders_eq_map, List.map_map, ← hβ]
      exact List.map_congr_left fun m hm => β.value?_placeholder m
    rw [hp, Interpretation.under, Leaf.map, hs, value, hv]
    rfl
  · intro n c p children ps vs hall hβ
    rw [Predicate.value, hall hβ, value]
  · intro n hβ
    rfl
  · intro n c cs b ps vs hb hall hβ
    -- the first tree takes the numbers from `n` on, the others those behind them
    rw [List.length_append, ← List.range'_append_1, List.map_append, List.map_append] at hβ
    obtain ⟨hl, hr⟩ := List.append_inj hβ (by simp)
    rw [Predicate.values, hb hl, hall hr, values]

end Tree

end RowFilter.Filter

namespace RowFilter.Query.Select

open RowFilter.Filter

theorem value_narrow {q q' : Select} {t : Target} {tree : Tree} (hq : q.AllBound)
    (h : q.narrow t tree = .ok q') (I : Interpretation) :
    q'.value I = min (q.value I) (tree.value I t.tableAlias) := by
  obtain ⟨b, hb, rfl⟩ := narrow_eq_ok h
  have hβ := q.bindings.map_get?_insertFrom q.bindings.next b.values
  rw [hq.value_extend]
  exact congrArg _ (Tree.value_bind hb hβ I)

theorem value_narrow_behind_gap :
    let q : Select := ⟨"users", "u",
      some (.junction .or [.comparison "u.scope" .eq (placeholder 3), .nullity "u.owner" false]),
      Bindings.empty.insert 3 (.string "public")⟩
    let tree : Tree := .operator (.connective .and) .start
      [.test (.membership true) .start "id" (.list [.scalar (.integer 7), .scalar (.integer 8)]),
        .operator (.connective .or) .start
          [.test (.comparison .like) .start "name" (.scalar (.string "J%"))]]
    let I : Interpretation := fun l =>
      match l.test with
      | .comparison .eq => .unknown
      | .nullity _ => .false
      | _ => .true
    q.AllBound ∧ ∃ q', q.narrow ⟨"u", fun _ => true⟩ tree = .ok q' ∧ q'.value I = .unknown := by
  intro q tree I
  have hq : q.AllBound := by
    intro s hs
    exact ⟨3, List.mem_singleton.mpr rfl, List.mem_singleton.mp hs⟩
  obtain ⟨q', h⟩ : ∃ q', q.narrow ⟨"u", fun _ => true⟩ tree = .ok q' := ⟨_, rfl⟩
  have hv : min (q.value I) (tree.value I "u") = .unknown := rfl
  exact ⟨hq, q', h, (value_narrow hq h I).trans hv⟩

end RowFilter.Query.Select
