import RowFilter.Proofs.Filter.Binding
import RowFilter.Proofs.Query.Flattening

namespace RowFilter.Filter.Tree

open Query

variable {t : Target} {n : Nat} {c d : List Tree}

lemma bindAll_append (t : Target) (n : Nat) (c d : List Tree) :
    bindAll t n (c ++ d) =
      (bindAll t n c).bind fun (ps, vs) =>
        (bindAll t (n + vs.length) d).map fun (qs, ws) => (ps ++ qs, vs ++ ws) := by
  induction c generalizing n with
  | nil =>
    simp only [List.nil_append, bindAll, Except.bind, List.length_nil, Nat.add_zero]
    cases bindAll t n d <;> rfl
  | cons x c ih =>
    rw [List.cons_append, bindAll, bindAll]
    cases bind t n x with
    | error e => rfl
    | ok b =>
      simp only [ih (n + b.values.length)]
      cases bindAll t (n + b.values.length) c with
      | error e => rfl
      | ok r =>
        obtain ⟨ps, vs⟩ := r
        simp only [Except.bind, List.length_append, Nat.add_assoc]
        cases bindAll t (n + (b.values.length + vs.length)) d <;> simp [Except.map]

end RowFilter.Filter.Tree

namespace RowFilter.Query.Select

open RowFilter.Filter

variable {q : Select} {t : Target} {c d : List Tree}

lemma narrow_conjunction (q : Select) (t : Target) (p : Position) (c : List Tree) :
    q.narrow t (.operator (.connective .and) p c) =
      (Tree.bindAll t q.bindings.next c).map fun r => q.extend (.junction .and r.1) r.2 := by
  rw [narrow, Tree.bind]
  cases Tree.bindAll t q.bindings.next c <;> rfl

structure SameUpToGrouping (q q' : Select) : Prop where
  table : q.table = q'.table
  tableAlias : q.tableAlias = q'.tableAlias
  bindings : q.bindings = q'.bindings
  condition : ∃ w w' v, q.where? = some w ∧ q'.where? = some w' ∧ w.IsFlatForm v ∧ w'.IsFlatForm v

lemma sameUpToGrouping_extend (q : Select) (ps qs : List Predicate) (vs ws : List Scalar) :
    (q.extend (.junction .and (ps ++ qs)) (vs ++ ws)).SameUpToGrouping
      ((q.extend (.junction .and ps) vs).extend (.junction .and qs) ws) where
  table := rfl
  tableAlias := rfl
  bindings := by
    have hnext := q.bindings.next_insertFrom vs
    have happend := q.bindings.insertFrom_append q.bindings.next vs ws
    rw [← hnext] at happend
    exact happend
  condition := by
    let w := combine .and (.junction .and (ps ++ qs)) q.where?
    let w' := combine .and (.junction .and qs) (some (combine .and (.junction .and ps) q.where?))
    have hconjuncts : w.conjuncts = w'.conjuncts := by
      simp only [w, w', conjuncts_combine, Option.elim_some, Predicate.conjuncts,
        Predicate.conjunctsAll_append, List.append_assoc]
    have hflat : w.flat = w'.flat := congrArg Predicate.conjoin hconjuncts
    refine ⟨w, w', w.flat, rfl, rfl, w.isFlatForm_flat, ?_⟩
    rw [hflat]
    exact w'.isFlatForm_flat

end RowFilter.Query.Select
