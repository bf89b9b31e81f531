import RowFilter.Filter.Binding
import RowFilter.Proofs.Query.Meaning

namespace RowFilter.Filter

open Query

def Literal.operands? : Test → Literal → Option (List Scalar)
  | .comparison _, .scalar s => some [s]
  | .membership _, .list items => items.mapM Literal.scalar?
  | .nullity _, _ => some []
  | _, _ => none

lemma Literal.scalars?_eq_mapM (ls : List Literal) : Literal.scalars? ls = ls.mapM scalar? := by
  induction ls with
  | nil => rfl
  | cons l ls ih =>
    rw [Literal.scalars?, ih, List.mapM_cons]
    cases l.scalar? with
    | none => rfl
    | some s => cases ls.mapM scalar? <;> rfl

lemma placeholders_eq_map (n m : Nat) : placeholders n m = (List.range' n m).map placeholder := by
  induction m generalizing n with
  | zero => rfl
  | succ m ih => rw [placeholders, ih, List.range'_succ, List.map_cons]

lemma placeholders_add (n k m : Nat) :
    placeholders n (k + m) = placeholders n k ++ placeholders (n + k) m := by
  rw [placeholders_eq_map, placeholders_eq_map, placeholders_eq_map, ← List.map_append,
    List.range'_append_1]

namespace Tree

variable {t : Target} {n : Nat}

@[elab_as_elim, induction_eliminator]
theorem induction {motive : Tree → Prop}
    (operator : ∀ op p children, (∀ c ∈ children, motive c) → motive (.operator op p children))
    (operand : ∀ key v children, (∀ c ∈ children, motive c) → motive (.operand key v children))
    (tree : Tree) : motive tree := by
  refine @Tree.rec motive (fun children => ∀ c ∈ children, motive c) operator operand ?_ ?_ tree
  · intro c hc
    cases hc
  · intro c cs hc hcs d hd
    rcases List.mem_cons.mp hd with rfl | hd
    · exact hc
    · exact hcs d hd

lemma bindTest_eq_ok {key : String} {v : Literal} {x : Test} {b : Bound}
    (h : bindTest t n key v x = .ok b) :
    v.operands? x = some b.values ∧
      b.predicate.leaves = [⟨x, t.column key, placeholders n b.values.length⟩] ∧
      ∀ V, b.predicate.value V = V ⟨x, t.column key, placeholders n b.values.length⟩ := by
  cases x with
  | comparison c =>
    cases v with
    | scalar s =>
      cases h
      exact ⟨rfl, rfl, fun V => rfl⟩
    | null => cases h
    | list items => cases h
  | membership negated =>
    cases v with
    | scalar s => cases h
    | null => cases h
    | list items =>
      cases hs : Literal.scalars? items with
      | none => simp [bindTest, hs] at h
      | some ss =>
        simp only [bindTest, hs, Except.ok.injEq] at h
        subst h
        exact ⟨(Literal.scalars?_eq_mapM items).symm.trans hs, rfl, fun V => rfl⟩
  | nullity negated =>
    cases h
    exact ⟨rfl, rfl, fun V => rfl⟩

lemma exists_bindTest_eq_ok {v : Literal} {x : Test} {ss : List Scalar}
    (h : v.operands? x = some ss) (t : Target) (n : Nat) (key : String) :
    ∃ b, bindTest t n key v x = .ok b := by
  cases x with
  | comparison c =>
    cases v with
    | scalar s => exact ⟨_, rfl⟩
    | null => cases h
    | list items => cases h
  | membership negated =>
    cases v with
    | scalar s => cases h
    | null => cases h
    | list items => exact ⟨_, by rw [bindTest, (Literal.scalars?_eq_mapM items).trans h]⟩
  | nullity negated => exact ⟨_, rfl⟩

lemma operand?_eq_some_iff {children : List Tree} {key : String} {v : Literal} :
    operand? children = some (key, v) ↔ ∃ ds, children = [.operand key v ds] := by
  constructor
  · intro h
    match children, h with
    | [.operand _ _ ds], rfl => exact ⟨ds, rfl⟩
  · rintro ⟨ds, rfl⟩
    rfl

lemma bind_test_eq_ok {x : Test} {p : Position} {children : List Tree} {b : Bound}
    (h : bind t n (.operator (.test x) p children) = .ok b) :
    ∃ key v ds, children = [.operand key v ds] ∧ t.allows key = true ∧
      bindTest t n key v x = .ok b := by
  simp only [bind] at h
  split at h
  · cases h
  · next key v ho =>
    split at h
    · next ha =>
      obtain ⟨ds, rfl⟩ := operand?_eq_some_iff.mp ho
      exact ⟨key, v, ds, rfl, ha, h⟩
    · cases h

lemma bind_connective_eq_ok {c : Connective} {p : Position} {children : List Tree} {b : Bound}
    (h : bind t n (.operator (.connective c) p children) = .ok b) :
    ∃ ps vs, bindAll t n children = .ok (ps, vs) ∧ b = ⟨.junction c ps, vs⟩ := by
  simp only [bind] at h
  split at h
  · cases h
  · next ps vs hall =>
    cases h
    exact ⟨ps, vs, hall, rfl⟩

lemma bindAll_cons_eq_ok {c : Tree} {cs : List Tree} {ps : List Predicate} {vs : List Scalar}
    (h : bindAll t n (c :: cs) = .ok (ps, vs)) :
    ∃ b ps' vs', bind t n c = .ok b ∧ bindAll t (n + b.values.length) cs = .ok (ps', vs') ∧
      ps = b.predicate :: ps' ∧ vs = b.values ++ vs' := by
  simp only [bindAll] at h
  split at h
  · cases h
  · next b hb =>
    split at h
    · cases h
    · next ps' vs' hall =>
      cases h
      exact ⟨b, ps', vs', hb, hall, rfl, rfl⟩

theorem bind_induction {motive : Nat → Tree → Bound → Prop}
    {M : Nat → List Tree → List Predicate → List Scalar → Prop}
    (test : ∀ n x p key v ds b, t.allows key = true → bindTest t n key v x = .ok b →
      motive n (.operator (.test x) p [.operand key v ds]) b)
    (connective : ∀ n c p children ps vs, M n children ps vs →
      motive n (.operator (.connective c) p children) ⟨.junction c ps, vs⟩)
    (nil : ∀ n, M n [] [] [])
    (cons : ∀ n c cs b ps vs, motive n c b → M (n + b.values.length) cs ps vs →
      M n (c :: cs) (b.predicate :: ps) (b.values ++ vs))
    {tree : Tree} {b : Bound} (h : bind t n tree = .ok b) : motive n tree b := by
  induction tree generalizing n b with
  | operand key v children ih => cases h
  | operator op p children ih =>
    cases op with
    | test x =>
      obtain ⟨key, v, ds, rfl, ha, hb⟩ := bind_test_eq_ok h
      exact test n x p key v ds b ha hb
    | connective c =>
      obtain ⟨ps, vs, hall, rfl⟩ := bind_connective_eq_ok h
      refine connective n c p children ps vs ?_
      clear h
      induction children generalizing n ps vs with
      | nil =>
        cases hall
        exact nil n
      | cons d ds ihd =>
        obtain ⟨b, ps, vs, hd, hds, rfl, rfl⟩ := bindAll_cons_eq_ok hall
        refine cons n d ds b ps vs (ih d List.mem_cons_self hd) ?_
        exact ihd (fun e he => ih e (List.mem_cons_of_mem d he)) ps vs hds

lemma placeholders_bind {tree : Tree} {b : Bound} (h : bind t n tree = .ok b) :
    b.predicate.placeholders = placeholders n b.values.length := by
  refine bind_induction (motive := fun n _ b =>
      b.predicate.placeholders = placeholders n b.values.length)
    (M := fun n _ ps vs =>
      (Predicate.leavesAll ps).flatMap Leaf.operands = placeholders n vs.length) ?_ ?_ ?_ ?_ h
  · intro n x p key v ds b ha hb
    rw [Predicate.placeholders, (bindTest_eq_ok hb).2.1]
    exact List.append_nil _
  · intro n c p children ps vs hall
    exact hall
  · intro n
    rfl
  · intro n c cs b ps vs hb hall
    rw [Predicate.leavesAll, List.flatMap_append, hall, List.length_append, placeholders_add]
    exact congrArg (· ++ _) hb

end Tree

end RowFilter.Filter

namespace RowFilter.Query.Select

open RowFilter.Filter

lemma narrow_eq_ok {q q' : Select} {t : Target} {tree : Tree} (h : q.narrow t tree = .ok q') :
    ∃ b, tree.bind t q.bindings.next = .ok b ∧ q' = q.extend b.predicate b.values := by
  rw [narrow] at h
  split at h
  · cases h
  · next b hb =>
    cases h
    exact ⟨b, hb, rfl⟩

end RowFilter.Query.Select
