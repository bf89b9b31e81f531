import RowFilter.Proofs.Filter.Binding
import RowFilter.Proofs.Outcome

/-! Trees that cannot be bound. The error is that of the first node at fault, in preorder. -/

namespace RowFilter.Filter

open Outcome (error? error?_eq_some_iff error?_eq_none_iff)

namespace Tree

inductive Accepted (t : Target) : Tree → Prop
  | junction {c : Connective} {p : Position} {children : List Tree}
      (h : ∀ d ∈ children, Accepted t d) : Accepted t (.operator (.connective c) p children)
  | comparison {c : Comparison} {p : Position} {key : String} {s : Scalar} {ds : List Tree}
      (hk : t.allows key = true) :
      Accepted t (.operator (.test (.comparison c)) p [.operand key (.scalar s) ds])
  | membership {negated : Bool} {p : Position} {key : String} {ss : List Scalar} {ds : List Tree}
      (hk : t.allows key = true) :
      Accepted t (.operator (.test (.membership negated)) p [.operand key (.list (ss.map .scalar)) ds])
  | nullity {negated : Bool} {p : Position} {key : String} {v : Literal} {ds : List Tree}
      (hk : t.allows key = true) :
      Accepted t (.operator (.test (.nullity negated)) p [.operand key v ds])

/-- The error of a node in the place of an operator. A value counts only where the field is allowed,
and a field only where there is just one. -/
inductive IsFault (t : Target) : Tree → BindError → Prop
  | stray {key : String} {v : Literal} {ds : List Tree} :
      IsFault t (.operand key v ds) (.malformedTree .strayOperand)
  | shape {x : Test} {p : Position} {children : List Tree}
      (h : ∀ key v ds, children ≠ [.operand key v ds]) :
      IsFault t (.operator (.test x) p children) (.malformedTree .operandCount)
  | field {x : Test} {p : Position} {key : String} {v : Literal} {ds : List Tree}
      (hk : t.allows key = false) :
      IsFault t (.operator (.test x) p [.operand key v ds]) (.unknownField key)
  | notScalar {c : Comparison} {p : Position} {key : String} {v : Literal} {ds : List Tree}
      (hk : t.allows key = true) (hv : ∀ s, v ≠ .scalar s) :
      IsFault t (.operator (.test (.comparison c)) p [.operand key v ds])
        (.malformedTree (.notScalar key))
  | notList {negated : Bool} {p : Position} {key : String} {v : Literal} {ds : List Tree}
      (hk : t.allows key = true) (hv : ∀ items, v ≠ .list items) :
      IsFault t (.operator (.test (.membership negated)) p [.operand key v ds])
        (.malformedTree (.notList key))
  | itemNotScalar {negated : Bool} {p : Position} {key : String} {items : List Literal}
      {ds : List Tree} (hk : t.allows key = true) (hv : ∃ l ∈ items, ∀ s, l ≠ .scalar s) :
      IsFault t (.operator (.test (.membership negated)) p [.operand key (.list items) ds])
        (.malformedTree (.itemNotScalar key))

mutual

def conditions : Tree → List Tree
  | .operator (.connective c) p children =>
    .operator (.connective c) p children :: conditionsAll children
  | .operator (.test x) p children => [.operator (.test x) p children]
  | .operand key v children => [.operand key v children]

def conditionsAll : List Tree → List Tree
  | [] => []
  | c :: cs => c.conditions ++ conditionsAll cs

end

def fault? (t : Target) : Tree → Option BindError
  | .operator (.connective _) _ _ => none
  | .operator (.test x) p children => error? (bind t 0 (.operator (.test x) p children))
  | .operand key v children => error? (bind t 0 (.operand key v children))

variable {t : Target} {n : Nat} {e : BindError}

lemma mem_conditionsAll {d : Tree} {cs : List Tree} :
    d ∈ conditionsAll cs ↔ ∃ c ∈ cs, d ∈ c.conditions := by
  induction cs with
  | nil => simp [conditionsAll]
  | cons c cs ih => simp [conditionsAll, ih]

lemma scalars?_eq_some_iff {items : List Literal} {ss : List Scalar} :
    Literal.scalars? items = some ss ↔ items = ss.map .scalar := by
  induction items generalizing ss with
  | nil => cases ss <;> simp [Literal.scalars?]
  | cons l items ih =>
    cases l with
    | scalar s => cases ss <;> simp [Literal.scalars?, Literal.scalar?, ih, and_comm]
    | null => cases ss <;> simp [Literal.scalars?, Literal.scalar?]
    | list ls => cases ss <;> simp [Literal.scalars?, Literal.scalar?]

lemma scalars?_eq_none_iff {items : List Literal} :
    Literal.scalars? items = none ↔ ∃ l ∈ items, ∀ s, l ≠ .scalar s := by
  induction items with
  | nil => simp [Literal.scalars?]
  | cons l items ih =>
    cases l with
    | scalar s => simp [Literal.scalars?, Literal.scalar?, ih]
    | null => simp [Literal.scalars?, Literal.scalar?]
    | list ls => simp [Literal.scalars?, Literal.scalar?]

lemma error?_bindTest (n : Nat) (key : String) (v : Literal) (x : Test) :
    error? (bindTest t n key v x) = error? (bindTest t 0 key v x) := by
  cases x with
  | comparison c => cases v <;> rfl
  | membership negated =>
    cases v with
    | list items =>
      simp only [bindTest]
      cases Literal.scalars? items <;> rfl
    | _ => rfl
  | nullity negated => rfl

lemma error?_bind_test (n : Nat) (x : Test) (p : Position) (children : List Tree) :
    error? (bind t n (.operator (.test x) p children)) =
      fault? t (.operator (.test x) p children) := by
  simp only [fault?, bind]
  split
  · rfl
  · split
    · exact error?_bindTest n _ _ x
    · rfl

lemma isFault_of_bindTest {x : Test} {p : Position} {key : String} {v : Literal} {ds : List Tree}
    (hk : t.allows key = true) (h : bindTest t n key v x = .error e) :
    IsFault t (.operator (.test x) p [.operand key v ds]) e := by
  cases x with
  | comparison c =>
    cases v with
    | scalar s => cases h
    | null =>
      cases h
      exact .notScalar hk nofun
    | list items =>
      cases h
      exact .notScalar hk nofun
  | membership negated =>
    cases v with
    | scalar s =>
      cases h
      exact .notList hk nofun
    | null =>
      cases h
      exact .notList hk nofun
    | list items =>
      simp only [bindTest] at h
      split at h
      · cases h
      · next hs =>
        cases h
        exact .itemNotScalar hk (scalars?_eq_none_iff.mp hs)
  | nullity negated => cases h

lemma isFault_of_bind_test {x : Test} {p : Position} {children : List Tree}
    (h : bind t n (.operator (.test x) p children) = .error e) :
    IsFault t (.operator (.test x) p children) e := by
  simp only [bind] at h
  split at h
  · next ho =>
    cases h
    refine .shape fun key v ds hc => ?_
    rw [operand?_eq_some_iff.mpr ⟨ds, hc⟩] at ho
    cases ho
  · next key v ho =>
    obtain ⟨ds, rfl⟩ := operand?_eq_some_iff.mp ho
    split at h
    · next hk => exact isFault_of_bindTest hk h
    · next hk =>
      cases h
      exact .field (Bool.not_eq_true _ ▸ hk)

lemma IsFault.bind_test {x : Test} {p : Position} {children : List Tree}
    (h : IsFault t (.operator (.test x) p children) e) (n : Nat) :
    bind t n (.operator (.test x) p children) = .error e := by
  cases h with
  | shape h =>
    have ho : operand? children = none := by
      rw [Option.eq_none_iff_forall_ne_some]
      intro kv hkv
      obtain ⟨ds, hc⟩ := operand?_eq_some_iff.mp hkv
      exact h _ _ _ hc
    simp only [bind, ho]
  | field hk => simp [bind, operand?, hk]
  | @notScalar c p key v ds hk hv =>
    cases v with
    | scalar s => exact absurd rfl (hv s)
    | null => simp [bind, operand?, hk, bindTest, Literal.scalar?]
    | list items => simp [bind, operand?, hk, bindTest, Literal.scalar?]
  | @notList negated p key v ds hk hv =>
    cases v with
    | scalar s => simp [bind, operand?, hk, bindTest]
    | null => simp [bind, operand?, hk, bindTest]
    | list items => exact absurd rfl (hv items)
  | itemNotScalar hk hv => simp [bind, operand?, hk, bindTest, scalars?_eq_none_iff.mpr hv]

lemma accepted_test_iff {x : Test} {p : Position} {children : List Tree} :
    Accepted t (.operator (.test x) p children) ↔
      fault? t (.operator (.test x) p children) = none := by
  rw [fault?, error?_eq_none_iff]
  constructor
  · intro h
    cases h with
    | comparison hk => simp [bind, operand?, hk, bindTest, Literal.scalar?]
    | membership hk => simp [bind, operand?, hk, bindTest, scalars?_eq_some_iff.mpr rfl]
    | nullity hk => simp [bind, operand?, hk, bindTest]
  · rintro ⟨b, hb⟩
    obtain ⟨key, v, ds, rfl, hk, hv⟩ := bind_test_eq_ok hb
    cases x with
    | comparison c =>
      cases v with
      | scalar s => exact .comparison hk
      | null => cases hv
      | list items => cases hv
    | membership negated =>
      cases v with
      | scalar s => cases hv
      | null => cases hv
      | list items =>
        simp only [bindTest] at hv
        split at hv
        · next ss hs =>
          obtain rfl := scalars?_eq_some_iff.mp hs
          exact .membership hk
        · cases hv
    | nullity negated => exact .nullity hk

lemma fault?_eq_some_iff {node : Tree} : fault? t node = some e ↔ IsFault t node e := by
  cases node with
  | operand key v ds =>
    rw [fault?, error?_eq_some_iff]
    constructor
    · intro h
      cases h
      exact .stray
    · rintro ⟨⟩
      rfl
  | operator op p children =>
    cases op with
    | connective c => exact ⟨nofun, nofun⟩
    | test x =>
      rw [fault?, error?_eq_some_iff]
      exact ⟨isFault_of_bind_test, fun h => h.bind_test 0⟩

lemma error?_bind (tree : Tree) (n : Nat) :
    error? (bind t n tree) = tree.conditions.findSome? (fault? t) := by
  induction tree generalizing n with
  | operand key v children ih => rfl
  | operator op p children ih =>
    cases op with
    | test x => simpa [conditions] using error?_bind_test n x p children
    | connective c =>
      have hall : error? (bindAll t n children) = (conditionsAll children).findSome? (fault? t) := by
        clear p c
        induction children generalizing n with
        | nil => rfl
        | cons d ds ihd =>
          rw [List.forall_mem_cons] at ih
          rw [conditionsAll, List.findSome?_append, ← ih.1 n, bindAll]
          cases hd : bind t n d with
          | error e => rfl
          | ok b =>
            simp only
            rw [← ihd ih.2 (n + b.values.length)]
            cases bindAll t (n + b.values.length) ds <;> rfl
      rw [conditions, List.findSome?_cons, ← hall, bind, fault?]
      cases bindAll t n children <;> rfl

lemma accepted_iff {tree : Tree} : Accepted t tree ↔ ∀ d ∈ tree.conditions, fault? t d = none := by
  induction tree with
  | operand key v children ih => exact ⟨nofun, fun h => by cases h _ List.mem_cons_self⟩
  | operator op p children ih =>
    cases op with
    | test x => rw [accepted_test_iff, conditions, List.forall_mem_singleton]
    | connective c =>
      rw [conditions, List.forall_mem_cons]
      constructor
      · rintro ⟨h⟩
        refine ⟨rfl, fun d hd => ?_⟩
        obtain ⟨child, hchild, hd⟩ := mem_conditionsAll.mp hd
        exact (ih child hchild).mp (h child hchild) d hd
      · rintro ⟨-, h⟩
        refine .junction fun child hchild => (ih child hchild).mpr fun d hd => ?_
        exact h d (mem_conditionsAll.mpr ⟨child, hchild, hd⟩)

lemma exists_bind_eq_ok_iff {tree : Tree} : (∃ b, bind t n tree = .ok b) ↔ Accepted t tree := by
  rw [← error?_eq_none_iff, error?_bind, List.findSome?_eq_none_iff, accepted_iff]

lemma bind_eq_error_iff {tree : Tree} :
    bind t n tree = .error e ↔
      ∃ l x r, tree.conditions = l ++ x :: r ∧ IsFault t x e ∧ ∀ y ∈ l, ∀ e', ¬ IsFault t y e' := by
  rw [← error?_eq_some_iff, error?_bind, List.findSome?_eq_some_iff]
  simp only [← fault?_eq_some_iff, Option.eq_none_iff_forall_ne_some]

end Tree

end RowFilter.Filter

namespace RowFilter.Query.Select

open RowFilter.Filter

variable {q : Select} {t : Target} {tree : Tree}

lemma narrow_eq_error_iff {e : BindError} :
    q.narrow t tree = .error e ↔ tree.bind t q.bindings.next = .error e := by
  rw [narrow]
  cases tree.bind t q.bindings.next <;> simp

lemma exists_narrow_eq_ok_iff : (∃ q', q.narrow t tree = .ok q') ↔ tree.Accepted t := by
  rw [← Tree.exists_bind_eq_ok_iff (n := q.bindings.next), narrow]
  cases tree.bind t q.bindings.next <;> simp

end RowFilter.Query.Select
