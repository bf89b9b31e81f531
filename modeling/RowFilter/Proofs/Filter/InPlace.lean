import RowFilter.Proofs.Filter.Binding

/-! Narrowing as a program with a state, which leaves the query alone until the whole tree has been
bound. -/

namespace RowFilter.Filter

open Query

structure Session where
  query : Select
  next : Nat
  bound : Bindings

def Session.push (σ : Session) (s : Scalar) : Session :=
  ⟨σ.query, σ.next + 1, σ.bound.insert σ.next s⟩

abbrev InPlace := EStateM BindError Session

namespace InPlace

def bindScalar (s : Scalar) : InPlace String :=
  modifyGet fun σ => (placeholder σ.next, σ.push s)

def bindItems (key : String) : List Literal → InPlace (List String)
  | [] => pure []
  | l :: ls =>
    match l.scalar? with
    | none => throw (.malformedTree (.itemNotScalar key))
    | some s => do
      let p ← bindScalar s
      let ps ← bindItems key ls
      pure (p :: ps)

def bindTest (t : Target) (key : String) (value : Literal) : Test → InPlace Predicate
  | .comparison c =>
    match value.scalar? with
    | none => throw (.malformedTree (.notScalar key))
    | some s => do
      let p ← bindScalar s
      pure (.comparison (t.column key) c p)
  | .membership negated =>
    match value with
    | .list items => do
      let ps ← bindItems key items
      pure (.membership (t.column key) negated ps)
    | _ => throw (.malformedTree (.notList key))
  | .nullity negated => pure (.nullity (t.column key) negated)

mutual

def bindTree (t : Target) : Tree → InPlace Predicate
  | .operand _ _ _ => throw (.malformedTree .strayOperand)
  | .operator (.connective c) _ children => do
    let ps ← bindTrees t children
    pure (.junction c ps)
  | .operator (.test x) _ children =>
    match Tree.operand? children with
    | none => throw (.malformedTree .operandCount)
    | some (key, value) =>
      if t.allows key then bindTest t key value x else throw (.unknownField key)

def bindTrees (t : Target) : List Tree → InPlace (List Predicate)
  | [] => pure []
  | c :: cs => do
    let p ← bindTree t c
    let ps ← bindTrees t cs
    pure (p :: ps)

end

def bindEntries (q : Select) (entries : List (Nat × Scalar)) : Select :=
  entries.foldl (fun q e => q.bind e.1 e.2) q

def commit (p : Predicate) : InPlace Unit :=
  modify fun σ => { σ with query := (bindEntries σ.query σ.bound.entries).addWhere .and p }

def narrow (t : Target) (tree : Tree) : InPlace Unit := do
  let p ← bindTree t tree
  commit p

def run (t : Target) (tree : Tree) (q : Select) : Except BindError Unit × Select :=
  match narrow t tree ⟨q, q.bindings.next, .empty⟩ with
  | .ok _ σ => (.ok (), σ.query)
  | .error e σ => (.error e, σ.query)

end InPlace

namespace Session

variable (σ : Session)

def extend (vs : List Scalar) : Session := vs.foldl push σ

lemma extend_append (vs ws : List Scalar) : σ.extend (vs ++ ws) = (σ.extend vs).extend ws :=
  List.foldl_append

lemma query_extend (vs : List Scalar) : (σ.extend vs).query = σ.query := by
  induction vs generalizing σ with
  | nil => rfl
  | cons v vs ih => exact ih (σ.push v)

lemma next_extend (vs : List Scalar) : (σ.extend vs).next = σ.next + vs.length := by
  induction vs generalizing σ with
  | nil => rfl
  | cons v vs ih =>
    have h := ih (σ.push v)
    rw [push, Nat.add_assoc, Nat.add_comm 1] at h
    exact h

lemma bound_extend (vs : List Scalar) :
    (σ.extend vs).bound = σ.bound.insertFrom σ.next vs := by
  induction vs generalizing σ with
  | nil => rfl
  | cons v vs ih => exact ih (σ.push v)

end Session

namespace InPlace

variable {t : Target} {σ : Session} {e : BindError}

section Sequence

variable {α β : Type} {m : InPlace α} {f : α → InPlace β}

def Fails (m : InPlace α) (σ : Session) (e : BindError) : Prop :=
  ∃ σ', m σ = .error e σ' ∧ σ'.query = σ.query

lemma fails_throw : Fails (throw e : InPlace α) σ e := ⟨σ, rfl, rfl⟩

lemma bind_of_ok {σ' : Session} {a : α} (h : m σ = .ok a σ') : (m >>= f) σ = f a σ' := by
  change EStateM.bind m f σ = _
  rw [EStateM.bind, h]

lemma Fails.bind (h : Fails m σ e) : Fails (m >>= f) σ e := by
  obtain ⟨σ', h, hq⟩ := h
  refine ⟨σ', ?_, hq⟩
  change EStateM.bind m f σ = _
  rw [EStateM.bind, h]

lemma Fails.of_extend {vs : List Scalar} {a : α} (hm : m σ = .ok a (σ.extend vs))
    (h : Fails (f a) (σ.extend vs) e) : Fails (m >>= f) σ e := by
  obtain ⟨σ', h, hq⟩ := h
  exact ⟨σ', (bind_of_ok hm).trans h, hq.trans (σ.query_extend vs)⟩

end Sequence

lemma bindItems_of_scalars {items : List Literal} {ss : List Scalar}
    (h : Literal.scalars? items = some ss) (key : String) (σ : Session) :
    bindItems key items σ = .ok (placeholders σ.next ss.length) (σ.extend ss) := by
  induction items generalizing ss σ with
  | nil =>
    cases h
    rfl
  | cons l items ih =>
    rw [Literal.scalars?] at h
    obtain ⟨s, hs, h⟩ := Option.bind_eq_some_iff.mp h
    obtain ⟨ss, hss, rfl⟩ := Option.map_eq_some_iff.mp h
    have hm : bindScalar s σ = .ok (placeholder σ.next) (σ.push s) := rfl
    rw [bindItems, hs]
    refine (bind_of_ok hm).trans ?_
    rw [bind_of_ok (ih hss (σ.push s))]
    rfl

lemma bindTest_of_ok {n : Nat} {key : String} {v : Literal} {x : Test} {b : Bound}
    (h : Tree.bindTest t n key v x = .ok b) (hn : σ.next = n) :
    bindTest t key v x σ = .ok b.predicate (σ.extend b.values) := by
  subst hn
  cases x with
  | comparison c =>
    cases v with
    | scalar s =>
      cases h
      rfl
    | null => cases h
    | list items => cases h
  | membership negated =>
    cases v with
    | scalar s => cases h
    | null => cases h
    | list items =>
      simp only [Tree.bindTest] at h
      split at h
      · next ss hs =>
        cases h
        rw [bindTest, bind_of_ok (bindItems_of_scalars hs key σ)]
        rfl
      · cases h
  | nullity negated =>
    cases h
    rfl

lemma bindTree_of_ok {n : Nat} {tree : Tree} {b : Bound} (h : tree.bind t n = .ok b) (σ : Session)
    (hn : σ.next = n) : bindTree t tree σ = .ok b.predicate (σ.extend b.values) := by
  revert σ
  refine Tree.bind_induction (motive := fun n tree b => ∀ σ : Session, σ.next = n →
      bindTree t tree σ = .ok b.predicate (σ.extend b.values))
    (M := fun n cs ps vs => ∀ σ : Session, σ.next = n →
      bindTrees t cs σ = .ok ps (σ.extend vs)) ?_ ?_ ?_ ?_ h
  · intro n x p key v ds b ha hb σ hn
    simp only [bindTree, Tree.operand?, if_pos ha]
    exact bindTest_of_ok hb hn
  · intro n c p children ps vs hall σ hn
    rw [bindTree, bind_of_ok (hall σ hn)]
    rfl
  · intro n σ hn
    rfl
  · intro n c cs b ps vs hb hall σ hn
    have hnext : (σ.extend b.values).next = n + b.values.length := by rw [σ.next_extend, hn]
    rw [bindTrees, bind_of_ok (hb σ hn), bind_of_ok (hall _ hnext), σ.extend_append]
    rfl

lemma fails_bindItems {items : List Literal} (h : Literal.scalars? items = none) (key : String)
    (σ : Session) : Fails (bindItems key items) σ (.malformedTree (.itemNotScalar key)) := by
  induction items generalizing σ with
  | nil => cases h
  | cons l items ih =>
    rw [bindItems]
    cases hs : l.scalar? with
    | none => exact fails_throw
    | some s =>
      rw [Literal.scalars?, hs, Option.bind_some, Option.map_eq_none_iff] at h
      have hm : bindScalar s σ = .ok (placeholder σ.next) (σ.extend [s]) := rfl
      exact .of_extend hm (ih h _).bind

lemma fails_bindTest {n : Nat} {key : String} {v : Literal} {x : Test}
    (h : Tree.bindTest t n key v x = .error e) (σ : Session) : Fails (bindTest t key v x) σ e := by
  cases x with
  | comparison c =>
    cases v with
    | scalar s => cases h
    | null =>
      cases h
      exact fails_throw
    | list items =>
      cases h
      exact fails_throw
  | membership negated =>
    cases v with
    | scalar s =>
      cases h
      exact fails_throw
    | null =>
      cases h
      exact fails_throw
    | list items =>
      simp only [Tree.bindTest] at h
      split at h
      · cases h
      · next hs =>
        cases h
        exact (fails_bindItems hs key σ).bind
  | nullity negated => cases h

lemma fails_bindTree_test {x : Test} {p : Position} {children : List Tree}
    (h : Tree.bind t σ.next (.operator (.test x) p children) = .error e) :
    Fails (bindTree t (.operator (.test x) p children)) σ e := by
  simp only [Tree.bind] at h
  rw [bindTree]
  cases ho : Tree.operand? children with
  | none =>
    rw [ho] at h
    cases h
    exact fails_throw
  | some operand =>
    obtain ⟨key, v⟩ := operand
    rw [ho] at h
    by_cases hk : t.allows key = true
    · simp only [if_pos hk] at h ⊢
      exact fails_bindTest h σ
    · simp only [if_neg hk] at h ⊢
      cases h
      exact fails_throw

lemma fails_bindTree (tree : Tree) (σ : Session) (h : tree.bind t σ.next = .error e) :
    Fails (bindTree t tree) σ e := by
  induction tree generalizing σ e with
  | operand key v children ih =>
    cases h
    exact fails_throw
  | operator op p children ih =>
    cases op with
    | test x => exact fails_bindTree_test h
    | connective c =>
      have hall : ∀ e, Tree.bindAll t σ.next children = .error e → Fails (bindTrees t children) σ e := by
        clear h p c
        induction children generalizing σ with
        | nil => exact fun e h => by cases h
        | cons d ds ihd =>
          intro e h
          rw [List.forall_mem_cons] at ih
          rw [Tree.bindAll] at h
          rw [bindTrees]
          cases hd : d.bind t σ.next with
          | error e' =>
            rw [hd] at h
            cases h
            exact (ih.1 σ hd).bind
          | ok b =>
            rw [hd] at h
            simp only at h
            have hm := bindTree_of_ok hd σ rfl
            refine .of_extend hm (Fails.bind (ihd ih.2 (σ.extend b.values) e ?_))
            rw [σ.next_extend]
            split at h
            · next he =>
              cases h
              exact he
            · cases h
      rw [Tree.bind] at h
      rw [bindTree]
      split at h
      · next he =>
        cases h
        exact (hall _ he).bind
      · cases h

lemma bindEntries_zip (q : Select) (n : Nat) (vs : List Scalar) :
    bindEntries q ((List.range' n vs.length).zip vs) =
      { q with bindings := q.bindings.insertFrom n vs } := by
  induction vs generalizing q n with
  | nil => rfl
  | cons v vs ih => exact ih (q.bind n v) (n + 1)

lemma bindEntries_insertFrom (q : Select) {n : Nat} (h : 0 < n) (vs : List Scalar) :
    bindEntries q (Bindings.empty.insertFrom n vs).entries =
      { q with bindings := q.bindings.insertFrom n vs } := by
  rw [Bindings.empty.entries_insertFrom h, ← bindEntries_zip]
  rfl

lemma commit_extend (q : Select) (p : Predicate) (vs : List Scalar) :
    ∃ σ, commit p (Session.extend ⟨q, q.bindings.next, .empty⟩ vs) = .ok () σ ∧
      σ.query = q.extend p vs := by
  refine ⟨_, rfl, ?_⟩
  simp only [Session.query_extend, Session.bound_extend]
  rw [bindEntries_insertFrom q q.bindings.next_pos]
  rfl

theorem run_eq (t : Target) (tree : Tree) (q : Select) :
    run t tree q =
      match q.narrow t tree with
      | .ok q' => (.ok (), q')
      | .error e => (.error e, q) := by
  rw [run, Select.narrow, narrow]
  cases h : tree.bind t q.bindings.next with
  | ok b =>
    obtain ⟨σ, hσ, hq⟩ := commit_extend q b.predicate b.values
    rw [bind_of_ok (bindTree_of_ok h _ rfl), hσ]
    exact congrArg (Prod.mk _) hq
  | error e =>
    have hf := fails_bindTree tree ⟨q, q.bindings.next, .empty⟩ h
    obtain ⟨σ, hσ, hq⟩ := hf.bind (f := commit)
    rw [hσ]
    exact congrArg (Prod.mk _) hq

end InPlace

end RowFilter.Filter
