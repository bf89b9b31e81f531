import RowFilter.Proofs.Filter.Run

/-! A skeleton is a tree without its scalars. Binding it is binding the tree and forgetting the
values. -/

namespace RowFilter.Filter

open Query

def blank : Scalar := .boolean false

namespace Literal

mutual

def skeleton : Literal → Literal
  | .scalar _ => .scalar blank
  | .null => .null
  | .list items => .list (skeletons items)

def skeletons : List Literal → List Literal
  | [] => []
  | l :: ls => l.skeleton :: skeletons ls

end

lemma scalar?_skeleton (l : Literal) : l.skeleton.scalar? = l.scalar?.map fun _ => blank := by
  cases l <;> simp [skeleton, scalar?]

lemma scalars?_skeletons (ls : List Literal) :
    scalars? (skeletons ls) = (scalars? ls).map (List.map fun _ => blank) := by
  induction ls with
  | nil => rfl
  | cons l ls ih =>
    rw [skeletons, scalars?, scalars?, scalar?_skeleton, ih]
    cases l.scalar? with
    | none => rfl
    | some s => cases scalars? ls <;> rfl

end Literal

def Bound.skeleton (b : Bound) : Bound := ⟨b.predicate, b.values.map fun _ => blank⟩

namespace Tree

variable {t : Target} {n : Nat}

mutual

def skeleton : Tree → Tree
  | .operator op _ children => .operator op .start (skeletons children)
  | .operand key v children => .operand key v.skeleton (skeletons children)

def skeletons : List Tree → List Tree
  | [] => []
  | c :: cs => c.skeleton :: skeletons cs

end

lemma operand?_skeletons (children : List Tree) :
    operand? (skeletons children) = (operand? children).map fun x => (x.1, x.2.skeleton) := by
  match children with
  | [] => rfl
  | [.operand key v ds] => rfl
  | [.operator op p ds] => rfl
  | .operand key v ds :: c :: cs => rfl
  | .operator op p ds :: c :: cs => rfl

lemma bindTest_skeleton (key : String) (v : Literal) (x : Test) :
    bindTest t n key v.skeleton x = (bindTest t n key v x).map Bound.skeleton := by
  cases x with
  | comparison c => cases v <;> rfl
  | nullity negated => rfl
  | membership negated =>
    cases v with
    | scalar s => rfl
    | null => rfl
    | list items =>
      simp only [Literal.skeleton, bindTest, Literal.scalars?_skeletons]
      cases Literal.scalars? items with
      | none => rfl
      | some ss => simp [Except.map, Bound.skeleton]

lemma bind_skeleton (tree : Tree) :
    bind t n tree.skeleton = (bind t n tree).map Bound.skeleton := by
  induction tree generalizing n with
  | operand key v children ih => rfl
  | operator op p children ih =>
    cases op with
    | test x =>
      simp only [skeleton, bind, operand?_skeletons]
      cases operand? children with
      | none => rfl
      | some o =>
        simp only [Option.map_some]
        split
        · exact bindTest_skeleton o.1 o.2 x
        · rfl
    | connective c =>
      have all : ∀ cs : List Tree, ∀ n, (∀ d ∈ cs, d ∈ children) →
          bindAll t n (skeletons cs) =
            (bindAll t n cs).map fun r => (r.1, r.2.map fun _ => blank) := by
        intro cs
        induction cs with
        | nil =>
          intro n hcs
          rfl
        | cons d ds ihd =>
          intro n hcs
          rw [skeletons, bindAll, bindAll, ih d (hcs d List.mem_cons_self)]
          cases bind t n d with
          | error e => rfl
          | ok b =>
            -- the next number depends on how many values there are, and not on which
            simp only [Except.map, Bound.skeleton, List.length_map]
            rw [ihd _ fun e he => hcs e (List.mem_cons_of_mem d he)]
            cases bindAll t (n + b.values.length) ds with
            | error e => rfl
            | ok r => simp [Except.map]
      simp only [skeleton, bind]
      rw [all children n fun d hd => hd]
      cases bindAll t n children with
      | error e => rfl
      | ok r => rfl

lemma bind_of_skeleton_eq {a b : Tree} (h : a.skeleton = b.skeleton) :
    (∃ e, bind t n a = .error e ∧ bind t n b = .error e) ∨
      ∃ x y, bind t n a = .ok x ∧ bind t n b = .ok y ∧ x.predicate = y.predicate ∧
        x.values.length = y.values.length := by
  have hs : (bind t n a).map Bound.skeleton = (bind t n b).map Bound.skeleton := by
    rw [← bind_skeleton, ← bind_skeleton, h]
  cases ha : bind t n a with
  | error e =>
    cases hb : bind t n b with
    | error f =>
      rw [ha, hb] at hs
      cases hs
      exact .inl ⟨e, rfl, rfl⟩
    | ok y =>
      rw [ha, hb] at hs
      cases hs
  | ok x =>
    cases hb : bind t n b with
    | error f =>
      rw [ha, hb] at hs
      cases hs
    | ok y =>
      rw [ha, hb] at hs
      simp only [Except.map, Bound.skeleton, Except.ok.injEq, Bound.mk.injEq] at hs
      have hl := congrArg List.length hs.2
      rw [List.length_map, List.length_map] at hl
      exact .inr ⟨x, y, rfl, rfl, hs.1, hl⟩

end Tree

end RowFilter.Filter

namespace RowFilter.Query.Select

open RowFilter.Filter

structure SameSql (q q' : Select) : Prop where
  table : q.table = q'.table
  tableAlias : q.tableAlias = q'.tableAlias
  where? : q.where? = q'.where?
  numbers : q.bindings.numbers = q'.bindings.numbers

lemma sameSql_refl (q : Select) : q.SameSql q := ⟨rfl, rfl, rfl, rfl⟩

variable {q q' : Select}

lemma SameSql.sql (h : q.SameSql q') : q.sql = q'.sql := by
  rw [Select.sql, Select.sql]
  rw [h.table, h.tableAlias, h.where?]

lemma SameSql.next (h : q.SameSql q') : q.bindings.next = q'.bindings.next := by
  rw [Bindings.next_eq, Bindings.next_eq, h.numbers]

lemma SameSql.extend (h : q.SameSql q') (p : Predicate) {vs ws : List Scalar}
    (hl : vs.length = ws.length) : (q.extend p vs).SameSql (q'.extend p ws) where
  table := h.table
  tableAlias := h.tableAlias
  where? := congrArg (fun w? => some (combine .and p w?)) h.where?
  numbers := by rw [numbers_extend, numbers_extend, h.numbers, h.next, hl]

lemma SameSql.scope (h : q.SameSql q') (name v w : String) :
    (q.scope name v).SameSql (q'.scope name w) := by
  rw [scope_eq_extend, scope_eq_extend, scopePredicate, scopePredicate, h.tableAlias, h.next]
  exact h.extend _ rfl

lemma SameSql.scopeByRoute {r r' : Request} (h : q.SameSql q')
    (hr : ∀ name, (r.route? name).isSome = (r'.route? name).isSome) (names : List String) :
    (q.scopeByRoute r names).2 = (q'.scopeByRoute r' names).2 ∧
      (q.scopeByRoute r names).1.SameSql (q'.scopeByRoute r' names).1 := by
  have hv : ∀ name, (routeValue? r name).isSome = (routeValue? r' name).isSome := by
    intro name
    simp only [routeValue?]
    split
    · exact hr name
    · rfl
  induction names generalizing q q' with
  | nil => exact ⟨rfl, h⟩
  | cons name names ih =>
    have hn := hv name
    simp only [Select.scopeByRoute]
    cases hs : routeValue? r name with
    | none =>
      rw [hs] at hn
      rw [Option.not_isSome_iff_eq_none.mp (Bool.eq_false_iff.mp hn.symm)]
      exact ih h
    | some v =>
      rw [hs] at hn
      obtain ⟨w, hw⟩ := Option.isSome_iff_exists.mp hn.symm
      rw [hw]
      obtain ⟨hc, hq⟩ := ih (h.scope name v w)
      exact ⟨congrArg (· + 1) hc, hq⟩

/-- Values never reach the SQL. Filters with one skeleton are refused with the same error, or give
the same condition, the same text and the same numbers; a scope gives the same count, text and
numbers for all requests that have the same parameters of the route. -/
theorem sql_independent_of_values (q : Select) :
    (∀ (t : Target) (a b : Tree), a.skeleton = b.skeleton →
      (∃ e, q.narrow t a = .error e ∧ q.narrow t b = .error e) ∨
      ∃ x y, q.narrow t a = .ok x ∧ q.narrow t b = .ok y ∧ x.where? = y.where? ∧ x.sql = y.sql ∧
        x.bindings.numbers = y.bindings.numbers) ∧
    (∀ (r r' : Request) (names : List String),
      (∀ name, (r.route? name).isSome = (r'.route? name).isSome) →
      (q.scopeByRoute r names).2 = (q.scopeByRoute r' names).2 ∧
      (q.scopeByRoute r names).1.sql = (q.scopeByRoute r' names).1.sql ∧
      (q.scopeByRoute r names).1.bindings.numbers =
        (q.scopeByRoute r' names).1.bindings.numbers) := by
  refine ⟨fun t a b h => ?_, fun r r' names hr => ?_⟩
  · rcases Tree.bind_of_skeleton_eq (t := t) (n := q.bindings.next) h with
      ⟨e, ha, hb⟩ | ⟨x, y, ha, hb, hp, hl⟩
    · exact .inl ⟨e, by rw [narrow, ha], by rw [narrow, hb]⟩
    · have hs := q.sameSql_refl.extend y.predicate hl
      refine .inr ⟨q.extend y.predicate x.values, q.extend y.predicate y.values, ?_, ?_, hs.where?,
        hs.sql, hs.numbers⟩
      · rw [narrow, ha, ← hp]
        rfl
      · rw [narrow, hb]
        rfl
  · obtain ⟨hc, hs⟩ := q.sameSql_refl.scopeByRoute hr names
    exact ⟨hc, hs.sql, hs.numbers⟩

theorem sql_independent_of_quotes :
    let q : Select := .ofTable "users" "u"
    let t : Target := ⟨"u", fun _ => true⟩
    let filter (s : Scalar) : Tree := .operator (.connective .or) .start
      [.test (.comparison .eq) .start "name" (.scalar s),
        .test (.membership false) .start "id" (.list [.scalar (.integer 1), .scalar s])]
    let r : Request := ⟨[], [("scope", "public")]⟩
    let r' : Request := ⟨[], [("scope", "x OR 1 = 1")]⟩
    (filter (.boolean true)).skeleton = (filter (.string "1 OR 1 = 1")).skeleton ∧
    (∃ x y, q.narrow t (filter (.boolean true)) = .ok x ∧
      q.narrow t (filter (.string "1 OR 1 = 1")) = .ok y ∧ x.sql = y.sql) ∧
    (∀ name, (r.route? name).isSome = (r'.route? name).isSome) ∧
    (q.scopeByRoute r ["scope"]).1.sql = (q.scopeByRoute r' ["scope"]).1.sql := by
  intro q t filter r r'
  have hr : ∀ name, (r.route? name).isSome = (r'.route? name).isSome := by
    intro name
    simp only [r, r', Request.route?, List.lookup_cons, List.lookup_nil]
    split <;> rfl
  have h := sql_independent_of_values q
  refine ⟨rfl, ?_, hr, (h.2 r r' ["scope"] hr).2.1⟩
  rcases h.1 t (filter (.boolean true)) (filter (.string "1 OR 1 = 1")) rfl with
    ⟨e, he, -⟩ | ⟨x, y, hx, hy, -, hs, -⟩
  · cases he
  · exact ⟨x, y, hx, hy, hs⟩

end RowFilter.Query.Select
