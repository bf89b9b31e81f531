import RowFilter.Config.Evaluation
import RowFilter.Proofs.Config.Parsing

/-! A configuration as the list of its statements. -/

namespace RowFilter.Config

inductive Statement
  | header (path : List String)
  | assign (path : List String) (key : String) (v : Value)

namespace Statement

def run (t : Table) : Statement → Except Conflict Table
  | header path => t.openAt path
  | assign path key v => t.assignAt path key v

def runAll (ss : List Statement) (t : Table) : Except Conflict Table := ss.foldlM run t

def header? : Statement → Option (List String)
  | header path => some path
  | assign _ _ _ => none

def assigned? : Statement → Option (List String × Value)
  | header _ => none
  | assign path key v => some (path ++ [key], v)

def headers (ss : List Statement) : List (List String) := ss.filterMap header?

def entries (ss : List Statement) : List (List String × Value) := ss.filterMap assigned?

inductive Scoped : List Statement → Prop
  | nil : Scoped []
  | header {ss : List Statement} (h : Scoped ss) (path : List String) :
      Scoped (ss ++ [.header path])
  | assign {ss : List Statement} {path : List String} {v : Value} (h : Scoped ss)
      (hp : path ∈ headers ss) (key : String) (hv : v.table? = none) :
      Scoped (ss ++ [.assign path key v])

section Lists

variable (ss : List Statement) (path : List String) (key : String) (v : Value)

lemma headers_header : headers (ss ++ [.header path]) = headers ss ++ [path] := by
  simp [headers, header?]

lemma headers_assign : headers (ss ++ [.assign path key v]) = headers ss := by
  simp [headers, header?]

lemma entries_header : entries (ss ++ [.header path]) = entries ss := by
  simp [entries, assigned?]

lemma entries_assign : entries (ss ++ [.assign path key v]) = entries ss ++ [(path ++ [key], v)] := by
  simp [entries, assigned?]

end Lists

lemma Scoped.assigns {ss : List Statement} {path : List String} {es : List (String × Value)}
    (h : Scoped ss) (hp : path ∈ headers ss) (he : ∀ e ∈ es, e.2.table? = none) :
    Scoped (ss ++ es.map fun e => .assign path e.1 e.2) := by
  induction es generalizing ss with
  | nil => simpa using h
  | cons e es ih =>
    rw [List.forall_mem_cons] at he
    have hall := ih (h.assign hp e.1 he.1) (by rwa [headers_assign]) he.2
    simpa using hall

end Statement

namespace Tree

def path (b : Tree) : List String :=
  match b.value with
  | .string header => Text.Dotted.split header
  | _ => []

def assigned? (a : Tree) : Option (String × Value) :=
  match a.resolve with
  | .ok (.entry key v) => some (key, v)
  | _ => none

def blockStatements (b : Tree) : List Statement :=
  .header b.path :: (b.children.filterMap assigned?).map fun e => .assign b.path e.1 e.2

def statements (t : Tree) : List Statement := t.children.flatMap blockStatements

mutual

lemma exists_value {ts : List Token} {v : Tree} (h : IsValue ts v) :
    ∃ x, v.expectValue v.resolve = .ok x ∧ x.table? = none := by
  cases h with
  | string h => exact ⟨_, rfl, rfl⟩
  | boolean h => exact ⟨_, rfl, rfl⟩
  | integer h hn => exact ⟨_, rfl, rfl⟩
  | array ho h hc =>
    obtain ⟨xs, hxs⟩ := exists_items h
    refine ⟨.array xs, ?_, rfl⟩
    rw [inner, resolve, hxs]
    rfl

lemma exists_items {ts : List Token} {vs : List Tree} (h : IsItems ts vs) :
    ∃ xs, resolveItems vs = .ok xs := by
  cases h with
  | nil => exact ⟨[], rfl⟩
  | last h =>
    obtain ⟨x, hx, -⟩ := exists_value h
    refine ⟨[x], ?_⟩
    rw [resolveItems, hx]
    rfl
  | cons h hc hs =>
    obtain ⟨x, hx, -⟩ := exists_value h
    obtain ⟨xs, hxs⟩ := exists_items hs
    refine ⟨x :: xs, ?_⟩
    rw [resolveItems, hx, hxs]
    rfl

end

lemma resolve_assignment {v : Tree} {x : Value} (h : v.expectValue v.resolve = .ok x)
    (key : String) (p : Position) : (assignment key p v).resolve = .ok (.entry key x) := by
  rw [assignment, inner, resolve]
  simp only [leaf, key?, h]
  rfl

lemma assigned?_assignment {v : Tree} {x : Value} (h : v.expectValue v.resolve = .ok x)
    (key : String) (p : Position) : (assignment key p v).assigned? = some (key, x) := by
  rw [assigned?, resolve_assignment h]

lemma table?_of_mem_entries {ts : List Token} {as : List Tree} (h : IsAssignments ts as) :
    ∀ e ∈ as.filterMap assigned?, e.2.table? = none := by
  induction h with
  | nil => exact List.forall_mem_nil _
  | @cons key assign ts us v as hk ha h hs ih =>
    obtain ⟨x, hx, hv⟩ := exists_value h
    rw [List.filterMap_cons_some (assigned?_assignment hx _ _), List.forall_mem_cons]
    exact ⟨hv, ih⟩

lemma scoped_append {ts : List Token} {bs : List Tree} (h : IsBlocks ts bs) {ss : List Statement}
    (hs : Statement.Scoped ss) : Statement.Scoped (ss ++ bs.flatMap blockStatements) := by
  induction h generalizing ss with
  | nil => simpa using hs
  | @cons header ts us as bs hk h hbs ih =>
    have hopen := hs.header (Text.Dotted.split header.lexeme)
    have hmem : Text.Dotted.split header.lexeme ∈
        Statement.headers (ss ++ [.header (Text.Dotted.split header.lexeme)]) := by
      simp [Statement.headers_header]
    have hall := ih (hopen.assigns hmem (table?_of_mem_entries h))
    simpa [blockStatements, block, children, path, value] using hall

theorem scoped_statements {ts : List Token} {bs : List Tree} (h : IsBlocks ts bs) :
    Statement.Scoped (root bs).statements := by
  have hall := scoped_append h .nil
  rwa [List.nil_append] at hall

lemma foldlM_assign {ts : List Token} {as : List Tree} (h : IsAssignments ts as)
    (path : List String) (t : Table) :
    as.foldlM (assign path) t =
      (Statement.runAll ((as.filterMap assigned?).map fun e => .assign path e.1 e.2) t).mapError
        .conflict := by
  induction h generalizing t with
  | nil => rfl
  | @cons key assign ts us v as hk ha h hs ih =>
    obtain ⟨x, hx, -⟩ := exists_value h
    have hassign : Tree.assign path t (assignment key.lexeme key.position v) =
        (t.assignAt path key.lexeme x).mapError .conflict := by
      simp only [Tree.assign, resolve_assignment hx]
    rw [List.filterMap_cons_some (assigned?_assignment hx _ _), List.map_cons, Statement.runAll]
    cases hr : t.assignAt path key.lexeme x with
    | error c =>
      rw [hr] at hassign
      rw [Outcome.foldlM_cons_of_error hassign, Outcome.foldlM_cons_of_error hr]
      rfl
    | ok t' =>
      rw [hr] at hassign
      rw [Outcome.foldlM_cons_of_ok hassign, Outcome.foldlM_cons_of_ok hr]
      exact ih t'

lemma evaluateNode_block {ts : List Token} {as : List Tree} (h : IsAssignments ts as)
    (header : String) (p : Position) (s : List String × Table) :
    evaluateNode s (block header p as) =
      ((Statement.runAll (blockStatements (block header p as)) s.2).mapError .conflict).map
        fun t => (Text.Dotted.split header, t) := by
  have hkind : (block header p as).kind = .block := rfl
  have hresolve : (block header p as).resolve = .ok (.path (Text.Dotted.split header)) := rfl
  have hstatements : blockStatements (block header p as) =
      .header (Text.Dotted.split header) ::
        (as.filterMap assigned?).map fun e => .assign (Text.Dotted.split header) e.1 e.2 := rfl
  rw [evaluateNode, if_pos hkind, openBlock, hresolve, hstatements, Statement.runAll]
  simp only
  cases hr : s.2.openAt (Text.Dotted.split header) with
  | error c =>
    rw [Outcome.foldlM_cons_of_error hr]
    rfl
  | ok t =>
    rw [Outcome.foldlM_cons_of_ok hr]
    exact congrArg (Except.map _) (foldlM_assign h _ t)

lemma foldlM_evaluateNode {ts : List Token} {bs : List Tree} (h : IsBlocks ts bs)
    (s : List String × Table) :
    (bs.foldlM evaluateNode s).map (·.2) =
      (Statement.runAll (bs.flatMap blockStatements) s.2).mapError .conflict := by
  induction h generalizing s with
  | nil => rfl
  | @cons header ts us as bs hk h hs ih =>
    have hblock := evaluateNode_block h header.lexeme header.position s
    rw [List.flatMap_cons, Statement.runAll]
    cases hr : Statement.runAll (blockStatements (block header.lexeme header.position as)) s.2 with
    | error c =>
      rw [hr] at hblock
      rw [Outcome.foldlM_cons_of_error hblock, Outcome.foldlM_append_of_error hr]
      rfl
    | ok t =>
      rw [hr] at hblock
      rw [Outcome.foldlM_cons_of_ok hblock, Outcome.foldlM_append_of_ok hr]
      exact ih (Text.Dotted.split header.lexeme, t)

theorem evaluate_root {ts : List Token} {bs : List Tree} (h : IsBlocks ts bs) :
    evaluate (root bs) = (Statement.runAll (root bs).statements []).mapError .conflict :=
  foldlM_evaluateNode h ([], [])

section Source

variable {source : String} {tree : Tree}

lemma exists_blocks_of_ofText (h : ofText source = .ok tree) :
    ∃ ts bs, (Token.scan source).result = .ok ts ∧ IsBlocks ts bs ∧ (∀ b ∈ bs, b.IsHeaded) ∧
      tree = root bs := by
  rw [ofText] at h
  split at h
  · cases h
  · next ts hts =>
    obtain ⟨bs, hbs, hh, rfl⟩ := ofTokens_eq_ok_iff.mp (Outcome.mapError_eq_ok h)
    exact ⟨ts, bs, hts, hbs, hh, rfl⟩

lemma scoped_of_ofText (h : ofText source = .ok tree) : Statement.Scoped tree.statements := by
  obtain ⟨ts, bs, -, hbs, -, rfl⟩ := exists_blocks_of_ofText h
  exact scoped_statements hbs

lemma evaluate_of_ofText (h : ofText source = .ok tree) :
    Table.ofText source = (Statement.runAll tree.statements []).mapError .conflict := by
  obtain ⟨ts, bs, -, hbs, -, rfl⟩ := exists_blocks_of_ofText h
  rw [Table.ofText, h]
  exact evaluate_root hbs

end Source

end Tree

end RowFilter.Config
