import RowFilter.Proofs.Config.Statement
import RowFilter.Proofs.Ordered

/-! Tables as lists of blocks, one for each table in a table, before those of the tables in it. -/

namespace RowFilter.Config

structure Block where
  path : List String
  entries : Table

namespace Block

def under (key : String) (b : Block) : Block := { b with path := key :: b.path }

def statements (b : Block) : List Statement :=
  .header b.path :: b.entries.map fun e => .assign b.path e.1 e.2

end Block

namespace Table

def plain (t : Table) : Table := t.filter fun e => e.2.table?.isNone

end Table

mutual

def Value.blocks : Value → List Block
  | .table entries => ⟨[], Table.plain entries⟩ :: Table.blocks entries
  | _ => []

def Table.blocks : List (String × Value) → List Block
  | [] => []
  | (key, v) :: es => v.blocks.map (Block.under key) ++ Table.blocks es

end

namespace Statement

def under (key : String) : Statement → Statement
  | header path => .header (key :: path)
  | assign path k v => .assign (key :: path) k v

end Statement

lemma Block.statements_under (key : String) (b : Block) :
    (b.under key).statements = b.statements.map (Statement.under key) := by
  simp [statements, under, Statement.under]

lemma flatMap_statements_under (key : String) (bs : List Block) :
    (bs.map (Block.under key)).flatMap Block.statements =
      (bs.flatMap Block.statements).map (Statement.under key) := by
  rw [List.flatMap_map, List.map_flatMap]
  simp only [Block.statements_under]

namespace Table

section Under

variable {f : Table → Except Conflict Table} {t u inner : Table} {path : List String} {key : String}

lemma innerAt_seen {seen : List String} (h : t.innerAt seen key = .ok u) (seen' : List String) :
    t.innerAt seen' key = .ok u := by
  unfold innerAt at h ⊢
  split at h
  · exact h
  · exact h
  · cases h

lemma modifyAt_seen {seen : List String} (h : modifyAt f seen path t = .ok u)
    (seen' : List String) : modifyAt f seen' path t = .ok u := by
  induction path generalizing t u seen seen' with
  | nil => exact h
  | cons key path ih =>
    rw [modifyAt] at h ⊢
    split at h
    · cases h
    · next inner hi =>
      obtain ⟨changed, hc, rfl⟩ := Outcome.map_eq_ok h
      rw [innerAt_seen hi seen']
      simp only
      rw [ih hc (seen' ++ [key])]
      rfl

lemma modifyAt_cons (hi : t.innerAt [] key = .ok inner) (h : modifyAt f [] path inner = .ok u) :
    modifyAt f [] (key :: path) t = .ok (t.insert key (.table u)) := by
  rw [modifyAt, hi]
  simp only
  rw [modifyAt_seen h]
  rfl

end Under

end Table

namespace Statement

variable {t u inner : Table} {key : String}

lemma run_under {s : Statement} (hi : t.innerAt [] key = .ok inner) (h : run inner s = .ok u) :
    run t (s.under key) = .ok (t.insert key (.table u)) := by
  cases s with
  | header path => exact Table.modifyAt_cons hi h
  | assign path k v => exact Table.modifyAt_cons hi h

lemma innerAt_insert (t u : Table) (key : String) :
    (t.insert key (.table u)).innerAt [] key = .ok u := by
  have hg : (t.insert key (.table u)).get? key = some (.table u) :=
    Ordered.lookup_insert_self key _ t
  rw [Table.innerAt, hg]

lemma runAll_under {ss : List Statement} (hne : ss ≠ []) (hi : t.innerAt [] key = .ok inner)
    (h : runAll ss inner = .ok u) :
    runAll (ss.map (under key)) t = .ok (t.insert key (.table u)) := by
  induction ss generalizing t inner with
  | nil => exact absurd rfl hne
  | cons s ss ih =>
    rw [runAll, List.foldlM_cons] at h
    obtain ⟨v, hv, h⟩ := Outcome.bind_eq_ok h
    rw [List.map_cons, runAll, Outcome.foldlM_cons_of_ok (run_under hi hv)]
    by_cases hs : ss = []
    · subst hs
      cases h
      rfl
    · have hall := ih hs (innerAt_insert t v key) h
      rw [runAll] at hall
      rw [hall, Table.insert, Table.insert, Ordered.insert_insert, Table.insert]

end Statement

inductive IsPlain : Value → Prop
  | string (s : String) : IsPlain (.string s)
  | integer (n : Int64) : IsPlain (.integer n)
  | boolean (b : Bool) : IsPlain (.boolean b)
  | array {vs : List Value} (h : ∀ v ∈ vs, IsPlain v) : IsPlain (.array vs)

/-- An entry that can be written. Keys are names, tables are in order, and what is not a table has
no key that is read as a boolean. -/
inductive IsEntry : String → Value → Prop
  | table {key : String} {es : Table} (hk : isName key.toList = true) (ho : Ordered.Increasing es)
      (hv : ∀ e ∈ es, IsEntry e.1 e.2) : IsEntry key (.table es)
  | plain {key : String} {v : Value} (hk : isName key.toList = true) (h : IsPlain v)
      (ht : key ≠ "true") (hf : key ≠ "false") : IsEntry key v

structure IsRoot (t : Table) : Prop where
  ordered : Ordered.Increasing t
  entry : ∀ e ∈ t, IsEntry e.1 e.2
  table : ∀ e ∈ t, ∃ inner, e.2 = .table inner

lemma IsPlain.table? {v : Value} (h : IsPlain v) : v.table? = none := by
  cases h <;> rfl

section Build

open Statement

variable {t l r : Table} {key : String} {v : Value}

lemma get?_between (hl : ∀ e ∈ l, compare e.1 key = .lt) (hr : ∀ e ∈ r, compare key e.1 = .lt) :
    Table.get? (l ++ r) key = none := by
  rw [Table.get?, List.lookup_eq_none_iff]
  intro e he
  rw [bne_iff_ne]
  rintro rfl
  rcases List.mem_append.mp he with he | he
  · exact absurd (hl e he) (by simp)
  · exact absurd (hr e he) (by simp)

lemma assignAt_new (hg : t.get? key = none) (v : Value) :
    t.assignAt [] key v = .ok (t.insert key v) := by
  rw [Table.assignAt, Table.modifyAt, Table.merge, Table.mergeAt, hg]
  rfl

lemma runAll_plain {es : Table} (ho : Ordered.Increasing (t ++ es)) :
    runAll (es.map fun e => .assign [] e.1 e.2) t = .ok (t ++ es) := by
  induction es generalizing t with
  | nil =>
    rw [List.append_nil]
    rfl
  | cons e es ih =>
    obtain ⟨-, -, hlt⟩ := List.pairwise_append.mp ho
    have hl : ∀ x ∈ t, compare x.1 e.1 = .lt := fun x hx => hlt x hx e List.mem_cons_self
    have hg : t.get? e.1 = none := by
      have := get?_between (r := []) hl (List.forall_mem_nil _)
      rwa [List.append_nil] at this
    have hinsert : t.insert e.1 e.2 = t ++ [e] := by
      have := Ordered.insert_between (a := e.2) (r := []) hl (List.forall_mem_nil _)
      rwa [List.append_nil] at this
    have hrun : run t (.assign [] e.1 e.2) = .ok (t ++ [e]) := by
      rw [run, assignAt_new hg, hinsert]
    rw [List.map_cons, runAll, Outcome.foldlM_cons_of_ok hrun]
    have hall := ih (t := t ++ [e]) (by simpa using ho)
    rwa [runAll, List.append_assoc, List.singleton_append] at hall

lemma blocks_of_table? (h : v.table? = none) : v.blocks = [] := by
  cases v with
  | table inner => cases h
  | _ => rfl

lemma runAll_blocks {es : Table} (ho : Ordered.Increasing (l ++ es))
    (h : ∀ e ∈ es, ∀ inner, e.2 = .table inner →
      runAll (e.2.blocks.flatMap Block.statements) [] = .ok inner) :
    runAll ((Table.blocks es).flatMap Block.statements) (l ++ Table.plain es) = .ok (l ++ es) := by
  -- the entries in `l` are complete; of those behind it only the plain ones are there so far
  induction es generalizing l with
  | nil => rfl
  | cons e es ih =>
    obtain ⟨key, v⟩ := e
    rw [List.forall_mem_cons] at h
    have hall := ih (l := l ++ [(key, v)]) (by simpa using ho) h.2
    rw [List.append_assoc, List.append_assoc, List.singleton_append, List.singleton_append] at hall
    cases hv : v.table? with
    | none =>
      have hplain : Table.plain ((key, v) :: es) = (key, v) :: Table.plain es := by
        simp [Table.plain, hv]
      rw [Table.blocks, blocks_of_table? hv, hplain]
      exact hall
    | some inner =>
      -- the table comes to stand between `l` and the plain entries, which its blocks do not touch
      obtain rfl : v = .table inner := by
        cases v <;> cases hv
        rfl
      obtain ⟨-, hes, hlt⟩ := List.pairwise_append.mp ho
      obtain ⟨hr, -⟩ := List.pairwise_cons.mp hes
      have hl : ∀ x ∈ l, compare x.1 key = .lt := fun x hx => hlt x hx _ List.mem_cons_self
      have hr' : ∀ x ∈ Table.plain es, compare key x.1 = .lt := fun x hx =>
        hr x (List.mem_of_mem_filter hx)
      have hplain : Table.plain ((key, .table inner) :: es) = Table.plain es := by
        simp [Table.plain, Value.table?]
      have hi : Table.innerAt (l ++ Table.plain es) [] key = .ok [] := by
        rw [Table.innerAt, get?_between hl hr']
      have hne : (Value.blocks (.table inner)).flatMap Block.statements ≠ [] := by
        simp [Value.blocks, Block.statements]
      have hunder := runAll_under hne hi (h.1 inner rfl)
      rw [Table.insert, Ordered.insert_between hl hr'] at hunder
      rw [Table.blocks, List.flatMap_append, flatMap_statements_under, hplain, runAll,
        Outcome.foldlM_append_of_ok hunder]
      exact hall

lemma IsEntry.runAll_eq (h : IsEntry key v) :
    ∀ inner, v = .table inner → runAll (v.blocks.flatMap Block.statements) [] = .ok inner := by
  induction h with
  | @table key es hk ho hv ih =>
    intro inner hi
    cases hi
    have hplain : Ordered.Increasing ([] ++ Table.plain es) := ho.sublist List.filter_sublist
    have hopen : run [] (.header []) = .ok [] := rfl
    rw [Value.blocks, List.flatMap_cons, Block.statements, runAll, List.cons_append,
      Outcome.foldlM_cons_of_ok hopen, Outcome.foldlM_append_of_ok (runAll_plain hplain)]
    exact runAll_blocks ho ih
  | plain hk h ht hf =>
    rintro inner rfl
    cases h

theorem IsRoot.runAll_eq (h : IsRoot t) :
    runAll ((Table.blocks t).flatMap Block.statements) [] = .ok t := by
  have hplain : Table.plain t = [] := by
    rw [Table.plain, List.filter_eq_nil_iff]
    intro e he
    obtain ⟨inner, hi⟩ := h.table e he
    rw [hi]
    exact Bool.false_ne_true
  have hblocks := runAll_blocks (l := []) h.ordered fun e he => (h.entry e he).runAll_eq
  rwa [hplain] at hblocks

end Build

end RowFilter.Config
