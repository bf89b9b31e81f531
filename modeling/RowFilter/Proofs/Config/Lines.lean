import RowFilter.Proofs.Config.Conflict
import RowFilter.Proofs.Config.Dotted
import RowFilter.Proofs.Config.Merge.Commuting
import RowFilter.Proofs.Config.Merge.Stopping

/-! Any tree, line by line: a header opens a table, and a property is merged into the table opened
last. -/

namespace RowFilter.Config

inductive Line
  | header (block : Tree)
  | property (node : Tree)

namespace Line

def run (s : List String × Table) : Line → Except ConfigError (List String × Table)
  | header block =>
    match block.resolve with
    | .error e => .error e
    | .ok (.path path) => ((s.2.openAt path).mapError .conflict).map fun t => (path, t)
    | .ok r => block.malformed (.unexpected block.kind r.shown)
  | property node => (node.assign s.1 s.2).map fun t => (s.1, t)

end Line

namespace Tree

def blockLines (b : Tree) : List Line :=
  if b.kind = .block then .header b :: b.children.map .property else [.property b]

def lines (t : Tree) : List Line := t.children.flatMap blockLines

lemma foldlM_property (path : List String) (nodes : List Tree) (t : Table) :
    (nodes.map Line.property).foldlM Line.run (path, t) =
      (nodes.foldlM (assign path) t).map fun t => (path, t) := by
  induction nodes generalizing t with
  | nil => rfl
  | cons node nodes ih =>
    have hrun : Line.run (path, t) (.property node) =
        (node.assign path t).map fun t => (path, t) := rfl
    rw [List.map_cons]
    cases ha : node.assign path t with
    | error e =>
      rw [ha] at hrun
      rw [Outcome.foldlM_cons_of_error hrun, Outcome.foldlM_cons_of_error ha]
      rfl
    | ok t' =>
      rw [ha] at hrun
      rw [Outcome.foldlM_cons_of_ok hrun, Outcome.foldlM_cons_of_ok ha]
      exact ih t'

lemma evaluateNode_eq (s : List String × Table) (b : Tree) :
    evaluateNode s b = b.blockLines.foldlM Line.run s := by
  rw [evaluateNode, blockLines]
  split
  · rw [openBlock, List.foldlM_cons, Line.run]
    cases b.resolve with
    | error e => rfl
    | ok r =>
      cases r with
      | path path =>
        simp only
        cases ho : s.2.openAt path with
        | error c => rfl
        | ok t => exact (foldlM_property path b.children t).symm
      | _ => rfl
  · rw [Outcome.foldlM_singleton]
    rfl

theorem evaluate_eq_lines (t : Tree) :
    t.evaluate = (t.lines.foldlM Line.run ([], [])).map (·.2) := by
  suffices h : ∀ (nodes : List Tree) s,
      nodes.foldlM evaluateNode s = (nodes.flatMap blockLines).foldlM Line.run s by
    rw [evaluate, h, lines]
  intro nodes
  induction nodes with
  | nil => exact fun s => rfl
  | cons node nodes ih =>
    intro s
    rw [List.foldlM_cons, List.flatMap_cons, List.foldlM_append, evaluateNode_eq]
    exact congrArg _ (funext ih)

end Tree

inductive IsResolution : Except ConfigError Resolved → Prop
  | malformed (m : Malformed) (p : Position) : IsResolution (.error (.malformedTree m p))
  | nothing : IsResolution (.ok .nothing)
  | path (header : String) : IsResolution (.ok (.path (Text.Dotted.split header)))
  | entry (key : String) (v : OrderedValue) : IsResolution (.ok (.entry key v.value))
  | value (v : OrderedValue) : IsResolution (.ok (.value v.value))

namespace Tree

inductive IsOrdered : Tree → Prop
  | node {kind : NodeKind} {v : Value} {p : Position} {children : List Tree} (hv : v.Ordered)
      (h : ∀ t ∈ children, t.IsOrdered) : IsOrdered (.node kind v p children)

section Resolve

variable {t : Tree} {ts : List Tree}

lemma isOrdered_leaf {kind : NodeKind} {v : Value} (hv : v.Ordered) (p : Position) :
    (leaf kind v p).IsOrdered :=
  .node hv (List.forall_mem_nil _)

lemma IsOrdered.inner {kind : NodeKind} {p : Position} (h : ∀ t ∈ ts, t.IsOrdered) :
    (inner kind p ts).IsOrdered :=
  .node trivial h

lemma IsOrdered.assignment (h : t.IsOrdered) (key : String) (p : Position) :
    (assignment key p t).IsOrdered :=
  .inner (List.forall_mem_cons.mpr
    ⟨isOrdered_leaf (v := .string key) trivial p, List.forall_mem_singleton.mpr h⟩)

lemma isOrdered_root_block (h : ∀ t ∈ ts, t.IsOrdered) (header : String) (p : Position) :
    (root [block header p ts]).IsOrdered :=
  .inner (List.forall_mem_singleton.mpr (.node (v := .string header) trivial h))

lemma IsOrdered.children (h : t.IsOrdered) : ∀ c ∈ t.children, c.IsOrdered := by
  cases h with
  | node hv h => exact h

lemma expectValue_cases (h : IsResolution t.resolve) :
    (∃ v : OrderedValue, t.expectValue t.resolve = .ok v.value) ∨
      ∃ m p, t.expectValue t.resolve = .error (.malformedTree m p) := by
  generalize t.resolve = x at h
  cases h with
  | value v => exact .inl ⟨v, rfl⟩
  | _ => exact .inr ⟨_, _, rfl⟩

lemma resolveItems_cases (h : ∀ t ∈ ts, IsResolution t.resolve) :
    (∃ vs : List OrderedValue, resolveItems ts = .ok (vs.map OrderedValue.value)) ∨
      ∃ m p, resolveItems ts = .error (.malformedTree m p) := by
  induction ts with
  | nil => exact .inl ⟨[], rfl⟩
  | cons t ts ih =>
    rw [List.forall_mem_cons] at h
    rw [resolveItems]
    rcases expectValue_cases h.1 with ⟨v, hv⟩ | ⟨m, p, hm⟩
    · rw [hv]
      rcases ih h.2 with ⟨vs, hvs⟩ | ⟨m, p, hm⟩
      · rw [hvs]
        exact .inl ⟨v :: vs, rfl⟩
      · rw [hm]
        exact .inr ⟨m, p, rfl⟩
    · rw [hm]
      exact .inr ⟨m, p, rfl⟩

lemma IsOrdered.isResolution (h : t.IsOrdered) : IsResolution t.resolve := by
  induction h with
  | @node kind value p children hv h ih =>
    cases kind with
    | root => exact .nothing
    | block =>
      cases value with
      | string header => exact .path header
      | _ => exact .malformed _ _
    | assignment =>
      rcases children with _ | ⟨k, _ | ⟨v, _ | ⟨w, ws⟩⟩⟩
      · exact .malformed _ _
      · exact .malformed _ _
      · rw [resolve]
        cases k.key? with
        | none => exact .malformed _ _
        | some name =>
          rcases expectValue_cases (ih v (by simp)) with ⟨x, hx⟩ | ⟨m, p, hm⟩
          · rw [hx]
            exact .entry name x
          · rw [hm]
            exact .malformed m p
      · exact .malformed _ _
    | array =>
      rw [resolve]
      rcases resolveItems_cases ih with ⟨vs, hvs⟩ | ⟨m, p, hm⟩
      · rw [hvs]
        have hall : ∀ v ∈ vs.map OrderedValue.value, v.Ordered :=
          List.forall_mem_map.mpr fun v _ => v.ordered
        exact .value ⟨.array (vs.map OrderedValue.value), Table.allOrdered_iff.mpr hall⟩
      · rw [hm]
        exact .malformed m p
    | _ => exact .value ⟨value, hv⟩

end Resolve

end Tree

structure OrderedTree where
  tree : Tree
  ordered : tree.IsOrdered

lemma Value.find?_table {t : Table} {p : List String} (h : p ≠ []) :
    (Value.table t).find? p = t.find? p := by
  cases p with
  | nil => exact absurd rfl h
  | cons key p => rfl

namespace Table

section Modify

variable {f : Table → Except Conflict Table} {seen path : List String} {t : OrderedTable}
  {c : Conflict}

lemma exists_inner_of_error (ho : ∀ q, q ≠ [] → q <+: path → IsTable (t.entries.find? q))
    (h : modifyAt f seen path t.entries = .error c) :
    ∃ inner : OrderedTable, f inner.entries = .error c ∧
      ∀ q, q ≠ [] → t.entries.find? (path ++ q) = inner.entries.find? q := by
  induction path generalizing seen t with
  | nil => exact ⟨t, h, fun q _ => rfl⟩
  | cons key path ih =>
    obtain ⟨u, hu⟩ := ho [key] (List.cons_ne_nil _ _) (List.prefix_append [key] path)
    have hopens : Opens (t.entries.get? key) u := by
      rw [show t.entries.get? key = some (.table u) from hu]
      exact .table u
    have hinner : t.entries.innerAt seen key = .ok u := innerAt_eq_ok_iff.mpr hopens
    rw [modifyAt, hinner] at h
    simp only at h
    cases hm : modifyAt f (seen ++ [key]) path u with
    | ok changed =>
      rw [hm] at h
      cases h
    | error c' =>
      rw [hm] at h
      cases h
      have hopen : ∀ q, q ≠ [] → q <+: path → IsTable (find? u q) := by
        intro q hq hp
        rw [← find?_of_innerAt hinner hq]
        exact ho (key :: q) (List.cons_ne_nil _ _) (List.cons_prefix_cons.mpr ⟨rfl, hp⟩)
      obtain ⟨inner, hf, hfind⟩ := ih (t := ⟨u, ordered_of_opens hopens⟩) hopen hm
      refine ⟨inner, hf, fun q hq => ?_⟩
      rw [List.cons_append, find?_of_innerAt hinner (List.append_ne_nil_of_right_ne_nil _ hq)]
      exact hfind q hq

lemma merge_entry_eq_error {key : String} {v : OrderedValue}
    (h : (t.entries.merge [(key, v.value)]).result = .error c) :
    ∃ u w, v.value = .table u ∧ c.path ≠ [] ∧ t.entries.find? c.path = some w ∧ w.table? = none ∧
      c.found = w.shape := by
  cases hu : v.value.table? with
  | none =>
    rw [merge, result_mergeAt_entry hu] at h
    cases h
  | some u =>
    have hconflict : (t.merge (.singleton key v)).conflict? = some c := by
      change (t.entries.merge [(key, v.value)]).conflict? = some c
      unfold Merged.result at h
      split at h
      · cases h
      · next hc =>
        cases h
        exact hc
    have hfirst := (stops_of_conflict? hconflict).isFirst
    obtain ⟨w, hw, hfound⟩ := hfirst.found
    obtain ⟨w', hw', hnone⟩ := hfirst.isConflict.old
    rw [hw] at hw'
    cases hw'
    have hne : c.path ≠ [] := by
      intro hnil
      rw [hnil] at hw
      cases hw
      cases hnone
    rw [Value.find?_table hne] at hw
    exact ⟨u, w, Value.eq_table hu, hne, hw, hnone, hfound⟩

end Modify

end Table

namespace Line

def node : Line → Tree
  | header block => block
  | property node => node

/-- Where the value stands that is in the way of a line. In the way of a property there can only be
something if a table is to be merged. -/
def InTheWay (path : List String) (t : Table) (c : Conflict) (v : Value) : Line → Prop
  | header _ => t.at? (Text.Dotted.join c.path) = some v
  | property node =>
    (∃ key u, node.resolve = .ok (.entry key (.table u))) ∧ t.find? (path ++ c.path) = some v

/-- Between lines the table is in order, and the one of the current block is open. -/
structure IsOpen (s : List String × Table) : Prop where
  ordered : (Value.table s.2).Ordered
  opened : ∀ q, q ≠ [] → q <+: s.1 → IsTable (s.2.find? q)

section Run

variable {line : Line} {s s' : List String × Table} {c : Conflict}

lemma isOpen_initial : IsOpen ([], []) where
  ordered := OrderedTable.empty.ordered
  opened := by
    intro q hq hp
    exact absurd (List.prefix_nil.mp hp) hq

lemma run_header {b : Tree} {header : String} (h : b.resolve = .ok (.path (Text.Dotted.split header))) :
    run s (.header b) = ((s.2.openAt (Text.Dotted.split header)).mapError .conflict).map
      fun t => (Text.Dotted.split header, t) := by
  rw [run, h]

lemma run_property {a : Tree} {key : String} {v : Value} (h : a.resolve = .ok (.entry key v)) :
    run s (.property a) = ((s.2.assignAt s.1 key v).mapError .conflict).map fun t => (s.1, t) := by
  rw [run, Tree.assign, h]

lemma run_cases (hl : line.node.IsOrdered) :
    (∀ s, ∃ m p, line.run s = .error (.malformedTree m p)) ∨
    (∃ b header, line = .header b ∧ b.resolve = .ok (.path (Text.Dotted.split header))) ∨
    ∃ a key, ∃ v : OrderedValue, line = .property a ∧ a.resolve = .ok (.entry key v.value) := by
  have hr := hl.isResolution
  cases line with
  | header b =>
    rw [node] at hr
    generalize hx : b.resolve = x at hr
    cases hr with
    | path header => exact .inr (.inl ⟨b, header, rfl, hx⟩)
    | _ =>
      refine .inl fun s => ?_
      rw [run, hx]
      exact ⟨_, _, rfl⟩
  | property a =>
    rw [node] at hr
    generalize hx : a.resolve = x at hr
    cases hr with
    | entry key v => exact .inr (.inr ⟨a, key, v, rfl, hx⟩)
    | _ =>
      refine .inl fun s => ?_
      rw [run, Tree.assign, hx]
      exact ⟨_, _, rfl⟩

lemma IsOpen.run (hs : IsOpen s) (hl : line.node.IsOrdered) (h : line.run s = .ok s') :
    IsOpen s' := by
  rcases run_cases hl with hm | ⟨b, header, rfl, hr⟩ | ⟨a, key, v, rfl, hr⟩
  · obtain ⟨m, p, hm⟩ := hm s
    rw [hm] at h
    cases h
  · rw [run_header hr] at h
    obtain ⟨t, ht, rfl⟩ := Outcome.map_eq_ok h
    have hopen := Outcome.mapError_eq_ok ht
    exact ⟨Table.ordered_openAt (u := ⟨s.2, hs.ordered⟩) hopen,
      fun q hq hp => (Table.isTable_openAt hopen hq hp).1⟩
  · rw [run_property hr] at h
    obtain ⟨t, ht, rfl⟩ := Outcome.map_eq_ok h
    have hassign := Outcome.mapError_eq_ok ht
    exact ⟨Table.ordered_assignAt (u := ⟨s.2, hs.ordered⟩) hassign,
      fun q hq hp => (Table.isTable_assignAt hassign hq hp).1⟩

lemma IsOpen.inTheWay (hs : IsOpen s) (hl : line.node.IsOrdered)
    (h : line.run s = .error (.conflict c)) :
    ∃ v, line.InTheWay s.1 s.2 c v ∧ v.table? = none ∧ c.found = v.shape := by
  rcases run_cases hl with hm | ⟨b, header, rfl, hr⟩ | ⟨a, key, v, rfl, hr⟩
  · obtain ⟨m, p, hm⟩ := hm s
    rw [hm] at h
    cases h
  · rw [run_header hr] at h
    obtain ⟨_, ho, ⟨⟩⟩ := Outcome.mapError_eq_error (Outcome.map_eq_error h)
    obtain ⟨v, hne, hp, hfind, hv, hfound⟩ := Table.openAt_eq_error ho
    refine ⟨v, ?_, hv, hfound⟩
    have hpoint : ∀ q ∈ c.path, '.' ∉ q.toList := fun q hq =>
      Text.Dotted.not_mem_of_mem_split (hp.subset hq)
    rw [InTheWay, Table.at?, Text.Dotted.split_join hne hpoint]
    exact hfind
  · rw [run_property hr] at h
    obtain ⟨_, ha, ⟨⟩⟩ := Outcome.mapError_eq_error (Outcome.map_eq_error h)
    obtain ⟨inner, hmerge, hfind⟩ :=
      Table.exists_inner_of_error (t := ⟨s.2, hs.ordered⟩) hs.opened ha
    obtain ⟨u, w, hu, hne, hw, hnone, hfound⟩ := Table.merge_entry_eq_error hmerge
    rw [hu] at hr
    exact ⟨w, ⟨⟨key, u, hr⟩, (hfind _ hne).trans hw⟩, hnone, hfound⟩

end Run

end Line

namespace Tree

lemma isOrdered_of_mem_lines {t : Tree} (ht : t.IsOrdered) {line : Line} (h : line ∈ t.lines) :
    line.node.IsOrdered := by
  obtain ⟨b, hb, hl⟩ := List.mem_flatMap.mp h
  have hordered := ht.children b hb
  rw [blockLines] at hl
  split at hl
  · rcases List.mem_cons.mp hl with rfl | hl
    · exact hordered
    · obtain ⟨a, ha, rfl⟩ := List.mem_map.mp hl
      exact hordered.children a ha
  · rw [List.mem_singleton.mp hl]
    exact hordered

lemma isOpen_foldlM {lines : List Line} {s s' : List String × Table} (hs : Line.IsOpen s)
    (hl : ∀ line ∈ lines, line.node.IsOrdered) (h : lines.foldlM Line.run s = .ok s') :
    Line.IsOpen s' := by
  induction lines generalizing s with
  | nil =>
    cases h
    exact hs
  | cons line lines ih =>
    rw [List.forall_mem_cons] at hl
    rw [List.foldlM_cons] at h
    obtain ⟨s₁, hrun, h⟩ := Outcome.bind_eq_ok h
    exact ih (hs.run hl.1 hrun) hl.2 h

end Tree

theorem OrderedTree.evaluate_eq_conflict {t : OrderedTree} {c : Conflict}
    (h : t.tree.evaluate = .error (.conflict c)) :
    ∃ before line after path u v, t.tree.lines = before ++ line :: after ∧
      before.foldlM Line.run ([], []) = .ok (path, u) ∧
      line.run (path, u) = .error (.conflict c) ∧
      line.InTheWay path u c v ∧ v.table? = none ∧ c.found = v.shape := by
  rw [Tree.evaluate_eq_lines] at h
  obtain ⟨before, line, after, ⟨path, u⟩, hsplit, hbefore, hrun⟩ :=
    Outcome.foldlM_eq_error (Outcome.map_eq_error h)
  have hordered : ∀ l ∈ before ++ line :: after, l.node.IsOrdered := by
    rw [← hsplit]
    exact fun l => Tree.isOrdered_of_mem_lines t.ordered
  rw [List.forall_mem_append, List.forall_mem_cons] at hordered
  have hopen := Tree.isOpen_foldlM Line.isOpen_initial hordered.1 hbefore
  obtain ⟨v, hv, hnone, hfound⟩ := hopen.inTheWay hordered.2.1 hrun
  exact ⟨before, line, after, path, u, v, hsplit, hbefore, hrun, hv, hnone, hfound⟩

/-- A block `a` that sets `t` to five and then to a table, which a source does not write. -/
def OrderedTree.tableOverInteger : OrderedTree where
  tree := .root [.block "a" .start
    [.assignment "t" .start (.leaf .integer (.integer 5) .start),
      .assignment "t" .start (.leaf .string (.table [("x", .integer 1)]) .start)]]
  ordered := by
    have hx := (OrderedTable.singleton "x" ⟨.integer 1, trivial⟩).ordered
    have hassigned : ∀ v : Value, v.Ordered → ∀ kind,
        (Tree.assignment "t" .start (.leaf kind v .start)).IsOrdered :=
      fun v hv kind => .assignment (Tree.isOrdered_leaf hv .start) "t" .start
    refine Tree.isOrdered_root_block (List.forall_mem_cons.mpr ⟨?_, ?_⟩) "a" .start
    · exact hassigned (.integer 5) trivial .integer
    · exact List.forall_mem_singleton.mpr (hassigned _ hx .string)

theorem OrderedTree.evaluate_eq_conflict_table_over_integer :
    tableOverInteger.tree.evaluate = .error (.conflict ⟨["t"], .integer⟩) ∧
      ∃ before line after path u v, tableOverInteger.tree.lines = before ++ line :: after ∧
        before.foldlM Line.run ([], []) = .ok (path, u) ∧
        line.run (path, u) = .error (.conflict ⟨["t"], .integer⟩) ∧
        line.InTheWay path u ⟨["t"], .integer⟩ v ∧ v.table? = none ∧ Shape.integer = v.shape := by
  have herr : tableOverInteger.tree.evaluate = .error (.conflict ⟨["t"], .integer⟩) := by cbv
  exact ⟨herr, evaluate_eq_conflict herr⟩

theorem OrderedTree.not_evaluate_eq_conflict_at_path :
    ¬ ∀ (t : OrderedTree) (c : Conflict), t.tree.evaluate = .error (.conflict c) →
      ∃ before line after path u v, t.tree.lines = before ++ line :: after ∧
        before.foldlM Line.run ([], []) = .ok (path, u) ∧
        line.run (path, u) = .error (.conflict c) ∧
        Table.at? u (Text.Dotted.join c.path) = some v ∧ v.table? = none ∧ c.found = v.shape := by
  intro h
  have herr : tableOverInteger.tree.evaluate = .error (.conflict ⟨["t"], .integer⟩) := by cbv
  obtain ⟨before, line, after, path, found, v, hlines, hbefore, -, hat, -⟩ :=
    h tableOverInteger _ herr
  let t : Tree := .assignment "t" .start (.leaf .integer (.integer 5) .start)
  let u : Tree := .assignment "t" .start (.leaf .string (.table [("x", .integer 1)]) .start)
  have hall : tableOverInteger.tree.lines =
      [.header (.block "a" .start [t, u]), .property t, .property u] := rfl
  rw [hall] at hlines
  -- wherever the lines are cut, nothing is found there
  rcases before with _ | ⟨l, _ | ⟨m, _ | ⟨n, before⟩⟩⟩
  · cases hbefore
    have hnone : Table.at? [] (Text.Dotted.join ["t"]) = none := by cbv
    cases hnone.symm.trans hat
  · cases hlines
    have hrun : [Line.header (.block "a" .start [t, u])].foldlM Line.run ([], []) =
        .ok (["a"], [("a", .table [])]) := by cbv
    have hnone : Table.at? [("a", .table [])] (Text.Dotted.join ["t"]) = none := by cbv
    cases hrun.symm.trans hbefore
    cases hnone.symm.trans hat
  · cases hlines
    have hrun : [Line.header (.block "a" .start [t, u]), .property t].foldlM Line.run ([], []) =
        .ok (["a"], [("a", .table [("t", .integer 5)])]) := by cbv
    have hnone : Table.at? [("a", .table [("t", .integer 5)])] (Text.Dotted.join ["t"]) = none := by
      cbv
    cases hrun.symm.trans hbefore
    cases hnone.symm.trans hat
  · have hlength := congrArg List.length hlines
    simp at hlength

end RowFilter.Config
