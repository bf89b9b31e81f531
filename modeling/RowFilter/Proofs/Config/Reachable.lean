import RowFilter.Config.Files
import RowFilter.Proofs.Config.Ordered
import RowFilter.Proofs.Config.Piecewise

/-! The configurations that loading and merging can reach, merging that stops at a conflict
included. -/

namespace RowFilter.Json

def member? (name : String) : Json → Option Json
  | object members => members.lookup name
  | _ => none

def follow? : List String → Json → Option Json
  | [], j => some j
  | name :: names, j => (j.member? name).bind (follow? names)

end RowFilter.Json

namespace RowFilter.Config

open Text

lemma IsPlain.joined {old : Value} {v : Value} (hold : old.table? = none → IsPlain old)
    (h : IsPlain v) : IsPlain (Table.joined (some old) v) := by
  unfold Table.joined
  split
  · next olds items heq =>
    cases heq
    cases hold rfl with
    | array ho =>
      cases h with
      | array hi => exact .array (List.forall_mem_append.mpr ⟨ho, hi⟩)
  · exact h

lemma IsEntry.isPlain {key : String} {v : Value} (h : IsEntry key v) (hv : v.table? = none) :
    IsPlain v := by
  cases h with
  | table => cases hv
  | plain hk h => exact h

lemma IsEntry.isName {key : String} {v : Value} (h : IsEntry key v) :
    Config.isName key.toList = true := by
  cases h <;> assumption

lemma IsEntry.inner {key : String} {t : Table} (h : IsEntry key (.table t)) :
    Ordered.Increasing t ∧ ∀ e ∈ t, IsEntry e.1 e.2 := by
  cases h with
  | table hk ho hv => exact ⟨ho, hv⟩
  | plain hk h => cases h

lemma value_mergeAt_table {old : Value} (h : old.table? = none) (path : List String) (es : Table) :
    (Value.mergeAt path old (.table es)).value = old := by
  cases old with
  | table t => cases h
  | _ => rfl

lemma IsEntry.mergeAt {key : String} {new : Value} (h : IsEntry key new) (path : List String)
    {old : Value} (hold : IsEntry key old) : IsEntry key (Value.mergeAt path old new).value := by
  induction h generalizing path old with
  | plain hk h ht hf =>
    rw [Table.mergeAt_of_table? path old h.table?]
    exact .plain hk (h.joined hold.isPlain) ht hf
  | @table key es hk ho hv ih =>
    cases hold with
    | @table _ t _ hto htv =>
      exact .table hk (Table.increasing_mergeAt path es hto)
        (Table.forall_mem_mergeAt path hv (fun e he path old => ih e he path) htv)
    | plain _ hp ht hf =>
      rw [value_mergeAt_table hp.table?]
      exact .plain hk hp ht hf

lemma IsPlain.ordered {v : Value} (h : IsPlain v) : v.Ordered := by
  induction h with
  | array h ih => exact Table.allOrdered_iff.mpr ih
  | _ => trivial

lemma IsEntry.ordered {key : String} {v : Value} (h : IsEntry key v) : v.Ordered := by
  induction h with
  | table hk ho hv ih => exact Table.ordered_table_iff.mpr ⟨ho, ih⟩
  | plain hk h => exact h.ordered

lemma IsRoot.ordered_table {t : Table} (h : IsRoot t) : (Value.table t).Ordered :=
  Table.ordered_table_iff.mpr ⟨h.ordered, fun e he => (h.entry e he).ordered⟩

section Root

variable {t u : Table} {ss : List Statement}

lemma isRoot_nil : IsRoot [] := ⟨Ordered.increasing_nil, nofun, nofun⟩

lemma IsRoot.merge (ht : IsRoot t) (hu : IsRoot u) : IsRoot (t.merge u).value where
  ordered := Table.increasing_mergeAt [] u ht.ordered
  entry := Table.forall_mem_mergeAt [] hu.entry (fun e he path _ => (hu.entry e he).mergeAt path)
    ht.entry
  table := by
    refine Table.forall_mem_mergeAt (P := fun _ v => ∃ inner, v = .table inner) [] hu.table ?_ ht.table
    rintro e he path old ⟨inner, rfl⟩
    obtain ⟨new, hnew⟩ := hu.table e he
    rw [hnew]
    exact ⟨_, rfl⟩

lemma IsRoot.of_result (h : IsRoot (t.merge u).value) {t' : Table}
    (hr : (t.merge u).result = .ok t') : IsRoot t' := by
  unfold Merged.result at hr
  split at hr
  · cases hr
    exact h
  · cases hr

lemma Block.IsValid.isEntry {key : String} {path : List String} {es : Table}
    (h : Block.IsValid ⟨key :: path, es⟩) (ho : Ordered.Increasing es) :
    IsEntry key (.table (Table.nest path es)) := by
  induction path generalizing key with
  | nil =>
    refine .table (h.path key List.mem_cons_self) ho fun e he => ?_
    exact .plain (h.name e he) (h.plain e he) (h.not_boolean e he).1 (h.not_boolean e he).2
  | cons key' path ih =>
    have hinner : Block.IsValid ⟨key' :: path, es⟩ :=
      ⟨List.cons_ne_nil _ _, fun s hs => h.path s (List.mem_cons_of_mem _ hs), h.name, h.plain,
        h.not_boolean⟩
    exact .table (h.path key List.mem_cons_self) (List.pairwise_singleton _ _)
      (List.forall_mem_singleton.mpr (ih hinner))

lemma Statement.isRoot_table {s : Statement} (h : s.block.IsValid) : IsRoot s.table := by
  have ho : Ordered.Increasing s.block.entries := by
    cases s
    · exact Ordered.increasing_nil
    · exact List.pairwise_singleton _ _
  rw [table]
  generalize s.block = b at h ho
  obtain ⟨path, es⟩ := b
  cases path with
  | nil => exact absurd rfl h.path_ne_nil
  | cons key path =>
    exact ⟨List.pairwise_singleton _ _, List.forall_mem_singleton.mpr (h.isEntry ho),
      List.forall_mem_singleton.mpr ⟨_, rfl⟩⟩

lemma isRoot_runAll (hs : ∀ s ∈ ss, s.block.IsValid) (ht : IsRoot t)
    (h : Statement.runAll ss t = .ok u) : IsRoot u := by
  induction ss generalizing t with
  | nil =>
    cases h
    exact ht
  | cons s ss ih =>
    rw [List.forall_mem_cons] at hs
    rw [Statement.runAll, List.foldlM_cons] at h
    obtain ⟨t', ht', h⟩ := Outcome.bind_eq_ok h
    rw [Statement.run_eq_merge hs.1] at ht'
    exact ih hs.2 ((ht.merge (Statement.isRoot_table hs.1)).of_result ht') h

lemma isRoot_ofText {source : String} (h : Table.ofText source = .ok t) : IsRoot t := by
  obtain ⟨tree, htree, -⟩ := Outcome.bind_eq_ok h
  rw [Tree.evaluate_of_ofText htree] at h
  exact isRoot_runAll (Tree.isValid_of_ofText htree) isRoot_nil (Outcome.mapError_eq_ok h)

lemma isRoot_load {files : Files} {name : String} (h : files.load name = .ok t) : IsRoot t := by
  obtain ⟨source, -, hsource⟩ := Outcome.bind_eq_ok h
  exact isRoot_ofText hsource

lemma Files.mergeFile_eq_ok_iff {files : Files} {name : String} {m : Table} :
    files.mergeFile t name = .ok m ↔
      ∃ u, files.load name = .ok u ∧ (t.merge u).result = .ok m := by
  rw [mergeFile]
  cases files.load name with
  | error e => simp
  | ok u => simp [Outcome.mapError_eq_ok_iff]

lemma isRoot_loadAll {files : Files} {names : List String} (h : files.loadAll names = .ok t) :
    IsRoot t := by
  refine Outcome.foldlM_invariant (fun t name t' ht hstep => ?_) isRoot_nil h
  obtain ⟨u, hu, hmerge⟩ := Files.mergeFile_eq_ok_iff.mp hstep
  exact (ht.merge (isRoot_load hu)).of_result hmerge

end Root

inductive Leads : Table → List String → Value → Prop
  | entry {t : Table} {key : String} {v : Value} (h : (key, v) ∈ t) : Leads t [key] v
  | inner {t u : Table} {key : String} {keys : List String} {v : Value}
      (h : (key, .table u) ∈ t) (hu : Leads u keys v) : Leads t (key :: keys) v

section Leads

variable {t : Table} {keys keys' : List String} {v v' : Value}

lemma Leads.ne_nil (h : Leads t keys v) : keys ≠ [] := by
  cases h <;> exact List.cons_ne_nil _ _

lemma Leads.isName (h : Leads t keys v) (ht : ∀ e ∈ t, IsEntry e.1 e.2) :
    ∀ key ∈ keys, Config.isName key.toList = true := by
  induction h with
  | entry h => exact List.forall_mem_singleton.mpr (ht _ h).isName
  | inner h hu ih => exact List.forall_mem_cons.mpr ⟨(ht _ h).isName, ih (ht _ h).inner.2⟩

lemma Leads.find? (h : Leads t keys v) (ho : Ordered.Increasing t)
    (ht : ∀ e ∈ t, IsEntry e.1 e.2) : t.find? keys = some v := by
  induction h with
  | entry h => exact Ordered.lookup_of_mem ho h
  | @inner t u key keys v h hu ih =>
    have hg : t.get? key = some (.table u) := Ordered.lookup_of_mem ho h
    rw [Table.find?_cons _ _ hu.ne_nil, hg]
    exact ih (ht _ h).inner.1 (ht _ h).inner.2

end Leads

lemma lookup_jsonEntries (es : Table) (key : String) :
    (Value.jsonEntries es).lookup key = (es.get? key).map Value.json := by
  induction es with
  | nil => rfl
  | cons e es ih =>
    obtain ⟨j, v⟩ := e
    rw [Value.jsonEntries, Table.get?, List.lookup_cons, List.lookup_cons]
    split
    · rfl
    · exact ih

lemma follow?_json {t : Table} {keys : List String} {v : Value} (hk : keys ≠ [])
    (h : t.find? keys = some v) : t.json.follow? keys = some v.json := by
  induction keys generalizing t with
  | nil => exact absurd rfl hk
  | cons key keys ih =>
    have hmember : t.json.member? key = (t.get? key).map Value.json := lookup_jsonEntries t key
    rw [Json.follow?, hmember]
    by_cases hn : keys = []
    · subst hn
      rw [show t.get? key = some v from h]
      rfl
    · rw [Table.find?_cons _ _ hn] at h
      obtain ⟨w, hw, h⟩ := Option.bind_eq_some_iff.mp h
      obtain ⟨u, hu, h⟩ := Option.bind_eq_some_iff.mp h
      cases w with
      | table u' =>
        cases hu
        rw [hw]
        exact ih hn h
      | _ => cases hu

/-- The tables that sources and files build up, and what merging leaves of them. -/
inductive Reachable : Table → Prop
  | source {source : String} {t : Table} (h : Table.ofText source = .ok t) : Reachable t
  | files {files : Files} {names : List String} {t : Table} (h : files.loadAll names = .ok t) :
      Reachable t
  | merge {t u : Table} (ht : Reachable t) (hu : Reachable u) : Reachable (t.merge u).value

lemma Reachable.isRoot {t : Table} (h : Reachable t) : IsRoot t := by
  induction h with
  | source h => exact isRoot_ofText h
  | files h => exact isRoot_loadAll h
  | merge ht hu iht ihu => exact iht.merge ihu

theorem Reachable.isRoot_and_paths {t : Table} (h : Reachable t) :
    IsRoot t ∧
    (∀ keys v, Leads t keys v → (∀ key ∈ keys, '.' ∉ key.toList) ∧
      t.at? (Dotted.join keys) = some v ∧ t.json.follow? keys = some v.json) ∧
    ∀ keys keys' v v', Leads t keys v → Leads t keys' v' →
      Dotted.join keys = Dotted.join keys' → keys = keys' := by
  have hroot := h.isRoot
  have hpoint : ∀ keys v, Leads t keys v → ∀ key ∈ keys, '.' ∉ key.toList := fun keys v hl =>
    not_mem_point (hl.isName hroot.entry)
  refine ⟨hroot, fun keys v hl => ?_, fun keys keys' v v' hl hl' heq => ?_⟩
  · have hfind := hl.find? hroot.ordered hroot.entry
    refine ⟨hpoint keys v hl, ?_, follow?_json hl.ne_nil hfind⟩
    rw [Table.at?, Dotted.split_join hl.ne_nil (hpoint keys v hl), hfind]
  · rw [← Dotted.split_join hl.ne_nil (hpoint keys v hl), heq,
      Dotted.split_join hl'.ne_nil (hpoint keys' v' hl')]

theorem Reachable.isRoot_and_paths_conflict :
    let t : Table := [("a", .table [("b", .integer 1)])]
    let u : Table := [("a", .table [("a", .array [.integer 2]), ("b", .table []), ("c", .table [])])]
    (t.merge u).conflict? = some ⟨["a", "b"], .integer⟩ ∧ IsRoot (t.merge u).value ∧
      (t.merge u).value.at? "a.a" = some (.array [.integer 2]) := by
  intro t u
  have ht : Table.ofText "[a]\nb = 1\n" = .ok t := by cbv
  have hu : Table.ofText "[a.c]\n[a.b]\n[a]\na = [2]\n" = .ok u := by cbv
  have hmerged : (t.merge u).value =
      [("a", .table [("a", .array [.integer 2]), ("b", .integer 1)])] := by cbv
  obtain ⟨hroot, hpaths, -⟩ := Reachable.isRoot_and_paths (.merge (.source ht) (.source hu))
  refine ⟨by cbv, hroot, ?_⟩
  refine (hpaths ["a", "a"] _ ?_).2.1
  rw [hmerged]
  exact .inner List.mem_cons_self (.entry List.mem_cons_self)

end RowFilter.Config
