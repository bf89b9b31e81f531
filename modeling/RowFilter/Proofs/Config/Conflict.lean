import RowFilter.Proofs.Config.History

/-! The conflicts of the statements of a source. Only a header can come into conflict. -/

namespace RowFilter.Config

open Statement

namespace Table

variable {t : Table} {seen path : List String} {key : String} {v : Value} {c : Conflict}

lemma innerAt_eq_error (h : t.innerAt seen key = .error c) :
    ∃ v, t.get? key = some v ∧ v.table? = none ∧ c = ⟨seen ++ [key], v.shape⟩ := by
  unfold innerAt at h
  split at h
  · cases h
  · cases h
  · next v hn hg =>
    cases h
    refine ⟨v, hg, ?_, rfl⟩
    cases v with
    | table inner => exact absurd rfl (hn inner)
    | _ => rfl

lemma modifyAt_eq_error {f : Table → Except Conflict Table} (hf : ∀ u, ∃ u', f u = .ok u')
    (h : modifyAt f seen path t = .error c) :
    ∃ q v, q ≠ [] ∧ q <+: path ∧ t.find? q = some v ∧ v.table? = none ∧
      c = ⟨seen ++ q, v.shape⟩ := by
  induction path generalizing seen t with
  | nil =>
    obtain ⟨u', hu⟩ := hf t
    rw [modifyAt, hu] at h
    cases h
  | cons key path ih =>
    rw [modifyAt] at h
    split at h
    · next c' hc =>
      cases h
      obtain ⟨v, hg, hv, rfl⟩ := innerAt_eq_error hc
      exact ⟨[key], v, List.cons_ne_nil _ _, List.prefix_append [key] path, hg, hv, rfl⟩
    · next inner hi =>
      cases hc : modifyAt f (seen ++ [key]) path inner with
      | ok changed =>
        rw [hc] at h
        cases h
      | error c' =>
        rw [hc] at h
        cases h
        obtain ⟨q, v, hq, hp, hfind, hv, rfl⟩ := ih hc
        refine ⟨key :: q, v, List.cons_ne_nil _ _, ?_, ?_, hv, by simp⟩
        · exact List.cons_prefix_cons.mpr ⟨rfl, hp⟩
        · rw [find?_of_innerAt hi hq, hfind]

lemma openAt_eq_error (h : t.openAt path = .error c) :
    ∃ v, c.path ≠ [] ∧ c.path <+: path ∧ t.find? c.path = some v ∧ v.table? = none ∧
      c.found = v.shape := by
  obtain ⟨q, v, hq, hp, hfind, hv, rfl⟩ := modifyAt_eq_error (fun u => ⟨u, rfl⟩) h
  exact ⟨v, hq, hp, hfind, hv, rfl⟩

lemma exists_assignAt (hv : v.table? = none)
    (h : ∀ q, q ≠ [] → q <+: path → IsTable (t.find? q)) :
    ∃ t', t.assignAt path key v = .ok t' := by
  cases ha : t.assignAt path key v with
  | ok t' => exact ⟨t', rfl⟩
  | error c =>
    obtain ⟨q, w, hq, hp, hfind, hw, -⟩ :=
      modifyAt_eq_error (fun u => ⟨_, result_mergeAt_entry hv [] u⟩) ha
    obtain ⟨inner, hi⟩ := h q hq hp
    rw [hfind] at hi
    cases hi
    cases hw

end Table

namespace Statement

def IsBlocked (ss : List Statement) (path : List String) : Prop :=
  ∃ q, q ≠ [] ∧ q <+: path ∧ valuesAt ss q ≠ []

/-- Whether a header with a value in its way follows the given statements. -/
def IsBlockedAfter (ss before : List Statement) (path : List String) : Prop :=
  ∃ after, ss = before ++ header path :: after ∧ IsBlocked before path

/-- The conflict of a header with the statements before it: of the places where a value is in its
way the first one, and the type of the last value that was assigned there. -/
structure IsClash (ss : List Statement) (path : List String) (c : Conflict) : Prop where
  ne_nil : c.path ≠ []
  le_path : c.path <+: path
  found : ∃ v, (valuesAt ss c.path).getLast? = some v ∧ c.found = v.shape
  shortest : ∀ q, q ≠ [] → q <+: path → valuesAt ss q ≠ [] → c.path <+: q

def path : Statement → List String
  | header path => path
  | assign path _ _ => path

def InBlocks (ss : List Statement) : Prop :=
  ∀ before path key v after, ss = before ++ .assign path key v :: after →
    ∃ us s, before = us ++ [s] ∧ s.path = path

section Structure

variable {ss us : List Statement}

lemma Scoped.of_append (h : Scoped (ss ++ us)) : Scoped ss := by
  induction us using List.reverseRecOn with
  | nil => rwa [List.append_nil] at h
  | append_singleton us s ih =>
    rw [← List.append_assoc] at h
    generalize hl : ss ++ us ++ [s] = l at h
    cases h with
    | nil => simp at hl
    | header h path => exact ih ((List.append_inj' hl rfl).1 ▸ h)
    | assign h hp key hv => exact ih ((List.append_inj' hl rfl).1 ▸ h)

lemma Scoped.table?_assign {path : List String} {key : String} {v : Value}
    (h : Scoped (ss ++ .assign path key v :: us)) : v.table? = none := by
  have he : (path ++ [key], v) ∈ entries (ss ++ .assign path key v :: us) := by
    simp [entries, assigned?]
  exact (h.entry _ he).2

lemma InBlocks.append (h : InBlocks ss) (h' : InBlocks us) : InBlocks (ss ++ us) := by
  intro before path key v after he
  obtain ⟨as, rfl, hus⟩ | ⟨bs, hss, hafter⟩ := List.append_eq_append_iff.mp he
  · obtain ⟨bs, s, rfl, hp⟩ := h' as path key v after hus
    exact ⟨ss ++ bs, s, by simp, hp⟩
  · cases bs with
    | nil =>
      obtain ⟨bs, s, hnil, -⟩ := h' [] path key v after hafter.symm
      simp at hnil
    | cons b bs =>
      obtain ⟨rfl, -⟩ := List.cons.inj hafter
      exact h before path key v bs hss

end Structure

end Statement

namespace Tree

lemma path_of_mem_blockStatements {b : Tree} {s : Statement} (h : s ∈ b.blockStatements) :
    s.path = b.path := by
  rw [blockStatements, List.mem_cons, List.mem_map] at h
  rcases h with rfl | ⟨e, -, rfl⟩ <;> rfl

lemma inBlocks_blockStatements (b : Tree) : InBlocks b.blockStatements := by
  intro before path key v after he
  have hpath : path = b.path :=
    path_of_mem_blockStatements (s := .assign path key v) (by simp [he])
  rcases List.eq_nil_or_concat' before with rfl | ⟨us, s, rfl⟩
  · cases he
  · refine ⟨us, s, rfl, ?_⟩
    rw [hpath]
    exact path_of_mem_blockStatements (by simp [he])

lemma inBlocks_statements (t : Tree) : InBlocks t.statements := by
  rw [statements]
  induction t.children with
  | nil =>
    intro before path key v after he
    simp at he
  | cons b bs ih => exact (inBlocks_blockStatements b).append ih

end Tree

namespace Statement

section Run

variable {ss us : List Statement} {t t' : Table} {path : List String} {key : String} {v : Value}
  {c : Conflict}

lemma isTable_run {s : Statement} {q : List String} (h : run t s = .ok t') (hq : q ≠ [])
    (hp : q <+: s.path) : IsTable (t'.find? q) := by
  cases s with
  | header path => exact (Table.isTable_openAt h hq hp).1
  | assign path key v => exact (Table.isTable_assignAt h hq hp).1

lemma exists_run_assign (hs : Scoped (ss ++ .assign path key v :: us))
    (hb : InBlocks (ss ++ .assign path key v :: us)) (h : runAll ss [] = .ok t) :
    ∃ t', t.assignAt path key v = .ok t' := by
  -- whatever stands before it in its block, the table of the block has been open since
  obtain ⟨before, s, rfl, rfl⟩ := hb ss path key v us rfl
  obtain ⟨u, -, h⟩ := Outcome.foldlM_concat_eq_ok.mp h
  exact Table.exists_assignAt hs.table?_assign fun q => isTable_run h

lemma shape_joined (old? : Option Value) (v : Value) : (Table.joined old? v).shape = v.shape := by
  unfold Table.joined
  split <;> rfl

lemma getLast?_of_outcome {vs : List Value} {v : Value} (h : outcome vs = some v) :
    ∃ w, vs.getLast? = some w ∧ v.shape = w.shape := by
  rcases List.eq_nil_or_concat' vs with rfl | ⟨ws, w, rfl⟩
  · cases h
  · rw [outcome_concat, Option.some.injEq] at h
    subst h
    exact ⟨w, List.getLast?_concat, shape_joined _ w⟩

lemma IsMeaning.outcome_eq {q : List String} (hm : IsMeaning ss q (some v)) (hv : v.table? = none) :
    ¬ IsBehind ss q ∧ outcome (valuesAt ss q) = some v := by
  have hb : ¬ IsBehind ss q := fun hb => nomatch hm.behind hb
  by_cases hvs : valuesAt ss q = []
  · rcases hm.isFree hb hvs with h | ⟨inner, h⟩
    · cases h
    · cases h
      cases hv
  · exact ⟨hb, (hm.assigned hb hvs).symm⟩

lemma isClash_of_openAt (hm : ∀ p, p ≠ [] → IsMeaning ss p (t.find? p))
    (h : t.openAt path = .error c) : IsClash ss path c := by
  obtain ⟨v, hne, hp, hfind, hv, hfound⟩ := Table.openAt_eq_error h
  have hmean := hm c.path hne
  rw [hfind] at hmean
  obtain ⟨hb, ho⟩ := hmean.outcome_eq hv
  obtain ⟨w, hw, hshape⟩ := getLast?_of_outcome ho
  refine ⟨hne, hp, ⟨w, hw, hfound.trans hshape⟩, fun q hq hqp hvs => ?_⟩
  -- a shorter place would hide what stands behind it
  rcases List.prefix_or_prefix_of_prefix hp hqp with hle | hle
  · exact hle
  · obtain ⟨x, hx⟩ := List.exists_mem_of_ne_nil _ hvs
    by_cases heq : q = c.path
    · rw [heq]
    · exact absurd ⟨(q, x), mem_valuesAt.mp hx, hle, heq⟩ hb

lemma not_isBlocked_of_openAt (hs : Scoped ss) (hm : ∀ p, p ≠ [] → IsMeaning ss p (t.find? p))
    (h : t.openAt path = .ok t') : ¬ IsBlocked ss path := by
  rintro ⟨q, hq, hp, hvs⟩
  obtain ⟨x, hx⟩ := List.exists_mem_of_ne_nil _ hvs
  have hfree : ∀ q, q ≠ [] → q <+: path → IsFree (t.find? q) := fun q hq hp =>
    (Table.isTable_openAt h hq hp).2
  exact not_prefix_of_free hs hm hfree (mem_valuesAt.mp hx) hp

lemma IsClash.isBlocked (h : IsClash ss path c) : IsBlocked ss path := by
  obtain ⟨v, hv, -⟩ := h.found
  refine ⟨c.path, h.ne_nil, h.le_path, ?_⟩
  intro hnil
  rw [hnil] at hv
  cases hv

lemma openAt_of_isBlocked (hs : Scoped ss) (h : runAll ss [] = .ok t) (hb : IsBlocked ss path) :
    ∃ c, t.openAt path = .error c ∧ IsClash ss path c := by
  have hm := isMeaning_of_runAll hs h
  cases ho : t.openAt path with
  | error c => exact ⟨c, rfl, isClash_of_openAt hm ho⟩
  | ok t' => exact absurd hb (not_isBlocked_of_openAt hs hm ho)

lemma runAll_of_isBlocked (us : List Statement) (hs : Scoped ss) (h : runAll ss [] = .ok t)
    (hb : IsBlocked ss path) :
    ∃ c, IsClash ss path c ∧ runAll (ss ++ .header path :: us) [] = .error c := by
  obtain ⟨c, ho, hc⟩ := openAt_of_isBlocked hs h hb
  exact ⟨c, hc, (Outcome.foldlM_append_of_ok h).trans (Outcome.foldlM_cons_of_error ho)⟩

lemma exists_clash_of_error (hs : Scoped ss) (hb : InBlocks ss) (h : runAll ss [] = .error c) :
    ∃ before path, IsBlockedAfter ss before path ∧ IsClash before path c := by
  obtain ⟨before, s, after, t, rfl, hbefore, hrun⟩ := Outcome.foldlM_eq_error h
  cases s with
  | header path =>
    have hc := isClash_of_openAt (isMeaning_of_runAll hs.of_append hbefore) hrun
    exact ⟨before, path, ⟨after, rfl, hc.isBlocked⟩, hc⟩
  | assign path key v =>
    obtain ⟨t', ht⟩ := exists_run_assign hs hb hbefore
    rw [run, ht] at hrun
    cases hrun

lemma exists_error_iff (hs : Scoped ss) (hi : InBlocks ss) :
    (∃ c, runAll ss [] = .error c) ↔ ∃ before path, IsBlockedAfter ss before path := by
  constructor
  · rintro ⟨c, h⟩
    obtain ⟨before, path, hb, -⟩ := exists_clash_of_error hs hi h
    exact ⟨before, path, hb⟩
  · rintro ⟨before, path, after, rfl, hb⟩
    cases hr : runAll before [] with
    | error c => exact ⟨c, Outcome.foldlM_append_of_error hr⟩
    | ok t =>
      obtain ⟨c, -, he⟩ := runAll_of_isBlocked after hs.of_append hr hb
      exact ⟨c, he⟩

lemma runAll_of_first {before : List Statement} (hs : Scoped ss) (hi : InBlocks ss)
    (hb : IsBlockedAfter ss before path)
    (hfirst : ∀ before' path', IsBlockedAfter ss before' path' → before.length ≤ before'.length) :
    ∃ c, IsClash before path c ∧ runAll ss [] = .error c := by
  obtain ⟨after, rfl, hb⟩ := hb
  cases hr : runAll before [] with
  | ok t => exact runAll_of_isBlocked after hs.of_append hr hb
  | error c =>
    -- statements that fail hold a blocked header, and no such header stands before the first one
    have hi' : InBlocks before := fun before' p k v after' he =>
      hi before' p k v (after' ++ .header path :: after) (by simp [he])
    obtain ⟨before', path', ⟨after', rfl, hb'⟩, -⟩ := exists_clash_of_error hs.of_append hi' hr
    have hle := hfirst before' path' ⟨after' ++ .header path :: after, by simp, hb'⟩
    simp at hle

end Run

end Statement

theorem Table.ofText_eq_error_iff {source : String} {tree : Tree}
    (h : Tree.ofText source = .ok tree) :
    (∀ m p, Table.ofText source ≠ .error (.malformedTree m p)) ∧
    ((∃ e, Table.ofText source = .error e) ↔
      ∃ before path, IsBlockedAfter tree.statements before path) ∧
    (∀ before path, IsBlockedAfter tree.statements before path →
      (∀ before' path', IsBlockedAfter tree.statements before' path' →
        before.length ≤ before'.length) →
      ∃ c, IsClash before path c ∧ Table.ofText source = .error (.conflict c)) ∧
    ∀ before path key v after t, tree.statements = before ++ .assign path key v :: after →
      runAll before [] = .ok t → ∃ t', t.assignAt path key v = .ok t' := by
  have hs := Tree.scoped_of_ofText h
  have hi := Tree.inBlocks_statements tree
  rw [Tree.evaluate_of_ofText h]
  refine ⟨fun m p => ?_, ?_, ?_, ?_⟩
  · cases runAll tree.statements [] <;> exact nofun
  · rw [Outcome.exists_mapError_eq_error]
    exact exists_error_iff hs hi
  · intro before path hb hfirst
    obtain ⟨c, hc, hr⟩ := runAll_of_first hs hi hb hfirst
    exact ⟨c, hc, by rw [hr]; rfl⟩
  · intro before path key v after t hsplit ht
    rw [hsplit] at hs hi
    exact exists_run_assign hs hi ht

theorem Table.ofText_eq_error_iff_array_in_the_way :
    ∃ tree, Tree.ofText "[a]\nb = 1\nb = [true]\n[a.b.c]\n" = .ok tree ∧
      Table.ofText "[a]\nb = 1\nb = [true]\n[a.b.c]\n" = .error (.conflict ⟨["a", "b"], .array⟩) ∧
      ∃ before path, IsBlockedAfter tree.statements before path := by
  obtain ⟨tree, htree⟩ : ∃ tree, Tree.ofText "[a]\nb = 1\nb = [true]\n[a.b.c]\n" = .ok tree :=
    ⟨_, by cbv⟩
  have herr : Table.ofText "[a]\nb = 1\nb = [true]\n[a.b.c]\n" =
      .error (.conflict ⟨["a", "b"], .array⟩) := by cbv
  exact ⟨tree, htree, herr, (Table.ofText_eq_error_iff htree).2.1.mp ⟨_, herr⟩⟩

end RowFilter.Config
