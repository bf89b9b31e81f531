import RowFilter.Proofs.Filter.Fault
import RowFilter.Proofs.Filter.Field
import RowFilter.Proofs.Filter.InPlace
import RowFilter.Proofs.Filter.Parsing

/-! Filters that a query can be narrowed by, and the error for all others. -/

namespace RowFilter.Filter

open Query
open RowFilter.Filter.Tree (Key likeTest keysAll conditionsAll fault? IsFault)
open Clause (comparisonTree comparisonTree_of_ne trees faultAll? filterTree)

namespace Token

def names : List Token → List String
  | [] => []
  | t :: ts =>
    if t.kind = .word ∧ ts.head?.map kind = some .colon then t.lexeme :: names ts else names ts

def NoColon (ts : List Token) : Prop := ts.head?.map kind ≠ some .colon

variable {t : Token} {ts rest : List Token}

lemma noColon_cons (h : t.kind ≠ .colon) (ts : List Token) : NoColon (t :: ts) := by
  simpa [NoColon] using h

lemma names_of_noColon (h : NoColon ts) (t : Token) : names (t :: ts) = names ts :=
  if_neg fun ht => h ht.2

lemma names_of_ne (h : t.kind ≠ .word) (ts : List Token) : names (t :: ts) = names ts :=
  if_neg fun ht => h ht.1

lemma names_items {ls : List Literal} (h : IsItems ts ls) (hr : NoColon rest) :
    names (ts ++ rest) = names rest := by
  induction h with
  | single h => exact names_of_noColon hr _
  | @cons t comma l ts ls h hc hs ih =>
    have hcomma : comma.kind ≠ .colon ∧ comma.kind ≠ .word := by simp [hc]
    rw [List.cons_append, List.cons_append, names_of_noColon (noColon_cons hcomma.1 _),
      names_of_ne hcomma.2, ih]

lemma names_operand {operand : Literal} (h : IsOperand ts operand) (hr : NoColon rest) :
    names (ts ++ rest) = names rest := by
  cases h with
  | literal h => exact names_of_noColon hr _
  | @list opening closing ts ls ho h hc =>
    have hclosing : closing.kind ≠ .colon ∧ closing.kind ≠ .word := by simp [hc]
    rw [List.cons_append, List.cons_append, List.append_assoc, names_of_ne (by simp [ho]),
      List.singleton_append, names_items h (noColon_cons hclosing.1 _), names_of_ne hclosing.2]

lemma names_comparison {hs : List Token} {key : Key} {op? : Option Comparison} {operand : Literal}
    (hh : IsHead hs key op?) (h : IsOperand ts operand) (hr : NoColon rest) :
    names (hs ++ ts ++ rest) = key.name :: names rest := by
  have hrest := names_operand h hr
  cases hh with
  | plain hk hc =>
    simp only [List.cons_append, List.nil_append]
    rw [names, if_pos ⟨hk, by simp [hc]⟩, names_of_ne (by simp [hc]), hrest]
  | tested hk hc ho hc' =>
    simp only [List.cons_append, List.nil_append]
    rw [names, if_pos ⟨hk, by simp [hc]⟩, names_of_ne (by simp [hc]), names_of_ne (by simp [ho]),
      names_of_ne (by simp [hc']), hrest]

end Token

lemma IsLiteral.exists_scalar {t : Token} {l : Literal} (h : IsLiteral t l) :
    l = .null ∨ ∃ s, l = .scalar s := by
  cases h <;> simp

lemma IsItems.exists_scalars {ts : List Token} {ls : List Literal} (h : IsItems ts ls)
    (hn : ls.any Literal.isNull = false) :
    ∃ s : Scalar, ∃ ss : List Scalar, ls = (s :: ss).map .scalar := by
  induction h with
  | single h =>
    rcases h.exists_scalar with rfl | ⟨s, rfl⟩
    · cases hn
    · exact ⟨s, [], rfl⟩
  | cons h hc hs ih =>
    rw [List.any_cons, Bool.or_eq_false_iff] at hn
    obtain ⟨s', ss, rfl⟩ := ih hn.2
    rcases h.exists_scalar with rfl | ⟨s, rfl⟩
    · cases hn.1
    · exact ⟨s, s' :: ss, rfl⟩

lemma fault?_of_operands {x : Test} {v : Literal} {ss : List Scalar} (h : v.operands? x = some ss)
    (t : Target) (p : Position) (key : String) :
    fault? t (.test x p key v) = if t.allows key then none else some (.unknownField key) := by
  obtain ⟨b, hb⟩ := Tree.exists_bindTest_eq_ok h t 0 key
  rw [Tree.test, fault?, Tree.bind]
  by_cases hk : t.allows key = true <;> simp [Tree.operand?, hk, hb, Outcome.error?]

/-- What a comparison without faults stands for: a test of an operand that fits, or a group of tests
of the same field. -/
inductive IsFitting (key : Key) : Tree → Prop
  | test {x : Test} {v : Literal} {ss : List Scalar} (h : v.operands? x = some ss) :
      IsFitting key (.test x key.position key.name v)
  | patterns (s : Scalar) (ss : List Scalar) :
      IsFitting key (.operator (.connective .or) key.position
        (((s :: ss).map .scalar).map (Tree.test (.comparison .like) key.position key.name)))

lemma isFitting_scalar (key : Key) (op? : Option Comparison) (s : Scalar) :
    IsFitting key (comparisonTree key op? (.scalar s)) := by
  have ht : ∀ c, (Literal.scalar s).operands? (Comparison.test c (.scalar s)) = some [s] := by
    intro c
    cases c <;> rfl
  by_cases hl : op? = some .like
  · subst hl
    exact .test (ht .like)
  · rw [comparisonTree_of_ne hl]
    exact .test (ht _)

lemma isFitting_null {key : Key} {op? : Option Comparison}
    (hf : (Construct.comparison key op? .null).fault? = none) :
    IsFitting key (comparisonTree key op? .null) := by
  rcases Construct.of_fault?_null hf with rfl | rfl | rfl
  · exact .test (x := .nullity false) rfl
  · exact .test (x := .nullity false) rfl
  · exact .test (x := .nullity true) rfl

lemma isFitting_list {key : Key} {op? : Option Comparison} {s : Scalar} {ss : List Scalar}
    (hf : (Construct.comparison key op? (.list ((s :: ss).map .scalar))).fault? = none) :
    IsFitting key (comparisonTree key op? (.list ((s :: ss).map .scalar))) := by
  have hs : ∀ negated, (Literal.list ((s :: ss).map .scalar)).operands? (.membership negated) =
      some (s :: ss) := fun negated =>
    (Literal.scalars?_eq_mapM _).symm.trans (Tree.scalars?_eq_some_iff.mpr rfl)
  rcases Construct.of_fault?_list hf with rfl | rfl | rfl | rfl
  · exact .test (hs false)
  · exact .test (hs false)
  · exact .test (hs true)
  · exact .patterns s ss

lemma isFitting_comparisonTree {ts : List Token} {key : Key} {op? : Option Comparison}
    {operand : Literal} (h : IsOperand ts operand)
    (hf : (Construct.comparison key op? operand).fault? = none) :
    IsFitting key (comparisonTree key op? operand) := by
  cases h with
  | literal h =>
    rcases h.exists_scalar with rfl | ⟨s, rfl⟩
    · exact isFitting_null hf
    · exact isFitting_scalar key op? s
  | @list opening closing us ls ho h hc =>
    obtain ⟨s, ss, rfl⟩ := h.exists_scalars (Construct.noNull_of_fault?_list hf)
    exact isFitting_list hf

section Fault

variable (t : Target)

/-- The only fault of a tree is the first field in it that is not allowed. -/
def NamesFault (tree : Tree) : Prop :=
  tree.conditions.findSome? (fault? t) = (tree.keys.find? fun key => !t.allows key).map .unknownField

variable {t}

lemma namesFault_test {x : Test} {p : Position} {key : String} {v : Literal} {ss : List Scalar}
    (h : v.operands? x = some ss) : NamesFault t (.test x p key v) := by
  have hf := fault?_of_operands h t p key
  rw [Tree.test] at hf
  by_cases hk : t.allows key = true <;>
    simp [NamesFault, Tree.test, Tree.conditions, Tree.keys, keysAll, hf, hk]

lemma namesFault_junction {c : Connective} {p : Position} {children : List Tree}
    (h : ∀ d ∈ children, NamesFault t d) : NamesFault t (.operator (.connective c) p children) := by
  rw [NamesFault, Tree.conditions, List.findSome?_cons, Tree.keys]
  change (conditionsAll children).findSome? _ = _
  induction children with
  | nil => rfl
  | cons d ds ih =>
    rw [List.forall_mem_cons] at h
    rw [conditionsAll, keysAll, List.findSome?_append, List.find?_append, ih h.2, h.1]
    cases d.keys.find? fun key => !t.allows key <;> rfl

lemma IsFitting.namesFault {key : Key} {tree : Tree} (h : IsFitting key tree) :
    NamesFault t tree := by
  cases h with
  | test h => exact namesFault_test h
  | patterns s ss =>
    refine namesFault_junction ?_
    simp only [List.forall_mem_map]
    intro s' hs
    have hv : (Literal.scalar s').operands? (.comparison .like) = some [s'] := rfl
    exact namesFault_test hv

end Fault

def FindsKeys (ts : List Token) (keys : List String) : Prop :=
  ∀ rest, Token.NoColon rest → ∀ p,
    (Token.names (ts ++ rest)).find? p = (keys.find? p).or ((Token.names rest).find? p)

lemma IsFitting.find?_keys {key : Key} {tree : Tree} (h : IsFitting key tree) (p : String → Bool) :
    tree.keys.find? p = [key.name].find? p := by
  cases h with
  | test h => rfl
  | patterns s ss =>
    have hkeys : ∀ ss : List Scalar, keysAll ((ss.map Literal.scalar).map
        (Tree.test (.comparison .like) key.position key.name)) = List.replicate ss.length key.name := by
      intro ss
      induction ss with
      | nil => rfl
      | cons s ss ih =>
        rw [List.map_cons, List.map_cons, keysAll, ih]
        rfl
    rw [Tree.keys, hkeys, List.find?_replicate, List.length_cons, if_neg (Nat.succ_ne_zero _)]
    by_cases hp : p key.name <;> simp [hp]

section Clause

variable {t : Target}

lemma FindsKeys.group {ts : List Token} {keyword colon opening closing : Token} {c : Connective}
    {keys : List String} (h : FindsKeys ts keys) (hk : keyword.kind = .connective c)
    (hc : colon.kind = .colon) (ho : opening.kind = .openBracket)
    (he : closing.kind = .closeBracket) :
    FindsKeys (keyword :: colon :: opening :: ts ++ [closing]) keys := by
  intro rest hr p
  have hclosing : closing.kind ≠ .colon ∧ closing.kind ≠ .word := by simp [he]
  have hts := h (closing :: rest) (Token.noColon_cons hclosing.1 rest) p
  rw [Token.names_of_ne hclosing.2] at hts
  simp only [List.cons_append, List.append_assoc, List.nil_append]
  rw [Token.names_of_ne (by simp [hk]), Token.names_of_ne (by simp [hc]),
    Token.names_of_ne (by simp [ho]), hts]

lemma FindsKeys.append {ts us : List Token} {comma : Token} {keys keys' : List String}
    (h : FindsKeys ts keys) (hc : comma.kind = .comma) (h' : FindsKeys us keys') :
    FindsKeys (ts ++ comma :: us) (keys ++ keys') := by
  intro rest hr p
  have hcomma : comma.kind ≠ .colon ∧ comma.kind ≠ .word := by simp [hc]
  rw [List.append_assoc, List.cons_append, h _ (Token.noColon_cons hcomma.1 _),
    Token.names_of_ne hcomma.2, h' rest hr, List.find?_append, Option.or_assoc]

mutual

lemma IsClause.names {ts : List Token} {c : Clause} (h : IsClause ts c) {depth : Nat}
    (hf : c.fault? depth = none) : NamesFault t c.tree ∧ FindsKeys ts c.tree.keys := by
  cases h with
  | @comparison key op? operand hs ts hh h =>
    rw [Clause.fault?_comparison] at hf
    split at hf
    · have hfit := isFitting_comparisonTree h hf
      refine ⟨hfit.namesFault, fun rest hr p => ?_⟩
      rw [Token.names_comparison hh h hr, Clause.tree, hfit.find?_keys, ← List.find?_append]
      rfl
    · cases hf
  | @group c keyword colon opening closing ts cs hk hc ho h he =>
    rw [Clause.fault?_group] at hf
    split at hf
    · obtain ⟨hcs, hkeys⟩ := IsClauses.names h hf
      exact ⟨namesFault_junction hcs, hkeys.group hk hc ho he⟩
    · cases hf

lemma IsClauses.names {ts : List Token} {cs : List Clause} (h : IsClauses ts cs) {depth : Nat}
    (hf : faultAll? depth cs = none) :
    (∀ d ∈ trees cs, NamesFault t d) ∧ FindsKeys ts (keysAll (trees cs)) := by
  cases h with
  | @single ts c h =>
    rw [Clause.faultAll?_cons, Option.or_eq_none_iff] at hf
    obtain ⟨hc, hkeys⟩ := IsClause.names h hf.1
    exact ⟨List.forall_mem_singleton.mpr hc, by simpa [trees, keysAll] using hkeys⟩
  | @cons ts us comma c cs h hc hs =>
    rw [Clause.faultAll?_cons, Option.or_eq_none_iff] at hf
    obtain ⟨htree, hkeys⟩ := IsClause.names h hf.1
    obtain ⟨htrees, hkeys'⟩ := IsClauses.names hs hf.2
    exact ⟨List.forall_mem_cons.mpr ⟨htree, htrees⟩, hkeys.append hc hkeys'⟩

end

lemma names_of_ofTokens {ts : List Token} {tree : Tree} (h : Tree.ofTokens ts = .ok tree) :
    NamesFault t tree ∧ ∀ p, (Token.names ts).find? p = tree.keys.find? p := by
  obtain ⟨cs, hcs, hf, rfl⟩ := Tree.exists_clauses_of_ofTokens h
  obtain ⟨htrees, hkeys⟩ := hcs.names hf
  refine ⟨namesFault_junction htrees, fun p => ?_⟩
  have hnames : (Token.names ts).find? p = (keysAll (trees cs)).find? p := by
    simpa [Token.names] using hkeys [] (by simp [Token.NoColon]) p
  exact hnames

end Clause

end RowFilter.Filter

namespace RowFilter.Query.Select

open RowFilter.Filter

lemma narrow_eq_error_of_ofText {q : Select} {t : Target} {text : String} {tree : Tree}
    (h : Tree.ofText text = .ok tree) :
    (∀ e, q.narrow t tree = .error e ↔
      ∃ key, e = .unknownField key ∧ tree.keys.find? (fun key => !t.allows key) = some key) ∧
    ∃ ts, (Token.scan text).result = .ok ts ∧
      ∀ p, (Token.names ts).find? p = tree.keys.find? p := by
  rw [Tree.ofText] at h
  split at h
  · cases h
  · next ts hs =>
    obtain ⟨hfault, hnames⟩ := names_of_ofTokens (t := t) (Outcome.mapError_eq_ok h)
    refine ⟨fun e => ?_, ts, hs, hnames⟩
    rw [narrow_eq_error_iff, ← Outcome.error?_eq_some_iff, Tree.error?_bind, hfault,
      Option.map_eq_some_iff]
    exact exists_congr fun key => and_comm.trans (and_congr_left' eq_comm)

lemma narrow_cases_of_ofText {q : Select} {t : Target} {text : String} {tree : Tree}
    (h : Tree.ofText text = .ok tree) :
    (∃ key, tree.keys.find? (fun key => !t.allows key) = some key ∧
      q.narrow t tree = .error (.unknownField key)) ∨
    (∀ key ∈ tree.keys, t.allows key = true) ∧ ∃ q', q.narrow t tree = .ok q' := by
  have herror := (narrow_eq_error_of_ofText (q := q) (t := t) h).1
  cases hn : q.narrow t tree with
  | error e =>
    obtain ⟨key, rfl, hk⟩ := (herror e).mp hn
    exact .inl ⟨key, hk, rfl⟩
  | ok q' =>
    refine .inr ⟨fun key hk => ?_, q', rfl⟩
    by_contra ha
    have hfind : (tree.keys.find? fun key => !t.allows key).isSome :=
      List.find?_isSome.mpr ⟨key, hk, by simp [ha]⟩
    obtain ⟨first, hfirst⟩ := Option.isSome_iff_exists.mp hfind
    have hrefused := (herror _).mpr ⟨first, rfl, hfirst⟩
    rw [hn] at hrefused
    cases hrefused

/-- A query is narrowed by the accepted trees. For any other tree the error is that of its first
node at fault, and narrowing in place leaves the query as it was. The error for a filter that has
been read is the first field that is not allowed, in the tree as in the text. -/
theorem narrow_outcome (q : Select) (t : Target) (tree : Tree) :
    ((∃ q', q.narrow t tree = .ok q') ↔ tree.Accepted t) ∧
    (∀ e, q.narrow t tree = .error e ↔ ∃ l x r, tree.conditions = l ++ x :: r ∧
      x.IsFault t e ∧ ∀ y ∈ l, ∀ e', ¬ y.IsFault t e') ∧
    (InPlace.run t tree q =
      match q.narrow t tree with
      | .ok q' => (.ok (), q')
      | .error e => (.error e, q)) ∧
    ∀ text, Tree.ofText text = .ok tree →
      (∀ e, q.narrow t tree = .error e ↔
        ∃ key, e = .unknownField key ∧ tree.keys.find? (fun key => !t.allows key) = some key) ∧
      ∃ ts, (Token.scan text).result = .ok ts ∧
        ∀ p, (Token.names ts).find? p = tree.keys.find? p :=
  ⟨exists_narrow_eq_ok_iff, fun _ => narrow_eq_error_iff.trans Tree.bind_eq_error_iff,
    InPlace.run_eq t tree q, fun _ => narrow_eq_error_of_ofText⟩

theorem narrow_outcome_field_behind_patterns :
    let q : Select := ⟨"users", "u", some (.comparison "u.scope" .eq (placeholder 3)),
      Bindings.empty.insert 3 (.string "public")⟩
    let t : Target := ⟨"u", fun key => key != "pw"⟩
    ∃ tree, Tree.ofText "id:7,or:[name:like:[a,b],pw:null]" = .ok tree ∧
      InPlace.run t tree q = (.error (.unknownField "pw"), q) := by
  intro q t
  have hkeys : (Tree.ofText "id:7,or:[name:like:[a,b],pw:null]").map Tree.keys =
      .ok ["id", "name", "name", "pw"] := by decide +kernel
  obtain ⟨tree, htree, hk⟩ := Outcome.map_eq_ok hkeys
  obtain ⟨-, -, hrun, hread⟩ := narrow_outcome q t tree
  have hfirst : tree.keys.find? (fun key => !t.allows key) = some "pw" := by
    rw [hk]
    decide
  have herror := ((hread _ htree).1 _).mpr ⟨"pw", rfl, hfirst⟩
  rw [herror] at hrun
  exact ⟨tree, htree, hrun⟩

end RowFilter.Query.Select
