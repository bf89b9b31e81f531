import RowFilter.Filter.Reading
import RowFilter.Proofs.Filter.Parsing
import RowFilter.Proofs.Filter.Scanning

/-! Filters as they are written, in any of the ways in which they can be. -/

namespace RowFilter.Filter

open Text
open Clause (comparisonTree_of_ne faultAll? filterTree trees)

inductive WritesScalar : Scalar → List Char → Prop
  | integer (n : Int64) : WritesScalar (.integer n) (toString n.toInt).toList
  | decimal (d : Decimal) : WritesScalar (.decimal d) d.text.toList
  | string {quote : Char} {s : String} {cs : List Char} (hq : IsQuote quote)
      (h : Quoted.Encodes quote cs s.toList) : WritesScalar (.string s) (quote :: (cs ++ [quote]))
  | boolean (b : Bool) : WritesScalar (.boolean b) (if b then "true" else "false").toList

inductive WritesItems : List Literal → List Char → Prop
  | single {s : Scalar} {cs : List Char} (h : WritesScalar s cs) : WritesItems [.scalar s] cs
  | cons {s : Scalar} {ls : List Literal} {cs ds : List Char} (h : WritesScalar s cs)
      (hs : WritesItems ls ds) : WritesItems (.scalar s :: ls) (cs ++ ',' :: ds)

inductive WritesOperand : Literal → List Char → Prop
  | scalar {s : Scalar} {cs : List Char} (h : WritesScalar s cs) : WritesOperand (.scalar s) cs
  | null : WritesOperand .null "null".toList
  | list {ls : List Literal} {cs : List Char} (h : WritesItems ls cs) :
      WritesOperand (.list ls) ('[' :: (cs ++ [']']))

def operatorText : Option Comparison → List Char
  | none => []
  | some c => c.word.toList ++ [':']

def Test.keyword : Test → Comparison
  | .comparison c => c
  | .membership negated => if negated then .ne else .eq
  | .nullity negated => if negated then .ne else .eq

mutual

inductive Writes : Tree → List Char → Prop
  | group {c : Connective} {p : Position} {ts : List Tree} {cs : List Char} (h : WritesAll ts cs) :
      Writes (.operator (.connective c) p ts) (c.word.toList ++ ':' :: '[' :: (cs ++ [']']))
  | test {t : Test} {p : Position} {key : String} {value : Literal} {op? : Option Comparison}
      {cs : List Char} (ho : op?.getD .eq = Test.keyword t) (h : WritesOperand value cs) :
      Writes (.operator (.test t) p [.operand key value []])
        (key.toList ++ ':' :: (operatorText op? ++ cs))

inductive WritesAll : List Tree → List Char → Prop
  | single {t : Tree} {cs : List Char} (h : Writes t cs) : WritesAll [t] cs
  | cons {t : Tree} {ts : List Tree} {cs ds : List Char} (h : Writes t cs) (hs : WritesAll ts ds) :
      WritesAll (t :: ts) (cs ++ ',' :: ds)

end

/-- The conjunction at the root is not written as a group. -/
inductive WritesFilter : Tree → List Char → Prop
  | root {p : Position} {ts : List Tree} {cs : List Char} (h : WritesAll ts cs) :
      WritesFilter (.operator (.connective .and) p ts) cs

def Literal.IsPlain : Literal → Prop
  | scalar (.decimal d) => d.scale ≠ 0
  | scalar _ => True
  | null => False
  | list _ => False

inductive Fits : Test → Literal → Prop
  | comparison {c : Comparison} {l : Literal} (hc : c ≠ .like) (hl : l.IsPlain) :
      Fits (.comparison c) l
  | like (s : String) : Fits (.comparison .like) (.scalar (.string s))
  | membership {ls : List Literal} (negated : Bool) (hne : ls ≠ []) (h : ∀ l ∈ ls, l.IsPlain) :
      Fits (.membership negated) (.list ls)
  | nullity (negated : Bool) : Fits (.nullity negated) .null

/-- Groups with something in them, nested `depth` times at most, and tests of fields of which the
names are no keywords. -/
inductive Expressible : Nat → Tree → Prop
  | group {depth : Nat} {c : Connective} {p : Position} {ts : List Tree} (hne : ts ≠ [])
      (h : ∀ t ∈ ts, Expressible depth t) :
      Expressible (depth + 1) (.operator (.connective c) p ts)
  | test {depth : Nat} {t : Test} {p : Position} {key : String} {value : Literal}
      (hv : isValidKey key = true) (hk : Kind.ofKeyword? key = none) (hf : Fits t value) :
      Expressible depth (.operator (.test t) p [.operand key value []])

inductive IsFilter : Tree → Prop
  | root {p : Position} {ts : List Tree} (hne : ts ≠ []) (h : ∀ t ∈ ts, Expressible maxDepth t) :
      IsFilter (.operator (.connective .and) p ts)

section Exists

lemma exists_writesScalar (s : Scalar) : ∃ cs, WritesScalar s cs := by
  cases s with
  | integer n => exact ⟨_, .integer n⟩
  | decimal d => exact ⟨_, .decimal d⟩
  | string s =>
    obtain ⟨cs, h⟩ := Quoted.exists_encodes (.inl rfl) s.toList
    exact ⟨_, .string (.inl rfl) h⟩
  | boolean b => exact ⟨_, .boolean b⟩

lemma Literal.IsPlain.exists_scalar {l : Literal} (h : l.IsPlain) : ∃ s, l = .scalar s := by
  cases l with
  | scalar s => exact ⟨s, rfl⟩
  | null => cases h
  | list ls => cases h

lemma exists_writesItems {ls : List Literal} (hne : ls ≠ []) (h : ∀ l ∈ ls, l.IsPlain) :
    ∃ cs, WritesItems ls cs := by
  induction ls with
  | nil => exact absurd rfl hne
  | cons l ls ih =>
    rw [List.forall_mem_cons] at h
    obtain ⟨s, rfl⟩ := h.1.exists_scalar
    obtain ⟨cs, hs⟩ := exists_writesScalar s
    by_cases hl : ls = []
    · subst hl
      exact ⟨cs, .single hs⟩
    · obtain ⟨ds, hd⟩ := ih hl h.2
      exact ⟨_, .cons hs hd⟩

lemma Fits.exists_writesOperand {t : Test} {value : Literal} (h : Fits t value) :
    ∃ cs, WritesOperand value cs := by
  cases h with
  | comparison hc hl =>
    obtain ⟨s, rfl⟩ := hl.exists_scalar
    obtain ⟨cs, hs⟩ := exists_writesScalar s
    exact ⟨cs, .scalar hs⟩
  | like s =>
    obtain ⟨cs, hs⟩ := exists_writesScalar (.string s)
    exact ⟨cs, .scalar hs⟩
  | membership negated hne hl =>
    obtain ⟨cs, hs⟩ := exists_writesItems hne hl
    exact ⟨_, .list hs⟩
  | nullity negated => exact ⟨_, .null⟩

lemma exists_writesAll {ts : List Tree} (hne : ts ≠ []) (h : ∀ t ∈ ts, ∃ cs, Writes t cs) :
    ∃ cs, WritesAll ts cs := by
  induction ts with
  | nil => exact absurd rfl hne
  | cons t ts ih =>
    rw [List.forall_mem_cons] at h
    obtain ⟨⟨cs, ht⟩, hts⟩ := h
    by_cases hl : ts = []
    · subst hl
      exact ⟨cs, .single ht⟩
    · obtain ⟨ds, hd⟩ := ih hl hts
      exact ⟨_, .cons ht hd⟩

lemma Expressible.exists_writes {depth : Nat} {t : Tree} (h : Expressible depth t) :
    ∃ cs, Writes t cs := by
  induction h with
  | group hne h ih =>
    obtain ⟨cs, hcs⟩ := exists_writesAll hne ih
    exact ⟨_, .group hcs⟩
  | @test depth t p key value hv hk hf =>
    obtain ⟨cs, hcs⟩ := hf.exists_writesOperand
    have ho : (some (Test.keyword t)).getD .eq = Test.keyword t := rfl
    exact ⟨_, .test ho hcs⟩

end Exists

namespace Tree

mutual

def unplaced : Tree → Tree
  | operator op _ children => operator op .start (unplacedAll children)
  | operand key value children => operand key value (unplacedAll children)

def unplacedAll : List Tree → List Tree
  | [] => []
  | t :: ts => t.unplaced :: unplacedAll ts

end

end Tree

section Reads

open Token (Yields)

variable {cs : List Char} (p : Position)

lemma WritesScalar.reads {s : Scalar} (h : WritesScalar s cs) (hs : Literal.IsPlain (.scalar s)) :
    ∃ t, Yields p cs [t] ∧ IsLiteral t (.scalar s) := by
  cases h with
  | integer n => exact ⟨_, Token.yields_integer n, .integer rfl (Number.int64?_toString n)⟩
  | decimal d => exact ⟨_, Token.yields_decimal hs, .decimal rfl d.ofText?_text⟩
  | string hq he => exact ⟨_, Token.yields_quoted hq he, .string rfl⟩
  | boolean b =>
    have hk : ((if b then "true" else "false"), Kind.boolean b) ∈ Kind.keywords := by
      cases b <;> decide
    exact ⟨_, Token.yields_keyword hk, .boolean rfl⟩

lemma WritesItems.reads {ls : List Literal} (h : WritesItems ls cs) (hl : ∀ l ∈ ls, l.IsPlain) :
    ∃ ts, Yields p cs ts ∧ IsItems ts ls := by
  induction h generalizing p with
  | single h =>
    obtain ⟨t, hy, ht⟩ := h.reads p (hl _ List.mem_cons_self)
    exact ⟨[t], hy, .single ht⟩
  | @cons s ls cs ds h hs ih =>
    rw [List.forall_mem_cons] at hl
    have hc := Token.isMark_comma
    obtain ⟨t, hy, ht⟩ := h.reads p hl.1
    obtain ⟨ts, hys, hts⟩ := ih ((p.after cs).step ',') hl.2
    exact ⟨_, hy.append (hc.yields hys) (hc.endsRun ds), .cons ht rfl hts⟩

lemma WritesOperand.reads {test : Test} {value : Literal} (h : WritesOperand value cs)
    (hf : Fits test value) : ∃ ts, Yields p cs ts ∧ IsOperand ts value := by
  cases h with
  | @scalar s cs h =>
    have hs : Literal.IsPlain (.scalar s) := by
      cases hf with
      | comparison hc hl => exact hl
      | like s => trivial
    obtain ⟨t, hy, ht⟩ := h.reads p hs
    exact ⟨[t], hy, .literal ht⟩
  | null =>
    have hk : ("null", Kind.null) ∈ Kind.keywords := by decide
    exact ⟨_, Token.yields_keyword hk, .literal (.null rfl)⟩
  | @list ls cs h =>
    have hl : ∀ l ∈ ls, l.IsPlain := by
      cases hf with
      | comparison hc hl => cases hl
      | membership negated hne hl => exact hl
    obtain ⟨ts, hy, hts⟩ := h.reads (p.step '[') hl
    exact ⟨_, Token.isMark_openBracket.yields hy.close, .list rfl hts rfl⟩

lemma yields_head {key : String} {op? : Option Comparison} {ts : List Token}
    (hv : isValidKey key = true) (hk : Kind.ofKeyword? key = none)
    (h : Yields (p.after (key.toList ++ ':' :: operatorText op?)) cs ts) :
    ∃ hs, Yields p (key.toList ++ ':' :: (operatorText op? ++ cs)) (hs ++ ts) ∧
      IsHead hs ⟨key, p⟩ op? := by
  have hc := Token.isMark_colon
  have hkey : Yields p key.toList [⟨.word, key, p⟩] := Token.yields_key hv hk
  cases op? with
  | none =>
    rw [Position.after_append] at h
    exact ⟨[⟨.word, key, p⟩, _], hkey.append (hc.yields h) (hc.endsRun _), .plain rfl rfl⟩
  | some c =>
    have hop : (c.word, Kind.comparison c) ∈ Kind.keywords := by cases c <;> decide
    simp only [operatorText, Position.after_append, Position.after_cons, Position.after_nil] at h
    have hys := (Token.yields_keyword hop).append (hc.yields h) (hc.endsRun cs)
    have hall := hkey.append (hc.yields hys) (hc.endsRun _)
    let q := p.after key.toList
    refine ⟨[⟨.word, key, p⟩, ⟨.colon, ':'.toString, q⟩, ⟨.comparison c, c.word, q.step ':'⟩,
      ⟨.colon, ':'.toString, (q.step ':').after c.word.toList⟩], ?_, .tested rfl rfl rfl rfl⟩
    simpa [operatorText] using hall

lemma mem_of_getD_eq {op? : Option Comparison} {negated : Bool}
    (ho : op?.getD .eq = if negated then .ne else .eq) : op? ∈ [none, some .eq, some .ne] := by
  cases op? with
  | none => exact List.mem_cons_self
  | some c =>
    rw [Option.getD_some] at ho
    cases negated <;> subst ho <;> decide

lemma Fits.comparison_eq {test : Test} {value : Literal} {op? : Option Comparison} {key : Tree.Key}
    (hf : Fits test value) (ho : op?.getD .eq = Test.keyword test) :
    (Construct.comparison key op? value).fault? = none ∧
      Clause.comparisonTree key op? value = Tree.test test key.position key.name value := by
  cases hf with
  | @comparison c _ hc hl =>
    obtain ⟨s, rfl⟩ := hl.exists_scalar
    have hlike : op? ≠ some .like := by
      rintro rfl
      exact hc ho.symm
    have ht : Comparison.test (op?.getD .eq) (.scalar s) = .comparison c := by
      rw [ho]
      cases c <;> rfl
    refine ⟨?_, ?_⟩
    · simp [Construct.fault?, Literal.items, Literal.isNull, Literal.isList, hlike]
    · rw [comparisonTree_of_ne hlike, ht]
  | like s =>
    obtain rfl : op? = some .like := by
      cases op? with
      | none => cases ho
      | some c => exact congrArg some ho
    exact ⟨rfl, rfl⟩
  | @membership ls negated hne h =>
    have hop := mem_of_getD_eq ho
    have hn : ls.any Literal.isNull = false := by
      rw [List.any_eq_false]
      intro l hl
      obtain ⟨s, rfl⟩ := (h l hl).exists_scalar
      exact Bool.false_ne_true
    have ht : Comparison.test (op?.getD .eq) (.list ls) = .membership negated := by
      rw [ho]
      cases negated <;> rfl
    have hlike : op? ≠ some .like := by
      rintro rfl
      exact absurd hop (by decide)
    refine ⟨?_, ?_⟩
    · simp only [List.mem_cons, List.not_mem_nil, or_false] at hop
      simp [Construct.fault?, Literal.items, hn, hlike]
      tauto
    · rw [comparisonTree_of_ne hlike, ht]
  | nullity negated =>
    have hop := mem_of_getD_eq ho
    have ht : Comparison.test (op?.getD .eq) .null = .nullity negated := by
      rw [ho]
      cases negated <;> rfl
    have hlike : op? ≠ some .like := by
      rintro rfl
      exact absurd hop (by decide)
    refine ⟨?_, ?_⟩
    · simp [Construct.fault?, Literal.isNull, Literal.isList, hop, hlike]
    · rw [comparisonTree_of_ne hlike, ht]

structure IsReading (p : Position) (cs : List Char) (depth : Nat) (t : Tree) (ts : List Token)
    (c : Clause) : Prop where
  yields : Yields p cs ts
  clause : IsClause ts c
  fault : ∀ k, k + depth ≤ maxDepth → c.fault? k = none
  tree : c.tree.unplaced = t.unplaced

structure AreReadings (p : Position) (cs : List Char) (depth : Nat) (ts : List Tree)
    (us : List Token) (ds : List Clause) : Prop where
  yields : Yields p cs us
  clauses : IsClauses us ds
  fault : ∀ k, k + depth ≤ maxDepth → faultAll? k ds = none
  trees : Tree.unplacedAll (trees ds) = Tree.unplacedAll ts

mutual

theorem Writes.reads {t : Tree} {cs : List Char} (h : Writes t cs) {depth : Nat}
    (he : Expressible depth t) (p : Position) : ∃ ts c, IsReading p cs depth t ts c := by
  cases h with
  | @group c q ts cs h =>
    cases he with
    | @group depth _ _ _ hne he =>
      have hword : (c.word, Kind.connective c) ∈ Kind.keywords := by cases c <;> decide
      have hkeyword : Yields p c.word.toList [⟨.connective c, c.word, p⟩] :=
        Token.yields_keyword hword
      have hc := Token.isMark_colon
      obtain ⟨us, ds, hr⟩ := WritesAll.reads h he (((p.after c.word.toList).step ':').step '[')
      have hopen := Token.isMark_openBracket.yields hr.yields.close
      refine ⟨_, .group c p ds, hkeyword.append (hc.yields hopen) (hc.endsRun _),
        .group rfl rfl rfl hr.clauses rfl, fun k hk => ?_, ?_⟩
      · rw [Clause.fault?_group, if_pos (by omega), hr.fault (k + 1) (by omega)]
      · rw [Clause.tree, Tree.unplaced, hr.trees, Tree.unplaced]
  | @test test q key value op? cs ho h =>
    cases he with
    | test hv hk hf =>
      obtain ⟨ts, hy, hts⟩ := h.reads (p.after (key.toList ++ ':' :: operatorText op?)) hf
      obtain ⟨hs, hys, hhs⟩ := yields_head p hv hk hy
      have hcomparison : (Construct.comparison ⟨key, p⟩ op? value).fault? = none ∧ _ :=
        hf.comparison_eq ho
      obtain ⟨hfault, htree⟩ := hcomparison
      refine ⟨_, _, hys, .comparison hhs hts, fun k _ => ?_, ?_⟩
      · rw [Clause.fault?_comparison, if_pos hv, hfault]
      · rw [Clause.tree, htree]
        rfl

theorem WritesAll.reads {ts : List Tree} {cs : List Char} (h : WritesAll ts cs) {depth : Nat}
    (he : ∀ t ∈ ts, Expressible depth t) (p : Position) :
    ∃ us ds, AreReadings p cs depth ts us ds := by
  cases h with
  | single h =>
    obtain ⟨us, c, hr⟩ := Writes.reads h (he _ List.mem_cons_self) p
    refine ⟨us, [c], hr.yields, .single hr.clause, fun k hk => ?_, ?_⟩
    · rw [Clause.faultAll?_cons, hr.fault k hk]
      rfl
    · exact congrArg (fun t => [t]) hr.tree
  | @cons t ts cs ds h hs =>
    rw [List.forall_mem_cons] at he
    have hc := Token.isMark_comma
    obtain ⟨us, c, hr⟩ := Writes.reads h he.1 p
    obtain ⟨vs, ds, hrs⟩ := WritesAll.reads hs he.2 ((p.after cs).step ',')
    refine ⟨_, c :: ds, hr.yields.append (hc.yields hrs.yields) (hc.endsRun _),
      .cons hr.clause rfl hrs.clauses, fun k hk => ?_, ?_⟩
    · rw [Clause.faultAll?_cons, hr.fault k hk, hrs.fault k hk]
      rfl
    · rw [trees, Tree.unplacedAll, hr.tree, hrs.trees, Tree.unplacedAll]

end

end Reads

theorem Tree.ofText_of_writesFilter {tree : Tree} (h : IsFilter tree) :
    (∃ cs, WritesFilter tree cs) ∧
    ∀ s : String, WritesFilter tree s.toList → s.utf8ByteSize ≤ maxLength →
      ∃ read, Tree.ofText s = .ok read ∧ read.unplaced = tree.unplaced := by
  cases h with
  | @root p ts hne h =>
    constructor
    · obtain ⟨cs, hcs⟩ := exists_writesAll hne fun t ht => (h t ht).exists_writes
      exact ⟨cs, .root hcs⟩
    · intro s hs hlength
      generalize hcs : s.toList = cs at hs
      cases hs with
      | root hs =>
        obtain ⟨us, ds, hr⟩ := hs.reads h .start
        have hscan : (Token.scan s).result = .ok us := by
          have hy := hr.yields [] endsRun_nil
          rw [List.append_nil, Token.scanFrom] at hy
          rw [Token.scan, if_pos hlength, hcs, hy, Text.Scan.result_foldr_cons]
        have hread := Tree.ofTokens_clauses hr.clauses
        rw [hr.fault 0 (by decide)] at hread
        refine ⟨filterTree ds, ?_, ?_⟩
        · rw [Tree.ofText, hscan]
          exact congrArg (Except.mapError FilterError.parse) hread
        · rw [filterTree, Tree.unplaced, hr.trees, Tree.unplaced]

theorem Tree.ofText_of_writesFilter_group_and_list :
    let d : Decimal := { coefficient := -150, scale := 2 }
    let price : Tree := .test (.comparison .gte) .start "price" (.scalar (.decimal d))
    let name : Tree := .test (.comparison .like) .start "name" (.scalar (.string "O'%"))
    let status : Tree :=
      .test (.membership true) .start "status" (.list [.scalar (.integer 7), .scalar (.boolean true)])
    let tree : Tree :=
      .operator (.connective .and) .start [.operator (.connective .or) .start [price, name], status]
    IsFilter tree ∧
    ∃ read, Tree.ofText "or:[price:gte:-1.50,name:like:'O\\'%'],status:ne:[7,true]" = .ok read ∧
      read.unplaced = tree.unplaced := by
  intro d price name status tree
  have hprice : Expressible 7 price := by
    refine .test (by decide) (by decide +kernel) (.comparison (by decide) ?_)
    exact Nat.succ_ne_zero 1
  have hname : Expressible 7 name := .test (by decide) (by decide +kernel) (.like "O'%")
  have hstatus : Expressible 8 status := by
    refine .test (by decide) (by decide +kernel) (.membership true (List.cons_ne_nil _ _) ?_)
    simp [Literal.IsPlain]
  have hgroup : Expressible 8 (.operator (.connective .or) .start [price, name]) := by
    refine .group (List.cons_ne_nil _ _) ?_
    simp [hprice, hname]
  have htree : IsFilter tree := by
    refine .root (List.cons_ne_nil _ _) ?_
    simp [maxDepth, hgroup, hstatus]
  have hquoted : Quoted.Encodes '\'' ['O', '\\', '\'', '%'] "O'%".toList := by
    rw [show "O'%".toList = ['O', '\'', '%'] from rfl]
    exact .raw (by decide) (by decide) (.escape rfl (.raw (by decide) (by decide) .nil))
  have hwprice := @Writes.test (.comparison .gte) .start "price" _ (some .gte) _ rfl
    (.scalar (.decimal d))
  have hwname := @Writes.test (.comparison .like) .start "name" _ (some .like) _ rfl
    (.scalar (.string (.inr rfl) hquoted))
  have hwgroup := @Writes.group .or .start _ _ (.cons hwprice (.single hwname))
  have hwitems := WritesItems.cons (.integer 7) (.single (.boolean true))
  have hwstatus := @Writes.test (.membership true) .start "status" _ (some .ne) _ rfl (.list hwitems)
  have hwtree : WritesFilter tree _ := .root (.cons hwgroup (.single hwstatus))
  refine ⟨htree, (Tree.ofText_of_writesFilter htree).2 _ ?_ (by decide +kernel)⟩
  convert hwtree using 1
  decide +kernel

end RowFilter.Filter
