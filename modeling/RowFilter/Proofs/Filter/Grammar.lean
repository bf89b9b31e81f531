import Mathlib
import RowFilter.Filter.Tree.Parser

/-! The grammar of filters, as derivations over tokens, with its side conditions apart. -/

namespace RowFilter.Filter

open RowFilter.Filter.Tree (Key)

inductive Clause
  | group (c : Connective) (p : Position) (clauses : List Clause)
  | comparison (key : Key) (op? : Option Comparison) (operand : Literal)

section Derivations

inductive IsLiteral (t : Token) : Literal → Prop
  | word (h : t.kind = .word) : IsLiteral t (.scalar (.string t.lexeme))
  | string (h : t.kind = .string) : IsLiteral t (.scalar (.string t.lexeme))
  | integer {n : Int64} (h : t.kind = .integer) (hn : Number.int64? t.lexeme.toList = some n) :
      IsLiteral t (.scalar (.integer n))
  | decimal {d : Decimal} (h : t.kind = .decimal) (hd : Decimal.ofText? t.lexeme.toList = some d) :
      IsLiteral t (.scalar (.decimal d))
  | boolean {b : Bool} (h : t.kind = .boolean b) : IsLiteral t (.scalar (.boolean b))
  | null (h : t.kind = .null) : IsLiteral t .null

/-- `literal (',' literal)*` -/
inductive IsItems : List Token → List Literal → Prop
  | single {t : Token} {l : Literal} (h : IsLiteral t l) : IsItems [t] [l]
  | cons {t comma : Token} {l : Literal} {ts : List Token} {ls : List Literal} (h : IsLiteral t l)
      (hc : comma.kind = .comma) (hs : IsItems ts ls) : IsItems (t :: comma :: ts) (l :: ls)

/-- `literal | '[' literal (',' literal)* ']'` -/
inductive IsOperand : List Token → Literal → Prop
  | literal {t : Token} {l : Literal} (h : IsLiteral t l) : IsOperand [t] l
  | list {opening closing : Token} {ts : List Token} {ls : List Literal}
      (ho : opening.kind = .openBracket) (h : IsItems ts ls) (hc : closing.kind = .closeBracket) :
      IsOperand (opening :: ts ++ [closing]) (.list ls)

/-- `KEY ':' (op ':')?` -/
inductive IsHead : List Token → Key → Option Comparison → Prop
  | plain {key colon : Token} (hk : key.kind = .word) (hc : colon.kind = .colon) :
      IsHead [key, colon] ⟨key.lexeme, key.position⟩ none
  | tested {key colon op colon' : Token} {c : Comparison} (hk : key.kind = .word)
      (hc : colon.kind = .colon) (ho : op.kind = .comparison c) (hc' : colon'.kind = .colon) :
      IsHead [key, colon, op, colon'] ⟨key.lexeme, key.position⟩ (some c)

mutual

/-- `('and' | 'or') ':' '[' clauses ']' | KEY ':' (op ':')? operand` -/
inductive IsClause : List Token → Clause → Prop
  | group {c : Connective} {keyword colon opening closing : Token} {ts : List Token}
      {cs : List Clause} (hk : keyword.kind = .connective c) (hc : colon.kind = .colon)
      (ho : opening.kind = .openBracket) (h : IsClauses ts cs)
      (he : closing.kind = .closeBracket) :
      IsClause (keyword :: colon :: opening :: ts ++ [closing]) (.group c keyword.position cs)
  | comparison {key : Key} {op? : Option Comparison} {operand : Literal} {hs ts : List Token}
      (hh : IsHead hs key op?) (h : IsOperand ts operand) :
      IsClause (hs ++ ts) (.comparison key op? operand)

/-- `clause (',' clause)*` -/
inductive IsClauses : List Token → List Clause → Prop
  | single {ts : List Token} {c : Clause} (h : IsClause ts c) : IsClauses ts [c]
  | cons {ts us : List Token} {comma : Token} {c : Clause} {cs : List Clause} (h : IsClause ts c)
      (hc : comma.kind = .comma) (hs : IsClauses us cs) : IsClauses (ts ++ comma :: us) (c :: cs)

end

end Derivations

def Comparison.test : Comparison → Literal → Test
  | .eq, .null => .nullity false
  | .ne, .null => .nullity true
  | .eq, .list _ => .membership false
  | .ne, .list _ => .membership true
  | c, _ => .comparison c

namespace Clause

def comparisonTree (key : Key) (op? : Option Comparison) (operand : Literal) : Tree :=
  match op?, operand with
  | some .like, .list patterns =>
    .operator (.connective .or) key.position
      (patterns.map (Tree.test (.comparison .like) key.position key.name))
  | _, _ => Tree.test (Comparison.test (op?.getD .eq) operand) key.position key.name operand

mutual

def tree : Clause → Tree
  | group c p clauses => .operator (.connective c) p (trees clauses)
  | comparison key op? operand => comparisonTree key op? operand

def trees : List Clause → List Tree
  | [] => []
  | c :: cs => c.tree :: trees cs

end

def filterTree (clauses : List Clause) : Tree := .operator (.connective .and) .start (trees clauses)

end Clause

namespace Literal

def isList : Literal → Bool
  | list _ => true
  | _ => false

def isString : Literal → Bool
  | scalar (.string _) => true
  | _ => false

def items : Literal → List Literal
  | list ls => ls
  | l => [l]

end Literal

/-- What a side condition is about: a group, at its depth, the key of a comparison, or the
comparison with its operand. -/
inductive Construct
  | group (depth : Nat) (p : Position)
  | key (key : Key)
  | comparison (key : Key) (op? : Option Comparison) (operand : Literal)

namespace Construct

def fault? : Construct → Option ParseError
  | group depth p => if depth ≤ maxDepth then none else some (.tooDeep p)
  | key k => if isValidKey k.name then none else some (.invalidKey k.name k.position)
  | comparison k op? operand =>
    if operand.items.any Literal.isNull ∧
        ¬ (operand.isNull ∧ op? ∈ [none, some .eq, some .ne]) then
      some (.nullNotAllowed op? k.position)
    else if operand.isList ∧ op? ∉ [none, some .eq, some .ne, some .like] then
      some (.listNotAllowed op? k.position)
    else if op? = some .like ∧ ¬ operand.items.all Literal.isString then
      some (.likeNeedsString k.position)
    else none

section Operators

variable {key : Key} {op? : Option Comparison} {ls : List Literal}

lemma of_fault?_null (h : (comparison key op? .null).fault? = none) :
    op? = none ∨ op? = some .eq ∨ op? = some .ne := by
  by_contra hn
  simp [fault?, Literal.items, Literal.isNull, hn] at h

lemma of_fault?_list (h : (comparison key op? (.list ls)).fault? = none) :
    op? = none ∨ op? = some .eq ∨ op? = some .ne ∨ op? = some .like := by
  by_contra hn
  simp only [fault?, Literal.isList, List.mem_cons, List.not_mem_nil, or_false] at h
  split_ifs at h
  simp_all

lemma noNull_of_fault?_list (h : (comparison key op? (.list ls)).fault? = none) :
    ls.any Literal.isNull = false := by
  by_contra hn
  rw [Bool.not_eq_false] at hn
  simp [fault?, Literal.items, hn, Literal.isNull] at h

lemma isString_of_fault?_like {operand : Literal}
    (h : (comparison key (some .like) operand).fault? = none) :
    operand.items.all Literal.isString = true := by
  by_contra hn
  simp only [fault?] at h
  split_ifs at h
  simp_all

end Operators

end Construct

namespace Clause

mutual

def constructs (depth : Nat) : Clause → List Construct
  | group _ p clauses => .group (depth + 1) p :: constructsAll (depth + 1) clauses
  | comparison key op? operand => [.key key, .comparison key op? operand]

def constructsAll (depth : Nat) : List Clause → List Construct
  | [] => []
  | c :: cs => c.constructs depth ++ constructsAll depth cs

end

def fault? (depth : Nat) (c : Clause) : Option ParseError :=
  (c.constructs depth).findSome? Construct.fault?

def faultAll? (depth : Nat) (cs : List Clause) : Option ParseError :=
  (constructsAll depth cs).findSome? Construct.fault?

lemma comparisonTree_of_ne {op? : Option Comparison} {key : Key} {value : Literal}
    (h : op? ≠ some .like) :
    comparisonTree key op? value =
      Tree.test (Comparison.test (op?.getD .eq) value) key.position key.name value := by
  unfold comparisonTree
  split
  · exact absurd rfl h
  · rfl

lemma fault?_group (depth : Nat) (c : Connective) (p : Position) (cs : List Clause) :
    (group c p cs).fault? depth =
      if depth + 1 ≤ maxDepth then faultAll? (depth + 1) cs else some (.tooDeep p) := by
  rw [fault?, constructs, List.findSome?_cons, faultAll?]
  by_cases h : depth + 1 ≤ maxDepth <;> simp [Construct.fault?, h]

lemma fault?_comparison (depth : Nat) (key : Key) (op? : Option Comparison) (operand : Literal) :
    (comparison key op? operand).fault? depth =
      if isValidKey key.name then (Construct.comparison key op? operand).fault?
      else some (.invalidKey key.name key.position) := by
  rw [fault?, constructs, List.findSome?_cons, List.findSome?_singleton]
  by_cases h : isValidKey key.name = true <;> simp [Construct.fault?, h]

lemma faultAll?_cons (depth : Nat) (c : Clause) (cs : List Clause) :
    faultAll? depth (c :: cs) = (c.fault? depth).or (faultAll? depth cs) := by
  rw [faultAll?, constructsAll, List.findSome?_append]
  rfl

lemma faultAll?_concat {depth : Nat} {cs : List Clause} {c : Clause}
    (hcs : faultAll? depth cs = none) (hc : c.fault? depth = none) :
    faultAll? depth (cs ++ [c]) = none := by
  induction cs with
  | nil =>
    rw [List.nil_append, faultAll?_cons, hc]
    rfl
  | cons d cs ih =>
    rw [faultAll?_cons, Option.or_eq_none_iff] at hcs
    rw [List.cons_append, faultAll?_cons, hcs.1, ih hcs.2]
    rfl

lemma trees_append (cs ds : List Clause) : trees (cs ++ ds) = trees cs ++ trees ds := by
  induction cs with
  | nil => rfl
  | cons c cs ih => rw [List.cons_append, trees, ih, trees, List.cons_append]

end Clause

section Unique

variable {t u : Token} {ts us rs rs' : List Token}

lemma isLiteral_iff {l : Literal} : IsLiteral t l ↔ Literal.ofToken t = .ok l := by
  constructor
  · rintro (h | h | ⟨h, hn⟩ | ⟨h, hd⟩ | h | h) <;> simp [Literal.ofToken, *]
  · intro h
    simp only [Literal.ofToken] at h
    split at h
    · next hk => cases h; exact .word hk
    · next hk => cases h; exact .string hk
    · next hk =>
      split at h
      · next n hn => cases h; exact .integer hk hn
      · cases h
    · next hk =>
      split at h
      · next d hd => cases h; exact .decimal hk hd
      · cases h
    · next b hk => cases h; exact .boolean hk
    · next hk => cases h; exact .null hk
    · cases h

lemma IsLiteral.unique {l m : Literal} (h : IsLiteral t l) (h' : IsLiteral t m) : l = m := by
  rw [isLiteral_iff] at h h'
  exact Except.ok.inj (h.symm.trans h')

lemma IsLiteral.kind_ne {l : Literal} (h : IsLiteral t l) :
    t.kind ≠ .openBracket ∧ ∀ c, t.kind ≠ .comparison c := by
  cases h <;> simp [*]

lemma IsItems.unique {ls ms : List Literal} (h : IsItems ts ls) (h' : IsItems us ms)
    (ht : t.kind = .closeBracket) (hu : u.kind = .closeBracket)
    (he : ts ++ t :: rs = us ++ u :: rs') : ts = us ∧ ls = ms := by
  induction h generalizing us ms with
  | single h =>
    cases h' with
    | single h' =>
      simp only [List.cons_append, List.cons.injEq] at he
      obtain ⟨rfl, -⟩ := he
      exact ⟨rfl, congrArg (fun l => [l]) (h.unique h')⟩
    | cons h' hc hs =>
      simp only [List.cons_append, List.nil_append, List.cons.injEq] at he
      obtain ⟨-, rfl, -⟩ := he
      rw [ht] at hc
      cases hc
  | cons h hc hs ih =>
    cases h' with
    | single h' =>
      simp only [List.cons_append, List.nil_append, List.cons.injEq] at he
      obtain ⟨-, rfl, -⟩ := he
      rw [hu] at hc
      cases hc
    | cons h' hc' hs' =>
      simp only [List.cons_append, List.cons.injEq] at he
      obtain ⟨rfl, rfl, he⟩ := he
      obtain ⟨rfl, rfl⟩ := ih hs' he
      exact ⟨rfl, congrArg (· :: _) (h.unique h')⟩

lemma IsOperand.unique {l m : Literal} (h : IsOperand ts l) (h' : IsOperand us m)
    (he : ts ++ rs = us ++ rs') : ts = us ∧ l = m := by
  cases h with
  | literal h =>
    cases h' with
    | literal h' =>
      simp only [List.cons_append, List.cons.injEq] at he
      obtain ⟨rfl, -⟩ := he
      exact ⟨rfl, h.unique h'⟩
    | list ho _ _ =>
      simp only [List.cons_append, List.cons.injEq] at he
      obtain ⟨rfl, -⟩ := he
      exact absurd ho h.kind_ne.1
  | list ho h hc =>
    cases h' with
    | literal h' =>
      simp only [List.cons_append, List.cons.injEq] at he
      obtain ⟨rfl, -⟩ := he
      exact absurd ho h'.kind_ne.1
    | list ho' h' hc' =>
      simp only [List.append_assoc, List.cons_append, List.nil_append, List.cons.injEq] at he
      obtain ⟨rfl, he⟩ := he
      obtain ⟨rfl, rfl⟩ := h.unique h' hc hc' he
      obtain ⟨rfl, -⟩ := List.cons.inj (List.append_cancel_left he)
      exact ⟨rfl, rfl⟩

lemma IsOperand.head_kind_ne {l : Literal} (h : IsOperand (t :: ts) l) (c : Comparison) :
    t.kind ≠ .comparison c := by
  generalize hv : t :: ts = vs at h
  cases h with
  | literal h =>
    cases hv
    exact h.kind_ne.2 c
  | list ho h hc =>
    cases hv
    simp [ho]

lemma IsHead.head_kind {hs : List Token} {key : Key} {op? : Option Comparison}
    (h : IsHead hs key op?) : ∃ t hs', hs = t :: hs' ∧ t.kind = .word := by
  cases h with
  | plain hk hc => exact ⟨_, _, rfl, hk⟩
  | tested hk hc ho hd => exact ⟨_, _, rfl, hk⟩

lemma IsHead.unique {hs hs' : List Token} {key key' : Key} {op? op?' : Option Comparison}
    {l m : Literal} (h : IsHead hs key op?) (h' : IsHead hs' key' op?') (hl : IsOperand ts l)
    (hm : IsOperand us m) (he : hs ++ (ts ++ rs) = hs' ++ (us ++ rs')) :
    hs = hs' ∧ key = key' ∧ op? = op?' := by
  cases h with
  | plain hk hc =>
    cases h' with
    | plain hk' hc' =>
      simp only [List.cons_append, List.nil_append, List.cons.injEq] at he
      obtain ⟨rfl, rfl, -⟩ := he
      exact ⟨rfl, rfl, rfl⟩
    | tested hk' hc' ho hd =>
      -- the operand would begin with an operator
      cases ts with
      | nil => cases hl
      | cons t ts =>
        simp only [List.cons_append, List.nil_append, List.cons.injEq] at he
        obtain ⟨-, -, rfl, -⟩ := he
        exact absurd ho (hl.head_kind_ne _)
  | tested hk hc ho hd =>
    cases h' with
    | plain hk' hc' =>
      cases us with
      | nil => cases hm
      | cons u us =>
        simp only [List.cons_append, List.nil_append, List.cons.injEq] at he
        obtain ⟨-, -, rfl, -⟩ := he
        exact absurd ho (hm.head_kind_ne _)
    | tested hk' hc' ho' hd' =>
      simp only [List.cons_append, List.nil_append, List.cons.injEq] at he
      obtain ⟨rfl, rfl, rfl, rfl, -⟩ := he
      obtain rfl := Kind.comparison.inj (ho.symm.trans ho')
      exact ⟨rfl, rfl, rfl⟩

lemma IsClause.ne_nil {c : Clause} (h : IsClause ts c) : ts ≠ [] := by
  cases h with
  | group hk hc ho h he => exact List.cons_ne_nil _ _
  | comparison hh h =>
    obtain ⟨t, hs, rfl, -⟩ := hh.head_kind
    exact List.cons_ne_nil _ _

lemma IsClauses.ne_nil {cs : List Clause} (h : IsClauses ts cs) : ts ≠ [] := by
  cases h with
  | single h => exact h.ne_nil
  | cons h hc hs => exact List.append_ne_nil_of_left_ne_nil h.ne_nil _

lemma IsItems.snoc {comma : Token} {ls : List Literal} {l : Literal} (h : IsItems ts ls)
    (hc : comma.kind = .comma) (ht : IsLiteral t l) :
    IsItems (ts ++ [comma] ++ [t]) (ls ++ [l]) := by
  induction h with
  | single h => exact .cons h hc (.single ht)
  | cons h hc' hs ih => exact .cons h hc' ih

lemma IsClauses.append {ts us : List Token} {comma : Token} {cs ds : List Clause}
    (h : IsClauses ts cs) (hc : comma.kind = .comma) (h' : IsClauses us ds) :
    IsClauses (ts ++ [comma] ++ us) (cs ++ ds) := by
  cases h with
  | single h =>
    rw [List.append_assoc]
    exact .cons h hc h'
  | cons h hc' hs => simpa using IsClauses.cons h hc' (IsClauses.append hs hc h')

def NoComma (ts : List Token) : Prop := ∀ t ∈ ts.head?, t.kind ≠ .comma

mutual

lemma IsClause.unique {ts us rs rs' : List Token} {c d : Clause} (h : IsClause ts c)
    (h' : IsClause us d) (he : ts ++ rs = us ++ rs') : ts = us ∧ c = d := by
  cases h with
  | group hk hc ho h hb =>
    cases h' with
    | group hk' hc' ho' h' hb' =>
      simp only [List.append_assoc, List.cons_append, List.nil_append, List.cons.injEq] at he
      obtain ⟨rfl, rfl, rfl, he⟩ := he
      obtain rfl := Kind.connective.inj (hk.symm.trans hk')
      have hn : ∀ {u : Token}, u.kind = .closeBracket → ∀ vs, NoComma (u :: vs) := by
        intro u hu vs t ht
        cases ht
        simp [hu]
      obtain ⟨rfl, rfl⟩ := IsClauses.unique h h' (hn hb _) (hn hb' _) he
      obtain ⟨rfl, -⟩ := List.cons.inj (List.append_cancel_left he)
      exact ⟨rfl, rfl⟩
    | comparison hh' _ =>
      obtain ⟨t, hs, rfl, ht⟩ := hh'.head_kind
      simp only [List.cons_append, List.cons.injEq] at he
      obtain ⟨rfl, -⟩ := he
      rw [ht] at hk
      cases hk
  | comparison hh h =>
    cases h' with
    | group hk' _ _ _ _ =>
      obtain ⟨t, hs, rfl, ht⟩ := hh.head_kind
      simp only [List.cons_append, List.cons.injEq] at he
      obtain ⟨rfl, -⟩ := he
      rw [ht] at hk'
      cases hk'
    | comparison hh' h' =>
      rw [List.append_assoc, List.append_assoc] at he
      obtain ⟨rfl, rfl, rfl⟩ := hh.unique hh' h h' he
      obtain ⟨rfl, rfl⟩ := h.unique h' (List.append_cancel_left he)
      exact ⟨rfl, rfl⟩

lemma IsClauses.unique {ts us rs rs' : List Token} {cs ds : List Clause} (h : IsClauses ts cs)
    (h' : IsClauses us ds) (hr : NoComma rs) (hr' : NoComma rs') (he : ts ++ rs = us ++ rs') :
    ts = us ∧ cs = ds := by
  cases h with
  | single h =>
    cases h' with
    | single h' =>
      obtain ⟨rfl, rfl⟩ := IsClause.unique h h' he
      exact ⟨rfl, rfl⟩
    | cons h' hc hs =>
      rw [List.append_assoc] at he
      obtain ⟨rfl, rfl⟩ := IsClause.unique h h' he
      rw [List.append_cancel_left he] at hr
      exact absurd hc (hr _ rfl)
  | cons h hc hs =>
    cases h' with
    | single h' =>
      rw [List.append_assoc] at he
      obtain ⟨rfl, rfl⟩ := IsClause.unique h h' he
      rw [← List.append_cancel_left he] at hr'
      exact absurd hc (hr' _ rfl)
    | cons h' hc' hs' =>
      rw [List.append_assoc, List.append_assoc] at he
      obtain ⟨rfl, rfl⟩ := IsClause.unique h h' he
      obtain ⟨rfl, ht⟩ := List.cons.inj (List.append_cancel_left he)
      obtain ⟨rfl, rfl⟩ := IsClauses.unique hs hs' hr hr' ht
      exact ⟨rfl, rfl⟩

end

end Unique

end RowFilter.Filter
