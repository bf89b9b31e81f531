import RowFilter.Proofs.Filter.Grammar
import RowFilter.Proofs.Outcome

/-! Reading goes through a derivation from the left to the right, up to the first construct that
breaks its side condition. -/

namespace RowFilter.Filter

namespace Tree

open Clause (comparisonTree trees faultAll? filterTree)

lemma mapM_likePattern (key : Key) (ls : List Literal) :
    ls.mapM (likePattern key) =
      if ls.all Literal.isString then
        .ok (ls.map (test (.comparison .like) key.position key.name))
      else .error (.likeNeedsString key.position) := by
  induction ls with
  | nil => rfl
  | cons l ls ih =>
    rw [List.mapM_cons, ih]
    by_cases hl : l.isString = true
    · obtain ⟨s, rfl⟩ : ∃ s, l = .scalar (.string s) := by
        unfold Literal.isString at hl
        split at hl
        · exact ⟨_, rfl⟩
        · cases hl
      simp only [List.all_cons, hl, Bool.true_and]
      split <;> rfl
    · have he : likePattern key l = .error (.likeNeedsString key.position) := by
        unfold likePattern
        split
        · exact absurd rfl hl
        · rfl
      simp [he, hl]
      rfl

lemma ofComparison_eq (key : Key) (op? : Option Comparison) (l : Literal) :
    ofComparison key op? l =
      match (Construct.comparison key op? l).fault? with
      | some e => .error e
      | none => .ok (comparisonTree key op? l) := by
  cases l with
  | scalar s =>
    rcases op? with _ | (_ | _ | _ | _ | _ | _ | _) <;> cases s <;>
      simp [ofComparison, Construct.fault?, comparisonTree, Comparison.test, Literal.items,
        Literal.isNull, Literal.isList, Literal.isString]
  | null =>
    rcases op? with _ | (_ | _ | _ | _ | _ | _ | _) <;>
      simp [ofComparison, Construct.fault?, comparisonTree, Comparison.test, Literal.items,
        Literal.isNull, Literal.isList]
  | list ls =>
    -- a null in the list is told before any other fault
    by_cases hn : ls.any Literal.isNull = true
    · simp [ofComparison, Construct.fault?, Literal.items, hn, Literal.isNull]
    by_cases hl : op? = some .like
    · subst hl
      simp only [ofComparison, Construct.fault?, comparisonTree, Literal.items, hn,
        mapM_likePattern]
      by_cases hs : ls.all Literal.isString = true <;> simp [hs, Except.map]
    · rcases op? with _ | (_ | _ | _ | _ | _ | _ | _) <;>
        simp [ofComparison, Construct.fault?, comparisonTree, Comparison.test, Literal.items, hn,
          Literal.isList] at hl ⊢

def Phase.awaiting (key : Key) : Option Comparison → Phase
  | none => .operatorOrOperand key
  | some c => .operand key c

def Group.addAll (g : Group) (ts : List Tree) : Group :=
  { g with conjuncts := ts.reverse ++ g.conjuncts }

namespace State

def orFault (s : State) : Option ParseError → Except ParseError State
  | some e => .error e
  | none => .ok s

variable {ts hs : List Token} {t : Token} {key : Key} {op? : Option Comparison} {operand : Literal}
  {c : Connective} {p : Position} (g : Group) (gs : List Group)

lemma addComparison_eq (phase : Phase) (key : Key) (op? : Option Comparison) (operand : Literal) :
    addComparison ⟨phase, g, gs⟩ key op? operand =
      orFault ⟨.conjunctEnd, g.add (comparisonTree key op? operand), gs⟩
        (Construct.comparison key op? operand).fault? := by
  rw [addComparison, ofComparison_eq]
  cases (Construct.comparison key op? operand).fault? <;> rfl

lemma step_keyword (hk : t.kind = .connective c) :
    step ⟨.conjunct, g, gs⟩ t =
      if gs.length < maxDepth then .ok ⟨.groupColon c t.position, g, gs⟩
      else .error (.tooDeep t.position) := by
  simp only [step, startConjunct, hk, enter]

lemma step_groupColon (ht : t.kind = .colon) :
    step ⟨.groupColon c p, g, gs⟩ t = .ok ⟨.groupBracket c p, g, gs⟩ := by
  simp only [step, if_pos ht, enter]

lemma step_groupBracket (ht : t.kind = .openBracket) :
    step ⟨.groupBracket c p, g, gs⟩ t = .ok ⟨.conjunct, ⟨c, p, []⟩, g :: gs⟩ := by
  simp only [step, if_pos ht]

lemma step_key (ht : t.kind = .word) :
    step ⟨.conjunct, g, gs⟩ t =
      if isValidKey t.lexeme then .ok ⟨.keyColon ⟨t.lexeme, t.position⟩, g, gs⟩
      else .error (.invalidKey t.lexeme t.position) := by
  simp only [step, startConjunct, ht, enter]

lemma step_keyColon (ht : t.kind = .colon) :
    step ⟨.keyColon key, g, gs⟩ t = .ok ⟨.operatorOrOperand key, g, gs⟩ := by
  simp only [step, if_pos ht, enter]

lemma step_operator {op : Comparison} (ht : t.kind = .comparison op) :
    step ⟨.operatorOrOperand key, g, gs⟩ t = .ok ⟨.operatorColon key op, g, gs⟩ := by
  simp only [step, ht, enter]

lemma step_operatorColon {op : Comparison} (ht : t.kind = .colon) :
    step ⟨.operatorColon key op, g, gs⟩ t = .ok ⟨.operand key op, g, gs⟩ := by
  simp only [step, if_pos ht, enter]

lemma step_awaiting (ht : ∀ c, t.kind ≠ .comparison c) :
    step ⟨.awaiting key op?, g, gs⟩ t = readOperand ⟨.awaiting key op?, g, gs⟩ key op? t := by
  cases op? with
  | none =>
    simp only [Phase.awaiting, step]
  | some c => rfl

lemma step_openList (ht : t.kind = .openBracket) :
    step ⟨.awaiting key op?, g, gs⟩ t = .ok ⟨.item key op? [], g, gs⟩ := by
  rw [step_awaiting g gs (by simp [ht]), readOperand, if_pos ht, enter]

lemma step_literal (ht : IsLiteral t operand) :
    step ⟨.awaiting key op?, g, gs⟩ t =
      orFault ⟨.conjunctEnd, g.add (comparisonTree key op? operand), gs⟩
        (Construct.comparison key op? operand).fault? := by
  rw [step_awaiting g gs ht.kind_ne.2, readOperand, if_neg ht.kind_ne.1, isLiteral_iff.mp ht]
  exact addComparison_eq g gs _ key op? operand

lemma step_item (ht : IsLiteral t operand) (ls : List Literal) :
    step ⟨.item key op? ls, g, gs⟩ t = .ok ⟨.itemEnd key op? (operand :: ls), g, gs⟩ := by
  simp only [step, readItem, isLiteral_iff.mp ht, enter]

lemma step_itemComma (ht : t.kind = .comma) (ls : List Literal) :
    step ⟨.itemEnd key op? ls, g, gs⟩ t = .ok ⟨.item key op? ls, g, gs⟩ := by
  simp only [step, ht, enter]

lemma step_closeList (ht : t.kind = .closeBracket) (ls : List Literal) :
    step ⟨.itemEnd key op? ls.reverse, g, gs⟩ t =
      orFault ⟨.conjunctEnd, g.add (comparisonTree key op? (.list ls)), gs⟩
        (Construct.comparison key op? (.list ls)).fault? := by
  simp only [step, ht, List.reverse_reverse]
  exact addComparison_eq g gs _ key op? (.list ls)

lemma step_comma (ht : t.kind = .comma) :
    step ⟨.conjunctEnd, g, gs⟩ t = .ok ⟨.conjunct, g, gs⟩ := by
  simp only [step, endConjunct, ht, enter]

lemma step_closeGroup (ht : t.kind = .closeBracket) (h : Group) :
    step ⟨.conjunctEnd, h, g :: gs⟩ t = .ok ⟨.conjunctEnd, g.add h.tree, gs⟩ := by
  simp only [step, endConjunct, ht, addConjunct]

lemma foldlM_items {ls : List Literal} (h : IsItems ts ls) (read : List Literal) :
    ts.foldlM step ⟨.item key op? read, g, gs⟩ =
      .ok ⟨.itemEnd key op? (ls.reverse ++ read), g, gs⟩ := by
  induction h generalizing read with
  | single h =>
    rw [Outcome.foldlM_cons_of_ok (step_item g gs h read)]
    rfl
  | cons h hc hs ih =>
    rw [Outcome.foldlM_cons_of_ok (step_item g gs h read),
      Outcome.foldlM_cons_of_ok (step_itemComma g gs hc _), ih, List.reverse_cons,
      List.append_assoc, List.singleton_append]

lemma foldlM_operand (h : IsOperand ts operand) :
    ts.foldlM step ⟨.awaiting key op?, g, gs⟩ =
      orFault ⟨.conjunctEnd, g.add (comparisonTree key op? operand), gs⟩
        (Construct.comparison key op? operand).fault? := by
  cases h with
  | literal h => rw [Outcome.foldlM_singleton, step_literal g gs h]
  | @list opening closing ts ls ho h hc =>
    have hitems : ts.foldlM step ⟨.item key op? [], g, gs⟩ = _ := foldlM_items g gs h []
    rw [List.append_nil] at hitems
    rw [List.cons_append, Outcome.foldlM_cons_of_ok (step_openList g gs ho),
      Outcome.foldlM_append_of_ok hitems, Outcome.foldlM_singleton, step_closeList g gs hc]

lemma foldlM_head (h : IsHead hs key op?) :
    hs.foldlM step ⟨.conjunct, g, gs⟩ =
      if isValidKey key.name then .ok ⟨.awaiting key op?, g, gs⟩
      else .error (.invalidKey key.name key.position) := by
  cases h with
  | @plain k colon hk hc =>
    by_cases hv : isValidKey k.lexeme = true
    · rw [if_pos hv, Outcome.foldlM_cons_of_ok ((step_key g gs hk).trans (if_pos hv)),
        Outcome.foldlM_singleton, step_keyColon g gs hc]
      rfl
    · rw [if_neg hv]
      exact Outcome.foldlM_cons_of_error ((step_key g gs hk).trans (if_neg hv))
  | @tested k colon op colon' c hk hc ho hd =>
    by_cases hv : isValidKey k.lexeme = true
    · rw [if_pos hv, Outcome.foldlM_cons_of_ok ((step_key g gs hk).trans (if_pos hv)),
        Outcome.foldlM_cons_of_ok (step_keyColon g gs hc),
        Outcome.foldlM_cons_of_ok (step_operator g gs ho), Outcome.foldlM_singleton,
        step_operatorColon g gs hd]
      rfl
    · rw [if_neg hv]
      exact Outcome.foldlM_cons_of_error ((step_key g gs hk).trans (if_neg hv))

mutual

lemma foldlM_clause {ts : List Token} {c : Clause} (h : IsClause ts c) (g : Group)
    (gs : List Group) :
    ts.foldlM step ⟨.conjunct, g, gs⟩ =
      orFault ⟨.conjunctEnd, g.add c.tree, gs⟩ (c.fault? gs.length) := by
  cases h with
  | @group c keyword colon opening closing ts cs hk hc ho h he =>
    rw [Clause.fault?_group]
    -- a group that is too deep is told at its keyword, before anything in it
    by_cases hd : gs.length + 1 ≤ maxDepth
    · have hall := foldlM_clauses h ⟨c, keyword.position, []⟩ (g :: gs)
      rw [if_pos hd, List.cons_append, List.cons_append, List.cons_append,
        Outcome.foldlM_cons_of_ok ((step_keyword g gs hk).trans (if_pos hd)),
        Outcome.foldlM_cons_of_ok (step_groupColon g gs hc),
        Outcome.foldlM_cons_of_ok (step_groupBracket g gs ho)]
      rw [List.length_cons] at hall
      cases hf : faultAll? (gs.length + 1) cs with
      | some e =>
        rw [hf] at hall
        exact Outcome.foldlM_append_of_error hall
      | none =>
        rw [hf] at hall
        rw [Outcome.foldlM_append_of_ok hall, Outcome.foldlM_singleton, step_closeGroup g gs he]
        simp [orFault, Group.tree, Group.addAll, Clause.tree]
    · rw [if_neg hd]
      exact Outcome.foldlM_cons_of_error ((step_keyword g gs hk).trans (if_neg hd))
  | @comparison key op? operand hs ts hh h =>
    rw [Clause.fault?_comparison]
    by_cases hv : isValidKey key.name = true
    · rw [if_pos hv, Outcome.foldlM_append_of_ok ((foldlM_head g gs hh).trans (if_pos hv)),
        foldlM_operand g gs h]
      rfl
    · rw [if_neg hv]
      exact Outcome.foldlM_append_of_error ((foldlM_head g gs hh).trans (if_neg hv))

lemma foldlM_clauses {ts : List Token} {cs : List Clause} (h : IsClauses ts cs) (g : Group)
    (gs : List Group) :
    ts.foldlM step ⟨.conjunct, g, gs⟩ =
      orFault ⟨.conjunctEnd, g.addAll (trees cs), gs⟩ (faultAll? gs.length cs) := by
  cases h with
  | @single ts c h =>
    rw [foldlM_clause h, Clause.faultAll?_cons]
    cases c.fault? gs.length <;> rfl
  | @cons ts us comma c cs h hc hs =>
    have hone := foldlM_clause h g gs
    rw [Clause.faultAll?_cons]
    cases hf : c.fault? gs.length with
    | some e =>
      rw [hf] at hone
      exact Outcome.foldlM_append_of_error hone
    | none =>
      rw [hf] at hone
      rw [Outcome.foldlM_append_of_ok hone, Outcome.foldlM_cons_of_ok (step_comma _ gs hc),
        foldlM_clauses hs, Option.none_or]
      simp [Group.addAll, Group.add, trees]

end

end State

lemma ofTokens_clauses {ts : List Token} {cs : List Clause} (h : IsClauses ts cs) :
    ofTokens ts =
      match faultAll? 0 cs with
      | some e => .error e
      | none => .ok (filterTree cs) := by
  have hs : ts.foldlM State.step State.initial = _ := State.foldlM_clauses h ⟨.and, .start, []⟩ []
  have hne : ts.isEmpty = false := by simpa using h.ne_nil
  rw [ofTokens, hne, hs, List.length_nil]
  cases faultAll? 0 cs with
  | some e => rfl
  | none =>
    simp [State.orFault, Except.bind, State.finish, Group.addAll, Group.tree, filterTree]

inductive ItemsBefore : List Token → List Literal → Prop
  | nil : ItemsBefore [] []
  | comma {ts : List Token} {comma : Token} {ls : List Literal} (h : IsItems ts ls)
      (hc : comma.kind = .comma) : ItemsBefore (ts ++ [comma]) ls

lemma ItemsBefore.add {ts : List Token} {t : Token} {ls : List Literal} {l : Literal}
    (h : ItemsBefore ts ls) (ht : IsLiteral t l) : IsItems (ts ++ [t]) (ls ++ [l]) := by
  cases h with
  | nil => exact .single ht
  | comma h hc => exact h.snoc hc ht

inductive ClausesBefore : List Token → List Clause → Prop
  | nil : ClausesBefore [] []
  | comma {ts : List Token} {comma : Token} {cs : List Clause} (h : IsClauses ts cs)
      (hc : comma.kind = .comma) : ClausesBefore (ts ++ [comma]) cs

lemma ClausesBefore.add {ts us : List Token} {cs : List Clause} {c : Clause}
    (h : ClausesBefore ts cs) (hc : IsClause us c) : IsClauses (ts ++ us) (cs ++ [c]) := by
  cases h with
  | nil => exact .single hc
  | comma h hcomma => exact h.append hcomma (.single hc)

inductive Begun (depth : Nat) : List Token → Phase → Prop
  | conjunct : Begun depth [] .conjunct
  | groupColon {t : Token} {c : Connective} (ht : t.kind = .connective c) (hd : depth < maxDepth) :
      Begun depth [t] (.groupColon c t.position)
  | groupBracket {t colon : Token} {c : Connective} (ht : t.kind = .connective c)
      (hd : depth < maxDepth) (hc : colon.kind = .colon) :
      Begun depth [t, colon] (.groupBracket c t.position)
  | keyColon {t : Token} (ht : t.kind = .word) (hv : isValidKey t.lexeme = true) :
      Begun depth [t] (.keyColon ⟨t.lexeme, t.position⟩)
  | awaiting {hs : List Token} {key : Key} {op? : Option Comparison} (h : IsHead hs key op?)
      (hv : isValidKey key.name = true) : Begun depth hs (.awaiting key op?)
  | operatorColon {k colon t : Token} {op : Comparison} (hk : k.kind = .word)
      (hv : isValidKey k.lexeme = true) (hc : colon.kind = .colon) (ht : t.kind = .comparison op) :
      Begun depth [k, colon, t] (.operatorColon ⟨k.lexeme, k.position⟩ op)
  | item {hs ts : List Token} {t : Token} {key : Key} {op? : Option Comparison}
      {ls : List Literal} (h : IsHead hs key op?) (hv : isValidKey key.name = true)
      (ht : t.kind = .openBracket) (hl : ItemsBefore ts ls) :
      Begun depth (hs ++ t :: ts) (.item key op? ls.reverse)
  | itemEnd {hs ts : List Token} {t : Token} {key : Key} {op? : Option Comparison}
      {ls : List Literal} (h : IsHead hs key op?) (hv : isValidKey key.name = true)
      (ht : t.kind = .openBracket) (hl : IsItems ts ls) :
      Begun depth (hs ++ t :: ts) (.itemEnd key op? ls.reverse)

/-- The tokens before the clause that is being read: those of the groups that are open, with the
clauses in each. -/
inductive Opened : List Token → Group → List Group → Prop
  | filter {ts : List Token} {cs : List Clause} (h : ClausesBefore ts cs)
      (hf : faultAll? 0 cs = none) : Opened ts ⟨.and, .start, (trees cs).reverse⟩ []
  | group {ts us : List Token} {t colon opening : Token} {c : Connective} {g : Group}
      {gs : List Group} {cs : List Clause} (h : Opened ts g gs) (ht : t.kind = .connective c)
      (hd : gs.length < maxDepth) (hc : colon.kind = .colon) (ho : opening.kind = .openBracket)
      (hcs : ClausesBefore us cs) (hf : faultAll? (gs.length + 1) cs = none) :
      Opened (ts ++ t :: colon :: opening :: us) ⟨c, t.position, (trees cs).reverse⟩ (g :: gs)

inductive Reached : List Token → State → Prop
  | within {ts us : List Token} {g : Group} {gs : List Group} {phase : Phase}
      (h : Opened ts g gs) (hb : Begun gs.length us phase) : Reached (ts ++ us) ⟨phase, g, gs⟩
  | behind {ts us : List Token} {g : Group} {gs : List Group} {c : Clause} (h : Opened ts g gs)
      (hc : IsClause us c) (hf : c.fault? gs.length = none) :
      Reached (ts ++ us) ⟨.conjunctEnd, g.add c.tree, gs⟩

section Reached

open State

variable {ts us hs : List Token} {t : Token} {s s' : State} {g : Group} {gs : List Group}
  {key : Key} {op? : Option Comparison}

lemma Opened.within {phase : Phase} (h : Opened ts g gs) (hb : Begun gs.length (us ++ [t]) phase) :
    Reached (ts ++ us ++ [t]) ⟨phase, g, gs⟩ := by
  rw [List.append_assoc]
  exact .within h hb

lemma orFault_eq_ok {e? : Option ParseError} (h : s.orFault e? = .ok s') : e? = none ∧ s = s' := by
  cases e? with
  | some e => cases h
  | none =>
    cases h
    exact ⟨rfl, rfl⟩

lemma reached_comparison {operand : Literal} {phase : Phase} (h : Opened ts g gs)
    (hh : IsHead hs key op?) (hv : isValidKey key.name = true) (ho : IsOperand us operand)
    (hs' : addComparison ⟨phase, g, gs⟩ key op? operand = .ok s') : Reached (ts ++ (hs ++ us)) s' := by
  rw [addComparison_eq] at hs'
  obtain ⟨hf, rfl⟩ := orFault_eq_ok hs'
  refine .behind h (.comparison hh ho) ?_
  rw [Clause.fault?_comparison, if_pos hv, hf]

lemma reached_readOperand {phase : Phase} (h : Opened ts g gs) (hh : IsHead hs key op?)
    (hv : isValidKey key.name = true) (hs' : readOperand ⟨phase, g, gs⟩ key op? t = .ok s') :
    Reached (ts ++ hs ++ [t]) s' := by
  rw [readOperand] at hs'
  split at hs'
  · next ht =>
    cases hs'
    exact h.within (.item hh hv ht .nil)
  · split at hs'
    · next l hl =>
      rw [List.append_assoc]
      exact reached_comparison h hh hv (.literal (isLiteral_iff.mpr hl)) hs'
    · cases hs'

lemma reached_startConjunct (h : Opened ts g gs)
    (hs' : startConjunct ⟨.conjunct, g, gs⟩ t = .ok s') : Reached (ts ++ [t]) s' := by
  simp only [startConjunct] at hs'
  split at hs'
  · next c hc =>
    split at hs'
    · next hd =>
      cases hs'
      exact .within h (.groupColon hc hd)
    · cases hs'
  · next hk =>
    split at hs'
    · next hv =>
      cases hs'
      exact .within h (.keyColon hk hv)
    · cases hs'
  · cases hs'

lemma reached_begun {phase : Phase} (h : Opened ts g gs) (hb : Begun gs.length us phase)
    (hs' : step ⟨phase, g, gs⟩ t = .ok s') : Reached (ts ++ us ++ [t]) s' := by
  cases hb with
  | conjunct =>
    rw [List.append_nil]
    exact reached_startConjunct h hs'
  | groupColon hc hd =>
    simp only [step] at hs'
    split at hs'
    · next ht =>
      cases hs'
      exact h.within (.groupBracket hc hd ht)
    · cases hs'
  | groupBracket hc hd hcolon =>
    simp only [step] at hs'
    split at hs'
    · next ht =>
      cases hs'
      have hn : Opened (ts ++ [_, _, t]) ⟨_, _, []⟩ (g :: gs) := .group h hc hd hcolon ht .nil rfl
      simpa using Reached.within hn .conjunct
    · cases hs'
  | keyColon hk hv =>
    simp only [step] at hs'
    split at hs'
    · next ht =>
      cases hs'
      exact h.within (.awaiting (.plain hk ht) hv)
    · cases hs'
  | @awaiting _ _ op? hh hv =>
    cases op? with
    | some c => exact reached_readOperand h hh hv hs'
    | none =>
      simp only [Phase.awaiting, step] at hs'
      split at hs'
      · next c hc =>
        cases hs'
        cases hh with
        | plain hk hcolon => exact h.within (.operatorColon hk hv hcolon hc)
      · exact reached_readOperand h hh hv hs'
  | operatorColon hk hv hcolon hop =>
    simp only [step] at hs'
    split at hs'
    · next ht =>
      cases hs'
      exact h.within (.awaiting (.tested hk hcolon hop ht) hv)
    · cases hs'
  | item hh hv ht hl =>
    simp only [step, readItem] at hs'
    split at hs'
    · next l hlit =>
      cases hs'
      have hi := hl.add (isLiteral_iff.mpr hlit)
      have hb : Begun gs.length _ (.itemEnd _ _ _) := .itemEnd hh hv ht hi
      rw [List.reverse_append] at hb
      exact h.within (by simpa using hb)
    · cases hs'
  | @itemEnd hs us u key op? ls hh hv ht hl =>
    simp only [step] at hs'
    split at hs'
    · next hc =>
      cases hs'
      have hb : Begun gs.length _ (.item _ _ _) := .item hh hv ht (.comma hl hc)
      exact h.within (by simpa using hb)
    · next hc =>
      rw [List.reverse_reverse] at hs'
      simpa using reached_comparison h hh hv (.list ht hl hc) hs'
    · cases hs'

lemma Opened.comma {c : Clause} (h : Opened ts g gs) (hc : IsClause us c)
    (hf : c.fault? gs.length = none) (ht : t.kind = .comma) :
    Opened (ts ++ us ++ [t]) (g.add c.tree) gs := by
  cases h with
  | filter h hcs =>
    simpa [Group.add, Clause.trees_append, trees] using
      Opened.filter (.comma (h.add hc) ht) (Clause.faultAll?_concat hcs hf)
  | group h hk hd hcolon ho hcs hall =>
    simpa [Group.add, Clause.trees_append, trees] using
      Opened.group h hk hd hcolon ho (.comma (hcs.add hc) ht) (Clause.faultAll?_concat hall hf)

lemma Opened.closeGroup {c : Clause} {g' : Group} (h : Opened ts g' (g :: gs)) (hc : IsClause us c)
    (hf : c.fault? (g :: gs).length = none) (ht : t.kind = .closeBracket) :
    Reached (ts ++ us ++ [t]) ⟨.conjunctEnd, g.add (g'.add c.tree).tree, gs⟩ := by
  cases h with
  | @group ts vs k colon opening d _ _ cs h hk hd hcolon ho hcs hall =>
    have hgroup : IsClause _ _ := .group hk hcolon ho (hcs.add hc) ht
    have hfault : (Clause.group d k.position (cs ++ [c])).fault? gs.length = none := by
      rw [Clause.fault?_group, if_pos (Nat.succ_le_of_lt hd)]
      exact Clause.faultAll?_concat hall hf
    simpa [Group.add, Group.tree, Clause.tree, Clause.trees_append, trees] using
      Reached.behind h hgroup hfault

lemma reached_step (h : Reached ts s) (hs' : s.step t = .ok s') : Reached (ts ++ [t]) s' := by
  cases h with
  | within h hb => exact reached_begun h hb hs'
  | behind h hc hf =>
    simp only [step, endConjunct] at hs'
    split at hs'
    · next ht =>
      cases hs'
      simpa using Reached.within (h.comma hc hf ht) .conjunct
    · next ht =>
      cases hs'
      exact h.closeGroup hc hf ht
    · cases hs'

lemma reached_of_foldlM (h : ts.foldlM step initial = .ok s) : Reached ts s := by
  have hinit : Reached [] initial := .within (.filter .nil rfl) .conjunct
  exact Outcome.foldlM_reads (fun _ _ _ _ => reached_step) hinit h

lemma reached_finish {tree : Tree} (h : Reached ts s) (hs : s.finish = .ok tree) :
    ∃ cs, IsClauses ts cs ∧ faultAll? 0 cs = none ∧ tree = filterTree cs := by
  cases h with
  | within h hb =>
    cases hb with
    | @awaiting _ _ op? hh hv => cases op? <;> cases hs
    | _ => cases hs
  | behind h hc hf =>
    cases h with
    | group => cases hs
    | filter h hcs =>
      cases hs
      refine ⟨_, h.add hc, Clause.faultAll?_concat hcs hf, ?_⟩
      simp [Group.add, Group.tree, filterTree, Clause.trees_append, trees]

end Reached

lemma exists_clauses_of_ofTokens {ts : List Token} {tree : Tree} (h : ofTokens ts = .ok tree) :
    ∃ cs, IsClauses ts cs ∧ faultAll? 0 cs = none ∧ tree = filterTree cs := by
  rw [ofTokens] at h
  split at h
  · cases h
  · obtain ⟨s, hs, hf⟩ := Outcome.bind_eq_ok h
    exact reached_finish (reached_of_foldlM hs) hf

theorem ofTokens_grammar (ts : List Token) :
    (∀ tree, ofTokens ts = .ok tree ↔
      ∃ cs, IsClauses ts cs ∧ (∀ x ∈ Clause.constructsAll 0 cs, x.fault? = none) ∧
        tree = filterTree cs) ∧
    (∀ cs l x r e, IsClauses ts cs → Clause.constructsAll 0 cs = l ++ x :: r →
      (∀ y ∈ l, y.fault? = none) → x.fault? = some e → ofTokens ts = .error e) ∧
    ∀ cs ds, IsClauses ts cs → IsClauses ts ds → cs = ds := by
  refine ⟨fun tree => ⟨fun h => ?_, ?_⟩, ?_, ?_⟩
  · obtain ⟨cs, hcs, hf, rfl⟩ := exists_clauses_of_ofTokens h
    exact ⟨cs, hcs, List.findSome?_eq_none_iff.mp hf, rfl⟩
  · rintro ⟨cs, hcs, hf, rfl⟩
    have hn : faultAll? 0 cs = none := List.findSome?_eq_none_iff.mpr hf
    rw [ofTokens_clauses hcs, hn]
  · intro cs l x r e hcs hx hl he
    have hs : faultAll? 0 cs = some e := List.findSome?_eq_some_iff.mpr ⟨l, x, r, hx, he, hl⟩
    rw [ofTokens_clauses hcs, hs]
  · intro cs ds hcs hds
    exact (@IsClauses.unique ts ts [] [] cs ds hcs hds nofun nofun rfl).2

theorem ofTokens_grammar_list_of_numbers :
    let t (kind : Kind) (lexeme : String) (column : Nat) : Token := ⟨kind, lexeme, ⟨1, column⟩⟩
    let name : Key := ⟨"name", ⟨1, 5⟩⟩
    let age : Key := ⟨"age", ⟨1, 23⟩⟩
    let ts : List Token := [t (.connective .or) "or" 1, t .colon ":" 3, t .openBracket "[" 4,
      t .word "name" 5, t .colon ":" 9, t (.comparison .like) "like" 10, t .colon ":" 14,
      t .openBracket "[" 15, t .string "J%" 16, t .closeBracket "]" 20, t .closeBracket "]" 21,
      t .comma "," 22, t .word "age" 23, t .colon ":" 26, t (.comparison .gt) "GT" 27,
      t .colon ":" 29, t .openBracket "[" 30, t .integer "7" 31, t .closeBracket "]" 32]
    let cs : List Clause := [.group .or ⟨1, 1⟩ [.comparison name (some .like)
      (.list [.scalar (.string "J%")])], .comparison age (some .gt) (.list [.scalar (.integer 7)])]
    IsClauses ts cs ∧ (∀ ds, IsClauses ts ds → cs = ds) ∧
      ofTokens ts = .error (.listNotAllowed (some .gt) ⟨1, 23⟩) := by
  intro t name age ts cs
  have hname : IsHead [t .word "name" 5, t .colon ":" 9, t (.comparison .like) "like" 10,
      t .colon ":" 14] name (some .like) := .tested rfl rfl rfl rfl
  have hage : IsHead [t .word "age" 23, t .colon ":" 26, t (.comparison .gt) "GT" 27,
      t .colon ":" 29] age (some .gt) := .tested rfl rfl rfl rfl
  have hpattern : IsItems [t .string "J%" 16] [.scalar (.string "J%")] := .single (.string rfl)
  have hnumber : IsItems [t .integer "7" 31] [.scalar (.integer 7)] :=
    .single (.integer rfl (by decide))
  have hpatterns : IsOperand [t .openBracket "[" 15, t .string "J%" 16, t .closeBracket "]" 20] _ :=
    .list rfl hpattern rfl
  have hnumbers : IsOperand [t .openBracket "[" 30, t .integer "7" 31, t .closeBracket "]" 32] _ :=
    .list rfl hnumber rfl
  have hgroup : IsClause (ts.take 11) (.group .or ⟨1, 1⟩ _) :=
    .group rfl rfl rfl (.single (.comparison hname hpatterns)) rfl
  have hcs : IsClauses ts cs := .cons hgroup rfl (.single (.comparison hage hnumbers))
  have hl : ∀ y ∈ [Construct.group 1 ⟨1, 1⟩, .key name, .comparison name (some .like)
      (.list [.scalar (.string "J%")]), .key age], y.fault? = none := by
    intro y hy
    simp only [List.mem_cons, List.not_mem_nil, or_false] at hy
    rcases hy with rfl | rfl | rfl | rfl
    exacts [rfl, if_pos (by decide), rfl, if_pos (by decide)]
  have h := ofTokens_grammar ts
  exact ⟨hcs, fun ds => h.2.2 cs ds hcs, h.2.1 cs _ _ [] _ hcs rfl hl rfl⟩

end Tree

end RowFilter.Filter
