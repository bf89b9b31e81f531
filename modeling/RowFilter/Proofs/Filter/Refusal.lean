import RowFilter.Proofs.Filter.Parsing

namespace RowFilter.Filter

def ParseError.expected? : ParseError → Option Expected
  | unexpectedToken x _ => some x
  | unexpectedEnd x => some x
  | _ => none

lemma Construct.of_fault? {x : Construct} {e : ParseError} (h : x.fault? = some e) :
    e.expected? = none ∧ e ≠ .emptyFilter := by
  cases x with
  | group depth p =>
    simp only [fault?] at h
    split at h <;> cases h
    exact ⟨rfl, ParseError.noConfusion⟩
  | key k =>
    simp only [fault?] at h
    split at h <;> cases h
    exact ⟨rfl, ParseError.noConfusion⟩
  | comparison k op? operand =>
    simp only [fault?] at h
    split_ifs at h <;> cases h <;> exact ⟨rfl, ParseError.noConfusion⟩

structure Token.Parses (t : Token) : Prop where
  integer : t.kind = .integer → ∃ n, Number.int64? t.lexeme.toList = some n
  decimal : t.kind = .decimal → ∃ d, Decimal.ofText? t.lexeme.toList = some d

lemma Token.Parses.eq_value {t : Token} {x : Expected} (ht : t.Parses)
    (h : Literal.ofToken t = .error x) : x = .value := by
  simp only [Literal.ofToken] at h
  split at h
  · cases h
  · cases h
  · next hk =>
    obtain ⟨n, hn⟩ := ht.integer hk
    rw [hn] at h
    cases h
  · next hk =>
    obtain ⟨d, hd⟩ := ht.decimal hk
    rw [hd] at h
    cases h
  · cases h
  · cases h
  · cases h
    rfl

namespace Tree

namespace State

variable {s : State} {t : Token} {e : ParseError}

lemma expected_ne (s : State) : s.expected ≠ .integer ∧ s.expected ≠ .decimal := by
  obtain ⟨phase, group, outer⟩ := s
  cases phase <;> cases outer <;> exact ⟨nofun, nofun⟩

inductive Refuses (s : State) (t : Token) : ParseError → Prop
  | unexpected : Refuses s t (.unexpectedToken s.expected t)
  | value {x : Expected} (h : Literal.ofToken t = .error x) : Refuses s t (.unexpectedToken x t)
  | construct {x : Construct} {e : ParseError} (h : x.fault? = some e) : Refuses s t e

lemma refuses_of_addComparison {key : Key} {op? : Option Comparison} {operand : Literal}
    (h : s.addComparison key op? operand = .error e) : s.Refuses t e := by
  rw [addComparison_eq] at h
  cases hf : (Construct.comparison key op? operand).fault? with
  | none =>
    rw [hf] at h
    cases h
  | some f =>
    rw [hf] at h
    cases h
    exact .construct hf

lemma refuses_of_readOperand {key : Key} {op? : Option Comparison}
    (h : s.readOperand key op? t = .error e) : s.Refuses t e := by
  simp only [readOperand] at h
  split at h
  · cases h
  · split at h
    · exact refuses_of_addComparison h
    · next x hx =>
      cases h
      exact .value hx

lemma refuses_of_startConjunct (h : s.startConjunct t = .error e) : s.Refuses t e := by
  simp only [startConjunct] at h
  split at h
  · split at h
    · cases h
    · next hd =>
      cases h
      exact .construct (x := .group (s.outer.length + 1) t.position) (if_neg (by omega))
  · split at h
    · cases h
    · next hv =>
      cases h
      exact .construct (x := .key ⟨t.lexeme, t.position⟩) (if_neg hv)
  · cases h
    exact .unexpected

lemma refuses_of_step (h : s.step t = .error e) : s.Refuses t e := by
  obtain ⟨phase, group, outer⟩ := s
  cases phase with
  | conjunct => exact refuses_of_startConjunct h
  | operand key op => exact refuses_of_readOperand h
  | operatorOrOperand key =>
    simp only [step] at h
    split at h
    · cases h
    · exact refuses_of_readOperand h
  | item key op? items =>
    simp only [step, readItem] at h
    split at h
    · cases h
    · next x hx =>
      cases h
      exact .value hx
  | itemEnd key op? items =>
    simp only [step] at h
    split at h
    · cases h
    · exact refuses_of_addComparison h
    · cases h
      exact .unexpected
  | conjunctEnd =>
    simp only [step, endConjunct] at h
    split at h
    · cases h
    · cases h
    · cases h
      exact .unexpected
  | _ =>
    simp only [step] at h
    split at h
    · cases h
    · cases h
      exact .unexpected

end State

inductive Stops (ts : List Token) : ParseError → Prop
  | empty (h : ts = []) : Stops ts .emptyFilter
  | token {l r : List Token} {t : Token} {s : State} {e : ParseError} (h : ts = l ++ t :: r)
      (hs : l.foldlM State.step State.initial = .ok s) (he : s.step t = .error e) : Stops ts e
  | finish {s : State} (hne : ts ≠ []) (hs : ts.foldlM State.step State.initial = .ok s)
      (he : s.finish = .error (.unexpectedEnd s.expected)) : Stops ts (.unexpectedEnd s.expected)

lemma stops_of_ofTokens {ts : List Token} {e : ParseError} (h : ofTokens ts = .error e) :
    Stops ts e := by
  rw [ofTokens] at h
  split at h
  · next hts =>
    cases h
    exact .empty (List.isEmpty_iff.mp hts)
  · next hts =>
    rcases Outcome.foldlM_bind_eq_error h with ⟨l, t, r, s, rfl, hl, ht⟩ | ⟨s, hs, hf⟩
    · exact .token rfl hl ht
    · have hu := hf
      rw [State.finish] at hu
      split at hu
      · cases hu
      · cases hu
        exact .finish (by simpa using hts) hs hf

end Tree

end RowFilter.Filter
