import RowFilter.Proofs.Config.Parsing

namespace RowFilter.Config.Tree

open State

section Refusal

variable {ts : List Token} {t : Token} {s : State} {e : ParseError}

inductive State.Refuses (s : State) (t : Token) : ParseError → Prop
  | unexpected : Refuses s t (.unexpectedToken s.expected t)
  | integer (hk : t.kind = .integer) (hn : Number.int64? t.lexeme.toList = none) :
      Refuses s t (.unexpectedToken .integerInRange t)
  | header (hk : t.kind = .header) (hh : isHeader t.lexeme ≠ true) :
      Refuses s t (.invalidHeader t.lexeme t.position)
  | outside (hb : s.block? = none) (hk : t.kind = .identifier) :
      Refuses s t (.propertyOutsideBlock t.lexeme t.position)

lemma refuses_of_readStatement (h : s.readStatement t = .error e) : s.Refuses t e := by
  simp only [readStatement] at h
  split at h
  · next hk =>
    split at h
    · cases h
    · next hh =>
      cases h
      exact .header hk hh
  · next hk hb =>
    cases h
    exact .outside hb hk
  · cases h
  · cases h
    exact .unexpected

lemma refuses_of_readValue {key : Key} {arrays : List OpenArray}
    (h : s.readValue key arrays t = .error e) : s.Refuses t e := by
  simp only [readValue] at h
  split at h
  · cases h
  · cases h
  · cases h
  · cases h
  · next hk =>
    split at h
    · cases h
    · next hn =>
      cases h
      exact .integer hk hn
  · cases h
    exact .unexpected

lemma refuses_of_step (h : s.step t = .error e) : s.Refuses t e := by
  obtain ⟨phase, b?, bs⟩ := s
  cases phase with
  | statement => exact refuses_of_readStatement h
  | assign key =>
    simp only [step] at h
    split at h
    · cases h
    · cases h
      exact .unexpected
  | value key arrays => exact refuses_of_readValue h
  | itemEnd key a arrays =>
    simp only [step] at h
    split at h
    · cases h
    · cases h
    · cases h
      exact .unexpected

inductive Stops (ts : List Token) : ParseError → Prop
  | token {l r : List Token} {t : Token} {s : State} {e : ParseError} (h : ts = l ++ t :: r)
      (hs : l.foldlM step initial = .ok s) (he : s.step t = .error e) : Stops ts e
  | finish {s : State} (hs : ts.foldlM step initial = .ok s) : Stops ts (.unexpectedEnd s.expected)

lemma stops_of_ofTokens (h : ofTokens ts = .error e) : Stops ts e := by
  rcases Outcome.foldlM_bind_eq_error h with ⟨l, t, r, s, rfl, hl, ht⟩ | ⟨s, hs, hf⟩
  · exact .token rfl hl ht
  · rw [finish] at hf
    split at hf
    · cases hf
    · cases hf
      exact .finish hs

end Refusal

end RowFilter.Config.Tree
