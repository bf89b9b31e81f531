import RowFilter.Proofs.Filter.Sentence

namespace RowFilter.Filter

def Token.bare (k : Kind) : Token := ⟨k, "0", .start⟩

lemma Token.kind_bare (k : Kind) : (bare k).kind = k := rfl

lemma Token.parses_bare (k : Kind) : (bare k).Parses := by
  have hinteger : Number.int64? "0".toList = some 0 := by decide +kernel
  have hdecimal : Decimal.ofText? "0".toList = some ⟨0, 0, by decide, by decide⟩ := by decide +kernel
  exact ⟨fun _ => ⟨_, hinteger⟩, fun _ => ⟨_, hdecimal⟩⟩

namespace Tree

open Clause (faultAll?)
open Token (bare kind_bare parses_bare)

section Completion

variable {ts us : List Token} {g : Group} {gs : List Group} {s : State}

lemma isOperand_word : IsOperand [bare .word] (.scalar (.string "0")) := .literal (.word rfl)

lemma exists_isClause : ∃ us c, IsClause us c := by
  have hh : IsHead [bare .word, bare .colon] ⟨"0", .start⟩ none := .plain rfl rfl
  exact ⟨_, _, .comparison hh isOperand_word⟩

lemma Begun.exists_isClause {depth : Nat} {phase : Phase} (h : Begun depth ts phase) :
    ∃ us c, IsClause (ts ++ us) c := by
  obtain ⟨vs, d, hd⟩ := Tree.exists_isClause
  cases h with
  | conjunct => exact ⟨vs, d, hd⟩
  | groupColon ht _ =>
    exact ⟨bare .colon :: bare .openBracket :: vs ++ [bare .closeBracket], _,
      .group ht rfl rfl (.single hd) rfl⟩
  | groupBracket ht _ hc =>
    exact ⟨bare .openBracket :: vs ++ [bare .closeBracket], _, .group ht hc rfl (.single hd) rfl⟩
  | keyColon ht _ =>
    have hc := IsClause.comparison (.plain ht (kind_bare .colon)) isOperand_word
    exact ⟨[bare .colon, bare .word], _, hc⟩
  | awaiting h _ => exact ⟨[bare .word], _, .comparison h isOperand_word⟩
  | operatorColon hk _ hc ht =>
    have hc := IsClause.comparison (.tested hk hc ht (kind_bare .colon)) isOperand_word
    exact ⟨[bare .colon, bare .word], _, hc⟩
  | item h _ ht hl =>
    have hitems := hl.add (.word (t := bare .word) rfl)
    have hc := IsClause.comparison h (.list ht hitems (kind_bare .closeBracket))
    exact ⟨[bare .word, bare .closeBracket], _, by simpa using hc⟩
  | itemEnd h _ ht hl =>
    have hc := IsClause.comparison h (.list ht hl (kind_bare .closeBracket))
    exact ⟨[bare .closeBracket], _, by simpa using hc⟩

lemma Opened.exists_isClauses {c : Clause} (h : Opened ts g gs) (hc : IsClause us c) :
    ∃ vs cs, IsClauses (ts ++ us ++ vs) cs := by
  induction h generalizing us c with
  | filter h _ =>
    have hall := h.add hc
    exact ⟨[], _, by rwa [List.append_nil]⟩
  | group h ht _ hcolon ho hcs _ ih =>
    have hgroup := IsClause.group ht hcolon ho (hcs.add hc) (kind_bare .closeBracket)
    obtain ⟨vs, cs, h⟩ := ih hgroup
    exact ⟨bare .closeBracket :: vs, cs, by simpa using h⟩

lemma Reached.exists_isClauses (h : Reached ts s) : ∃ us cs, IsClauses (ts ++ us) cs := by
  cases h with
  | within h hb =>
    obtain ⟨vs, c, hc⟩ := hb.exists_isClause
    obtain ⟨ws, cs, h⟩ := h.exists_isClauses hc
    exact ⟨vs ++ ws, cs, by simpa using h⟩
  | behind h hc _ => exact h.exists_isClauses hc

lemma exists_sentence (h : ts.foldlM State.step State.initial = .ok s) :
    ∃ ks, Sentence.Clauses (ts.map Token.kind ++ ks) := by
  obtain ⟨us, cs, hcs⟩ := (reached_of_foldlM h).exists_isClauses
  refine ⟨us.map Token.kind, ?_⟩
  rw [← List.map_append]
  exact hcs.sentence

end Completion

section Exclusion

variable {l r ts : List Token} {t : Token} {s : State} {e : ParseError}

lemma ofTokens_of_refused (hs : l.foldlM State.step State.initial = .ok s)
    (he : s.step t = .error e) (r : List Token) : ofTokens (l ++ t :: r) = .error e := by
  rw [ofTokens, if_neg (by simp), Outcome.foldlM_append_cons_of_error hs he]
  rfl

lemma expected?_of_sentence (hts : ∀ t ∈ ts, t.Parses) (hk : Sentence.Clauses (ts.map Token.kind))
    (h : ofTokens ts = .error e) : e.expected? = none := by
  obtain ⟨cs, hcs⟩ := (sentence_iff hts).mp hk
  rw [ofTokens_clauses hcs] at h
  cases hf : faultAll? 0 cs with
  | none =>
    rw [hf] at h
    cases h
  | some f =>
    rw [hf] at h
    cases h
    obtain ⟨x, -, hx⟩ := List.exists_of_findSome?_eq_some hf
    exact (Construct.of_fault? hx).1

lemma not_sentence_of_refused (hts : ∀ u ∈ l ++ t :: r, u.Parses)
    (hs : l.foldlM State.step State.initial = .ok s) (he : s.step t = .error e)
    (hx : e.expected? ≠ none) (ks : List Kind) :
    ¬ Sentence.Clauses (l.map Token.kind ++ t.kind :: ks) := by
  intro hk
  have hus : (l ++ t :: ks.map bare).map Token.kind = l.map Token.kind ++ t.kind :: ks := by
    simp [Function.comp_def, bare]
  have hparses : ∀ u ∈ l ++ t :: ks.map bare, u.Parses := by
    rw [List.forall_mem_append, List.forall_mem_cons] at hts ⊢
    refine ⟨hts.1, hts.2.1, ?_⟩
    rw [List.forall_mem_map]
    exact fun k _ => parses_bare k
  rw [← hus] at hk
  exact hx (expected?_of_sentence hparses hk (ofTokens_of_refused hs he _))

end Exclusion

theorem ofTokens_earliest_error (ts : List Token) (hts : ∀ t ∈ ts, t.Parses) :
    (∀ expected found, ofTokens ts = .error (.unexpectedToken expected found) →
      ∃ l r, ts = l ++ found :: r ∧ (∃ ks, Sentence.Clauses (l.map Token.kind ++ ks)) ∧
        ∀ ks, ¬ Sentence.Clauses (l.map Token.kind ++ found.kind :: ks)) ∧
    (∀ expected, ofTokens ts = .error (.unexpectedEnd expected) →
      (∃ ks, ks ≠ [] ∧ Sentence.Clauses (ts.map Token.kind ++ ks)) ∧
        ¬ Sentence.Clauses (ts.map Token.kind)) ∧
    (ofTokens ts = .error .emptyFilter ↔ ts = []) := by
  refine ⟨fun expected found h => ?_, fun expected h => ?_, fun h => ?_, ?_⟩
  · cases stops_of_ofTokens h with
    | @token l r t s e hl hs he =>
      subst hl
      have hn := not_sentence_of_refused hts hs he nofun
      cases State.refuses_of_step he with
      | unexpected => exact ⟨l, r, rfl, exists_sentence hs, hn⟩
      | value hx => exact ⟨l, r, rfl, exists_sentence hs, hn⟩
      | construct hx => cases (Construct.of_fault? hx).1
  · have hn : ¬ Sentence.Clauses (ts.map Token.kind) := fun hk => by
      cases expected?_of_sentence hts hk h
    cases stops_of_ofTokens h with
    | token hl hs he =>
      cases State.refuses_of_step he with
      | construct hx => cases (Construct.of_fault? hx).1
    | finish hne hs he =>
      obtain ⟨ks, hks⟩ := exists_sentence hs
      refine ⟨⟨ks, ?_, hks⟩, hn⟩
      rintro rfl
      rw [List.append_nil] at hks
      exact hn hks
  · cases stops_of_ofTokens h with
    | empty h => exact h
    | token hl hs he =>
      cases State.refuses_of_step he with
      | construct hx => cases (Construct.of_fault? hx).2 rfl
  · rintro rfl
    rfl

theorem ofTokens_earliest_error_colon_in_list :
    let t (kind : Kind) (lexeme : String) (column : Nat) : Token := ⟨kind, lexeme, ⟨1, column⟩⟩
    let found := t .colon ":" 8
    let start : List Token := [t .word "age" 1, t .colon ":" 4, t .openBracket "[" 5,
      t .integer "10" 6]
    let ts := start ++ [found, t .closeBracket "]" 9]
    ((∀ t ∈ ts, t.Parses) ∧
      ofTokens ts = .error (.unexpectedToken (.kind .closeBracket) found) ∧
      ∃ l r, ts = l ++ found :: r ∧ (∃ ks, Sentence.Clauses (l.map Token.kind ++ ks)) ∧
        ∀ ks, ¬ Sentence.Clauses (l.map Token.kind ++ found.kind :: ks)) ∧
    (∀ t ∈ start, t.Parses) ∧ ofTokens start = .error (.unexpectedEnd (.kind .closeBracket)) ∧
      (∃ ks, ks ≠ [] ∧ Sentence.Clauses (start.map Token.kind ++ ks)) ∧
      ¬ Sentence.Clauses (start.map Token.kind) := by
  intro t found start ts
  have hten : Number.int64? "10".toList = some 10 := by decide +kernel
  have hstart : ∀ t ∈ start, t.Parses := by
    have hinteger : (t .integer "10" 6).Parses := ⟨fun _ => ⟨10, hten⟩, Kind.noConfusion⟩
    simp only [start, List.forall_mem_cons]
    exact ⟨⟨Kind.noConfusion, Kind.noConfusion⟩, ⟨Kind.noConfusion, Kind.noConfusion⟩,
      ⟨Kind.noConfusion, Kind.noConfusion⟩, hinteger, List.forall_mem_nil _⟩
  have hts : ∀ t ∈ ts, t.Parses := by
    refine List.forall_mem_append.mpr ⟨hstart, ?_⟩
    simp only [List.forall_mem_cons]
    exact ⟨⟨Kind.noConfusion, Kind.noConfusion⟩, ⟨Kind.noConfusion, Kind.noConfusion⟩,
      List.forall_mem_nil _⟩
  have hhead : IsHead [t .word "age" 1, t .colon ":" 4] ⟨"age", ⟨1, 1⟩⟩ none := .plain rfl rfl
  have hread : start.foldlM State.step State.initial =
      .ok ⟨.itemEnd ⟨"age", ⟨1, 1⟩⟩ none [.scalar (.integer 10)], State.initial.group, []⟩ := by
    have hkey := (State.foldlM_head State.initial.group [] hhead).trans (if_pos (by decide))
    refine (Outcome.foldlM_append_of_ok (k := [t .openBracket "[" 5, t .integer "10" 6]) hkey).trans ?_
    rw [Outcome.foldlM_cons_of_ok (State.step_openList _ [] rfl), Outcome.foldlM_singleton,
      State.step_item _ [] (.integer rfl hten)]
  have herror : ofTokens ts = .error (.unexpectedToken (.kind .closeBracket) found) :=
    ofTokens_of_refused hread rfl [t .closeBracket "]" 9]
  have hend : ofTokens start = .error (.unexpectedEnd (.kind .closeBracket)) := by
    rw [ofTokens, hread]
    rfl
  exact ⟨⟨hts, herror, (ofTokens_earliest_error ts hts).1 _ found herror⟩, hstart, hend,
    (ofTokens_earliest_error start hstart).2.1 _ hend⟩

end Tree

end RowFilter.Filter
