import RowFilter.Proofs.Config.Sentence

/-! What has been read before the first wrong token can be completed to a sentence. -/

namespace RowFilter.Config

def Token.bare (k : Kind) : Token := ⟨k, "", .start⟩

inductive ParseError.IsOfText : ParseError → Prop
  | header (header : String) (p : Position) : IsOfText (.invalidHeader header p)
  | integer (t : Token) : IsOfText (.unexpectedToken .integerInRange t)

namespace Tree

open State
open Token (bare)

section Completion

variable {ts us : List Token} {arrays : List OpenArray} {phase : Phase} {s : State} {v : Tree}

lemma Opened.exists_isValue (h : Opened ts arrays) (hv : IsValue us v) :
    ∃ vs w, IsValue (ts ++ us ++ vs) w := by
  induction h generalizing us v with
  | nil => exact ⟨[], v, by simpa using hv⟩
  | array h ho hi ih =>
    have hclose : (bare .closeBracket).kind = .closeBracket := rfl
    have harray := IsValue.array ho (hi.append (.last hv)) hclose
    obtain ⟨vs, w, hw⟩ := ih harray
    exact ⟨bare .closeBracket :: vs, w, by simpa using hw⟩

lemma isValue_string : IsValue [bare .string] (leaf .string (.string "") .start) :=
  .string (t := bare .string) rfl

lemma Begun.exists_assignment (h : Begun us phase) :
    ∃ vs key assign ws v, us ++ vs = key :: assign :: ws ∧ key.kind = .identifier ∧
      assign.kind = .assign ∧ IsValue ws v := by
  cases h with
  | @assign key hk =>
    exact ⟨[bare .assign, bare .string], key, bare .assign, _, _, rfl, hk, rfl, isValue_string⟩
  | @value key assign ts arrays hk ha h =>
    obtain ⟨vs, v, hv⟩ := h.exists_isValue isValue_string
    exact ⟨bare .string :: vs, key, assign, _, v, by simp, hk, ha, hv⟩
  | @itemEnd key assign ts us a arrays w hk ha h hw =>
    obtain ⟨vs, v, hv⟩ := h.exists_isValue hw
    exact ⟨vs, key, assign, _, v, by simp, hk, ha, hv⟩

lemma Reached.exists_sentence (h : Reached ts s) : ∃ us, Sentence.File (ts ++ us) := by
  cases h with
  | start h => exact ⟨[], by simpa using h.blocks.1.sentence.1⟩
  | within h hb =>
    obtain ⟨vs, key, assign, ws, v, heq, hk, ha, hv⟩ := hb.exists_assignment
    refine ⟨vs, ?_⟩
    rw [List.append_assoc, heq]
    exact (h.assignment hk ha hv).blocks.1.sentence.1

lemma exists_sentence (h : ts.foldlM step initial = .ok s) : ∃ us, Sentence.File (ts ++ us) :=
  (reached_of_foldlM h).exists_sentence

end Completion

def Passes (P : State → Prop) : Except ParseError State → Prop
  | .ok s => P s
  | .error e => e.IsOfText

section Passes

variable {P Q : State → Prop} {ts us : List Token} {s s' : State} {t : Token} {key : Key}
  (b? : Option OpenBlock) (bs : List Tree)

lemma Passes.append (h : Passes P (ts.foldlM step s))
    (hq : ∀ s', P s' → Passes Q (us.foldlM step s')) : Passes Q ((ts ++ us).foldlM step s) := by
  cases hs : ts.foldlM step s with
  | ok s' =>
    rw [hs] at h
    rw [Outcome.foldlM_append_of_ok hs]
    exact hq s' h
  | error e =>
    rw [hs] at h
    rw [Outcome.foldlM_append_of_error hs]
    exact h

lemma passes_singleton (h : step s t = .ok s') (hp : P s') : Passes P ([t].foldlM step s) := by
  rw [Outcome.foldlM_singleton, h]
  exact hp

lemma passes_cons (h : step s t = .ok s') (hp : Passes P (ts.foldlM step s')) :
    Passes P ((t :: ts).foldlM step s) := by
  rwa [Outcome.foldlM_cons_of_ok h]

lemma passes_integer (arrays : List OpenArray) (ht : t.kind = .integer) :
    Passes (fun s => ∃ v, s = addValue ⟨.statement, b?, bs⟩ key v arrays)
      ([t].foldlM step ⟨.value key arrays, b?, bs⟩) := by
  cases hn : Number.int64? t.lexeme.toList with
  | some n => exact passes_singleton (step_integer arrays b? bs ht hn) ⟨_, rfl⟩
  | none =>
    have he : step ⟨.value key arrays, b?, bs⟩ t = .error (.unexpectedToken .integerInRange t) := by
      simp only [step, readValue, ht, hn]
    rw [Outcome.foldlM_singleton, he]
    exact .integer t

mutual

lemma passes_value : ∀ {ts : List Token}, Sentence.Value ts → ∀ arrays : List OpenArray,
    Passes (fun s => ∃ v, s = addValue ⟨.statement, b?, bs⟩ key v arrays)
      (ts.foldlM step ⟨.value key arrays, b?, bs⟩)
  | _, .string h, arrays => passes_singleton (step_string arrays b? bs h) ⟨_, rfl⟩
  | _, .boolean h, arrays => passes_singleton (step_boolean arrays b? bs h) ⟨_, rfl⟩
  | _, .integer h, arrays => passes_integer b? bs arrays h
  | _, .array ho h hc, arrays =>
    passes_cons (step_openArray arrays b? bs ho) (passes_items h hc ⟨_, []⟩ arrays)

lemma passes_items : ∀ {ts : List Token}, Sentence.Items ts → ∀ {closing : Token},
    closing.kind = .closeBracket → ∀ (a : OpenArray) (arrays : List OpenArray),
    Passes (fun s => ∃ v, s = addValue ⟨.statement, b?, bs⟩ key v arrays)
      ((ts ++ [closing]).foldlM step ⟨.value key (a :: arrays), b?, bs⟩)
  | _, .nil, _, hc, a, arrays => passes_singleton (step_closeArray arrays b? bs a hc) ⟨_, rfl⟩
  | _, .last h, _, hc, a, arrays => by
    refine (passes_value h (a :: arrays)).append ?_
    rintro _ ⟨v, rfl⟩
    exact passes_singleton (step_closeItems arrays b? bs _ hc) ⟨_, rfl⟩
  | _, .cons h hcomma hs, _, hc, a, arrays => by
    rw [List.append_assoc]
    refine (passes_value h (a :: arrays)).append ?_
    rintro _ ⟨v, rfl⟩
    exact passes_cons (step_comma arrays b? bs _ hcomma) (passes_items hs hc _ arrays)

end

lemma passes_assignments (h : Sentence.Assignments ts) (b : OpenBlock) :
    Passes (fun s => ∃ b, s = ⟨.statement, some b, bs⟩)
      (ts.foldlM step ⟨.statement, some b, bs⟩) := by
  induction h generalizing b with
  | nil => exact ⟨b, rfl⟩
  | cons hk ha h hs ih =>
    refine passes_cons (step_key b bs hk) (passes_cons (step_assign (some b) bs ha) ?_)
    refine (passes_value (some b) bs h []).append ?_
    rintro _ ⟨v, rfl⟩
    exact ih _

lemma passes_file (h : Sentence.File ts) :
    Passes (fun s => s.phase = .statement) (ts.foldlM step ⟨.statement, b?, bs⟩) := by
  induction h generalizing b? bs with
  | nil => exact rfl
  | @cons header ts us hk h hs ih =>
    by_cases hh : isHeader header.lexeme = true
    · refine passes_cons (step_header b? bs hk hh) ((passes_assignments _ h _).append ?_)
      rintro _ ⟨b, rfl⟩
      exact ih (some b) _
    · have he : step ⟨.statement, b?, bs⟩ header =
          .error (.invalidHeader header.lexeme header.position) := by
        simp only [step, readStatement, hk, if_neg hh]
      rw [Outcome.foldlM_cons_of_error he]
      exact .header _ _

lemma isOfText_of_sentence {e : ParseError} (h : Sentence.File ts) (he : ofTokens ts = .error e) :
    e.IsOfText := by
  have hp := passes_file none [] h
  rw [ofTokens, initial] at he
  cases hs : ts.foldlM step ⟨.statement, none, []⟩ with
  | ok s =>
    rw [hs] at hp he
    have hphase : s.phase = .statement := hp
    simp only [Except.bind, finish, hphase] at he
    cases he
  | error e' =>
    rw [hs] at hp he
    cases he
    exact hp

end Passes

lemma ofTokens_of_refused {l : List Token} {t : Token} {s : State} {e : ParseError}
    (hs : l.foldlM step initial = .ok s) (he : s.step t = .error e) (r : List Token) :
    ofTokens (l ++ t :: r) = .error e := by
  rw [ofTokens, Outcome.foldlM_append_cons_of_error hs he]
  rfl

lemma not_isOfText_unexpected (s : State) (t : Token) :
    ¬ (ParseError.unexpectedToken s.expected t).IsOfText := by
  generalize hx : s.expected = x
  rintro ⟨⟩
  obtain ⟨phase, b?, bs⟩ := s
  cases phase <;> cases b? <;> cases hx

theorem ofTokens_unexpected (ts : List Token) (hts : ∀ t ∈ ts, t.IsInRange) :
    (∀ expected found, ofTokens ts = .error (.unexpectedToken expected found) →
      ∃ l r, ts = l ++ found :: r ∧ (∃ us, Sentence.File (l ++ us)) ∧
        ∀ us, ¬ Sentence.File (l ++ found :: us)) ∧
    ∀ expected, ofTokens ts = .error (.unexpectedEnd expected) →
      (∃ us, us ≠ [] ∧ Sentence.File (ts ++ us)) ∧ ¬ Sentence.File ts := by
  refine ⟨fun expected found h => ?_, fun expected h => ?_⟩
  · cases stops_of_ofTokens h with
    | @token l r t s e hl hs he =>
      cases refuses_of_step he with
      | unexpected =>
        refine ⟨l, r, hl, exists_sentence hs, fun us hus => ?_⟩
        exact not_isOfText_unexpected s found (isOfText_of_sentence hus (ofTokens_of_refused hs he us))
      | integer hk hn =>
        obtain ⟨n, hsome⟩ := hts found (by simp [hl]) hk
        rw [hn] at hsome
        cases hsome
  · have hn : ¬ Sentence.File ts := fun hs => nomatch isOfText_of_sentence hs h
    cases stops_of_ofTokens h with
    | token hl hs he => cases refuses_of_step he
    | finish hs =>
      obtain ⟨us, hus⟩ := exists_sentence hs
      refine ⟨⟨us, ?_, hus⟩, hn⟩
      rintro rfl
      exact hn (by simpa using hus)

theorem ofTokens_unexpected_header_in_array :
    let t (kind : Kind) (lexeme : String) (column : Nat) : Token := ⟨kind, lexeme, ⟨1, column⟩⟩
    let l : List Token := [t .header "a" 1, t .identifier "k" 5, t .assign "=" 7,
      t .openBracket "[" 9, t .openBracket "[" 10, t .integer "1" 11, t .comma "," 12]
    let found := t .header "b" 13
    (∀ u ∈ l ++ [found], u.IsInRange) ∧
      ofTokens (l ++ [found]) = .error (.unexpectedToken .value found) ∧
      ofTokens l = .error (.unexpectedEnd .value) ∧
      (∃ l' r, l ++ [found] = l' ++ found :: r ∧ (∃ us, Sentence.File (l' ++ us)) ∧
        ∀ us, ¬ Sentence.File (l' ++ found :: us)) ∧
      (∃ us, us ≠ [] ∧ Sentence.File (l ++ us)) ∧ ¬ Sentence.File l := by
  intro t l found
  have hts : ∀ u ∈ l ++ [found], u.IsInRange := by
    have hone : (t .integer "1" 11).IsInRange := fun _ => ⟨1, by decide⟩
    simp only [l, found, List.cons_append, List.nil_append, List.forall_mem_cons]
    refine ⟨?_, ?_, ?_, ?_, ?_, hone, ?_, ?_, List.forall_mem_nil _⟩ <;> rintro ⟨⟩
  have htoken : ofTokens (l ++ [found]) = .error (.unexpectedToken .value found) := by cbv
  have hend : ofTokens l = .error (.unexpectedEnd .value) := by cbv
  have hl : ∀ u ∈ l, u.IsInRange := fun u hu => hts u (List.mem_append_left _ hu)
  exact ⟨hts, htoken, hend, (ofTokens_unexpected _ hts).1 _ _ htoken, (ofTokens_unexpected _ hl).2 _ hend⟩

end Tree

end RowFilter.Config
