import RowFilter.Proofs.Config.Scanning

namespace RowFilter.Config.Token

open Text

inductive IsNext (m : Mode) (p : Position) : Char → List Char → Span → Prop
  | header {cs : List Char} {s : Span} (hm : m.inValue = false) (h : header m p cs = .ok s) :
      IsNext m p '[' cs s
  | mark {c : Char} {kind : Kind} {n : Mode} (h : IsMark m c kind n) (cs : List Char) :
      IsNext m p c cs ⟨⟨kind, c.toString, p⟩, n, p.step c, cs⟩
  | quoted {quote : Char} {cs : List Char} {i : Quoted.Item} (hq : IsQuote quote)
      (h : Quoted.read quote (p.step quote) cs = .ok i) :
      IsNext m p quote cs ⟨⟨.string, String.ofList i.text, p⟩, m.literal, i.position, i.rest⟩
  | integer {c : Char} {cs : List Char} {s : Span}
      (hc : c.isDigit = true ∨ (c = '-' ∧ cs.head?.any Char.isDigit = true))
      (h : integer m p c cs = .ok s) : IsNext m p c cs s
  | word {c : Char} (hc : isIdentifierStart c = true) (cs : List Char) :
      IsNext m p c cs (word m p c cs)

section Next

variable {m : Mode} {p : Position} {c : Char} {cs : List Char} {s : Span}

lemma next_eq_ok_iff : next m p c cs = .ok s ↔ IsNext m p c cs s := by
  constructor
  · intro h
    unfold next at h
    split at h
    · next hc =>
      subst hc
      split at h
      · next hm =>
        cases h
        exact .mark (.openBracket hm) cs
      · next hm => exact .header (Bool.not_eq_true _ ▸ hm) h
    split at h
    · next hc =>
      obtain ⟨rfl, hd⟩ := hc
      cases h
      exact .mark (.closeBracket hd) cs
    split at h
    · next hc =>
      obtain ⟨rfl, hd⟩ := hc
      cases h
      exact .mark (.comma hd) cs
    split at h
    · next hc =>
      subst hc
      cases h
      exact .mark .assign cs
    split at h
    · next hq =>
      split at h
      · next i hi =>
        cases h
        exact .quoted hq hi
      · cases h
    split at h
    · next hc => exact .integer hc h
    split at h
    · next hc =>
      cases h
      exact .word hc cs
    · cases h
  · intro h
    cases h with
    | header hm h => simpa [next, hm] using h
    | mark h cs => exact h.next p cs
    | @quoted quote cs i hq h => rcases hq with rfl | rfl <;> simp [next, h]
    | integer hc h => rw [next_integer hc, h]
    | word hc cs => exact next_word hc cs

lemma kind_header (h : header m p cs = .ok s) : s.token.kind = .header ∧ s.mode = m := by
  simp only [header] at h
  split at h
  · split at h
    · cases h
    · cases h
      exact ⟨rfl, rfl⟩
  · cases h

lemma kind_integer (h : integer m p c cs = .ok s) :
    s.token.kind = .integer ∧ s.mode = m.literal := by
  simp only [integer] at h
  split at h
  · cases h
    exact ⟨rfl, rfl⟩
  · cases h

def IsNamed (t : Token) : Prop :=
  t.kind = .identifier →
    isName t.lexeme.toList = true ∧ t.lexeme ≠ "true" ∧ t.lexeme ≠ "false"

lemma isNamed_of_next (h : next m p c cs = .ok s) : s.token.IsNamed := by
  intro hk
  cases next_eq_ok_iff.mp h with
  | header hm h =>
    rw [(kind_header h).1] at hk
    cases hk
  | mark hm => cases hm <;> cases hk
  | quoted hq h => cases hk
  | integer hc h =>
    rw [(kind_integer h).1] at hk
    cases hk
  | word hc cs =>
    simp only [word] at hk ⊢
    split at hk
    · cases hk
    · next hb =>
      rw [Bool.or_eq_true, beq_iff_eq, beq_iff_eq, not_or] at hb
      refine ⟨?_, hb⟩
      rw [String.toList_ofList, isName, hc, Bool.true_and, List.all_eq_true]
      exact fun d hd => List.mem_takeWhile_imp hd

lemma forall_mem_tokens {P : Token → Prop} (step : ∀ m p c cs s, next m p c cs = .ok s → P s.token)
    (m : Mode) (p : Position) (cs : List Char) : ∀ t ∈ (scanFrom m p cs).tokens, P t := by
  fun_induction scanFrom m p cs with
  | case1 m p => exact nofun
  | case2 m p c cs hb ih => exact ih
  | case3 m p c cs hb hc hl ih => exact ih
  | case4 m p c cs hb hc e he => exact nofun
  | case5 m p c cs hb hc s hs hl ih =>
    exact List.forall_mem_cons.mpr ⟨step m p c cs s hs, ih⟩

lemma isNamed_of_scan {source : String} {ts : List Token} (h : (scan source).result = .ok ts) :
    ∀ t ∈ ts, t.IsNamed := by
  obtain ⟨-, rfl⟩ := Scan.result_eq_ok_iff.mp h
  exact forall_mem_tokens (fun m p c cs s => isNamed_of_next) .start .start source.toList

end Next

def Mode.behind (m : Mode) (t : Token) : Mode :=
  match t.kind with
  | .header | .identifier | .comma => m
  | .assign => { m with awaiting := true }
  | .string | .integer | .boolean => m.literal
  | .openBracket => ⟨false, m.depth + 1⟩
  | .closeBracket => { m with depth := m.depth - 1 }

lemma mode_of_next {m : Mode} {p : Position} {c : Char} {cs : List Char} {s : Span}
    (h : next m p c cs = .ok s) : s.mode = m.behind s.token := by
  cases next_eq_ok_iff.mp h with
  | header hm h => simp [Mode.behind, kind_header h]
  | mark hm => cases hm <;> rfl
  | quoted hq h => rfl
  | integer hc h => simp [Mode.behind, kind_integer h]
  | word hc =>
    simp only [word, Mode.behind]
    split <;> rfl

def EndsLine (cs : List Char) : Prop := ∀ c ∈ cs.head?, c = '\n'

def Alike (t u : Token) : Prop := t.kind = u.kind ∧ t.lexeme = u.lexeme

structure Extends (s : Span) (ds : List Char) (s' : Span) : Prop where
  alike : Alike s.token s'.token
  mode : s'.mode = s.mode
  rest : s'.rest = s.rest ++ ds

section Append

variable {m : Mode} {p : Position} {c : Char} {cs ds : List Char} {s : Span} (hd : EndsLine ds)
include hd

lemma EndsLine.endsRun {f : Char → Bool} (hf : f '\n' = false) : EndsRun f ds := by
  intro c hc
  rw [hd c hc, hf]

lemma header_append (h : header m p cs = .ok s) (p' : Position) :
    ∃ s', header m p' (cs ++ ds) = .ok s' ∧ Extends s ds s' := by
  have hr : EndsRun isHeaderChar ds := hd.endsRun (by decide)
  simp only [header, takeWhile_append_endsRun hr, dropWhile_append_endsRun hr] at h ⊢
  split at h
  · next rest hrest =>
    rw [hrest]
    split at h
    · cases h
    · next hn =>
      cases h
      simp only [List.cons_append, if_neg hn]
      exact ⟨_, rfl, ⟨rfl, rfl⟩, rfl, rfl⟩
  · cases h

lemma integer_append (h : integer m p c cs = .ok s) (p' : Position) :
    ∃ s', integer m p' c (cs ++ ds) = .ok s' ∧ Extends s ds s' := by
  have hr : EndsRun Char.isDigit ds := hd.endsRun (by decide)
  simp only [integer, takeWhile_append_endsRun hr, dropWhile_append_endsRun hr] at h ⊢
  split at h
  · next n hn =>
    cases h
    exact ⟨_, rfl, ⟨rfl, rfl⟩, rfl, rfl⟩
  · cases h

lemma word_append (m : Mode) (p p' : Position) (c : Char) (cs : List Char) :
    Extends (word m p c cs) ds (word m p' c (cs ++ ds)) := by
  have hr : EndsRun isIdentifierChar ds := hd.endsRun (by decide)
  simp only [word, takeWhile_append_endsRun hr, dropWhile_append_endsRun hr]
  exact ⟨⟨rfl, rfl⟩, rfl, rfl⟩

lemma next_append (h : next m p c cs = .ok s) (p' : Position) :
    ∃ s', next m p' c (cs ++ ds) = .ok s' ∧ Extends s ds s' := by
  simp only [next_eq_ok_iff] at h ⊢
  cases h with
  | header hm h =>
    obtain ⟨s', hs', he⟩ := header_append hd h p'
    exact ⟨s', .header hm hs', he⟩
  | mark hm cs => exact ⟨_, .mark hm (cs ++ ds), ⟨rfl, rfl⟩, rfl, rfl⟩
  | quoted hq h =>
    obtain ⟨es, rfl, hes⟩ := Quoted.encodes_of_read h
    rw [List.append_assoc, List.cons_append]
    exact ⟨_, .quoted hq (Quoted.read_of_encodes hq hes _ _), ⟨rfl, rfl⟩, rfl, rfl⟩
  | integer hc h =>
    obtain ⟨s', hs', he⟩ := integer_append hd h p'
    refine ⟨s', .integer (hc.imp_right fun hc => ⟨hc.1, ?_⟩) hs', he⟩
    cases cs with
    | nil => exact absurd hc.2 nofun
    | cons d cs => exact hc.2
  | word hc cs => exact ⟨_, .word hc _, word_append hd m p p' c cs⟩

theorem scanFrom_append (h : (scanFrom m p cs).fault? = none) (p' : Position) :
    ∃ us p'', List.Forall₂ Alike (scanFrom m p cs).tokens us ∧
      scanFrom m p' (cs ++ ds) =
        us.foldr Scan.cons (scanFrom ((scanFrom m p cs).tokens.foldl Mode.behind m) p'' ds) := by
  fun_induction scanFrom m p cs generalizing p' with
  | case1 m p => exact ⟨[], p', .nil, rfl⟩
  | case2 m p c cs hb ih =>
    obtain ⟨us, p'', hus, hscan⟩ := ih h (p'.step c)
    refine ⟨us, p'', hus, ?_⟩
    rw [List.cons_append, scanFrom, if_pos hb, hscan]
  | case3 m p c cs hb hc hl ih =>
    have hr : EndsRun (· != '\n') ds := hd.endsRun (by decide)
    obtain ⟨us, p'', hus, hscan⟩ := ih h (p'.after (c :: cs.takeWhile (· != '\n')))
    refine ⟨us, p'', hus, ?_⟩
    rw [List.cons_append, scanFrom, if_neg hb, if_pos hc, takeWhile_append_endsRun hr,
      dropWhile_append_endsRun hr, hscan]
  | case4 m p c cs hb hc e he => cases h
  | case5 m p c cs hb hc s hs hl ih =>
    obtain ⟨s', hs', he⟩ := next_append hd hs p'
    obtain ⟨us, p'', hus, hscan⟩ := ih h s'.position
    refine ⟨s'.token :: us, p'', .cons he.alike hus, ?_⟩
    rw [Bool.not_eq_true] at hb hc
    rw [List.cons_append, scanFrom_cons hb hc hs', he.rest, he.mode, hscan, Scan.cons, Scan.cons,
      List.foldr_cons, List.foldl_cons, mode_of_next hs]
    rfl

end Append

end RowFilter.Config.Token
