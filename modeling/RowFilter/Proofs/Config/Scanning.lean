import RowFilter.Config.Tree.Parser
import RowFilter.Proofs.Number.Writing
import RowFilter.Proofs.Text.Ascii
import RowFilter.Proofs.Text.Quoted
import RowFilter.Proofs.Text.Scan

namespace RowFilter.Config.Token

open Text

def Yields (m : Mode) (p : Position) (cs : List Char) (ts : List Token) (m' : Mode) : Prop :=
  ∀ rest, EndsRun isIdentifierChar rest →
    scanFrom m p (cs ++ rest) = ts.foldr Scan.cons (scanFrom m' (p.after cs) rest)

section Compose

variable {m m' m'' : Mode} {p : Position} {c : Char} {cs ds : List Char} {ts us : List Token}

lemma yields_nil : Yields m p [] [] m := fun _ _ => rfl

lemma Yields.append (h : Yields m p cs ts m') (h' : Yields m' (p.after cs) ds us m'')
    (he : EndsRun isIdentifierChar ds) : Yields m p (cs ++ ds) (ts ++ us) m'' := by
  intro rest hr
  rw [List.append_assoc, h _ (he.append hr), h' rest hr, List.foldr_append, Position.after_append]

lemma Yields.blank (h : Yields m (p.step c) cs ts m') (hc : isBlank c = true) :
    Yields m p (c :: cs) ts m' := by
  intro rest hr
  rw [List.cons_append, scanFrom, if_pos hc, h rest hr]
  rfl

lemma Yields.blanks (h : Yields m (p.after ds) cs ts m') (hd : ∀ d ∈ ds, isBlank d = true) :
    Yields m p (ds ++ cs) ts m' := by
  induction ds generalizing p with
  | nil => exact h
  | cons d ds ih =>
    rw [List.forall_mem_cons] at hd
    exact Yields.blank (ih h hd.2) hd.1

lemma scanFrom_cons {s : Span} (hb : isBlank c = false) (hc : startsComment c = false)
    (h : next m p c cs = .ok s) :
    scanFrom m p (c :: cs) = (scanFrom s.mode s.position s.rest).cons s.token := by
  rw [scanFrom, if_neg (by simp [hb]), if_neg (by simp [hc])]
  split
  · next e he => rw [h] at he; cases he
  · next s' hs => rw [h] at hs; cases hs; rfl

end Compose

inductive IsMark (m : Mode) : Char → Kind → Mode → Prop
  | openBracket (h : m.inValue = true) : IsMark m '[' .openBracket ⟨false, m.depth + 1⟩
  | closeBracket (h : 0 < m.depth) : IsMark m ']' .closeBracket { m with depth := m.depth - 1 }
  | comma (h : 0 < m.depth) : IsMark m ',' .comma m
  | assign : IsMark m '=' .assign { m with awaiting := true }

section Marks

variable {m n m' : Mode} {kind : Kind} {c : Char}

lemma IsMark.next (h : IsMark m c kind n) (p : Position) (cs : List Char) :
    next m p c cs = .ok ⟨⟨kind, c.toString, p⟩, n, p.step c, cs⟩ := by
  cases h with
  | openBracket h => simp [Token.next, h, Token.mark]
  | closeBracket h => simp [Token.next, h, Token.mark]
  | comma h => simp [Token.next, h, Token.mark]
  | assign => simp [Token.next, Token.mark]

lemma Yields.mark {p : Position} {cs : List Char} {ts : List Token}
    (h : Yields n (p.step c) cs ts m') (hm : IsMark m c kind n) :
    Yields m p (c :: cs) (⟨kind, c.toString, p⟩ :: ts) m' := by
  intro rest hr
  have hc : isBlank c = false ∧ startsComment c = false := by cases hm <;> decide
  rw [List.cons_append, scanFrom_cons hc.1 hc.2 (hm.next p _)]
  exact congrArg (Scan.cons _) (h rest hr)

end Marks

section Word

variable {m : Mode} {p : Position} {key : String}

lemma isIdentifierChar_of_start {c : Char} (h : isIdentifierStart c = true) :
    isIdentifierChar c = true := by
  simp only [isIdentifierStart, isIdentifierChar, Char.isAlphanum, Bool.or_eq_true] at h ⊢
  tauto

lemma isBlank_of_isIdentifierChar {c : Char} (h : isIdentifierChar c = true) :
    isBlank c = false := by
  simp only [isIdentifierChar, Bool.or_eq_true, beq_iff_eq] at h
  rcases h with (h | rfl) | rfl
  · exact isBlank_of_isAlphanum h
  · decide
  · decide

lemma startsComment_of_isIdentifierChar {c : Char} (h : isIdentifierChar c = true) :
    startsComment c = false := by
  simp only [startsComment, Bool.or_eq_false_iff, beq_eq_false_iff_ne]
  constructor <;> rintro rfl <;> exact absurd h (by decide)

lemma next_word {c : Char} (hc : isIdentifierStart c = true) (cs : List Char) :
    next m p c cs = .ok (word m p c cs) := by
  have hne : ∀ d, isIdentifierStart d = false → c ≠ d := by
    rintro d hd rfl
    rw [hd] at hc
    cases hc
  have hdigit : ¬ (c.isDigit ∨ (c = '-' ∧ cs.head?.any Char.isDigit)) := by
    rintro (hd | ⟨he, -⟩)
    · rw [isIdentifierStart, isAlpha_of_isDigit hd, Bool.false_or, beq_iff_eq] at hc
      subst hc
      cases hd
    · exact hne '-' (by decide) he
  rw [next, if_neg (hne '[' (by decide)), if_neg fun h => hne ']' (by decide) h.1,
    if_neg fun h => hne ',' (by decide) h.1, if_neg (hne '=' (by decide)),
    if_neg fun h => h.elim (hne '"' (by decide)) (hne '\'' (by decide)), if_neg hdigit, if_pos hc]

lemma yields_word (hk : isName key.toList = true) :
    let boolean := key == "true" || key == "false"
    Yields m p key.toList [⟨if boolean then .boolean else .identifier, key, p⟩]
      (if boolean then m.literal else m) := by
  intro boolean rest hr
  unfold isName at hk
  split at hk
  · cases hk
  next c cs hcs =>
  rw [Bool.and_eq_true, List.all_eq_true] at hk
  have hkey : String.ofList (c :: cs) = key := by rw [← hcs, String.ofList_toList]
  have hstart := isIdentifierChar_of_start hk.1
  have hcomment := startsComment_of_isIdentifierChar hstart
  have hword := next_word (m := m) (p := p) hk.1 (cs ++ rest)
  rw [word, takeWhile_run hk.2 hr, dropWhile_run hk.2 hr, hkey] at hword
  rw [hcs, List.cons_append, scanFrom_cons (isBlank_of_isIdentifierChar hstart) hcomment hword]
  rfl

end Word

section Literal

variable {m : Mode} {p : Position}

lemma next_integer {c : Char} {cs : List Char}
    (hc : c.isDigit = true ∨ (c = '-' ∧ cs.head?.any Char.isDigit = true)) :
    next m p c cs = integer m p c cs := by
  have hne : ∀ d, d.isDigit = false → d ≠ '-' → c ≠ d := by
    rintro d hd hm rfl
    rcases hc with h | ⟨h, -⟩
    · rw [hd] at h
      cases h
    · exact hm h
  rw [next, if_neg (hne '[' (by decide) (by decide)),
    if_neg fun h => hne ']' (by decide) (by decide) h.1,
    if_neg fun h => hne ',' (by decide) (by decide) h.1, if_neg (hne '=' (by decide) (by decide)),
    if_neg fun h => h.elim (hne '"' (by decide) (by decide)) (hne '\'' (by decide) (by decide)),
    if_pos hc]

inductive IsNumeral : List Char → Prop
  | plain {ds : List Char} (hne : ds ≠ []) (h : ∀ d ∈ ds, d.isDigit = true) : IsNumeral ds
  | minus {ds : List Char} (hne : ds ≠ []) (h : ∀ d ∈ ds, d.isDigit = true) : IsNumeral ('-' :: ds)

lemma isNumeral_toString (n : Int64) : IsNumeral (toString n.toInt).toList := by
  have hne : Nat.toDigits 10 n.toInt.natAbs ≠ [] := Nat.toDigits_ne_nil
  have hdigit : ∀ c ∈ Nat.toDigits 10 n.toInt.natAbs, c.isDigit = true := fun c hc =>
    Nat.isDigit_of_mem_toDigits (by decide) (by decide) hc
  rw [Number.toList_toString, Number.written]
  by_cases hn : n.toInt < 0
  · rw [if_pos hn]
    exact .minus hne hdigit
  · rw [if_neg hn]
    exact .plain hne hdigit

lemma IsNumeral.exists_cons {cs : List Char} (h : IsNumeral cs) :
    ∃ c ds, cs = c :: ds ∧ (∀ d ∈ ds, d.isDigit = true) ∧
      (c.isDigit = true ∨ (c = '-' ∧ ds.head?.any Char.isDigit = true)) := by
  cases h with
  | plain hne h =>
    obtain ⟨c, ds, rfl⟩ := List.exists_cons_of_ne_nil hne
    rw [List.forall_mem_cons] at h
    exact ⟨c, ds, rfl, h.2, .inl h.1⟩
  | minus hne h =>
    obtain ⟨c, ds, rfl⟩ := List.exists_cons_of_ne_nil hne
    exact ⟨'-', c :: ds, rfl, h, .inr ⟨rfl, h c List.mem_cons_self⟩⟩

lemma IsNumeral.exists_signed {cs : List Char} (h : IsNumeral cs) :
    ∃ (negative : Bool) (ds : List Char), cs = (if negative then ['-'] else []) ++ ds ∧ ds ≠ [] ∧
      ∀ d ∈ ds, d.isDigit = true := by
  cases h with
  | plain hne h => exact ⟨false, cs, rfl, hne, h⟩
  | @minus ds hne h => exact ⟨true, ds, rfl, hne, h⟩

lemma yields_numeral {lexeme : String} (h : IsNumeral lexeme.toList) {n : Int64}
    (hn : Number.int64? lexeme.toList = some n) :
    Yields m p lexeme.toList [⟨.integer, lexeme, p⟩] m.literal := by
  intro rest hr
  have hend : EndsRun Char.isDigit rest := by
    intro c hc
    have := hr c hc
    simp only [isIdentifierChar, Char.isAlphanum, Bool.or_eq_false_iff] at this
    exact this.1.1.2
  obtain ⟨c, cs, hcs, htail, hc⟩ := h.exists_cons
  have hchar : isIdentifierChar c = true := by
    rcases hc with hd | ⟨rfl, -⟩
    · simp [isIdentifierChar, isAlphanum_of_isDigit hd]
    · decide
  have hnext : next m p c (cs ++ rest) = integer m p c (cs ++ rest) := by
    refine next_integer (hc.imp_right (And.imp_right fun hd => ?_))
    cases cs with
    | nil => cases hd
    | cons d cs => exact hd
  rw [integer, takeWhile_run htail hend, dropWhile_run htail hend, ← hcs, hn] at hnext
  rw [hcs, List.cons_append, scanFrom_cons (isBlank_of_isIdentifierChar hchar)
    (startsComment_of_isIdentifierChar hchar) hnext, String.ofList_toList, hcs]
  rfl

lemma yields_integer (n : Int64) :
    Yields m p (toString n.toInt).toList [⟨.integer, toString n.toInt, p⟩] m.literal :=
  yields_numeral (isNumeral_toString n) (Number.int64?_toString n)

lemma next_quote {quote : Char} (hq : IsQuote quote) (m : Mode) (p : Position) (cs : List Char) :
    next m p quote cs =
      match Quoted.read quote (p.step quote) cs with
      | .ok i => .ok ⟨⟨.string, String.ofList i.text, p⟩, m.literal, i.position, i.rest⟩
      | .error e => .error (.ofQuoted p e) := by
  rcases hq with rfl | rfl <;> rfl

lemma yields_quoted {quote : Char} {cs : List Char} {s : String} (hq : IsQuote quote)
    (h : Quoted.Encodes quote cs s.toList) :
    Yields m p (quote :: (cs ++ [quote])) [⟨.string, s, p⟩] m.literal := by
  intro rest hr
  have hn : next m p quote (cs ++ quote :: rest) =
      .ok ⟨⟨.string, s, p⟩, m.literal, (p.step quote).after (cs ++ [quote]), rest⟩ := by
    rw [next_quote hq, Quoted.read_of_encodes hq h]
    simp only [String.ofList_toList]
  have hb : isBlank quote = false := by rcases hq with rfl | rfl <;> decide
  have hc : startsComment quote = false := by rcases hq with rfl | rfl <;> decide
  rw [List.cons_append, List.append_assoc, List.singleton_append, scanFrom_cons hb hc hn]
  rfl

end Literal

section Header

variable {front cs back : List Char} (hf : ∀ c ∈ front, isBlank c = true)
  (hc : ∀ c ∈ cs, isBlank c = false) (hb : ∀ c ∈ back, isBlank c = true)
include hf hc

lemma dropWhile_isBlank (hne : cs ≠ []) (ds : List Char) :
    (front ++ (cs ++ ds)).dropWhile isBlank = cs ++ ds := by
  obtain ⟨c, cs, rfl⟩ := List.exists_cons_of_ne_nil hne
  exact dropWhile_run hf (endsRun_cons (hc c List.mem_cons_self) _)

include hb

lemma trim_padded (hne : cs ≠ []) : trim (front ++ (cs ++ back)) = cs := by
  have hc' : ∀ c ∈ cs.reverse, isBlank c = false := fun c h => hc c (List.mem_reverse.mp h)
  have hb' : ∀ c ∈ back.reverse, isBlank c = true := fun c h => hb c (List.mem_reverse.mp h)
  have hend := dropWhile_isBlank hb' hc' (by simpa using hne) []
  rw [List.append_nil] at hend
  rw [trim, dropWhile_isBlank hf hc hne, List.reverse_append, hend, List.reverse_reverse]

end Header

def IsPadding (cs : List Char) : Prop := ∀ c ∈ cs, isBlank c = true ∧ c ≠ '\n'

lemma isPadding_nil : IsPadding [] := List.forall_mem_nil _

lemma IsPadding.isHeaderChar {cs : List Char} (h : IsPadding cs) :
    ∀ c ∈ cs, isHeaderChar c = true := by
  intro c hc
  rw [Token.isHeaderChar, Bool.and_eq_true, bne_iff_ne, bne_iff_ne]
  refine ⟨?_, (h c hc).2⟩
  rintro rfl
  exact absurd (h _ hc).1 (by decide)

lemma yields_header {m : Mode} {p : Position} {name : String} {front back : List Char}
    (hm : m.inValue = false) (hne : name.toList ≠ [])
    (hc : ∀ c ∈ name.toList, isHeaderChar c = true ∧ isBlank c = false) (hf : IsPadding front)
    (hb : IsPadding back) :
    Yields m p ('[' :: (front ++ (name.toList ++ back) ++ [']'])) [⟨.header, name, p⟩] m := by
  intro rest hr
  let inner := front ++ (name.toList ++ back)
  have hinner : ∀ c ∈ inner, isHeaderChar c = true := by
    simp only [inner, List.forall_mem_append]
    exact ⟨hf.isHeaderChar, fun c h => (hc c h).1, hb.isHeaderChar⟩
  have hend : EndsRun isHeaderChar (']' :: rest) := endsRun_cons (by decide) rest
  have htrim : trim inner = name.toList :=
    trim_padded (fun c h => (hf c h).1) (fun c h => (hc c h).2) (fun c h => (hb c h).1) hne
  have hn : next m p '[' (inner ++ ']' :: rest) =
      .ok ⟨⟨.header, name, p⟩, m, p.after ('[' :: inner ++ [']']), rest⟩ := by
    have hempty : name.toList.isEmpty = false := by simpa using hne
    rw [next, if_pos rfl, if_neg (by simp [hm]), header, takeWhile_run hinner hend,
      dropWhile_run hinner hend]
    simp only [htrim, hempty, String.ofList_toList]
    rfl
  rw [List.cons_append, List.append_assoc, List.singleton_append,
    scanFrom_cons (by decide) (by decide) hn]
  rfl

end RowFilter.Config.Token
