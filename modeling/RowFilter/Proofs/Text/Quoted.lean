import Mathlib
import RowFilter.Proofs.Outcome
import RowFilter.Text.Quoted

namespace RowFilter.Text

def IsQuote (c : Char) : Prop := c = '"' ∨ c = '\''

lemma IsQuote.ne_backslash {c : Char} (h : IsQuote c) : c ≠ '\\' := by
  rcases h with rfl | rfl <;> decide

namespace Quoted

inductive Encodes (quote : Char) : List Char → List Char → Prop
  | nil : Encodes quote [] []
  | raw {c : Char} {cs s : List Char} (hq : c ≠ quote) (hb : c ≠ '\\') (h : Encodes quote cs s) :
      Encodes quote (c :: cs) (c :: s)
  | escape {c d : Char} {cs s : List Char} (hd : unescape d = some c) (h : Encodes quote cs s) :
      Encodes quote ('\\' :: d :: cs) (c :: s)

section Read

variable {quote c d : Char} (p : Position) (cs : List Char)

lemma read_quote : read quote p (quote :: cs) = .ok ⟨[], p.step quote, cs⟩ := by
  rw [read.eq_def]
  exact if_pos rfl

lemma read_raw (hq : c ≠ quote) (hb : c ≠ '\\') :
    read quote p (c :: cs) = (read quote (p.step c) cs).map (.cons c) := by
  rw [read.eq_def]
  exact (if_neg hq).trans (if_neg hb)

lemma read_escape (hq : quote ≠ '\\') (hd : unescape d = some c) :
    read quote p ('\\' :: d :: cs) = (read quote ((p.step '\\').step d) cs).map (.cons c) := by
  rw [read.eq_def]
  simp only [if_neg hq.symm, hd, if_true]

lemma read_stray (hq : quote ≠ '\\') (hd : unescape d = none) :
    read quote p ('\\' :: d :: cs) = .error (.unknownEscape d p) := by
  rw [read.eq_def]
  simp only [if_neg hq.symm, hd, if_true]

lemma read_backslash (hq : quote ≠ '\\') : read quote p ['\\'] = .error .unterminated := by
  rw [read.eq_def]
  simp only [if_neg hq.symm, if_true]

end Read

lemma read_append {quote : Char} (hq : quote ≠ '\\') {es s : List Char} (h : Encodes quote es s)
    (p : Position) (cs : List Char) :
    read quote p (es ++ cs) =
      (read quote (p.after es) cs).map fun i => { i with text := s ++ i.text } := by
  induction h generalizing p with
  | nil =>
    rw [List.nil_append, Position.after_nil]
    cases read quote p cs <;> rfl
  | @raw c es s hc hb h ih =>
    rw [List.cons_append, read_raw p _ hc hb, ih, Position.after_cons]
    cases read quote ((p.step c).after es) cs <;> rfl
  | @escape c d es s hd h ih =>
    rw [List.cons_append, List.cons_append, read_escape p _ hq hd, ih, Position.after_cons,
      Position.after_cons]
    cases read quote (((p.step '\\').step d).after es) cs <;> rfl

lemma read_of_encodes {quote : Char} (hq : IsQuote quote) {cs s : List Char}
    (h : Encodes quote cs s) (p : Position) (rest : List Char) :
    read quote p (cs ++ quote :: rest) = .ok ⟨s, p.after (cs ++ [quote]), rest⟩ := by
  rw [read_append hq.ne_backslash h, read_quote, Position.after_append]
  simp [Except.map]

lemma encodes_of_read {quote : Char} {p : Position} {cs : List Char} {i : Item}
    (h : read quote p cs = .ok i) : ∃ es, cs = es ++ quote :: i.rest ∧ Encodes quote es i.text := by
  fun_induction read quote p cs generalizing i with
  | case2 p cs =>
    cases h
    exact ⟨[], rfl, .nil⟩
  | case5 p d ds e he hq ih =>
    obtain ⟨j, hj, rfl⟩ := map_cons_eq_ok.mp h
    obtain ⟨es, rfl, hes⟩ := ih hj
    exact ⟨'\\' :: d :: es, rfl, .escape he hes⟩
  | case6 p c cs hq hb ih =>
    obtain ⟨j, hj, rfl⟩ := map_cons_eq_ok.mp h
    obtain ⟨es, rfl, hes⟩ := ih hj
    exact ⟨c :: es, rfl, .raw hq hb hes⟩
  | _ => cases h

lemma read_eq_ok_iff {quote : Char} (hq : IsQuote quote) {p : Position} {cs : List Char} {i : Item} :
    read quote p cs = .ok i ↔
      ∃ es, cs = es ++ quote :: i.rest ∧ Encodes quote es i.text ∧
        i.position = p.after (es ++ [quote]) := by
  constructor
  · intro h
    obtain ⟨es, rfl, hes⟩ := encodes_of_read h
    rw [read_of_encodes hq hes] at h
    exact ⟨es, rfl, hes, congrArg Item.position (Except.ok.inj h).symm⟩
  · obtain ⟨s, p', rest⟩ := i
    rintro ⟨es, rfl, hes, rfl⟩
    exact read_of_encodes hq hes p rest

/-- A text in which a quoted text that begins there breaks off: before an unknown escape, or at the
end of the text, where the last backslash may have nothing behind it. -/
inductive Breaks (quote : Char) (p : Position) : List Char → Fault → Prop
  | unknownEscape {es s : List Char} {d : Char} (h : Encodes quote es s) (hd : unescape d = none)
      (rest : List Char) : Breaks quote p (es ++ '\\' :: d :: rest) (.unknownEscape d (p.after es))
  | unterminated {es s : List Char} (h : Encodes quote es s) : Breaks quote p es .unterminated
  | unfinished {es s : List Char} (h : Encodes quote es s) :
      Breaks quote p (es ++ ['\\']) .unterminated

lemma Encodes.append {quote : Char} {cs ds s t : List Char} (h : Encodes quote cs s)
    (h' : Encodes quote ds t) : Encodes quote (cs ++ ds) (s ++ t) := by
  induction h with
  | nil => exact h'
  | raw hq hb h ih => exact .raw hq hb ih
  | escape hd h ih => exact .escape hd ih

lemma Breaks.behind {quote : Char} {p : Position} {cs ds s : List Char} {e : Fault}
    (hs : Encodes quote ds s) (h : Breaks quote (p.after ds) cs e) : Breaks quote p (ds ++ cs) e := by
  cases h with
  | unknownEscape h hd rest =>
    rw [← List.append_assoc, ← Position.after_append]
    exact .unknownEscape (hs.append h) hd rest
  | unterminated h => exact .unterminated (hs.append h)
  | unfinished h =>
    rw [← List.append_assoc]
    exact .unfinished (hs.append h)

lemma breaks_of_read {quote : Char} {p : Position} {cs : List Char} {e : Fault}
    (h : read quote p cs = .error e) : Breaks quote p cs e := by
  fun_induction read quote p cs generalizing e with
  | case1 p =>
    cases h
    exact .unterminated .nil
  | case2 p cs => cases h
  | case3 p hq =>
    cases h
    exact .unfinished .nil
  | case4 p d ds hd hq =>
    cases h
    exact .unknownEscape .nil hd ds
  | case5 p d ds c hc hq ih =>
    have hs : Encodes quote ['\\', d] [c] := .escape hc .nil
    exact Breaks.behind hs (ih (Outcome.map_eq_error h))
  | case6 p c cs hq hb ih =>
    have hs : Encodes quote [c] [c] := .raw hq hb .nil
    exact Breaks.behind hs (ih (Outcome.map_eq_error h))

lemma read_of_breaks {quote : Char} (hq : IsQuote quote) {p : Position} {cs : List Char} {e : Fault}
    (h : Breaks quote p cs e) : read quote p cs = .error e := by
  have hb := hq.ne_backslash
  cases h with
  | unknownEscape h hd rest =>
    rw [read_append hb h, read_stray _ rest hb hd]
    rfl
  | unterminated h =>
    have hread := read_append hb h p []
    rwa [List.append_nil] at hread
  | unfinished h =>
    rw [read_append hb h, read_backslash _ hb]
    rfl

lemma read_eq_error_iff {quote : Char} (hq : IsQuote quote) {p : Position} {cs : List Char} {e : Fault} :
    read quote p cs = .error e ↔ Breaks quote p cs e :=
  ⟨breaks_of_read, read_of_breaks hq⟩

lemma exists_encodes {quote : Char} (hq : IsQuote quote) (s : List Char) :
    ∃ cs, Encodes quote cs s := by
  induction s with
  | nil => exact ⟨[], .nil⟩
  | cons c s ih =>
    obtain ⟨cs, h⟩ := ih
    by_cases hc : c = quote
    · have hd : unescape c = some c := by rcases hq with rfl | rfl <;> subst hc <;> rfl
      exact ⟨'\\' :: c :: cs, .escape hd h⟩
    · by_cases hb : c = '\\'
      · exact ⟨'\\' :: '\\' :: cs, .escape (by rw [hb]; rfl) h⟩
      · exact ⟨c :: cs, .raw hc hb h⟩

end Quoted

end RowFilter.Text
