import RowFilter.Proofs.Config.Scanning
import RowFilter.Proofs.Filter.Scanning
import RowFilter.Proofs.Text.Layout

namespace RowFilter.Text.Quoted

def escapes : List (Char × Char) :=
  [('\n', 'n'), ('\t', 't'), ('\r', 'r'), ('\\', '\\'), ('"', '"'), ('\'', '\'')]

inductive IsForm (quote : Char) : Char → List Char → Prop
  | raw {c : Char} (hq : c ≠ quote) (hb : c ≠ '\\') : IsForm quote c [c]
  | escape {c d : Char} (h : (c, d) ∈ escapes) : IsForm quote c ['\\', d]

def IsEncoding (quote : Char) (w s : List Char) : Prop :=
  ∃ forms, List.Forall₂ (IsForm quote) s forms ∧ w = forms.flatten

/-- The first thing in a text that is no form is a backslash before `d`, behind `w`. -/
def IsStray (quote : Char) (cs w : List Char) (d : Char) : Prop :=
  (∃ s, IsEncoding quote w s) ∧ (∀ c, (c, d) ∉ escapes) ∧ ∃ rest, cs = w ++ '\\' :: d :: rest

def IsOpen (quote : Char) (cs : List Char) : Prop :=
  ∃ w s, IsEncoding quote w s ∧ (cs = w ∨ cs = w ++ ['\\'])

variable {quote c d : Char} {p b : Position} {cs w s : List Char}

lemma unescape_eq_some_iff : unescape d = some c ↔ (c, d) ∈ escapes := by
  unfold unescape
  split
  all_goals simp_all [escapes, eq_comm]

lemma unescape_eq_none_iff : unescape d = none ↔ ∀ c, (c, d) ∉ escapes := by
  simp only [Option.eq_none_iff_forall_ne_some, ne_eq, unescape_eq_some_iff]

lemma isEncoding_nil : IsEncoding quote [] [] := ⟨[], .nil, rfl⟩

lemma IsEncoding.cons {form : List Char} (hc : IsForm quote c form) (h : IsEncoding quote w s) :
    IsEncoding quote (form ++ w) (c :: s) := by
  obtain ⟨forms, hforms, rfl⟩ := h
  exact ⟨form :: forms, .cons hc hforms, rfl⟩

lemma isEncoding_iff : IsEncoding quote w s ↔ Encodes quote w s := by
  constructor
  · rintro ⟨forms, hforms, rfl⟩
    induction hforms with
    | nil => exact .nil
    | cons hc hs ih =>
      cases hc with
      | raw hq hb => exact .raw hq hb ih
      | escape h => exact .escape (unescape_eq_some_iff.mpr h) ih
  · intro h
    induction h with
    | nil => exact isEncoding_nil
    | raw hq hb h ih => exact ih.cons (.raw hq hb)
    | escape hd h ih => exact ih.cons (.escape (unescape_eq_some_iff.mp hd))

lemma breaks_unknownEscape_iff :
    Breaks quote p cs (.unknownEscape d b) ↔ ∃ w, IsStray quote cs w d ∧ b = p.after w := by
  constructor
  · intro h
    cases h with
    | @unknownEscape es s _ h hd rest =>
      exact ⟨es, ⟨⟨s, isEncoding_iff.mpr h⟩, unescape_eq_none_iff.mp hd, rest, rfl⟩, rfl⟩
  · rintro ⟨w, ⟨⟨s, hs⟩, hd, rest, rfl⟩, rfl⟩
    exact .unknownEscape (isEncoding_iff.mp hs) (unescape_eq_none_iff.mpr hd) rest

lemma breaks_unterminated_iff : Breaks quote p cs .unterminated ↔ IsOpen quote cs := by
  constructor
  · intro h
    cases h with
    | unterminated h => exact ⟨_, _, isEncoding_iff.mpr h, .inl rfl⟩
    | unfinished h => exact ⟨_, _, isEncoding_iff.mpr h, .inr rfl⟩
  · rintro ⟨w, s, hs, rfl | rfl⟩
    · exact .unterminated (isEncoding_iff.mp hs)
    · exact .unfinished (isEncoding_iff.mp hs)

lemma filter_next_unterminated_iff (hq : IsQuote quote) :
    Filter.Token.next p quote cs = .error (.unterminatedString p) ↔
      read quote (p.step quote) cs = .error .unterminated := by
  rw [Filter.Token.next_quote hq]
  cases read quote (p.step quote) cs with
  | ok i => simp
  | error fault => cases fault <;> simp [Filter.LexError.ofQuoted]

lemma config_next_unterminated_iff (hq : IsQuote quote) (m : Config.Token.Mode) :
    Config.Token.next m p quote cs = .error (.unterminatedString p) ↔
      read quote (p.step quote) cs = .error .unterminated := by
  rw [Config.Token.next_quote hq]
  cases read quote (p.step quote) cs with
  | ok i => simp
  | error fault => cases fault <;> simp [Config.LexError.ofQuoted]

/-- Reading from the opening quote, which stands at `p`, finds exactly the texts of which a written
form and the closing quote follow, and ends behind that quote. It stops at a backslash if that is
the first thing that is no form of a character, and at the opening quote if the text ends before. -/
theorem read_outcome (hq : IsQuote quote) (p : Position) (cs : List Char) :
    (∀ i, read quote (p.step quote) cs = .ok i ↔
      ∃ w, cs = w ++ quote :: i.rest ∧ IsEncoding quote w i.text ∧
        i.position = p.past (quote :: w ++ [quote])) ∧
    (∀ d b, read quote (p.step quote) cs = .error (.unknownEscape d b) ↔
      ∃ w, IsStray quote cs w d ∧ b = p.past (quote :: w)) ∧
    (read quote (p.step quote) cs = .error .unterminated ↔ IsOpen quote cs) ∧
    (Filter.Token.next p quote cs = .error (.unterminatedString p) ↔ IsOpen quote cs) ∧
    ∀ m, Config.Token.next m p quote cs = .error (.unterminatedString p) ↔ IsOpen quote cs := by
  have hopen : read quote (p.step quote) cs = .error .unterminated ↔ IsOpen quote cs :=
    (read_eq_error_iff hq).trans breaks_unterminated_iff
  refine ⟨fun i => ?_, fun d b => ?_, hopen, (filter_next_unterminated_iff hq).trans hopen,
    fun m => (config_next_unterminated_iff hq m).trans hopen⟩
  · simp only [read_eq_ok_iff hq, isEncoding_iff, ← Position.after_eq_past, List.cons_append,
      Position.after_cons]
  · simp only [read_eq_error_iff hq, breaks_unknownEscape_iff, ← Position.after_eq_past,
      Position.after_cons]

theorem read_outcome_escaped_quotes :
    let p : Position := ⟨3, 7⟩
    let w : List Char := ['\\', '\'', '"', '\n', '\\', '\\']
    IsQuote '\'' ∧
    read '\'' (p.step '\'') (w ++ '\'' :: ['\'']) = .ok ⟨['\'', '"', '\n', '\\'], ⟨4, 4⟩, ['\'']⟩ ∧
    read '\'' (p.step '\'') (w ++ '\\' :: 'x' :: ['\'']) = .error (.unknownEscape 'x' ⟨4, 3⟩) ∧
    Filter.Token.next p '\'' (w ++ ['\\']) = .error (.unterminatedString p) := by
  intro p w
  have hq : IsQuote '\'' := .inr rfl
  have hend : IsEncoding '\'' ['\n', '\\', '\\'] ['\n', '\\'] :=
    (isEncoding_nil.cons (.escape (by decide))).cons (.raw (by decide) (by decide))
  have hw : IsEncoding '\'' w ['\'', '"', '\n', '\\'] :=
    (hend.cons (.raw (by decide) (by decide))).cons (.escape (by decide))
  obtain ⟨hok, -⟩ := read_outcome hq p (w ++ '\'' :: ['\''])
  obtain ⟨-, hstray, -⟩ := read_outcome hq p (w ++ '\\' :: 'x' :: ['\''])
  obtain ⟨-, -, -, hopen, -⟩ := read_outcome hq p (w ++ ['\\'])
  refine ⟨hq, (hok _).mpr ⟨w, rfl, hw, rfl⟩, (hstray _ _).mpr ⟨w, ⟨⟨_, hw⟩, ?_, _, rfl⟩, rfl⟩,
    hopen.mpr ⟨w, _, hw, .inr rfl⟩⟩
  simp [escapes]

end RowFilter.Text.Quoted
