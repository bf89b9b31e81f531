import RowFilter.Config.Token
import RowFilter.Scalar
import RowFilter.Text.Character
import RowFilter.Text.Quoted
import RowFilter.Text.Scan

/-! An opening bracket starts an array where a value is awaited or an array is open, and a block
header elsewhere. -/

namespace RowFilter.Config

open Text

inductive LexError
  | unexpectedChar (c : Char) (p : Position)
  | unterminatedString (p : Position)
  | invalidEscape (c : Char) (p : Position)
  | unterminatedHeader (p : Position)
  | emptyHeader (p : Position)
  | integerOverflow (lexeme : String) (p : Position)
deriving DecidableEq, Repr

def placeText (p : Position) : String := s!"line {p.line}, column {p.column}"

namespace LexError

def message : LexError → String
  | unexpectedChar c p => s!"Unexpected character '{c}' at {placeText p}"
  | unterminatedString p => s!"Unterminated string starting at {placeText p}"
  | invalidEscape c p => s!"Invalid escape sequence '\\{c}' at {placeText p}"
  | unterminatedHeader p => s!"Unterminated block header starting at {placeText p}"
  | emptyHeader p => s!"Empty block header at {placeText p}"
  | integerOverflow n p => s!"Integer '{n}' out of range at {placeText p}"

def ofQuoted (opening : Position) : Quoted.Fault → LexError
  | .unknownEscape c p => invalidEscape c p
  | .unterminated => unterminatedString opening

end LexError

namespace Token

/-- Whether an assignment awaits its value, and how many arrays are open. -/
structure Mode where
  awaiting : Bool
  depth : Nat
deriving DecidableEq, Repr

namespace Mode

def start : Mode := ⟨false, 0⟩

def inValue (m : Mode) : Bool := m.awaiting || 0 < m.depth

def literal (m : Mode) : Mode := if m.depth = 0 then { m with awaiting := false } else m

end Mode

def isIdentifierStart (c : Char) : Bool := c.isAlpha || c == '_'

def isIdentifierChar (c : Char) : Bool := c.isAlphanum || c == '_' || c == '-'

def isHeaderChar (c : Char) : Bool := c != ']' && c != '\n'

def startsComment (c : Char) : Bool := c == '#' || c == ';'

structure Span where
  token : Token
  mode : Mode
  position : Position
  rest : List Char

def header (m : Mode) (p : Position) (cs : List Char) : Except LexError Span :=
  let inner := cs.takeWhile isHeaderChar
  match cs.dropWhile isHeaderChar with
  | ']' :: rest =>
    let name := trim inner
    if name.isEmpty then .error (.emptyHeader p)
    else .ok ⟨⟨.header, String.ofList name, p⟩, m, p.after ('[' :: inner ++ [']']), rest⟩
  | _ => .error (.unterminatedHeader p)

def integer (m : Mode) (p : Position) (c : Char) (cs : List Char) : Except LexError Span :=
  let lexeme := c :: cs.takeWhile Char.isDigit
  match Number.int64? lexeme with
  | some _ =>
    .ok ⟨⟨.integer, String.ofList lexeme, p⟩, m.literal, p.after lexeme,
      cs.dropWhile Char.isDigit⟩
  | none => .error (.integerOverflow (String.ofList lexeme) p)

def word (m : Mode) (p : Position) (c : Char) (cs : List Char) : Span :=
  let lexeme := c :: cs.takeWhile isIdentifierChar
  let name := String.ofList lexeme
  let boolean := name == "true" || name == "false"
  ⟨⟨if boolean then .boolean else .identifier, name, p⟩, if boolean then m.literal else m,
    p.after lexeme, cs.dropWhile isIdentifierChar⟩

def mark (kind : Kind) (m : Mode) (p : Position) (c : Char) (cs : List Char) :
    Except LexError Span :=
  .ok ⟨⟨kind, c.toString, p⟩, m, p.step c, cs⟩

def next (m : Mode) (p : Position) (c : Char) (cs : List Char) : Except LexError Span :=
  if c = '[' then
    if m.inValue then mark .openBracket ⟨false, m.depth + 1⟩ p c cs else header m p cs
  else if c = ']' ∧ 0 < m.depth then
    mark .closeBracket { m with depth := m.depth - 1 } p c cs
  else if c = ',' ∧ 0 < m.depth then mark .comma m p c cs
  else if c = '=' then mark .assign { m with awaiting := true } p c cs
  else if c = '"' ∨ c = '\'' then
    match Quoted.read c (p.step c) cs with
    | .ok i => .ok ⟨⟨.string, String.ofList i.text, p⟩, m.literal, i.position, i.rest⟩
    | .error e => .error (.ofQuoted p e)
  else if c.isDigit ∨ (c = '-' ∧ cs.head?.any Char.isDigit) then integer m p c cs
  else if isIdentifierStart c then .ok (word m p c cs)
  else .error (.unexpectedChar c p)

theorem length_dropWhile_le (f : Char → Bool) (cs : List Char) :
    (cs.dropWhile f).length ≤ cs.length :=
  (List.dropWhile_sublist f).length_le

theorem header_rest_length {m : Mode} {p : Position} {cs : List Char} {s : Span}
    (h : header m p cs = .ok s) : s.rest.length ≤ cs.length := by
  simp only [header] at h
  split at h
  · next rest hr =>
    split at h
    · cases h
    · cases h
      have := length_dropWhile_le isHeaderChar cs
      simp only [hr, List.length_cons] at this
      simp only
      omega
  · cases h

theorem next_rest_length {m : Mode} {p : Position} {c : Char} {cs : List Char} {s : Span}
    (h : next m p c cs = .ok s) : s.rest.length ≤ cs.length := by
  unfold next at h
  split at h
  · split at h
    · cases h; simp
    · exact header_rest_length h
  split at h
  · cases h; simp
  split at h
  · cases h; simp
  split at h
  · cases h; simp
  split at h
  · split at h
    · next i hi => cases h; exact Nat.le_of_lt (Quoted.read_rest_length hi)
    · cases h
  split at h
  · simp only [integer] at h
    split at h
    · cases h; exact length_dropWhile_le _ _
    · cases h
  split at h
  · cases h; exact length_dropWhile_le _ _
  · cases h

def scanFrom (m : Mode) (p : Position) : List Char → Scan Token LexError
  | [] => .done
  | c :: cs =>
    if isBlank c then scanFrom m (p.step c) cs
    else if startsComment c then
      have := length_dropWhile_le (· != '\n') cs
      scanFrom m (p.after (c :: cs.takeWhile (· != '\n'))) (cs.dropWhile (· != '\n'))
    else
      match h : next m p c cs with
      | .error e => .fail e
      | .ok s =>
        have := next_rest_length h
        (scanFrom s.mode s.position s.rest).cons s.token
termination_by cs => cs.length
decreasing_by all_goals simp only [List.length_cons]; omega

def scan (s : String) : Scan Token LexError := scanFrom .start .start s.toList

end Token

end RowFilter.Config
