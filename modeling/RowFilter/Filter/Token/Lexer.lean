import RowFilter.Filter.Token
import RowFilter.Scalar
import RowFilter.Text.Character
import RowFilter.Text.Quoted
import RowFilter.Text.Scan

namespace RowFilter.Filter

open Text

def maxLength : Nat := 2048

inductive LexError
  | unexpectedChar (c : Char) (p : Position)
  | unterminatedString (p : Position)
  | invalidEscape (c : Char) (p : Position)
  | numberOutOfRange (word : String) (p : Position)
  | tooLong (bytes : Nat)
deriving DecidableEq, Repr

namespace LexError

def message : LexError → String
  | unexpectedChar c p => s!"Unexpected character '{c}' at column {p.column}"
  | unterminatedString p => s!"Unterminated string starting at column {p.column}"
  | invalidEscape c p => s!"Invalid escape sequence '\\{c}' at column {p.column}"
  | numberOutOfRange w p => s!"Number '{w}' out of range at column {p.column}"
  | tooLong n => s!"Filter is {n} bytes long, the limit is {maxLength}"

def position? : LexError → Option Position
  | unexpectedChar _ p => some p
  | unterminatedString p => some p
  | invalidEscape _ p => some p
  | numberOutOfRange _ p => some p
  | tooLong _ => none

def ofQuoted (opening : Position) : Quoted.Fault → LexError
  | .unknownEscape c p => invalidEscape c p
  | .unterminated => unterminatedString opening

end LexError

namespace Token

def isWordChar (c : Char) : Bool :=
  isAlphanumeric c || c == '_' || c == '.' || c == '@' || c == '-' || c == '%'

def isNumeral (cs : List Char) : Bool :=
  Number.isDigits cs && (cs == ['0'] || cs.head? != some '0')

def dropMinus : List Char → List Char
  | '-' :: cs => cs
  | cs => cs

/-- The kind of a word: a keyword, a number, or plain text. A number that does not fit its type has
none. Digits with a leading zero are plain text, so that codes keep them. -/
def classify (word : List Char) : Option Kind :=
  match Kind.ofKeyword? (String.ofList word) with
  | some k => some k
  | none =>
    let unsigned := dropMinus word
    let whole := unsigned.takeWhile (· != '.')
    match unsigned.dropWhile (· != '.') with
    | [] =>
      if isNumeral whole then (Number.int64? word).map fun _ => .integer else some .word
    | _ :: fraction =>
      if isNumeral whole && Number.isDigits fraction then
        (Decimal.ofText? word).map fun _ => .decimal
      else some .word

structure Span where
  token : Token
  position : Position
  rest : List Char

def single (kind : Kind) (c : Char) (p : Position) (cs : List Char) : Except LexError Span :=
  .ok ⟨⟨kind, c.toString, p⟩, p.step c, cs⟩

def next (p : Position) (c : Char) (cs : List Char) : Except LexError Span :=
  match c with
  | ':' => single .colon c p cs
  | ',' => single .comma c p cs
  | '[' => single .openBracket c p cs
  | ']' => single .closeBracket c p cs
  | _ =>
    if c = '"' ∨ c = '\'' then
      match Quoted.read c (p.step c) cs with
      | .ok i => .ok ⟨⟨.string, String.ofList i.text, p⟩, i.position, i.rest⟩
      | .error e => .error (.ofQuoted p e)
    else if isWordChar c then
      let word := c :: cs.takeWhile isWordChar
      match classify word with
      | some kind =>
        .ok ⟨⟨kind, String.ofList word, p⟩, p.after word, cs.dropWhile isWordChar⟩
      | none => .error (.numberOutOfRange (String.ofList word) p)
    else .error (.unexpectedChar c p)

theorem next_rest_length {p : Position} {c : Char} {cs : List Char} {s : Span}
    (h : next p c cs = .ok s) : s.rest.length ≤ cs.length := by
  unfold next at h
  split at h
  · cases h; simp
  · cases h; simp
  · cases h; simp
  · cases h; simp
  · split at h
    · split at h
      · next i hi => cases h; exact Nat.le_of_lt (Quoted.read_rest_length hi)
      · cases h
    · split at h
      · simp only at h
        split at h
        · cases h; exact (List.dropWhile_sublist _).length_le
        · cases h
      · cases h

def scanFrom (p : Position) : List Char → Scan Token LexError
  | [] => .done
  | c :: cs =>
    if isBlank c then scanFrom (p.step c) cs
    else
      match h : next p c cs with
      | .error e => .fail e
      | .ok s =>
        have := next_rest_length h
        (scanFrom s.position s.rest).cons s.token
termination_by cs => cs.length
decreasing_by all_goals simp only [List.length_cons]; omega

def scan (s : String) : Scan Token LexError :=
  if s.utf8ByteSize ≤ maxLength then scanFrom .start s.toList else .fail (.tooLong s.utf8ByteSize)

end Token

end RowFilter.Filter
