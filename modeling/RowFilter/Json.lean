import RowFilter.Ordered

/-! JSON documents of strings, integers, booleans, arrays and objects, on one line or indented. -/

namespace RowFilter

inductive Json
  | string (s : String)
  | integer (n : Int)
  | boolean (b : Bool)
  | array (items : List Json)
  | object (members : List (String × Json))

namespace Json

def ofMembers (members : List (String × Json)) : Json := object (Ordered.ofList members)

def escapeChar (c : Char) : List Char :=
  match c with
  | '"' => ['\\', '"']
  | '\\' => ['\\', '\\']
  | '\n' => ['\\', 'n']
  | '\r' => ['\\', 'r']
  | '\t' => ['\\', 't']
  | '\x08' => ['\\', 'b']
  | '\x0c' => ['\\', 'f']
  | c =>
    if c.toNat < 0x20 then
      ['\\', 'u', '0', '0', Nat.digitChar (c.toNat / 16), Nat.digitChar (c.toNat % 16)]
    else [c]

def quote (s : String) : String :=
  String.ofList ('"' :: s.toList.flatMap escapeChar ++ ['"'])

inductive Layout
  | compact
  | pretty (level : Nat)
deriving DecidableEq, Repr

namespace Layout

def inner : Layout → Layout
  | compact => compact
  | pretty level => pretty (level + 1)

def lineBreak : Layout → String
  | compact => ""
  | pretty level => String.ofList ('\n' :: List.replicate (2 * level) ' ')

def colon : Layout → String
  | compact => ":"
  | pretty _ => ": "

def enclose (l : Layout) (opening closing : String) : List String → String
  | [] => opening ++ closing
  | items =>
    opening ++ l.inner.lineBreak ++ ("," ++ l.inner.lineBreak).intercalate items ++
      l.lineBreak ++ closing

end Layout

mutual

def write (l : Layout) : Json → String
  | string s => quote s
  | integer n => toString n
  | boolean b => if b then "true" else "false"
  | array items => l.enclose "[" "]" (writeItems l.inner items)
  | object members => l.enclose "\x7b" "\x7d" (writeMembers l.inner members)

def writeItems (l : Layout) : List Json → List String
  | [] => []
  | j :: js => j.write l :: writeItems l js

def writeMembers (l : Layout) : List (String × Json) → List String
  | [] => []
  | (name, j) :: ms => (quote name ++ l.colon ++ j.write l) :: writeMembers l ms

end

end Json

end RowFilter
