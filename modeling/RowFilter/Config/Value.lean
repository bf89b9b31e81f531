import RowFilter.Ordered
import RowFilter.Text.Shown

/-! Configuration values and tables. The entries of a table stand in increasing order of their keys.
-/

namespace RowFilter.Text.Dotted

def split (s : String) : List String := (s.toList.splitOn '.').map String.ofList

def join (segments : List String) : String := ".".intercalate segments

end RowFilter.Text.Dotted

namespace RowFilter.Config

inductive Value
  | string (s : String)
  | integer (n : Int64)
  | boolean (b : Bool)
  | array (items : List Value)
  | table (entries : List (String × Value))

abbrev Table := List (String × Value)

inductive Shape
  | string | integer | boolean | array | table
deriving DecidableEq, Repr

def Shape.text : Shape → String
  | .string => "string"
  | .integer => "integer"
  | .boolean => "boolean"
  | .array => "array"
  | .table => "table"

namespace Value

def shape : Value → Shape
  | string _ => .string
  | integer _ => .integer
  | boolean _ => .boolean
  | array _ => .array
  | table _ => .table

def string? : Value → Option String
  | string s => some s
  | _ => none

def integer? : Value → Option Int64
  | integer n => some n
  | _ => none

def boolean? : Value → Option Bool
  | boolean b => some b
  | _ => none

def array? : Value → Option (List Value)
  | array items => some items
  | _ => none

def table? : Value → Option Table
  | table t => some t
  | _ => none

mutual

def shown : Value → String
  | string s => "String(" ++ Text.shown s ++ ")"
  | integer n => "Integer(" ++ toString n.toInt ++ ")"
  | boolean b => if b then "Boolean(true)" else "Boolean(false)"
  | array items => "Array([" ++ ", ".intercalate (shownItems items) ++ "])"
  | table entries => "Table(\x7b" ++ ", ".intercalate (shownEntries entries) ++ "\x7d)"

def shownItems : List Value → List String
  | [] => []
  | v :: vs => v.shown :: shownItems vs

def shownEntries : List (String × Value) → List String
  | [] => []
  | (k, v) :: es => (Text.shown k ++ ": " ++ v.shown) :: shownEntries es

end

mutual

/-- Whether the entries of all tables in a value are in order. -/
def Ordered : Value → Prop
  | array items => AllOrdered items
  | table entries => RowFilter.Ordered.Increasing entries ∧ EntriesOrdered entries
  | _ => True

def AllOrdered : List Value → Prop
  | [] => True
  | v :: vs => v.Ordered ∧ AllOrdered vs

def EntriesOrdered : List (String × Value) → Prop
  | [] => True
  | (_, v) :: es => v.Ordered ∧ EntriesOrdered es

end

end Value

namespace Table

def get? (t : Table) (key : String) : Option Value := t.lookup key

def insert (t : Table) (key : String) (v : Value) : Table := Ordered.insert key v t

def find? (t : Table) : List String → Option Value
  | [] => none
  | [key] => t.get? key
  | key :: keys =>
    match t.get? key with
    | some (.table inner) => find? inner keys
    | _ => none

end Table

end RowFilter.Config
