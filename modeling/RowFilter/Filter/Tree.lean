import RowFilter.Operator
import RowFilter.Scalar
import RowFilter.Text.Position

/-! Filters as trees, which need not be well formed: what a tree means is found out when it is
bound. -/

namespace RowFilter.Filter

inductive Literal
  | scalar (s : Scalar)
  | null
  | list (items : List Literal)

inductive Tree
  | operator (op : Operator) (position : Position) (children : List Tree)
  | operand (key : String) (value : Literal) (children : List Tree)

mutual

def Literal.text : Literal → String
  | .scalar s => s.text
  | .null => "null"
  | .list items => "[" ++ ", ".intercalate (Literal.texts items) ++ "]"

def Literal.texts : List Literal → List String
  | [] => []
  | l :: ls => l.text :: Literal.texts ls

end

namespace Literal

def scalar? : Literal → Option Scalar
  | scalar s => some s
  | null => none
  | list _ => none

def isNull : Literal → Bool
  | null => true
  | _ => false

end Literal

namespace Tree

def test (t : Test) (p : Position) (key : String) (value : Literal) : Tree :=
  .operator (.test t) p [.operand key value []]

mutual

def text : Tree → String
  | .operator op _ children => "(" ++ op.sql ++ texts children ++ ")"
  | .operand key .null _ => key
  | .operand key value _ => key ++ " " ++ value.text

def texts : List Tree → String
  | [] => ""
  | t :: ts => " " ++ t.text ++ texts ts

end

end Tree

end RowFilter.Filter
