import RowFilter.Operator
import RowFilter.Text.Position

namespace RowFilter.Filter

inductive Kind
  | word | integer | decimal | string
  | colon | comma | openBracket | closeBracket
  | comparison (c : Comparison)
  | connective (c : Connective)
  | boolean (b : Bool)
  | null
deriving DecidableEq, Repr

namespace Kind

def keywords : List (String × Kind) :=
  [("eq", .comparison .eq), ("ne", .comparison .ne), ("gt", .comparison .gt),
    ("gte", .comparison .gte), ("lt", .comparison .lt), ("lte", .comparison .lte),
    ("like", .comparison .like), ("and", .connective .and), ("or", .connective .or),
    ("true", .boolean true), ("false", .boolean false), ("null", .null)]

def ofKeyword? (word : String) : Option Kind := keywords.lookup (word.map Char.toLower)

def text : Kind → String
  | .word => "word"
  | .integer => "integer"
  | .decimal => "decimal"
  | .string => "string"
  | .colon => "':'"
  | .comma => "','"
  | .openBracket => "'['"
  | .closeBracket => "']'"
  | .comparison c => s!"'{c.word}'"
  | .connective c => s!"'{c.word}'"
  | .boolean true => "'true'"
  | .boolean false => "'false'"
  | .null => "'null'"

def isComparison : Kind → Bool
  | .comparison _ => true
  | _ => false

end Kind

structure Token where
  kind : Kind
  lexeme : String
  position : Position
deriving DecidableEq, Repr

end RowFilter.Filter
