import RowFilter.Text.Position

namespace RowFilter.Config

inductive Kind
  | header | identifier | assign | string | integer | boolean
  | openBracket | closeBracket | comma
deriving DecidableEq, Repr

def Kind.text : Kind → String
  | .header => "block header"
  | .identifier => "identifier"
  | .assign => "'='"
  | .string => "string"
  | .integer => "integer"
  | .boolean => "boolean"
  | .openBracket => "'['"
  | .closeBracket => "']'"
  | .comma => "','"

structure Token where
  kind : Kind
  lexeme : String
  position : Position
deriving DecidableEq, Repr

end RowFilter.Config
