import RowFilter.Filter.Token.Lexer
import RowFilter.Filter.Tree.Parser

namespace RowFilter.Filter

inductive FilterError
  | lex (e : LexError)
  | parse (e : ParseError)
deriving DecidableEq, Repr

namespace FilterError

def message : FilterError → String
  | lex e => "Invalid filter: " ++ e.message
  | parse e => "Invalid filter: " ++ e.message

def position? : FilterError → Option Position
  | lex e => e.position?
  | parse e => e.position?

end FilterError

def Tree.ofText (s : String) : Except FilterError Tree :=
  match (Token.scan s).result with
  | .error e => .error (.lex e)
  | .ok ts => (Tree.ofTokens ts).mapError .parse

end RowFilter.Filter
