import RowFilter.Config.Merge
import RowFilter.Config.Tree.Parser

namespace RowFilter.Config

inductive Malformed
  | headerNotString
  | assignmentShape
  | keyNotIdentifier
  | notValue
  | unexpected (kind : NodeKind) (resolved : String)
deriving DecidableEq, Repr

def Malformed.message : Malformed → String
  | headerNotString => "block header is not a string"
  | assignmentShape => "assignment needs a key and a value"
  | keyNotIdentifier => "assignment key is not an identifier"
  | notValue => "expected a value node"
  | unexpected kind resolved => s!"{kind.text} node resolved to {resolved}"

inductive FileError
  | notFound
  | invalidUtf8
deriving DecidableEq, Repr

def FileError.message : FileError → String
  | notFound => "No such file or directory (os error 2)"
  | invalidUtf8 => "stream did not contain valid UTF-8"

inductive ConfigError
  | lex (e : LexError)
  | parse (e : ParseError)
  | file (name : String) (e : FileError)
  | conflict (c : Conflict)
  | malformedTree (m : Malformed) (p : Position)
deriving DecidableEq, Repr

def ConfigError.message : ConfigError → String
  | lex e => "Lex error: " ++ e.message
  | parse e => "Parse error: " ++ e.message
  | file name e => s!"Failed to read {name}: {e.message}"
  | conflict c => c.message
  | malformedTree m p => s!"Malformed config tree at {placeText p}: {m.message}"

end RowFilter.Config
