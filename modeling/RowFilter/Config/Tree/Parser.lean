import RowFilter.Config.Token.Lexer
import RowFilter.Config.Tree

/-! Configuration trees from tokens, one token at a time. -/

namespace RowFilter.Config

inductive Expected
  | kind (k : Kind)
  | header | propertyOrHeader | value | integerInRange
deriving DecidableEq, Repr

def Expected.text : Expected → String
  | kind k => k.text
  | header => "block header"
  | propertyOrHeader => "property name or block header"
  | value => "value"
  | integerInRange => "integer within range"

inductive ParseError
  | unexpectedToken (expected : Expected) (found : Token)
  | unexpectedEnd (expected : Expected)
  | propertyOutsideBlock (key : String) (p : Position)
  | invalidHeader (header : String) (p : Position)
deriving DecidableEq, Repr

def ParseError.message : ParseError → String
  | unexpectedToken e t =>
    s!"Expected {e.text}, found {t.kind.text} '{t.lexeme}' at {placeText t.position}"
  | unexpectedEnd e => s!"Expected {e.text}, found end of input"
  | propertyOutsideBlock key p =>
    s!"Property '{key}' at {placeText p} appears before any block header"
  | invalidHeader header p => s!"Invalid block header '[{header}]' at {placeText p}"

def isName (cs : List Char) : Bool :=
  match cs with
  | [] => false
  | c :: cs => Token.isIdentifierStart c && cs.all Token.isIdentifierChar

def isHeader (header : String) : Bool := (header.toList.splitOn '.').all isName

namespace Tree

structure Key where
  name : String
  position : Position
deriving DecidableEq, Repr

structure OpenArray where
  position : Position
  items : List Tree

structure OpenBlock where
  header : String
  position : Position
  assignments : List Tree

def OpenBlock.tree (b : OpenBlock) : Tree := block b.header b.position b.assignments.reverse

inductive Phase
  | statement
  | assign (key : Key)
  | value (key : Key) (arrays : List OpenArray)
  | itemEnd (key : Key) (innermost : OpenArray) (arrays : List OpenArray)

structure State where
  phase : Phase
  block? : Option OpenBlock
  blocks : List Tree

namespace State

def initial : State := ⟨.statement, none, []⟩

def expected (s : State) : Expected :=
  match s.phase, s.block? with
  | .statement, none => .header
  | .statement, some _ => .propertyOrHeader
  | .assign _, _ => .kind .assign
  | .value _ _, _ => .value
  | .itemEnd _ _ _, _ => .kind .comma

def unexpected (s : State) (t : Token) : Except ParseError State :=
  .error (.unexpectedToken s.expected t)

def enter (s : State) (p : Phase) : Except ParseError State := .ok { s with phase := p }

def allBlocks (s : State) : List Tree :=
  match s.block? with
  | none => s.blocks
  | some b => b.tree :: s.blocks

def addAssignment (s : State) (t : Tree) : State :=
  { s with
    phase := .statement
    block? := s.block?.map fun b => { b with assignments := t :: b.assignments } }

def addValue (s : State) (key : Key) (v : Tree) : List OpenArray → State
  | [] => s.addAssignment (assignment key.name key.position v)
  | a :: arrays => { s with phase := .itemEnd key { a with items := v :: a.items } arrays }

def closeArray (s : State) (key : Key) (a : OpenArray) (arrays : List OpenArray) : State :=
  s.addValue key (inner .array a.position a.items.reverse) arrays

def readStatement (s : State) (t : Token) : Except ParseError State :=
  match t.kind, s.block? with
  | .header, _ =>
    if isHeader t.lexeme then .ok ⟨.statement, some ⟨t.lexeme, t.position, []⟩, s.allBlocks⟩
    else .error (.invalidHeader t.lexeme t.position)
  | .identifier, none => .error (.propertyOutsideBlock t.lexeme t.position)
  | .identifier, some _ => s.enter (.assign ⟨t.lexeme, t.position⟩)
  | _, _ => s.unexpected t

def readValue (s : State) (key : Key) (arrays : List OpenArray) (t : Token) :
    Except ParseError State :=
  let literal (kind : NodeKind) (v : Value) : Except ParseError State :=
    .ok (s.addValue key (leaf kind v t.position) arrays)
  match t.kind, arrays with
  | .openBracket, _ => s.enter (.value key (⟨t.position, []⟩ :: arrays))
  | .closeBracket, a :: rest => .ok (s.closeArray key a rest)
  | .string, _ => literal .string (.string t.lexeme)
  | .boolean, _ => literal .boolean (.boolean (t.lexeme == "true"))
  | .integer, _ =>
    match Number.int64? t.lexeme.toList with
    | some n => literal .integer (.integer n)
    | none => .error (.unexpectedToken .integerInRange t)
  | _, _ => s.unexpected t

def step (s : State) (t : Token) : Except ParseError State :=
  match s.phase with
  | .statement => s.readStatement t
  | .assign key => if t.kind = .assign then s.enter (.value key []) else s.unexpected t
  | .value key arrays => s.readValue key arrays t
  | .itemEnd key a arrays =>
    match t.kind with
    | .comma => s.enter (.value key (a :: arrays))
    | .closeBracket => .ok (s.closeArray key a arrays)
    | _ => s.unexpected t

def finish (s : State) : Except ParseError Tree :=
  match s.phase with
  | .statement => .ok (root s.allBlocks.reverse)
  | _ => .error (.unexpectedEnd s.expected)

end State

def ofTokens (ts : List Token) : Except ParseError Tree :=
  (ts.foldlM State.step State.initial).bind State.finish

end Tree

end RowFilter.Config
