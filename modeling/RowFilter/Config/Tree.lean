import RowFilter.Config.Value
import RowFilter.Text.Position

/-! Configuration sources as trees, which need not be well formed. -/

namespace RowFilter.Config

inductive NodeKind
  | root | block | assignment | identifier | string | integer | boolean | array
deriving DecidableEq, Repr

def NodeKind.text : NodeKind → String
  | .root => "Root"
  | .block => "Block"
  | .assignment => "Assignment"
  | .identifier => "Identifier"
  | .string => "String"
  | .integer => "Integer"
  | .boolean => "Boolean"
  | .array => "Array"

inductive Tree
  | node (kind : NodeKind) (value : Value) (position : Position) (children : List Tree)

namespace Tree

def kind : Tree → NodeKind
  | node k _ _ _ => k

def value : Tree → Value
  | node _ v _ _ => v

def position : Tree → Position
  | node _ _ p _ => p

def children : Tree → List Tree
  | node _ _ _ cs => cs

def inner (kind : NodeKind) (p : Position) (children : List Tree) : Tree :=
  node kind (.string "") p children

def leaf (kind : NodeKind) (v : Value) (p : Position) : Tree := node kind v p []

def root (blocks : List Tree) : Tree := inner .root .start blocks

def block (header : String) (p : Position) (assignments : List Tree) : Tree :=
  node .block (.string header) p assignments

def assignment (key : String) (p : Position) (v : Tree) : Tree :=
  inner .assignment p [leaf .identifier (.string key) p, v]

end Tree

end RowFilter.Config
