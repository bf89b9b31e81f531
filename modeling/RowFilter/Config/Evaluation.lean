import RowFilter.Config.Resolve
import RowFilter.Json

/-! The tables that a source builds up. A block opens a table, and an assignment merges its value
into the table of its block. -/

namespace RowFilter.Config

namespace Table

/-- The table under a key, which is empty if there is none yet. Before the key there stand the keys
`seen`. -/
def innerAt (t : Table) (seen : List String) (key : String) : Except Conflict Table :=
  match t.get? key with
  | none => .ok []
  | some (.table inner) => .ok inner
  | some v => .error ⟨seen ++ [key], v.shape⟩

def modifyAt (f : Table → Except Conflict Table) (seen : List String) :
    List String → Table → Except Conflict Table
  | [], t => f t
  | key :: keys, t =>
    match t.innerAt seen key with
    | .error c => .error c
    | .ok inner =>
      (modifyAt f (seen ++ [key]) keys inner).map fun changed => t.insert key (.table changed)

def openAt (path : List String) (t : Table) : Except Conflict Table := modifyAt .ok [] path t

def assignAt (path : List String) (key : String) (v : Value) (t : Table) :
    Except Conflict Table :=
  modifyAt (fun inner => (inner.merge [(key, v)]).result) [] path t

end Table

namespace Tree

def assign (path : List String) (t : Table) (node : Tree) : Except ConfigError Table :=
  match node.resolve with
  | .error e => .error e
  | .ok (.entry key v) => (t.assignAt path key v).mapError .conflict
  | .ok r => node.malformed (.unexpected node.kind r.shown)

def openBlock (t : Table) (node : Tree) : Except ConfigError (List String × Table) :=
  match node.resolve with
  | .error e => .error e
  | .ok (.path path) =>
    match t.openAt path with
    | .error c => .error (.conflict c)
    | .ok t' => (node.children.foldlM (assign path) t').map fun t'' => (path, t'')
  | .ok r => node.malformed (.unexpected node.kind r.shown)

def evaluateNode (s : List String × Table) (node : Tree) :
    Except ConfigError (List String × Table) :=
  if node.kind = .block then node.openBlock s.2
  else (node.assign s.1 s.2).map fun t => (s.1, t)

def evaluate (t : Tree) : Except ConfigError Table :=
  (t.children.foldlM evaluateNode ([], [])).map (·.2)

def ofText (source : String) : Except ConfigError Tree :=
  match (Token.scan source).result with
  | .error e => .error (.lex e)
  | .ok ts => (ofTokens ts).mapError .parse

end Tree

namespace Table

def ofText (source : String) : Except ConfigError Table := (Tree.ofText source).bind Tree.evaluate

def at? (t : Table) (path : String) : Option Value := t.find? (Text.Dotted.split path)

end Table

mutual

def Value.json : Value → Json
  | .string s => .string s
  | .integer n => .integer n.toInt
  | .boolean b => .boolean b
  | .array items => .array (Value.jsonItems items)
  | .table entries => .object (Value.jsonEntries entries)

def Value.jsonItems : List Value → List Json
  | [] => []
  | v :: vs => v.json :: Value.jsonItems vs

def Value.jsonEntries : List (String × Value) → List (String × Json)
  | [] => []
  | (k, v) :: es => (k, v.json) :: Value.jsonEntries es

end

def Table.json (t : Table) : Json := (Value.table t).json

end RowFilter.Config
