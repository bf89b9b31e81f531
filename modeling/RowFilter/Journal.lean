import RowFilter.Command.Compile
import RowFilter.Command.Dump

/-! What the operations of the library have to say about their course. The results do not depend on
it. -/

namespace RowFilter

inductive Entry
  | filterTokens (count : Nat)
  | conjuncts (count : Nat)
  | bound (predicates values : Nat)
  | noParameter (name : String)
  | ignored (name : String) (e : Filter.FilterError)
  | invalidRouteName (name : String)
  | configTokens (count : Nat)
  | blocks (count : Nat)
  | loading (file : String)
deriving DecidableEq, Repr

inductive Level
  | debug | warn
deriving DecidableEq, Repr

namespace Entry

def level : Entry → Level
  | ignored _ _ => .warn
  | invalidRouteName _ => .warn
  | _ => .debug

def text : Entry → String
  | filterTokens n => s!"fql lexer produced {n} tokens"
  | conjuncts n => s!"fql parser built {n} top-level conjuncts"
  | bound p v => s!"fql compiled {p} predicates with {v} bound parameters"
  | noParameter name => s!"no '{name}' parameter, query left unfiltered"
  | ignored name e => s!"ignoring malformed '{name}' parameter: {e.message}"
  | invalidRouteName name => s!"route parameter '{name}' is not a valid column name, skipped"
  | configTokens n => s!"config lexer produced {n} tokens"
  | blocks n => s!"config parser built {n} blocks"
  | loading file => s!"loading config from {file}"

def line (e : Entry) : String :=
  match e.level with
  | .debug => "DEBUG: " ++ e.text
  | .warn => "WARN: " ++ e.text

end Entry

namespace Journal

def scanFilter (text : String) : List Entry :=
  match (Filter.Token.scan text).result with
  | .error _ => []
  | .ok ts => [.filterTokens ts.length]

def parseFilter (ts : List Filter.Token) : List Entry :=
  match Filter.Tree.ofTokens ts with
  | .ok (.operator _ _ children) => [.conjuncts children.length]
  | _ => []

def readFilter (text : String) : List Entry :=
  scanFilter text ++
    match (Filter.Token.scan text).result with
    | .error _ => []
    | .ok ts => parseFilter ts

def narrow (q : Query.Select) (t : Filter.Target) (tree : Filter.Tree) : List Entry :=
  match tree.bind t q.bindings.next with
  | .error _ => []
  | .ok b => [.bound b.predicate.leafCount b.values.length]

def findFilter (p : Filter.Parameter) (r : Request) : List Entry :=
  match r.query? p.name with
  | none => [.noParameter p.name]
  | some text =>
    readFilter text ++
      match Filter.Tree.ofText text, p.policy with
      | .error e, .lenient => [.ignored p.name e]
      | _, _ => []

def apply (p : Filter.Parameter) (r : Request) (t : Filter.Target) (q : Query.Select) :
    List Entry :=
  findFilter p r ++
    match p.tree? r with
    | .ok (some tree) => narrow q t tree
    | _ => []

def scopeByRoute (names : List String) : List Entry :=
  (names.filter (!Filter.isValidKey ·)).map .invalidRouteName

def scanConfig (source : String) : List Entry :=
  match (Config.Token.scan source).result with
  | .error _ => []
  | .ok ts => [.configTokens ts.length]

def parseConfig (ts : List Config.Token) : List Entry :=
  match Config.Tree.ofTokens ts with
  | .error _ => []
  | .ok t => [.blocks t.children.length]

def readConfig (source : String) : List Entry :=
  scanConfig source ++
    match (Config.Token.scan source).result with
    | .error _ => []
    | .ok ts => parseConfig ts

def loadFile (files : Config.Files) (name : String) : List Entry :=
  match files.read name with
  | .error _ => []
  | .ok source => .loading name :: readConfig source

def loadFiles (files : Config.Files) (t : Config.Table) : List String → List Entry
  | [] => []
  | name :: names =>
    loadFile files name ++
      match files.mergeFile t name with
      | .error _ => []
      | .ok t' => loadFiles files t' names

def compile (o : Command.CompileOptions) : List Entry :=
  match o.request? with
  | none => []
  | some r =>
    if o.syntaxOnly then ((r.query? o.parameter.name).map readFilter).getD []
    else apply o.parameter r o.entity.target o.entity.select

def dump (o : Command.DumpOptions) (files : Config.Files) : List Entry :=
  match o.files, o.input? with
  | [], none => []
  | [], some source => readConfig source
  | names, _ => loadFiles files [] names

end Journal

end RowFilter
