import RowFilter.Command.Compile
import RowFilter.Command.Dump

/-! Command lines. Letters of options may share one hyphen, and behind `--` nothing is an option. -/

namespace RowFilter.Command

inductive Stop
  | usage | help | version
deriving DecidableEq, Repr

structure Switch where
  name : String
  letter? : Option Char
  takesValue : Bool
deriving DecidableEq, Repr

inductive Argument
  | flag (name : String)
  | option (name value : String)
  | positional (value : String)
deriving DecidableEq, Repr

def helpSwitch : Switch := ⟨"help", some 'h', false⟩

def versionSwitch : Switch := ⟨"version", some 'V', false⟩

def flag (s : Switch) : Except Stop Argument :=
  if s = helpSwitch then .error .help
  else if s = versionSwitch then .error .version
  else .ok (.flag s.name)

def cluster (switches : List Switch) : List Char → Except Stop (List Argument × Option Switch)
  | [] => .ok ([], none)
  | c :: cs =>
    match switches.find? (·.letter? = some c) with
    | none => .error .usage
    | some s =>
      if s.takesValue then
        match cs with
        | [] => .ok ([], some s)
        | '=' :: v => .ok ([.option s.name (String.ofList v)], none)
        | v => .ok ([.option s.name (String.ofList v)], none)
      else
        match flag s with
        | .error e => .error e
        | .ok a => (cluster switches cs).map fun (as, s?) => (a :: as, s?)

def long (switches : List Switch) (cs : List Char) :
    Except Stop (List Argument × Option Switch) :=
  let name := String.ofList (cs.takeWhile (· != '='))
  match switches.find? (·.name = name), cs.dropWhile (· != '=') with
  | none, _ => .error .usage
  | some s, [] => if s.takesValue then .ok ([], some s) else (flag s).map fun a => ([a], none)
  | some s, _ :: v =>
    if s.takesValue then .ok ([.option s.name (String.ofList v)], none) else .error .usage

def ofWord (switches : List Switch) (word : String) :
    Except Stop (List Argument × Option Switch) :=
  match word.toList with
  | '-' :: '-' :: cs => long switches cs
  | '-' :: c :: cs => cluster switches (c :: cs)
  | _ => .ok ([.positional word], none)

def looksLikeSwitch (word : String) : Bool :=
  match word.toList with
  | '-' :: _ :: _ => true
  | _ => false

def arguments (switches : List Switch) :
    Option Switch → List String → Except Stop (List Argument)
  | none, [] => .ok []
  | some _, [] => .error .usage
  | some s, w :: ws =>
    if looksLikeSwitch w then .error .usage
    else (arguments switches none ws).map (.option s.name w :: ·)
  | none, w :: ws =>
    if w = "--" then .ok (ws.map .positional)
    else
      match ofWord switches w with
      | .error e => .error e
      | .ok (as, s?) => (arguments switches s? ws).map (as ++ ·)

def Argument.value? (name : String) : Argument → Option String
  | option n v => if n = name then some v else none
  | _ => none

def values (name : String) (as : List Argument) : List String := as.filterMap (·.value? name)

def positionals (as : List Argument) : List String :=
  as.filterMap fun
    | .positional v => some v
    | _ => none

def atMostOnce (names : List String) (as : List Argument) : Bool :=
  names.all fun name => (values name as).length + as.count (.flag name) ≤ 1

def hasFlag (name : String) (as : List Argument) : Bool := as.contains (.flag name)

inductive Invocation
  | compile (o : CompileOptions) (pretty : Bool)
  | dump (o : DumpOptions) (pretty : Bool)
deriving DecidableEq, Repr

def compileSwitches : List Switch :=
  [⟨"query", some 'q', true⟩, ⟨"table", some 't', true⟩, ⟨"alias", some 'a', true⟩,
    ⟨"fields", some 'f', true⟩, ⟨"strict", none, false⟩, ⟨"pretty", some 'p', false⟩,
    ⟨"syntax-only", none, false⟩, helpSwitch]

def dumpSwitches : List Switch :=
  [⟨"get", some 'g', true⟩, ⟨"pretty", some 'p', false⟩, ⟨"syntax-only", none, false⟩, helpSwitch]

def fieldList (as : List Argument) : List String :=
  (values "fields" as).flatMap fun v => (v.toList.splitOn ',').map String.ofList

def compileInvocation (as : List Argument) : Except Stop Invocation :=
  if (positionals as).length ≤ 1 ∧
      atMostOnce ["query", "table", "alias", "strict", "pretty", "syntax-only"] as then
    .ok (.compile
      { filter? := (positionals as).head?
        queryString? := (values "query" as).head?
        table := (values "table" as).head?.getD "entity"
        tableAlias := (values "alias" as).head?.getD "e"
        fields := fieldList as
        strict := hasFlag "strict" as
        syntaxOnly := hasFlag "syntax-only" as }
      (hasFlag "pretty" as))
  else .error .usage

def dumpInvocation (as : List Argument) : Except Stop Invocation :=
  if atMostOnce ["get", "pretty", "syntax-only"] as then
    .ok (.dump
      { files := positionals as
        get? := (values "get" as).head?
        syntaxOnly := hasFlag "syntax-only" as }
      (hasFlag "pretty" as))
  else .error .usage

def invocation : List String → Except Stop Invocation
  | [] => .error .usage
  | "compile" :: ws => (arguments compileSwitches none ws).bind compileInvocation
  | "config" :: ws => (arguments dumpSwitches none ws).bind dumpInvocation
  | "help" :: _ => .error .help
  | w :: _ =>
    match ofWord [helpSwitch, versionSwitch] w with
    | .error e => .error e
    | .ok _ => .error .usage

end RowFilter.Command
