import RowFilter.Command.Arguments

namespace RowFilter.Command

structure Outcome where
  code : UInt8
  stdout : String
  stderr : String
deriving DecidableEq, Repr

def usage : String :=
  "Usage: fql compile [FILTER] [--query QUERY] [--table TABLE] [--alias ALIAS]\n" ++
  "                   [--fields FIELDS] [--strict] [--pretty] [--syntax-only]\n" ++
  "       fql config [FILES] [--get KEY] [--pretty] [--syntax-only]\n"

def version : String := "fql 0.1.0\n"

namespace Outcome

def success (line : String) : Outcome := ⟨0, line ++ "\n", ""⟩

def failure (e : CommandError) : Outcome := ⟨1, "", e.message ++ "\n"⟩

def ofStop : Stop → Outcome
  | .usage => ⟨2, "", usage⟩
  | .help => ⟨0, usage, ""⟩
  | .version => ⟨0, version, ""⟩

def ofJson (pretty : Bool) (j : Json) : Outcome :=
  success (j.write (if pretty then .pretty 0 else .compact))

def ofCompile (pretty : Bool) : Except CommandError CompileResult → Outcome
  | .error e => failure e
  | .ok (.valid t) => success ("Syntax is valid: " ++ t.text)
  | .ok (.output j) => ofJson pretty j

def ofDump (pretty : Bool) : Except CommandError DumpResult → Outcome
  | .error e => failure e
  | .ok .valid => success "Syntax is valid"
  | .ok (.output j) => ofJson pretty j

end Outcome

namespace Invocation

def files : Invocation → List String
  | compile _ _ => []
  | dump o _ => o.files

def readsInput : Invocation → Bool
  | compile _ _ => false
  | dump o _ => o.files.isEmpty

def run (input : List UInt8) (files : Config.Files) : Invocation → Outcome
  | compile o pretty => .ofCompile pretty o.compile
  | dump o pretty =>
    if o.files.isEmpty then
      match Text.Utf8.decode? input with
      | none => .failure (.input .invalidUtf8)
      | some source => .ofDump pretty ({ o with input? := some source }.dump files)
    else .ofDump pretty (o.dump files)

end Invocation

def run (args : List String) (input : List UInt8) (files : Config.Files) : Outcome :=
  match invocation args with
  | .error e => .ofStop e
  | .ok i => i.run input files

end RowFilter.Command
