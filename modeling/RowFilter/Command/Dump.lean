import RowFilter.Command.Error
import RowFilter.Config.Files

namespace RowFilter.Command

open Config

structure DumpOptions where
  files : List String := []
  input? : Option String := none
  get? : Option String := none
  syntaxOnly : Bool := false
deriving DecidableEq, Repr

inductive DumpResult
  | valid
  | output (j : Json)

namespace DumpOptions

def table (o : DumpOptions) (files : Files) : Except CommandError Table :=
  match o.files, o.input? with
  | [], none => .error .noInput
  | [], some source => (Table.ofText source).mapError .config
  | names, _ => (files.loadAll names).mapError .config

def dump (o : DumpOptions) (files : Files) : Except CommandError DumpResult :=
  match o.table files with
  | .error e => .error e
  | .ok t =>
    if o.syntaxOnly then .ok .valid
    else
      match o.get? with
      | none => .ok (.output t.json)
      | some path =>
        match t.at? path with
        | none => .error (.missingKey path)
        | some v => .ok (.output v.json)

end DumpOptions

end RowFilter.Command
