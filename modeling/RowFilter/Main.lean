import RowFilter.Command.Run

namespace RowFilter.Command

def readFiles : List String → IO (List (String × List UInt8))
  | [] => return []
  | name :: names => do
    let contents? ← try
      let bytes ← IO.FS.readBinFile name
      pure (some bytes.toList)
    catch _ => pure none
    let rest ← readFiles names
    return match contents? with
      | none => rest
      | some contents => (name, contents) :: rest

def outcome (args : List String) : IO Outcome :=
  match invocation args with
  | .error e => return .ofStop e
  | .ok i => do
    let input ← if i.readsInput then (← IO.getStdin).readBinToEnd else pure ByteArray.empty
    let files ← readFiles i.files
    return i.run input.toList (Config.Files.ofList files)

end RowFilter.Command

def main (args : List String) : IO UInt32 := do
  let outcome ← RowFilter.Command.outcome args
  IO.print outcome.stdout
  IO.eprint outcome.stderr
  return outcome.code.toUInt32
