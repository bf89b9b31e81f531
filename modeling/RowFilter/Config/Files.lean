import RowFilter.Config.Evaluation
import RowFilter.Text.Utf8

namespace RowFilter.Config

def Files := String → Option (List UInt8)

namespace Files

def ofList (files : List (String × List UInt8)) : Files := fun name => files.lookup name

def read (files : Files) (name : String) : Except ConfigError String :=
  match files name with
  | none => .error (.file name .notFound)
  | some bytes =>
    match Text.Utf8.decode? bytes with
    | none => .error (.file name .invalidUtf8)
    | some source => .ok source

def load (files : Files) (name : String) : Except ConfigError Table :=
  (files.read name).bind Table.ofText

def mergeFile (files : Files) (t : Table) (name : String) : Except ConfigError Table :=
  match files.load name with
  | .error e => .error e
  | .ok new => (t.merge new).result.mapError .conflict

def loadAll (files : Files) (names : List String) : Except ConfigError Table :=
  names.foldlM files.mergeFile []

end Files

end RowFilter.Config
