import RowFilter.Config.Error
import RowFilter.Filter.Application

namespace RowFilter.Command

inductive CommandError
  | filter (e : Filter.ApplyError)
  | config (e : Config.ConfigError)
  | input (e : Config.FileError)
  | noFilter
  | noInput
  | missingKey (path : String)
deriving DecidableEq, Repr

def CommandError.message : CommandError → String
  | filter e => e.message
  | config e => "Config error: " ++ e.message
  | input e => "IO error: " ++ e.message
  | noFilter => "No filter given. Pass a filter argument or --query."
  | noInput => "No config input. Pass files or pipe a config to stdin."
  | missingKey path => s!"Key '{path}' not found"

end RowFilter.Command
