import RowFilter.Config.Error

namespace RowFilter.Config

inductive Resolved
  | nothing
  | path (segments : List String)
  | entry (key : String) (v : Value)
  | value (v : Value)

def Resolved.shown : Resolved → String
  | nothing => "Nothing"
  | path segments => "Path([" ++ ", ".intercalate (segments.map Text.shown) ++ "])"
  | entry key v => "Entry(" ++ Text.shown key ++ ", " ++ v.shown ++ ")"
  | value v => "Value(" ++ v.shown ++ ")"

namespace Tree

def malformed {α : Type} (t : Tree) (m : Malformed) : Except ConfigError α :=
  .error (.malformedTree m t.position)

def key? : Tree → Option String
  | .node .identifier (.string name) _ _ => some name
  | _ => none

def expectValue (t : Tree) : Except ConfigError Resolved → Except ConfigError Value
  | .error e => .error e
  | .ok (.value v) => .ok v
  | .ok _ => t.malformed .notValue

mutual

def resolve : Tree → Except ConfigError Resolved
  | .node .root _ _ _ => .ok .nothing
  | .node .block v p _ =>
    match v with
    | .string header => .ok (.path (Text.Dotted.split header))
    | _ => .error (.malformedTree .headerNotString p)
  | .node .assignment _ p children =>
    match children with
    | [k, v] =>
      match k.key? with
      | none => k.malformed .keyNotIdentifier
      | some name => (v.expectValue v.resolve).map (.entry name)
    | _ => .error (.malformedTree .assignmentShape p)
  | .node .array _ _ items => (resolveItems items).map fun vs => .value (.array vs)
  | .node _ v _ _ => .ok (.value v)

def resolveItems : List Tree → Except ConfigError (List Value)
  | [] => .ok []
  | t :: ts =>
    match t.expectValue t.resolve with
    | .error e => .error e
    | .ok v => (resolveItems ts).map (v :: ·)

end

end Tree

end RowFilter.Config
