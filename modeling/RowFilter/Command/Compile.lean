import RowFilter.Command.Error
import RowFilter.Json

namespace RowFilter

def Scalar.json : Scalar → Json
  | integer n => .integer n.toInt
  | decimal d => .string d.text
  | string s => .string s
  | boolean b => .boolean b

def Query.Select.json (q : Query.Select) : Json :=
  .ofMembers
    [("sql", .string q.sql),
      ("parameters", .ofMembers (q.bindings.entries.map fun (n, v) => (toString n, v.json)))]

namespace Command

open RowFilter.Filter

structure CompileOptions where
  filter? : Option String := none
  queryString? : Option String := none
  table : String := "entity"
  tableAlias : String := "e"
  fields : List String := []
  strict : Bool := false
  syntaxOnly : Bool := false
deriving DecidableEq, Repr

inductive CompileResult
  | valid (tree : Tree)
  | output (j : Json)

namespace CompileOptions

def parameter (o : CompileOptions) : Parameter :=
  { policy := if o.strict then .strict else .lenient }

def entity (o : CompileOptions) : Entity :=
  ⟨o.table, o.tableAlias, if o.fields.isEmpty then none else some o.fields⟩

def request? (o : CompileOptions) : Option Request :=
  match o.queryString?, o.filter? with
  | some s, _ => some (.ofQueryString s)
  | none, some f => some (Request.empty.addQuery o.parameter.name f)
  | none, none => none

def check (o : CompileOptions) (r : Request) : Except CommandError CompileResult :=
  match r.query? o.parameter.name with
  | none => .error .noFilter
  | some text =>
    match Tree.ofText text with
    | .error e => .error (.filter (.read e))
    | .ok t => .ok (.valid t)

def compile (o : CompileOptions) : Except CommandError CompileResult :=
  match o.request? with
  | none => .error .noFilter
  | some r =>
    if o.syntaxOnly then o.check r
    else
      match o.parameter.apply r o.entity.target o.entity.select with
      | .error e => .error (.filter e)
      | .ok q? => .ok (.output (q?.getD o.entity.select).json)

end CompileOptions

end Command

end RowFilter
