import RowFilter.Filter.Binding
import RowFilter.Filter.Reading
import RowFilter.Request

/-! Filters of requests. If a filter cannot be read, the policy decides whether the query runs
unfiltered. -/

namespace RowFilter.Filter

open Query

inductive Policy
  | lenient | strict
deriving DecidableEq, Repr

structure Parameter where
  name : String := "filter"
  policy : Policy := .lenient
deriving DecidableEq, Repr

inductive ApplyError
  | read (e : FilterError)
  | bind (e : BindError)
deriving DecidableEq, Repr

def ApplyError.message : ApplyError → String
  | read e => e.message
  | bind e => e.message

namespace Parameter

def tree? (p : Parameter) (r : Request) : Except FilterError (Option Tree) :=
  match r.query? p.name with
  | none => .ok none
  | some text =>
    match Tree.ofText text, p.policy with
    | .ok t, _ => .ok (some t)
    | .error _, .lenient => .ok none
    | .error e, .strict => .error e

def apply (p : Parameter) (r : Request) (t : Target) (q : Select) :
    Except ApplyError (Option Select) :=
  match p.tree? r with
  | .error e => .error (.read e)
  | .ok none => .ok none
  | .ok (some tree) =>
    match q.narrow t tree with
    | .error e => .error (.bind e)
    | .ok q' => .ok (some q')

end Parameter

end RowFilter.Filter

namespace RowFilter.Query.Select

def scope (q : Select) (name value : String) : Select :=
  let n := q.bindings.next
  (q.addWhere .and (.comparison (q.tableAlias ++ "." ++ name) .eq (placeholder n))).bind n
    (.string value)

def routeValue? (r : Request) (name : String) : Option String :=
  if Filter.isValidKey name then r.route? name else none

def scopeByRoute (r : Request) : List String → Select → Select × Nat
  | [], q => (q, 0)
  | name :: names, q =>
    match routeValue? r name with
    | none => scopeByRoute r names q
    | some value =>
      let (q', added) := scopeByRoute r names (q.scope name value)
      (q', added + 1)

end RowFilter.Query.Select
