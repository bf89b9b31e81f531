import RowFilter.Filter.Tree
import RowFilter.Query.Select

/-! Filters bound to a query. Fields become columns, and values placeholders that are numbered on
from the last one bound. -/

namespace RowFilter.Filter

open Query

structure Target where
  tableAlias : String
  allows : String → Bool

structure Entity where
  table : String
  tableAlias : String
  fields? : Option (List String)

namespace Entity

def target (e : Entity) : Target :=
  ⟨e.tableAlias, fun key => match e.fields? with
    | none => true
    | some fields => fields.contains key⟩

def select (e : Entity) : Select := .ofTable e.table e.tableAlias

end Entity

inductive Malformed
  | strayOperand
  | operandCount
  | notScalar (key : String)
  | notList (key : String)
  | itemNotScalar (key : String)
deriving DecidableEq, Repr

def Malformed.message : Malformed → String
  | strayOperand => "operand found outside of an operator"
  | operandCount => "comparison needs exactly one key/value operand"
  | notScalar key => s!"comparison on '{key}' has no scalar value"
  | notList key => s!"set operation on '{key}' has no list value"
  | itemNotScalar key => s!"list for '{key}' holds a non-scalar value"

inductive BindError
  | unknownField (key : String)
  | malformedTree (m : Malformed)
deriving DecidableEq, Repr

def BindError.message : BindError → String
  | unknownField key => s!"Field '{key}' cannot be filtered on"
  | malformedTree m => "Malformed filter tree: " ++ m.message

structure Bound where
  predicate : Predicate
  values : List Scalar

namespace Target

def column (t : Target) (key : String) : String := t.tableAlias ++ "." ++ key

end Target

def placeholders (n : Nat) : Nat → List String
  | 0 => []
  | m + 1 => placeholder n :: placeholders (n + 1) m

def Literal.scalars? : List Literal → Option (List Scalar)
  | [] => some []
  | l :: ls => l.scalar?.bind fun s => (Literal.scalars? ls).map (s :: ·)

namespace Tree

def operand? : List Tree → Option (String × Literal)
  | [.operand key value _] => some (key, value)
  | _ => none

def bindTest (t : Target) (n : Nat) (key : String) (value : Literal) :
    Test → Except BindError Bound
  | .comparison c =>
    match value.scalar? with
    | some s => .ok ⟨.comparison (t.column key) c (placeholder n), [s]⟩
    | none => .error (.malformedTree (.notScalar key))
  | .membership negated =>
    match value with
    | .list items =>
      match Literal.scalars? items with
      | some ss => .ok ⟨.membership (t.column key) negated (placeholders n ss.length), ss⟩
      | none => .error (.malformedTree (.itemNotScalar key))
    | _ => .error (.malformedTree (.notList key))
  | .nullity negated => .ok ⟨.nullity (t.column key) negated, []⟩

mutual

def bind (t : Target) (n : Nat) : Tree → Except BindError Bound
  | .operand _ _ _ => .error (.malformedTree .strayOperand)
  | .operator (.connective c) _ children =>
    match bindAll t n children with
    | .error e => .error e
    | .ok (ps, vs) => .ok ⟨.junction c ps, vs⟩
  | .operator (.test test) _ children =>
    match operand? children with
    | none => .error (.malformedTree .operandCount)
    | some (key, value) =>
      if t.allows key then bindTest t n key value test else .error (.unknownField key)

def bindAll (t : Target) (n : Nat) : List Tree → Except BindError (List Predicate × List Scalar)
  | [] => .ok ([], [])
  | c :: cs =>
    match bind t n c with
    | .error e => .error e
    | .ok b =>
      match bindAll t (n + b.values.length) cs with
      | .error e => .error e
      | .ok (ps, vs) => .ok (b.predicate :: ps, b.values ++ vs)

end

end Tree

end RowFilter.Filter

namespace RowFilter.Query.Select

open RowFilter.Filter

def narrow (q : Select) (target : Target) (tree : Tree) : Except BindError Select :=
  match tree.bind target q.bindings.next with
  | .error e => .error e
  | .ok b =>
    .ok ({ q with bindings := q.bindings.insertFrom q.bindings.next b.values }.addWhere .and
      b.predicate)

end RowFilter.Query.Select
