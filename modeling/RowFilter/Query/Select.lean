import RowFilter.Query.Bindings
import RowFilter.Query.Predicate

namespace RowFilter.Query

structure Select where
  table : String
  tableAlias : String
  where? : Option Predicate
  bindings : Bindings

namespace Select

def ofTable (table tableAlias : String) : Select := ⟨table, tableAlias, none, .empty⟩

def combine (c : Connective) (p : Predicate) : Option Predicate → Predicate
  | none => p
  | some (.junction d parts) =>
    if d = c then .junction c (parts ++ [p]) else .junction c [.junction d parts, p]
  | some q => .junction c [q, p]

def addWhere (q : Select) (c : Connective) (p : Predicate) : Select :=
  { q with where? := some (combine c p q.where?) }

def bind (q : Select) (n : Nat) (v : Scalar) : Select :=
  { q with bindings := q.bindings.insert n v }

def sql (q : Select) : String :=
  let select := "SELECT " ++ q.tableAlias ++ " FROM " ++ q.table ++ " " ++ q.tableAlias
  match q.where? with
  | none => select
  | some p => select ++ " WHERE " ++ p.sql

end Select

end RowFilter.Query
