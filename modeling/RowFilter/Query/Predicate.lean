import RowFilter.Operator

/-! Conditions of a query. Values do not occur in them; the query binds values to the placeholders.
-/

namespace RowFilter.Query

inductive Predicate
  | comparison (column : String) (op : Comparison) (placeholder : String)
  | membership (column : String) (negated : Bool) (placeholders : List String)
  | nullity (column : String) (negated : Bool)
  | junction (c : Connective) (parts : List Predicate)

def emptyJunction : Connective → String
  | .and => "1 = 1"
  | .or => "1 = 0"

def joinParts (c : Connective) : List String → String
  | [] => emptyJunction c
  | [part] => part
  | parts => "(" ++ (" " ++ c.sql ++ " ").intercalate parts ++ ")"

def placeholder (n : Nat) : String := "?" ++ toString n

namespace Predicate

mutual

def sql : Predicate → String
  | comparison column op placeholder => column ++ " " ++ op.sql ++ " " ++ placeholder
  | membership column negated placeholders =>
    column ++ " " ++ (Test.membership negated).sql ++ " (" ++
      ", ".intercalate placeholders ++ ")"
  | nullity column negated => column ++ " " ++ (Test.nullity negated).sql
  | junction c parts => joinParts c (sqls parts)

def sqls : List Predicate → List String
  | [] => []
  | p :: ps => p.sql :: sqls ps

end

mutual

def leafCount : Predicate → Nat
  | junction _ parts => leafCounts parts
  | _ => 1

def leafCounts : List Predicate → Nat
  | [] => 0
  | p :: ps => p.leafCount + leafCounts ps

end

end Predicate

end RowFilter.Query
