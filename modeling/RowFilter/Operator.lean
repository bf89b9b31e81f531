/-! The operators that filters and SQL conditions have in common. -/

namespace RowFilter

inductive Comparison
  | eq | ne | gt | gte | lt | lte | like
deriving DecidableEq, Repr

inductive Connective
  | and | or
deriving DecidableEq, Repr

inductive Test
  | comparison (c : Comparison)
  | membership (negated : Bool)
  | nullity (negated : Bool)
deriving DecidableEq, Repr

inductive Operator
  | connective (c : Connective)
  | test (t : Test)
deriving DecidableEq, Repr

def Comparison.word : Comparison → String
  | .eq => "eq"
  | .ne => "ne"
  | .gt => "gt"
  | .gte => "gte"
  | .lt => "lt"
  | .lte => "lte"
  | .like => "like"

def Comparison.sql : Comparison → String
  | .eq => "="
  | .ne => "<>"
  | .gt => ">"
  | .gte => ">="
  | .lt => "<"
  | .lte => "<="
  | .like => "LIKE"

def Connective.word : Connective → String
  | .and => "and"
  | .or => "or"

def Connective.sql : Connective → String
  | .and => "AND"
  | .or => "OR"

def Test.sql : Test → String
  | .comparison c => c.sql
  | .membership false => "IN"
  | .membership true => "NOT IN"
  | .nullity false => "IS NULL"
  | .nullity true => "IS NOT NULL"

def Operator.sql : Operator → String
  | .connective c => c.sql
  | .test t => t.sql

end RowFilter
