import RowFilter.Text.Shown

/-! Numbers and single values. A decimal is exact, keeps its scale, and is never rounded; zero has no
sign. -/

namespace RowFilter.Number

def isDigits (cs : List Char) : Bool := !cs.isEmpty && cs.all Char.isDigit

def ofDigits (cs : List Char) : Nat := cs.foldl (fun n c => 10 * n + (c.toNat - '0'.toNat)) 0

def splitSign : List Char → Bool × List Char
  | '-' :: cs => (true, cs)
  | '+' :: cs => (false, cs)
  | cs => (false, cs)

def withSign (negative : Bool) (n : Nat) : Int := if negative then -n else n

def int64? (cs : List Char) : Option Int64 :=
  let (negative, digits) := splitSign cs
  let n := withSign negative (ofDigits digits)
  if isDigits digits && Int64.minValue.toInt ≤ n && n ≤ Int64.maxValue.toInt then
    some (Int64.ofInt n)
  else none

end RowFilter.Number

namespace RowFilter

def Decimal.limit : Nat := 0x1000000000000000000000000

structure Decimal where
  coefficient : Int
  scale : Nat
  coefficient_lt : coefficient.natAbs < Decimal.limit := by decide
  scale_le : scale ≤ 28 := by decide
deriving DecidableEq

namespace Decimal

open Number

def ofParts? (coefficient : Int) (scale : Nat) : Option Decimal :=
  if h : coefficient.natAbs < limit ∧ scale ≤ 28 then some ⟨coefficient, scale, h.1, h.2⟩
  else none

/-- What has been read of a number: its value without the point, whether a digit has been read, and
once the point has been read, how many digits stand behind it. -/
structure Reading where
  value : Nat
  started : Bool
  scale? : Option Nat
deriving DecidableEq, Repr

/-- Reads digits with at most one point among them. Underscores may stand behind the first digit;
behind the twenty-eighth digit of a fraction nothing may stand. -/
def read? (r : Reading) : List Char → Option Reading
  | [] => if r.started then some r else none
  | c :: cs =>
    if r.scale? = some 28 then none
    else if c.isDigit then
      read? ⟨10 * r.value + (c.toNat - '0'.toNat), true, r.scale?.map (· + 1)⟩ cs
    else if c = '.' ∧ r.scale? = none then read? { r with scale? := some 0 } cs
    else if c = '_' ∧ r.started then read? r cs
    else none

def ofText? (cs : List Char) : Option Decimal :=
  let (negative, unsigned) := splitSign cs
  (read? ⟨0, false, none⟩ unsigned).bind fun r =>
    ofParts? (withSign negative r.value) (r.scale?.getD 0)

def text (d : Decimal) : String :=
  let digits := Nat.toDigits 10 d.coefficient.natAbs
  let padded := List.replicate (d.scale + 1 - digits.length) '0' ++ digits
  let whole := padded.length - d.scale
  let point := if d.scale = 0 then [] else '.' :: padded.drop whole
  String.ofList ((if d.coefficient < 0 then ['-'] else []) ++ padded.take whole ++ point)

end Decimal

inductive Scalar
  | integer (n : Int64)
  | decimal (d : Decimal)
  | string (s : String)
  | boolean (b : Bool)
deriving DecidableEq

def Scalar.text : Scalar → String
  | .integer n => toString n.toInt
  | .decimal d => d.text
  | .string s => Text.shown s
  | .boolean b => if b then "true" else "false"

end RowFilter
