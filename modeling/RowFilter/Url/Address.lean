import RowFilter.Scalar

/-! Numeric host addresses. -/

namespace RowFilter.Url

open Number

def isHexDigit (c : Char) : Bool :=
  c.isDigit || ('a' ≤ c && c ≤ 'f') || ('A' ≤ c && c ≤ 'F')

def hexValue (c : Char) : Nat :=
  if c.isDigit then c.toNat - '0'.toNat else c.toLower.toNat - 'a'.toNat + 10

def ofBase (base : Nat) (cs : List Char) : Nat := cs.foldl (fun n c => base * n + hexValue c) 0

def ipv4Number? : List Char → Option Nat
  | [] => none
  | '0' :: 'x' :: cs => if cs.all isHexDigit then some (ofBase 16 cs) else none
  | '0' :: 'X' :: cs => if cs.all isHexDigit then some (ofBase 16 cs) else none
  | '0' :: c :: cs =>
    if (c :: cs).all fun d => '0' ≤ d && d ≤ '7' then some (ofBase 8 (c :: cs)) else none
  | cs => if cs.all Char.isDigit then some (ofBase 10 cs) else none

def hostParts (host : List Char) : List (List Char) :=
  let parts := host.splitOn '.'
  if 1 < parts.length ∧ parts.getLast? = some [] then parts.dropLast else parts

def endsInNumber (host : List Char) : Bool :=
  match (hostParts host).getLast? with
  | none => false
  | some part => isDigits part || (ipv4Number? part).isSome

def isIpv4 (host : List Char) : Bool :=
  let parts := hostParts host
  match parts.mapM ipv4Number? with
  | none => false
  | some numbers =>
    parts.length ≤ 4 && numbers.dropLast.all (· ≤ 255) &&
      (numbers.getLast?.getD 0 < 0x100000000 >>> (8 * (parts.length - 1)))

def isHexPiece (cs : List Char) : Bool :=
  1 ≤ cs.length && cs.length ≤ 4 && cs.all isHexDigit

def isOctet (cs : List Char) : Bool :=
  isDigits cs && (cs == ['0'] || cs.head? != some '0') && ofDigits cs ≤ 255

def isDottedQuad (cs : List Char) : Bool :=
  let parts := cs.splitOn '.'
  parts.length == 4 && parts.all isOctet

def pieceCount? (quad : Bool) (cs : List Char) : Option Nat :=
  let parts := cs.splitOn ':'
  if parts.all isHexPiece then some parts.length
  else if quad && parts.dropLast.all isHexPiece && isDottedQuad (parts.getLast?.getD []) then
    some (parts.length + 1)
  else none

def splitDoubleColon : List Char → Option (List Char × List Char)
  | [] => none
  | [_] => none
  | c :: d :: cs =>
    if c = ':' ∧ d = ':' then some ([], cs)
    else (splitDoubleColon (d :: cs)).map fun (l, r) => (c :: l, r)

def isIpv6 (cs : List Char) : Bool :=
  match splitDoubleColon cs with
  | none => pieceCount? true cs == some 8
  | some (l, r) =>
    let left := if l.isEmpty then some 0 else pieceCount? false l
    let right := if r.isEmpty then some 0 else pieceCount? true r
    match left, right with
    | some m, some n => m + n ≤ 7
    | _, _ => false

end RowFilter.Url
