/-! Reading bytes as UTF-8. A malformed character is as long as the well-formed start it has. -/

namespace RowFilter.Text.Utf8

/-- A character of which bytes are missing: the bits read so far, how many bytes are still to come,
and the range of the next one. -/
structure Partial where
  bits : Nat
  missing : Nat
  low : UInt8 := 0x80
  high : UInt8 := 0xbf
deriving DecidableEq, Repr

inductive Lead
  | whole (c : Char)
  | part (p : Partial)
  | malformed
deriving DecidableEq, Repr

def lead (b : UInt8) : Lead :=
  let n := b.toNat
  if n < 0x80 then .whole (Char.ofNat n)
  else if n < 0xc2 then .malformed
  else if n < 0xe0 then .part { bits := n - 0xc0, missing := 0 }
  else if n = 0xe0 then .part { bits := 0, missing := 1, low := 0xa0 }
  else if n = 0xed then .part { bits := 0xd, missing := 1, high := 0x9f }
  else if n < 0xf0 then .part { bits := n - 0xe0, missing := 1 }
  else if n = 0xf0 then .part { bits := 0, missing := 2, low := 0x90 }
  else if n < 0xf4 then .part { bits := n - 0xf0, missing := 2 }
  else if n = 0xf4 then .part { bits := 4, missing := 2, high := 0x8f }
  else .malformed

def read : Option Partial → List UInt8 → List (Option Char)
  | none, [] => []
  | some _, [] => [none]
  | none, b :: bs =>
    match lead b with
    | .whole c => some c :: read none bs
    | .part p => read (some p) bs
    | .malformed => none :: read none bs
  | some p, b :: bs =>
    if p.low ≤ b ∧ b ≤ p.high then
      let bits := p.bits * 64 + (b.toNat - 0x80)
      match p.missing with
      | 0 => some (Char.ofNat bits) :: read none bs
      | m + 1 => read (some { bits, missing := m }) bs
    else
      match lead b with
      | .whole c => none :: some c :: read none bs
      | .part q => none :: read (some q) bs
      | .malformed => none :: none :: read none bs

def decode? (bs : List UInt8) : Option String :=
  ((read none bs).mapM id).map String.ofList

def decodeLossy (bs : List UInt8) : String :=
  String.ofList ((read none bs).map (·.getD '\ufffd'))

end RowFilter.Text.Utf8

namespace RowFilter.Text

def utf8Bytes (cs : List Char) : List UInt8 := cs.flatMap String.utf8EncodeChar

def hexDigit? (b : UInt8) : Option UInt8 :=
  if '0'.toUInt8 ≤ b ∧ b ≤ '9'.toUInt8 then some (b - '0'.toUInt8)
  else if 'A'.toUInt8 ≤ b ∧ b ≤ 'F'.toUInt8 then some (b - 'A'.toUInt8 + 10)
  else if 'a'.toUInt8 ≤ b ∧ b ≤ 'f'.toUInt8 then some (b - 'a'.toUInt8 + 10)
  else none

def escaped? (b : UInt8) : List UInt8 → Option UInt8
  | h :: l :: _ =>
    if b = '%'.toUInt8 then
      (hexDigit? h).bind fun x => (hexDigit? l).map fun y => 16 * x + y
    else none
  | _ => none

def percentDecode : List UInt8 → List UInt8
  | [] => []
  | b :: bs =>
    match escaped? b bs with
    | some x => x :: percentDecode (bs.drop 2)
    | none => b :: percentDecode bs
termination_by bs => bs.length
decreasing_by all_goals simp only [List.length_cons, List.length_drop]; omega

end RowFilter.Text
