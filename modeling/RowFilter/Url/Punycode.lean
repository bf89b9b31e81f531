/-! Domain labels in Punycode: ASCII characters, a hyphen, and digits to the base thirty-six that
say where the other characters stand. -/

namespace RowFilter.Url.Punycode

def digit? (c : Char) : Option Nat :=
  if c.isLower then some (c.toNat - 'a'.toNat)
  else if c.isUpper then some (c.toNat - 'A'.toNat)
  else if c.isDigit then some (c.toNat - '0'.toNat + 26)
  else none

def threshold (bias k : Nat) : Nat := min 26 (max 1 (k - bias))

def damp (delta : Nat) : Nat × Nat :=
  if 455 < delta then
    let (d, steps) := damp (delta / 35)
    (d, steps + 1)
  else (delta, 0)
termination_by delta
decreasing_by omega

def adapt (delta length : Nat) (first : Bool) : Nat :=
  let delta := if first then delta / 700 else delta / 2
  let (d, steps) := damp (delta + delta / length)
  36 * steps + 36 * d / (d + 38)

/-- The characters so far, the code point and place reached, and of the number that is being read:
its value, the weight of its next digit, and the place of that digit. -/
structure State where
  chars : List Char
  code : Nat
  index : Nat
  bias : Nat
  delta : Nat
  weight : Nat
  k : Nat

def limit : Nat := 0x100000000

def step (s : State) (c : Char) : Option State :=
  match digit? c with
  | none => none
  | some d =>
    let delta := s.delta + d * s.weight
    let i := s.index + delta
    let t := threshold s.bias s.k
    if limit ≤ i then none
    else if d < t then
      let length := s.chars.length + 1
      let code := s.code + i / length
      let place := i % length
      if h : code.isValidChar then
        some
          { chars := s.chars.take place ++ Char.ofNatAux code h :: s.chars.drop place
            code := code
            index := place + 1
            bias := adapt delta length (s.index == 0)
            delta := 0
            weight := 1
            k := 36 }
      else none
    else if limit ≤ s.weight * (36 - t) then none
    else some { s with delta := delta, weight := s.weight * (36 - t), k := s.k + 36 }

def decode? (label : List Char) : Option (List Char) :=
  let (tail, front) := label.reverse.span (· != '-')
  if front = ['-'] then none
  else
    let start : State := ⟨front.tail.reverse, 128, 0, 72, 0, 1, 36⟩
    match tail.reverse.foldlM step start with
    | none => none
    | some s => if s.k = 36 then some s.chars else none

end RowFilter.Url.Punycode
