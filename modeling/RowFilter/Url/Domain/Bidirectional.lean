import RowFilter.Text.Direction

namespace RowFilter.Url.Domain

open Text

def runsRight (d : Direction) : Bool := d == .right || d == .arabicNumber

def fitsLeft (d : Direction) : Bool :=
  d == .left || d == .europeanNumber || d == .neutral || d == .nonspacing

def fitsRight (d : Direction) : Bool := d != .left

/-- The first character is a letter, the last one a letter or a digit but for marks behind it, and
all are of one direction. -/
def keepsDirection : List Direction → Bool
  | [] => true
  | d :: ds =>
    match d, ds.reverse.dropWhile (· == .nonspacing) with
    | .left, [] => true
    | .right, [] => true
    | .left, last :: rest => (last == .left || last == .europeanNumber) && rest.all fitsLeft
    | .right, last :: rest =>
      (runsRight last || last == .europeanNumber) && rest.all fitsRight &&
        !(ds.contains .europeanNumber && ds.contains .arabicNumber)
    | _, _ => false

def isReadable (labels : List (List Char)) : Bool :=
  let directions := labels.map (·.map direction)
  !directions.any (·.any runsRight) || directions.all keepsDirection

end RowFilter.Url.Domain
