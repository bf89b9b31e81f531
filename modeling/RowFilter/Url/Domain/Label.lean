import RowFilter.Text.Combining
import RowFilter.Text.Composition
import RowFilter.Text.Joining
import RowFilter.Text.Mark
import RowFilter.Url.Domain.Mapping
import RowFilter.Url.Punycode

namespace RowFilter.Url.Domain

open Text

def isAscii (c : Char) : Bool := c.toNat < 128

def isForbidden (c : Char) : Bool :=
  c.toNat ≤ 0x20 || c.toNat == 0x7f || "%#/:<>?@[\\]^|".toList.contains c

def isCanonical (label : List Char) : Bool :=
  label.all (fun c => mapped? c == some [c]) && composed label == label

def meaning? (label : List Char) : Option (List Char) :=
  match label with
  | 'x' :: 'n' :: '-' :: '-' :: code =>
    if code.all isAscii && !code.isEmpty && code.getLast? != some '-' && code.length ≤ 2000 then
      (Punycode.decode? code).filter isCanonical
    else none
  | _ => some label

def isVirama (c : Char) : Bool := combiningClass c == 9

def joinsLetters (before after : List Char) : Bool :=
  (before.find? (!isTransparent ·)).any joinsBehind &&
    (after.find? (!isTransparent ·)).any joinsBefore

/-- A joiner (U+200D) only follows a virama, a non-joiner (U+200C) also parts letters that would
join. `before` are the characters in front of `c`, the last one first. -/
def standsWell (before : List Char) (c : Char) (after : List Char) : Bool :=
  if c = '\u200c' then before.head?.any isVirama || joinsLetters before after
  else if c = '\u200d' then before.head?.any isVirama
  else true

def standWell (before : List Char) : List Char → Bool
  | [] => true
  | c :: cs => standsWell before c cs && standWell (c :: before) cs

def isLabel (label : List Char) : Bool :=
  !label.any isForbidden && !label.head?.any isMark && standWell [] label &&
    (label.all isAscii || label.length ≤ 1000)

end RowFilter.Url.Domain
