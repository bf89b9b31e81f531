import RowFilter.Text.Position

/-! Text between two equal quotes, in which a backslash starts an escape. -/

namespace RowFilter.Text.Quoted

def unescape : Char → Option Char
  | 'n' => some '\n'
  | 't' => some '\t'
  | 'r' => some '\r'
  | '"' => some '"'
  | '\'' => some '\''
  | '\\' => some '\\'
  | _ => none

inductive Fault
  | unknownEscape (c : Char) (backslash : Position)
  | unterminated
deriving DecidableEq, Repr

structure Item where
  text : List Char
  position : Position
  rest : List Char
deriving DecidableEq, Repr

def Item.cons (c : Char) (i : Item) : Item := { i with text := c :: i.text }

def read (quote : Char) : Position → List Char → Except Fault Item
  | _, [] => .error .unterminated
  | p, c :: cs =>
    if c = quote then .ok ⟨[], p.step c, cs⟩
    else if c = '\\' then
      match cs with
      | [] => .error .unterminated
      | d :: ds =>
        match unescape d with
        | none => .error (.unknownEscape d p)
        | some e => (read quote ((p.step c).step d) ds).map (.cons e)
    else (read quote (p.step c) cs).map (.cons c)

theorem map_cons_eq_ok {c : Char} {x : Except Fault Item} {i : Item} :
    x.map (.cons c) = .ok i ↔ ∃ j, x = .ok j ∧ i = .cons c j := by
  cases x <;> simp [Except.map, eq_comm]

theorem read_rest_length {quote : Char} {p : Position} {cs : List Char} {i : Item}
    (h : read quote p cs = .ok i) : i.rest.length < cs.length := by
  fun_induction read quote p cs generalizing i with
  | case2 p cs =>
    cases h
    simp
  | case5 p d ds e he hq ih =>
    obtain ⟨j, hj, rfl⟩ := map_cons_eq_ok.mp h
    have := ih hj
    simp only [Item.cons, List.length_cons]
    omega
  | case6 p c cs hq hb ih =>
    obtain ⟨j, hj, rfl⟩ := map_cons_eq_ok.mp h
    have := ih hj
    simp only [Item.cons, List.length_cons]
    omega
  | _ => cases h

end RowFilter.Text.Quoted
