import RowFilter.Config.Value

/-! Merging of values. At a conflict it stops, and what has been merged stays. -/

namespace RowFilter.Config

/-- A table was to be put where a value of another shape stands. -/
structure Conflict where
  path : List String
  found : Shape
deriving DecidableEq, Repr

def Conflict.message (c : Conflict) : String :=
  s!"Cannot open '{Text.Dotted.join c.path}' as a block, it already holds a {c.found.text}"

structure Merged (α : Type) where
  value : α
  conflict? : Option Conflict

namespace Merged

def done {α : Type} (v : α) : Merged α := ⟨v, none⟩

def result {α : Type} (m : Merged α) : Except Conflict α :=
  match m.conflict? with
  | none => .ok m.value
  | some c => .error c

end Merged

mutual

def Value.mergeAt (path : List String) (old : Value) : Value → Merged Value
  | .table entries =>
    match old with
    | .table t =>
      let m := Table.mergeAt path t entries
      ⟨.table m.value, m.conflict?⟩
    | _ => ⟨old, some ⟨path, old.shape⟩⟩
  | .array items =>
    match old with
    | .array olds => .done (.array (olds ++ items))
    | _ => .done (.array items)
  | new => .done new

def Table.mergeAt (path : List String) (t : Table) : List (String × Value) → Merged Table
  | [] => .done t
  | (key, new) :: entries =>
    match t.get? key with
    | none => Table.mergeAt path (t.insert key new) entries
    | some old =>
      let m := Value.mergeAt (path ++ [key]) old new
      match m.conflict? with
      | none => Table.mergeAt path (t.insert key m.value) entries
      | some c => ⟨t.insert key m.value, some c⟩

end

def Value.merge (old new : Value) : Merged Value := Value.mergeAt [] old new

def Table.merge (old new : Table) : Merged Table := Table.mergeAt [] old new

end RowFilter.Config
