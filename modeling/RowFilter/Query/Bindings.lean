import RowFilter.Ordered
import RowFilter.Scalar

namespace RowFilter.Query

structure Bindings where
  entries : List (Nat × Scalar)
  increasing : Ordered.Increasing entries

namespace Bindings

def empty : Bindings := ⟨[], Ordered.increasing_nil⟩

def get? (b : Bindings) (n : Nat) : Option Scalar := b.entries.lookup n

def insert (b : Bindings) (n : Nat) (v : Scalar) : Bindings :=
  ⟨Ordered.insert n v b.entries, Ordered.increasing_insert n v b.increasing⟩

def insertFrom (b : Bindings) (n : Nat) : List Scalar → Bindings
  | [] => b
  | v :: vs => (b.insert n v).insertFrom (n + 1) vs

def next (b : Bindings) : Nat :=
  match b.entries.getLast? with
  | none => 1
  | some (n, _) => n + 1

@[simp] theorem get?_empty (n : Nat) : empty.get? n = none := rfl

@[simp] theorem get?_insert_self (b : Bindings) (n : Nat) (v : Scalar) :
    (b.insert n v).get? n = some v :=
  Ordered.lookup_insert_self n v b.entries

theorem get?_insert_ne (b : Bindings) {m n : Nat} (v : Scalar) (h : m ≠ n) :
    (b.insert n v).get? m = b.get? m :=
  Ordered.lookup_insert_ne v b.entries h

@[ext] theorem ext {a b : Bindings} (h : a.entries = b.entries) : a = b := by
  cases a
  cases b
  cases h
  rfl

end Bindings

end RowFilter.Query
