namespace RowFilter.Text

structure Scan (τ ε : Type) where
  tokens : List τ
  fault? : Option ε
deriving DecidableEq, Repr

namespace Scan

variable {τ ε : Type}

def done : Scan τ ε := ⟨[], none⟩

def fail (e : ε) : Scan τ ε := ⟨[], some e⟩

def cons (t : τ) (s : Scan τ ε) : Scan τ ε := ⟨t :: s.tokens, s.fault?⟩

def result (s : Scan τ ε) : Except ε (List τ) :=
  match s.fault? with
  | none => .ok s.tokens
  | some e => .error e

end Scan

end RowFilter.Text
