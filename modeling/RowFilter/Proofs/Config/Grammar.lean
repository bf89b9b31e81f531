import Mathlib
import RowFilter.Config.Tree.Parser

namespace RowFilter.Config

open RowFilter.Config.Tree (leaf inner assignment block)

section Derivations

mutual

/-- `STRING | BOOLEAN | INTEGER | '[' items ']'` -/
inductive IsValue : List Token → Tree → Prop
  | string {t : Token} (h : t.kind = .string) :
      IsValue [t] (leaf .string (.string t.lexeme) t.position)
  | boolean {t : Token} (h : t.kind = .boolean) :
      IsValue [t] (leaf .boolean (.boolean (t.lexeme == "true")) t.position)
  | integer {t : Token} {n : Int64} (h : t.kind = .integer)
      (hn : Number.int64? t.lexeme.toList = some n) :
      IsValue [t] (leaf .integer (.integer n) t.position)
  | array {opening closing : Token} {ts : List Token} {vs : List Tree}
      (ho : opening.kind = .openBracket) (h : IsItems ts vs)
      (hc : closing.kind = .closeBracket) :
      IsValue (opening :: ts ++ [closing]) (inner .array opening.position vs)

/-- `(value (',' value)* ','?)?` -/
inductive IsItems : List Token → List Tree → Prop
  | nil : IsItems [] []
  | last {ts : List Token} {v : Tree} (h : IsValue ts v) : IsItems ts [v]
  | cons {ts us : List Token} {comma : Token} {v : Tree} {vs : List Tree} (h : IsValue ts v)
      (hc : comma.kind = .comma) (hs : IsItems us vs) : IsItems (ts ++ comma :: us) (v :: vs)

end

/-- `(IDENTIFIER '=' value)*` -/
inductive IsAssignments : List Token → List Tree → Prop
  | nil : IsAssignments [] []
  | cons {key assign : Token} {ts us : List Token} {v : Tree} {as : List Tree}
      (hk : key.kind = .identifier) (ha : assign.kind = .assign) (h : IsValue ts v)
      (hs : IsAssignments us as) :
      IsAssignments (key :: assign :: (ts ++ us)) (assignment key.lexeme key.position v :: as)

/-- `(HEADER assignments)*` -/
inductive IsBlocks : List Token → List Tree → Prop
  | nil : IsBlocks [] []
  | cons {header : Token} {ts us : List Token} {as bs : List Tree} (hk : header.kind = .header)
      (h : IsAssignments ts as) (hs : IsBlocks us bs) :
      IsBlocks (header :: (ts ++ us)) (block header.lexeme header.position as :: bs)

end Derivations

def Tree.IsHeaded (b : Tree) : Prop := ∃ header, b.value = .string header ∧ isHeader header = true

lemma isHeaded_block {header : String} {p : Position} {as : List Tree} :
    (block header p as).IsHeaded ↔ isHeader header = true := by
  constructor
  · rintro ⟨_, he, hh⟩
    cases he
    exact hh
  · exact fun hh => ⟨header, rfl, hh⟩

section Append

variable {ts us : List Token} {t : Token} {v : Tree} {as bs : List Tree}

lemma IsAssignments.snoc {key assign : Token} (h : IsAssignments ts as)
    (hk : key.kind = .identifier) (ha : assign.kind = .assign) (hv : IsValue us v) :
    IsAssignments (ts ++ key :: assign :: us) (as ++ [assignment key.lexeme key.position v]) := by
  induction h with
  | nil => simpa using IsAssignments.cons hk ha hv .nil
  | cons hk' ha' h hs ih => simpa using IsAssignments.cons hk' ha' h ih

lemma IsBlocks.snoc {header : Token} (h : IsBlocks ts bs) (hk : header.kind = .header)
    (ha : IsAssignments us as) :
    IsBlocks (ts ++ header :: us) (bs ++ [block header.lexeme header.position as]) := by
  induction h with
  | nil => simpa using IsBlocks.cons hk ha .nil
  | cons hk' h hs ih => simpa using IsBlocks.cons hk' h ih

end Append

end RowFilter.Config
