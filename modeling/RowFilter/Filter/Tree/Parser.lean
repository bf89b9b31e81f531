import RowFilter.Filter.Token
import RowFilter.Filter.Tree

/-! Filter trees from tokens, one token at a time. Operators stand over their operands. -/

namespace RowFilter.Filter

def maxDepth : Nat := 8

inductive Expected
  | kind (k : Kind)
  | fieldName | value | integer | decimal | commaOrEnd
deriving DecidableEq, Repr

def Expected.text : Expected → String
  | kind k => k.text
  | fieldName => "field name"
  | value => "value"
  | integer => "integer"
  | decimal => "decimal"
  | commaOrEnd => "',' or end of filter"

inductive ParseError
  | unexpectedToken (expected : Expected) (found : Token)
  | unexpectedEnd (expected : Expected)
  | emptyFilter
  | invalidKey (key : String) (p : Position)
  | listNotAllowed (op? : Option Comparison) (p : Position)
  | nullNotAllowed (op? : Option Comparison) (p : Position)
  | likeNeedsString (p : Position)
  | tooDeep (p : Position)
deriving DecidableEq, Repr

namespace ParseError

def operatorText : Option Comparison → String
  | none => "eq"
  | some c => (Kind.comparison c).text

def message : ParseError → String
  | unexpectedToken e t =>
    s!"Expected {e.text}, found {t.kind.text} '{t.lexeme}' at column {t.position.column}"
  | unexpectedEnd e => s!"Expected {e.text}, found end of filter"
  | emptyFilter => "Filter is empty"
  | invalidKey k p => s!"Invalid field name '{k}' at column {p.column}"
  | listNotAllowed op p =>
    s!"Operator {operatorText op} does not accept a list at column {p.column}"
  | nullNotAllowed op p =>
    s!"Operator {operatorText op} does not accept null at column {p.column}"
  | likeNeedsString p => s!"'like' needs a string pattern at column {p.column}"
  | tooDeep p => s!"Filter groups nested deeper than {maxDepth} at column {p.column}"

def position? : ParseError → Option Position
  | unexpectedToken _ t => some t.position
  | unexpectedEnd _ => none
  | emptyFilter => none
  | invalidKey _ p => some p
  | listNotAllowed _ p => some p
  | nullNotAllowed _ p => some p
  | likeNeedsString p => some p
  | tooDeep p => some p

end ParseError

def isValidKey (key : String) : Bool :=
  match key.toList with
  | [] => false
  | c :: cs => (c.isAlpha || c == '_') && cs.all fun d => d.isAlphanum || d == '_'

def Literal.ofToken (t : Token) : Except Expected Literal :=
  match t.kind with
  | .word => .ok (.scalar (.string t.lexeme))
  | .string => .ok (.scalar (.string t.lexeme))
  | .integer =>
    match Number.int64? t.lexeme.toList with
    | some n => .ok (.scalar (.integer n))
    | none => .error .integer
  | .decimal =>
    match Decimal.ofText? t.lexeme.toList with
    | some d => .ok (.scalar (.decimal d))
    | none => .error .decimal
  | .boolean b => .ok (.scalar (.boolean b))
  | .null => .ok .null
  | _ => .error .value

namespace Tree

structure Key where
  name : String
  position : Position
deriving DecidableEq, Repr

def likePattern (key : Key) : Literal → Except ParseError Tree
  | .scalar (.string s) =>
    .ok (test (.comparison .like) key.position key.name (.scalar (.string s)))
  | _ => .error (.likeNeedsString key.position)

def ofComparison (key : Key) (op? : Option Comparison) (operand : Literal) :
    Except ParseError Tree :=
  let leaf (t : Test) := Except.ok (test t key.position key.name operand)
  match operand with
  | .null =>
    match op?.getD .eq with
    | .eq => leaf (.nullity false)
    | .ne => leaf (.nullity true)
    | _ => .error (.nullNotAllowed op? key.position)
  | .list items =>
    if items.any Literal.isNull then .error (.nullNotAllowed op? key.position)
    else
      match op?.getD .eq with
      | .eq => leaf (.membership false)
      | .ne => leaf (.membership true)
      | .like => (items.mapM (likePattern key)).map (.operator (.connective .or) key.position)
      | _ => .error (.listNotAllowed op? key.position)
  | .scalar s =>
    match op?.getD .eq, s with
    | .like, .string _ => leaf (.comparison .like)
    | .like, _ => .error (.likeNeedsString key.position)
    | c, _ => leaf (.comparison c)

structure Group where
  connective : Connective
  position : Position
  conjuncts : List Tree

namespace Group

def add (g : Group) (t : Tree) : Group := { g with conjuncts := t :: g.conjuncts }

def tree (g : Group) : Tree :=
  .operator (.connective g.connective) g.position g.conjuncts.reverse

end Group

inductive Phase
  | conjunct
  | groupColon (c : Connective) (p : Position)
  | groupBracket (c : Connective) (p : Position)
  | keyColon (key : Key)
  | operatorOrOperand (key : Key)
  | operatorColon (key : Key) (op : Comparison)
  | operand (key : Key) (op : Comparison)
  | item (key : Key) (op? : Option Comparison) (items : List Literal)
  | itemEnd (key : Key) (op? : Option Comparison) (items : List Literal)
  | conjunctEnd

/-- The innermost open group, and those around it. The outermost one is the filter itself. -/
structure State where
  phase : Phase
  group : Group
  outer : List Group

namespace State

def initial : State := ⟨.conjunct, ⟨.and, .start, []⟩, []⟩

def expected (s : State) : Expected :=
  match s.phase, s.outer with
  | .conjunct, _ => .fieldName
  | .groupColon _ _, _ => .kind .colon
  | .groupBracket _ _, _ => .kind .openBracket
  | .keyColon _, _ => .kind .colon
  | .operatorOrOperand _, _ => .value
  | .operatorColon _ _, _ => .kind .colon
  | .operand _ _, _ => .value
  | .item _ _ _, _ => .value
  | .itemEnd _ _ _, _ => .kind .closeBracket
  | .conjunctEnd, [] => .commaOrEnd
  | .conjunctEnd, _ :: _ => .kind .closeBracket

def unexpected (s : State) (t : Token) : Except ParseError State :=
  .error (.unexpectedToken s.expected t)

def enter (s : State) (p : Phase) : Except ParseError State := .ok { s with phase := p }

def addConjunct (s : State) (t : Tree) : State :=
  { s with phase := .conjunctEnd, group := s.group.add t }

def addComparison (s : State) (key : Key) (op? : Option Comparison) (operand : Literal) :
    Except ParseError State :=
  (ofComparison key op? operand).map s.addConjunct

def startConjunct (s : State) (t : Token) : Except ParseError State :=
  match t.kind with
  | .connective c =>
    if s.outer.length < maxDepth then s.enter (.groupColon c t.position)
    else .error (.tooDeep t.position)
  | .word =>
    if isValidKey t.lexeme then s.enter (.keyColon ⟨t.lexeme, t.position⟩)
    else .error (.invalidKey t.lexeme t.position)
  | _ => s.unexpected t

def readOperand (s : State) (key : Key) (op? : Option Comparison) (t : Token) :
    Except ParseError State :=
  if t.kind = .openBracket then s.enter (.item key op? [])
  else
    match Literal.ofToken t with
    | .ok l => s.addComparison key op? l
    | .error e => .error (.unexpectedToken e t)

def readItem (s : State) (key : Key) (op? : Option Comparison) (items : List Literal)
    (t : Token) : Except ParseError State :=
  match Literal.ofToken t with
  | .ok l => s.enter (.itemEnd key op? (l :: items))
  | .error e => .error (.unexpectedToken e t)

def endConjunct (s : State) (t : Token) : Except ParseError State :=
  match t.kind, s.outer with
  | .comma, _ => s.enter .conjunct
  | .closeBracket, g :: gs => .ok (addConjunct ⟨s.phase, g, gs⟩ s.group.tree)
  | _, _ => s.unexpected t

def step (s : State) (t : Token) : Except ParseError State :=
  match s.phase with
  | .conjunct => s.startConjunct t
  | .groupColon c p => if t.kind = .colon then s.enter (.groupBracket c p) else s.unexpected t
  | .groupBracket c p =>
    if t.kind = .openBracket then .ok ⟨.conjunct, ⟨c, p, []⟩, s.group :: s.outer⟩
    else s.unexpected t
  | .keyColon key => if t.kind = .colon then s.enter (.operatorOrOperand key) else s.unexpected t
  | .operatorOrOperand key =>
    match t.kind with
    | .comparison c => s.enter (.operatorColon key c)
    | _ => s.readOperand key none t
  | .operatorColon key c => if t.kind = .colon then s.enter (.operand key c) else s.unexpected t
  | .operand key c => s.readOperand key (some c) t
  | .item key op? items => s.readItem key op? items t
  | .itemEnd key op? items =>
    match t.kind with
    | .comma => s.enter (.item key op? items)
    | .closeBracket => s.addComparison key op? (.list items.reverse)
    | _ => s.unexpected t
  | .conjunctEnd => s.endConjunct t

def finish (s : State) : Except ParseError Tree :=
  match s.phase, s.outer with
  | .conjunctEnd, [] => .ok s.group.tree
  | _, _ => .error (.unexpectedEnd s.expected)

end State

def ofTokens (ts : List Token) : Except ParseError Tree :=
  if ts.isEmpty then .error .emptyFilter
  else (ts.foldlM State.step State.initial).bind State.finish

end Tree

end RowFilter.Filter
