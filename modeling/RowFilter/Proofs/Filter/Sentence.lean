import RowFilter.Proofs.Filter.Refusal

namespace RowFilter.Filter

namespace Sentence

inductive Literal : Kind → Prop
  | word : Literal .word
  | string : Literal .string
  | integer : Literal .integer
  | decimal : Literal .decimal
  | boolean (b : Bool) : Literal (.boolean b)
  | null : Literal .null

inductive Items : List Kind → Prop
  | single {k : Kind} (h : Literal k) : Items [k]
  | cons {k : Kind} {ks : List Kind} (h : Literal k) (hs : Items ks) : Items (k :: .comma :: ks)

inductive Operand : List Kind → Prop
  | literal {k : Kind} (h : Literal k) : Operand [k]
  | list {ks : List Kind} (h : Items ks) : Operand (.openBracket :: ks ++ [.closeBracket])

inductive Head : List Kind → Prop
  | plain : Head [.word, .colon]
  | tested (c : Comparison) : Head [.word, .colon, .comparison c, .colon]

mutual

inductive Clause : List Kind → Prop
  | group {ks : List Kind} (c : Connective) (h : Clauses ks) :
      Clause (.connective c :: .colon :: .openBracket :: ks ++ [.closeBracket])
  | comparison {hs ks : List Kind} (hh : Head hs) (h : Operand ks) : Clause (hs ++ ks)

inductive Clauses : List Kind → Prop
  | single {ks : List Kind} (h : Clause ks) : Clauses ks
  | cons {ks ls : List Kind} (h : Clause ks) (hs : Clauses ls) : Clauses (ks ++ .comma :: ls)

end

end Sentence

section Sentence

variable {t : Token} {ts : List Token}

lemma IsLiteral.sentence {l : Literal} (h : IsLiteral t l) : Sentence.Literal t.kind := by
  cases h with
  | word h => exact h ▸ .word
  | string h => exact h ▸ .string
  | integer h _ => exact h ▸ .integer
  | decimal h _ => exact h ▸ .decimal
  | boolean h => exact h ▸ .boolean _
  | null h => exact h ▸ .null

lemma IsItems.sentence {ls : List Literal} (h : IsItems ts ls) :
    Sentence.Items (ts.map Token.kind) := by
  induction h with
  | single h => exact .single h.sentence
  | cons h hc hs ih =>
    rw [List.map_cons, List.map_cons, hc]
    exact .cons h.sentence ih

lemma IsOperand.sentence {l : Literal} (h : IsOperand ts l) :
    Sentence.Operand (ts.map Token.kind) := by
  cases h with
  | literal h => exact .literal h.sentence
  | list ho h hc =>
    rw [List.map_append, List.map_cons, List.map_singleton, ho, hc]
    exact .list h.sentence

lemma IsHead.sentence {key : Tree.Key} {op? : Option Comparison} (h : IsHead ts key op?) :
    Sentence.Head (ts.map Token.kind) := by
  cases h with
  | plain hk hc =>
    simp only [List.map_cons, List.map_nil, hk, hc]
    exact .plain
  | tested hk hc ho hc' =>
    simp only [List.map_cons, List.map_nil, hk, hc, ho, hc']
    exact .tested _

mutual

lemma IsClause.sentence {ts : List Token} {c : Clause} (h : IsClause ts c) :
    Sentence.Clause (ts.map Token.kind) := by
  cases h with
  | group hk hc ho h he =>
    simp only [List.map_append, List.map_cons, List.map_nil, hk, hc, ho, he]
    exact .group _ (IsClauses.sentence h)
  | comparison hh h =>
    rw [List.map_append]
    exact .comparison hh.sentence h.sentence

lemma IsClauses.sentence {ts : List Token} {cs : List Clause} (h : IsClauses ts cs) :
    Sentence.Clauses (ts.map Token.kind) := by
  cases h with
  | single h => exact .single (IsClause.sentence h)
  | cons h hc hs =>
    rw [List.map_append, List.map_cons, hc]
    exact .cons (IsClause.sentence h) (IsClauses.sentence hs)

end

lemma Sentence.Literal.exists_isLiteral (h : Sentence.Literal t.kind) (ht : t.Parses) :
    ∃ l, IsLiteral t l := by
  generalize hk : t.kind = k at h
  cases h with
  | word => exact ⟨_, .word hk⟩
  | string => exact ⟨_, .string hk⟩
  | integer =>
    obtain ⟨n, hn⟩ := ht.integer hk
    exact ⟨_, .integer hk hn⟩
  | decimal =>
    obtain ⟨d, hd⟩ := ht.decimal hk
    exact ⟨_, .decimal hk hd⟩
  | boolean b => exact ⟨_, .boolean hk⟩
  | null => exact ⟨_, .null hk⟩

lemma Sentence.Items.exists_isItems {ks : List Kind} (h : Sentence.Items ks)
    (hk : ts.map Token.kind = ks) (ht : ∀ t ∈ ts, t.Parses) : ∃ ls, IsItems ts ls := by
  induction h generalizing ts with
  | single h =>
    obtain ⟨t, rfl, rfl⟩ := List.map_eq_singleton_iff.mp hk
    obtain ⟨l, hl⟩ := h.exists_isLiteral (ht t List.mem_cons_self)
    exact ⟨[l], .single hl⟩
  | cons h hs ih =>
    obtain ⟨t, us, rfl, rfl, hus⟩ := List.map_eq_cons_iff.mp hk
    obtain ⟨comma, vs, rfl, hc, hvs⟩ := List.map_eq_cons_iff.mp hus
    simp only [List.forall_mem_cons] at ht
    obtain ⟨l, hl⟩ := h.exists_isLiteral ht.1
    obtain ⟨ls, hls⟩ := ih hvs ht.2.2
    exact ⟨l :: ls, .cons hl hc hls⟩

lemma Sentence.Operand.exists_isOperand {ks : List Kind} (h : Sentence.Operand ks)
    (hk : ts.map Token.kind = ks) (ht : ∀ t ∈ ts, t.Parses) : ∃ l, IsOperand ts l := by
  cases h with
  | literal h =>
    obtain ⟨t, rfl, rfl⟩ := List.map_eq_singleton_iff.mp hk
    obtain ⟨l, hl⟩ := h.exists_isLiteral (ht t List.mem_cons_self)
    exact ⟨l, .literal hl⟩
  | list h =>
    obtain ⟨us, vs, rfl, hus, hvs⟩ := List.map_eq_append_iff.mp hk
    obtain ⟨opening, is, rfl, ho, his⟩ := List.map_eq_cons_iff.mp hus
    obtain ⟨closing, rfl, hc⟩ := List.map_eq_singleton_iff.mp hvs
    simp only [List.forall_mem_append, List.forall_mem_cons] at ht
    obtain ⟨ls, hls⟩ := h.exists_isItems his ht.1.2
    exact ⟨_, .list ho hls hc⟩

lemma Sentence.Head.exists_isHead {ks : List Kind} (h : Sentence.Head ks)
    (hk : ts.map Token.kind = ks) : ∃ key op?, IsHead ts key op? := by
  cases h with
  | plain =>
    obtain ⟨key, us, rfl, hkey, hus⟩ := List.map_eq_cons_iff.mp hk
    obtain ⟨colon, rfl, hc⟩ := List.map_eq_singleton_iff.mp hus
    exact ⟨_, _, .plain hkey hc⟩
  | tested c =>
    obtain ⟨key, us, rfl, hkey, hus⟩ := List.map_eq_cons_iff.mp hk
    obtain ⟨colon, vs, rfl, hc, hvs⟩ := List.map_eq_cons_iff.mp hus
    obtain ⟨op, ws, rfl, ho, hws⟩ := List.map_eq_cons_iff.mp hvs
    obtain ⟨colon', rfl, hc'⟩ := List.map_eq_singleton_iff.mp hws
    exact ⟨_, _, .tested hkey hc ho hc'⟩

mutual

lemma Sentence.Clause.exists_isClause {ks : List Kind} (h : Sentence.Clause ks) {ts : List Token}
    (hk : ts.map Token.kind = ks) (ht : ∀ t ∈ ts, t.Parses) : ∃ c, IsClause ts c := by
  match h with
  | .group c h =>
    obtain ⟨us, vs, rfl, hus, hvs⟩ := List.map_eq_append_iff.mp hk
    obtain ⟨keyword, us, rfl, hkeyword, hus⟩ := List.map_eq_cons_iff.mp hus
    obtain ⟨colon, us, rfl, hc, hus⟩ := List.map_eq_cons_iff.mp hus
    obtain ⟨opening, us, rfl, ho, hus⟩ := List.map_eq_cons_iff.mp hus
    obtain ⟨closing, rfl, he⟩ := List.map_eq_singleton_iff.mp hvs
    simp only [List.forall_mem_append, List.forall_mem_cons] at ht
    obtain ⟨cs, hcs⟩ := Sentence.Clauses.exists_isClauses h hus ht.1.2.2.2
    exact ⟨_, .group hkeyword hc ho hcs he⟩
  | .comparison hh h =>
    obtain ⟨us, vs, rfl, hus, hvs⟩ := List.map_eq_append_iff.mp hk
    rw [List.forall_mem_append] at ht
    obtain ⟨key, op?, hhead⟩ := hh.exists_isHead hus
    obtain ⟨l, hl⟩ := h.exists_isOperand hvs ht.2
    exact ⟨_, .comparison hhead hl⟩

lemma Sentence.Clauses.exists_isClauses {ks : List Kind} (h : Sentence.Clauses ks) {ts : List Token}
    (hk : ts.map Token.kind = ks) (ht : ∀ t ∈ ts, t.Parses) : ∃ cs, IsClauses ts cs := by
  match h with
  | .single h =>
    obtain ⟨c, hc⟩ := Sentence.Clause.exists_isClause h hk ht
    exact ⟨[c], .single hc⟩
  | .cons h hs =>
    obtain ⟨us, vs, rfl, hus, hvs⟩ := List.map_eq_append_iff.mp hk
    obtain ⟨comma, ws, rfl, hcomma, hws⟩ := List.map_eq_cons_iff.mp hvs
    simp only [List.forall_mem_append, List.forall_mem_cons] at ht
    obtain ⟨c, hc⟩ := Sentence.Clause.exists_isClause h hus ht.1
    obtain ⟨cs, hcs⟩ := Sentence.Clauses.exists_isClauses hs hws ht.2.2
    exact ⟨c :: cs, .cons hc hcomma hcs⟩

end

lemma sentence_iff (ht : ∀ t ∈ ts, t.Parses) :
    Sentence.Clauses (ts.map Token.kind) ↔ ∃ cs, IsClauses ts cs :=
  ⟨fun h => h.exists_isClauses rfl ht, fun ⟨_, h⟩ => h.sentence⟩

end Sentence

end RowFilter.Filter
