import RowFilter.Proofs.Config.Refusal

namespace RowFilter.Config

open Text

namespace Sentence

mutual

inductive Value : List Token → Prop
  | string {t : Token} (h : t.kind = .string) : Value [t]
  | integer {t : Token} (h : t.kind = .integer) : Value [t]
  | boolean {t : Token} (h : t.kind = .boolean) : Value [t]
  | array {opening closing : Token} {ts : List Token} (ho : opening.kind = .openBracket)
      (h : Items ts) (hc : closing.kind = .closeBracket) : Value (opening :: ts ++ [closing])

inductive Items : List Token → Prop
  | nil : Items []
  | last {ts : List Token} (h : Value ts) : Items ts
  | cons {ts us : List Token} {comma : Token} (h : Value ts) (hc : comma.kind = .comma)
      (hs : Items us) : Items (ts ++ comma :: us)

end

inductive Assignments : List Token → Prop
  | nil : Assignments []
  | cons {key assign : Token} {ts us : List Token} (hk : key.kind = .identifier)
      (ha : assign.kind = .assign) (h : Value ts) (hs : Assignments us) :
      Assignments (key :: assign :: (ts ++ us))

inductive File : List Token → Prop
  | nil : File []
  | cons {header : Token} {ts us : List Token} (hk : header.kind = .header) (h : Assignments ts)
      (hs : File us) : File (header :: (ts ++ us))

end Sentence

def IsIdentifierStart (c : Char) : Prop := ('A' ≤ c ∧ c ≤ 'Z') ∨ ('a' ≤ c ∧ c ≤ 'z') ∨ c = '_'

def IsIdentifier (cs : List Char) : Prop :=
  ∃ c ds, cs = c :: ds ∧ IsIdentifierStart c ∧
    ∀ d ∈ ds, IsIdentifierStart d ∨ ('0' ≤ d ∧ d ≤ '9') ∨ d = '-'

lemma isIdentifierStart_iff (c : Char) : Token.isIdentifierStart c = true ↔ IsIdentifierStart c := by
  simp [Token.isIdentifierStart, IsIdentifierStart, Char.isAlpha, Char.isUpper, Char.isLower,
    Char.le_def, or_assoc]

lemma isIdentifierChar_iff (c : Char) :
    Token.isIdentifierChar c = true ↔ IsIdentifierStart c ∨ ('0' ≤ c ∧ c ≤ '9') ∨ c = '-' := by
  rw [← isIdentifierStart_iff]
  simp only [Token.isIdentifierChar, Token.isIdentifierStart, Char.isAlphanum, Char.isDigit,
    Char.le_def, Bool.or_eq_true, Bool.and_eq_true, decide_eq_true_eq, beq_iff_eq]
  tauto

lemma isName_iff (cs : List Char) : isName cs = true ↔ IsIdentifier cs := by
  cases cs with
  | nil => simp [isName, IsIdentifier]
  | cons c cs => simp [isName, IsIdentifier, isIdentifierStart_iff, isIdentifierChar_iff]

lemma IsIdentifier.ne_nil {cs : List Char} (h : IsIdentifier cs) : cs ≠ [] := by
  obtain ⟨c, ds, rfl, -⟩ := h
  exact List.cons_ne_nil c ds

lemma IsIdentifier.isIdentifierChar {cs : List Char} (h : IsIdentifier cs) :
    ∀ c ∈ cs, Token.isIdentifierChar c = true := by
  obtain ⟨c, ds, rfl, hc, hds⟩ := h
  simp only [isIdentifierChar_iff]
  exact List.forall_mem_cons.mpr ⟨.inl hc, hds⟩

lemma IsIdentifier.of_append {cs ds : List Char} (h : IsIdentifier (cs ++ ds)) (hne : cs ≠ []) :
    IsIdentifier cs := by
  obtain ⟨c, cs, rfl⟩ := List.exists_cons_of_ne_nil hne
  obtain ⟨d, es, heq, hc, hes⟩ := h
  cases heq
  exact ⟨c, cs, rfl, hc, fun d hd => hes d (List.mem_append_left ds hd)⟩

lemma isHeader_iff (header : String) :
    isHeader header = true ↔ ∀ s ∈ Dotted.split header, IsIdentifier s.toList := by
  simp [isHeader, Dotted.split, isName_iff]

namespace Token

def IsDotted (t : Token) : Prop :=
  t.kind = .header → ∀ s ∈ Dotted.split t.lexeme, IsIdentifier s.toList

def IsInRange (t : Token) : Prop :=
  t.kind = .integer → ∃ n, Number.int64? t.lexeme.toList = some n

lemma isDotted_of_ne {t : Token} (h : t.kind ≠ .header) : t.IsDotted := fun hk => absurd hk h

end Token

mutual

lemma IsValue.sentence {ts : List Token} {v : Tree} (h : IsValue ts v) :
    Sentence.Value ts ∧ ∀ t ∈ ts, t.kind ≠ .header ∧ t.IsInRange := by
  cases h with
  | string h => exact ⟨.string h, by simp [h, Token.IsInRange]⟩
  | boolean h => exact ⟨.boolean h, by simp [h, Token.IsInRange]⟩
  | integer h hn => exact ⟨.integer h, by simp [h, hn, Token.IsInRange]⟩
  | array ho h hc =>
    obtain ⟨hs, ht⟩ := IsItems.sentence h
    refine ⟨.array ho hs hc, ?_⟩
    simp only [List.cons_append, List.forall_mem_cons, List.forall_mem_append]
    exact ⟨by simp [ho, Token.IsInRange], ht, by simp [hc, Token.IsInRange]⟩

lemma IsItems.sentence {ts : List Token} {vs : List Tree} (h : IsItems ts vs) :
    Sentence.Items ts ∧ ∀ t ∈ ts, t.kind ≠ .header ∧ t.IsInRange := by
  cases h with
  | nil => exact ⟨.nil, nofun⟩
  | last h =>
    obtain ⟨hs, ht⟩ := IsValue.sentence h
    exact ⟨.last hs, ht⟩
  | cons h hc hs =>
    obtain ⟨hv, ht⟩ := IsValue.sentence h
    obtain ⟨his, hts⟩ := IsItems.sentence hs
    refine ⟨.cons hv hc his, ?_⟩
    rw [List.forall_mem_append, List.forall_mem_cons]
    exact ⟨ht, by simp [hc, Token.IsInRange], hts⟩

end

lemma IsAssignments.sentence {ts : List Token} {as : List Tree} (h : IsAssignments ts as) :
    Sentence.Assignments ts ∧ ∀ t ∈ ts, t.kind ≠ .header ∧ t.IsInRange := by
  induction h with
  | nil => exact ⟨.nil, nofun⟩
  | cons hk ha h hs ih =>
    obtain ⟨hv, ht⟩ := h.sentence
    refine ⟨.cons hk ha hv ih.1, ?_⟩
    simp only [List.forall_mem_cons, List.forall_mem_append]
    exact ⟨by simp [hk, Token.IsInRange], by simp [ha, Token.IsInRange], ht, ih.2⟩

lemma IsBlocks.sentence {ts : List Token} {bs : List Tree} (h : IsBlocks ts bs) :
    Sentence.File ts ∧ ∀ t ∈ ts, t.IsInRange := by
  induction h with
  | nil => exact ⟨.nil, nofun⟩
  | cons hk h hs ih =>
    obtain ⟨ha, ht⟩ := h.sentence
    refine ⟨.cons hk ha ih.1, ?_⟩
    rw [List.forall_mem_cons, List.forall_mem_append]
    exact ⟨by simp [hk, Token.IsInRange], fun t hm => (ht t hm).2, ih.2⟩

lemma IsBlocks.forall_isHeaded_iff {ts : List Token} {bs : List Tree} (h : IsBlocks ts bs) :
    (∀ b ∈ bs, b.IsHeaded) ↔ ∀ t ∈ ts, t.IsDotted := by
  induction h with
  | nil => simp
  | cons hk h hs ih =>
    have hplain := fun t hm => Token.isDotted_of_ne (h.sentence.2 t hm).1
    rw [List.forall_mem_cons, List.forall_mem_cons, List.forall_mem_append, isHeaded_block,
      isHeader_iff, ih]
    exact ⟨fun ⟨hh, hbs⟩ => ⟨fun _ => hh, hplain, hbs⟩, fun ⟨hh, _, hbs⟩ => ⟨hh hk, hbs⟩⟩

mutual

lemma Sentence.Value.exists_tree : ∀ {ts : List Token}, Sentence.Value ts →
    (∀ t ∈ ts, t.IsInRange) → ∃ v, IsValue ts v
  | _, .string h, _ => ⟨_, .string h⟩
  | _, .boolean h, _ => ⟨_, .boolean h⟩
  | _, .integer h, hr => by
    obtain ⟨n, hn⟩ := hr _ List.mem_cons_self h
    exact ⟨_, .integer h hn⟩
  | _, .array ho h hc, hr => by
    simp only [List.cons_append, List.forall_mem_cons, List.forall_mem_append] at hr
    obtain ⟨vs, hvs⟩ := Sentence.Items.exists_trees h hr.2.1
    exact ⟨_, .array ho hvs hc⟩

lemma Sentence.Items.exists_trees : ∀ {ts : List Token}, Sentence.Items ts →
    (∀ t ∈ ts, t.IsInRange) → ∃ vs, IsItems ts vs
  | _, .nil, _ => ⟨[], .nil⟩
  | _, .last h, hr => by
    obtain ⟨v, hv⟩ := Sentence.Value.exists_tree h hr
    exact ⟨[v], .last hv⟩
  | _, .cons h hc hs, hr => by
    rw [List.forall_mem_append, List.forall_mem_cons] at hr
    obtain ⟨v, hv⟩ := Sentence.Value.exists_tree h hr.1
    obtain ⟨vs, hvs⟩ := Sentence.Items.exists_trees hs hr.2.2
    exact ⟨v :: vs, .cons hv hc hvs⟩

end

lemma Sentence.Assignments.exists_trees {ts : List Token} (h : Sentence.Assignments ts)
    (hr : ∀ t ∈ ts, t.IsInRange) : ∃ as, IsAssignments ts as := by
  induction h with
  | nil => exact ⟨[], .nil⟩
  | cons hk ha h hs ih =>
    simp only [List.forall_mem_cons, List.forall_mem_append] at hr
    obtain ⟨v, hv⟩ := h.exists_tree hr.2.2.1
    obtain ⟨as, has⟩ := ih hr.2.2.2
    exact ⟨_, .cons hk ha hv has⟩

lemma Sentence.File.exists_trees {ts : List Token} (h : Sentence.File ts)
    (hr : ∀ t ∈ ts, t.IsInRange) : ∃ bs, IsBlocks ts bs := by
  induction h with
  | nil => exact ⟨[], .nil⟩
  | cons hk h hs ih =>
    rw [List.forall_mem_cons, List.forall_mem_append] at hr
    obtain ⟨as, has⟩ := h.exists_trees hr.2.1
    obtain ⟨bs, hbs⟩ := ih hr.2.2
    exact ⟨_, .cons hk has hbs⟩

namespace Tree

open State

lemma eq_nil_of_reached {ts : List Token} {s : State} (h : Reached ts s) (hb : s.block? = none) :
    ts = [] := by
  cases h with
  | start h =>
    cases h with
    | nil => rfl
    | block => cases hb
  | within => cases hb

lemma ofTokens_eq_propertyOutsideBlock_iff {ts : List Token} {key : String} {p : Position} :
    ofTokens ts = .error (.propertyOutsideBlock key p) ↔
      ∃ t us, ts = t :: us ∧ t.kind = .identifier ∧ t.lexeme = key ∧ t.position = p := by
  constructor
  · intro h
    cases stops_of_ofTokens h with
    | @token l r t s e hl hs he =>
      cases refuses_of_step he with
      | outside hb hk =>
        obtain rfl := eq_nil_of_reached (reached_of_foldlM hs) hb
        exact ⟨t, r, hl, hk, rfl, rfl⟩
  · rintro ⟨t, us, rfl, hk, rfl, rfl⟩
    have ht : initial.step t = .error (.propertyOutsideBlock t.lexeme t.position) := by
      simp only [step, readStatement, initial, hk]
    rw [ofTokens, Outcome.foldlM_cons_of_error ht]
    rfl

theorem ofTokens_sentence (ts : List Token) :
    ((∃ tree, ofTokens ts = .ok tree) ↔
      Sentence.File ts ∧ (∀ t ∈ ts, t.IsDotted) ∧ ∀ t ∈ ts, t.IsInRange) ∧
    (∀ tree, ofTokens ts = .ok tree →
      ∃ bs, IsBlocks ts bs ∧ (∀ cs, IsBlocks ts cs → cs = bs) ∧ tree = root bs) ∧
    ∀ key p, ofTokens ts = .error (.propertyOutsideBlock key p) ↔
      ∃ t us, ts = t :: us ∧ t.kind = .identifier ∧ t.lexeme = key ∧ t.position = p := by
  refine ⟨⟨?_, ?_⟩, ?_, fun key p => ofTokens_eq_propertyOutsideBlock_iff⟩
  · rintro ⟨tree, ht⟩
    obtain ⟨bs, hbs, hh, -⟩ := ofTokens_eq_ok_iff.mp ht
    exact ⟨hbs.sentence.1, hbs.forall_isHeaded_iff.mp hh, hbs.sentence.2⟩
  · rintro ⟨hs, hd, hr⟩
    obtain ⟨bs, hbs⟩ := hs.exists_trees hr
    exact ⟨root bs, ofTokens_blocks hbs (hbs.forall_isHeaded_iff.mpr hd)⟩
  · intro tree ht
    obtain ⟨bs, hbs, hh, rfl⟩ := ofTokens_eq_ok_iff.mp ht
    refine ⟨bs, hbs, fun cs hcs => ?_, rfl⟩
    have hd := hbs.forall_isHeaded_iff.mp hh
    have hroot := (ofTokens_blocks hcs (hcs.forall_isHeaded_iff.mpr hd)).symm.trans ht
    simpa [root, inner] using hroot

theorem ofTokens_sentence_nested_array :
    let t (kind : Kind) (lexeme : String) (column : Nat) : Token := ⟨kind, lexeme, ⟨1, column⟩⟩
    let ts : List Token := [t .header "a.b-c" 1, t .identifier "k" 9, t .assign "=" 11,
      t .openBracket "[" 13, t .integer "-7" 14, t .comma "," 16, t .openBracket "[" 18,
      t .boolean "true" 19, t .comma "," 23, t .closeBracket "]" 24, t .closeBracket "]" 25]
    let items : List Tree := [leaf .integer (.integer (-7)) ⟨1, 14⟩,
      inner .array ⟨1, 18⟩ [leaf .boolean (.boolean true) ⟨1, 19⟩]]
    let bs : List Tree := [block "a.b-c" ⟨1, 1⟩ [assignment "k" ⟨1, 9⟩ (inner .array ⟨1, 13⟩ items)]]
    ofTokens ts = .ok (root bs) ∧ (∀ cs, IsBlocks ts cs → cs = bs) ∧
      ofTokens (ts.drop 1) = .error (.propertyOutsideBlock "k" ⟨1, 9⟩) := by
  intro t ts items bs
  have htrue : IsItems [t .boolean "true" 19, t .comma "," 23] _ := .cons (.boolean rfl) rfl .nil
  have hitems : IsItems ((ts.drop 4).take 6) items :=
    .cons (.integer (n := -7) rfl (by decide)) rfl (.last (.array rfl htrue rfl))
  have hbs : IsBlocks ts bs := .cons rfl (.cons rfl rfl (.array rfl hitems rfl) .nil) .nil
  have hd : ∀ u ∈ ts, u.IsDotted := by
    have hb : (block "a.b-c" ⟨1, 1⟩ []).IsHeaded := isHeaded_block.mpr (by decide)
    exact hbs.forall_isHeaded_iff.mp (List.forall_mem_singleton.mpr hb)
  obtain ⟨tree, ht⟩ := (ofTokens_sentence ts).1.mpr ⟨hbs.sentence.1, hd, hbs.sentence.2⟩
  obtain ⟨cs, -, hu, rfl⟩ := (ofTokens_sentence ts).2.1 tree ht
  obtain rfl : bs = cs := hu bs hbs
  exact ⟨ht, hu, ((ofTokens_sentence (ts.drop 1)).2.2 _ _).mpr ⟨_, _, rfl, rfl, rfl, rfl⟩⟩

end Tree

end RowFilter.Config
