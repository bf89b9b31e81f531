import RowFilter.Proofs.Config.Grammar
import RowFilter.Proofs.Outcome

/-! The tokens that have been read are at every moment the beginning of a derivation. -/

namespace RowFilter.Config

namespace Tree

namespace State

section Step

variable {t : Token} {key : Key} (arrays : List OpenArray) (b : OpenBlock) (b? : Option OpenBlock)
  (bs : List Tree)

lemma step_header (ht : t.kind = .header) (hv : isHeader t.lexeme = true) :
    step ⟨.statement, b?, bs⟩ t =
      .ok ⟨.statement, some ⟨t.lexeme, t.position, []⟩, allBlocks ⟨.statement, b?, bs⟩⟩ := by
  simp only [step, readStatement, ht, if_pos hv]

lemma step_key (ht : t.kind = .identifier) :
    step ⟨.statement, some b, bs⟩ t = .ok ⟨.assign ⟨t.lexeme, t.position⟩, some b, bs⟩ := by
  simp only [step, readStatement, ht, enter]

lemma step_assign (ht : t.kind = .assign) :
    step ⟨.assign key, b?, bs⟩ t = .ok ⟨.value key [], b?, bs⟩ := by
  simp only [step, if_pos ht, enter]

lemma addValue_phase (phase : Phase) (v : Tree) :
    addValue ⟨phase, b?, bs⟩ key v arrays = addValue ⟨.statement, b?, bs⟩ key v arrays := by
  cases arrays <;> rfl

lemma step_string (ht : t.kind = .string) :
    step ⟨.value key arrays, b?, bs⟩ t =
      .ok (addValue ⟨.statement, b?, bs⟩ key (leaf .string (.string t.lexeme) t.position) arrays) := by
  simp only [step, readValue, ht, addValue_phase]

lemma step_boolean (ht : t.kind = .boolean) :
    step ⟨.value key arrays, b?, bs⟩ t =
      .ok (addValue ⟨.statement, b?, bs⟩ key
        (leaf .boolean (.boolean (t.lexeme == "true")) t.position) arrays) := by
  simp only [step, readValue, ht, addValue_phase]

lemma step_integer {n : Int64} (ht : t.kind = .integer)
    (hn : Number.int64? t.lexeme.toList = some n) :
    step ⟨.value key arrays, b?, bs⟩ t =
      .ok (addValue ⟨.statement, b?, bs⟩ key (leaf .integer (.integer n) t.position) arrays) := by
  simp only [step, readValue, ht, hn, addValue_phase]

lemma step_openArray (ht : t.kind = .openBracket) :
    step ⟨.value key arrays, b?, bs⟩ t = .ok ⟨.value key (⟨t.position, []⟩ :: arrays), b?, bs⟩ := by
  simp only [step, readValue, ht, enter]

lemma step_closeArray (a : OpenArray) (ht : t.kind = .closeBracket) :
    step ⟨.value key (a :: arrays), b?, bs⟩ t =
      .ok (closeArray ⟨.statement, b?, bs⟩ key a arrays) := by
  simp only [step, readValue, ht, closeArray, addValue_phase]

lemma step_closeItems (a : OpenArray) (ht : t.kind = .closeBracket) :
    step ⟨.itemEnd key a arrays, b?, bs⟩ t =
      .ok (closeArray ⟨.statement, b?, bs⟩ key a arrays) := by
  simp only [step, ht, closeArray, addValue_phase]

lemma step_comma (a : OpenArray) (ht : t.kind = .comma) :
    step ⟨.itemEnd key a arrays, b?, bs⟩ t = .ok ⟨.value key (a :: arrays), b?, bs⟩ := by
  simp only [step, ht, enter]

end Step

section Fold

variable {key : Key} (b? : Option OpenBlock) (bs : List Tree)

mutual

lemma foldlM_value {ts : List Token} {v : Tree} (h : IsValue ts v) (arrays : List OpenArray) :
    ts.foldlM step ⟨.value key arrays, b?, bs⟩ =
      .ok (addValue ⟨.statement, b?, bs⟩ key v arrays) := by
  cases h with
  | string h => rw [Outcome.foldlM_singleton, step_string arrays b? bs h]
  | boolean h => rw [Outcome.foldlM_singleton, step_boolean arrays b? bs h]
  | integer h hn => rw [Outcome.foldlM_singleton, step_integer arrays b? bs h hn]
  | @array opening closing ts vs ho h hc =>
    rw [List.cons_append, Outcome.foldlM_cons_of_ok (step_openArray arrays b? bs ho),
      foldlM_items h hc]
    simp [closeArray]

lemma foldlM_items {ts : List Token} {vs : List Tree} (h : IsItems ts vs) {closing : Token}
    (hc : closing.kind = .closeBracket) (a : OpenArray) (arrays : List OpenArray) :
    (ts ++ [closing]).foldlM step ⟨.value key (a :: arrays), b?, bs⟩ =
      .ok (closeArray ⟨.statement, b?, bs⟩ key { a with items := vs.reverse ++ a.items } arrays) := by
  -- the bracket is read in another phase behind an item than behind a comma
  cases h with
  | nil => exact Outcome.foldlM_singleton.trans (step_closeArray arrays b? bs a hc)
  | last h =>
    rw [Outcome.foldlM_append_of_ok (foldlM_value h (a :: arrays)), Outcome.foldlM_singleton]
    exact step_closeItems arrays b? bs _ hc
  | cons h hcomma hs =>
    rw [List.append_assoc, Outcome.foldlM_append_of_ok (foldlM_value h (a :: arrays)),
      List.cons_append, addValue, Outcome.foldlM_cons_of_ok (step_comma arrays b? bs _ hcomma),
      foldlM_items hs hc]
    simp

end

lemma foldlM_assignments {ts : List Token} {as : List Tree} (h : IsAssignments ts as)
    (b : OpenBlock) :
    ts.foldlM step ⟨.statement, some b, bs⟩ =
      .ok ⟨.statement, some { b with assignments := as.reverse ++ b.assignments }, bs⟩ := by
  induction h generalizing b with
  | nil => rfl
  | cons hk ha h hs ih =>
    rw [Outcome.foldlM_cons_of_ok (step_key b bs hk),
      Outcome.foldlM_cons_of_ok (step_assign (some b) bs ha),
      Outcome.foldlM_append_of_ok (foldlM_value (some b) bs h []), addValue, addAssignment,
      Option.map_some, ih]
    simp

lemma foldlM_blocks {ts : List Token} {cs : List Tree} (h : IsBlocks ts cs)
    (hv : ∀ c ∈ cs, c.IsHeaded) :
    ∃ c?, ∃ ds, ts.foldlM step ⟨.statement, b?, bs⟩ = .ok ⟨.statement, c?, ds⟩ ∧
      allBlocks ⟨.statement, c?, ds⟩ = cs.reverse ++ allBlocks ⟨.statement, b?, bs⟩ := by
  induction h generalizing b? bs with
  | nil => exact ⟨b?, bs, rfl, rfl⟩
  | @cons header ts us as cs hk h hs ih =>
    rw [List.forall_mem_cons, isHeaded_block] at hv
    obtain ⟨hh, hcs⟩ := hv
    let open? : OpenBlock := ⟨header.lexeme, header.position, as.reverse ++ []⟩
    obtain ⟨c?, ds, hfold, hall⟩ := ih (some open?) (allBlocks ⟨.statement, b?, bs⟩) hcs
    refine ⟨c?, ds, ?_, ?_⟩
    · rw [Outcome.foldlM_cons_of_ok (step_header b? bs hk hh),
        Outcome.foldlM_append_of_ok (foldlM_assignments _ h _), hfold]
    · rw [hall]
      simp [allBlocks, OpenBlock.tree, open?]

end Fold

end State

lemma ofTokens_blocks {ts : List Token} {bs : List Tree} (h : IsBlocks ts bs)
    (hv : ∀ b ∈ bs, b.IsHeaded) : ofTokens ts = .ok (root bs) := by
  obtain ⟨c?, ds, hfold, hall⟩ := State.foldlM_blocks none [] h hv
  rw [ofTokens, State.initial, hfold]
  simp only [Except.bind, State.finish]
  rw [hall]
  simp [State.allBlocks]

inductive ItemsBefore : List Token → List Tree → Prop
  | nil : ItemsBefore [] []
  | comma {ts us : List Token} {comma : Token} {v : Tree} {vs : List Tree} (h : ItemsBefore ts vs)
      (hv : IsValue us v) (hc : comma.kind = .comma) :
      ItemsBefore (ts ++ us ++ [comma]) (vs ++ [v])

lemma ItemsBefore.append {ts us : List Token} {vs ws : List Tree} (h : ItemsBefore ts vs)
    (hw : IsItems us ws) : IsItems (ts ++ us) (vs ++ ws) := by
  induction h generalizing us ws with
  | nil => exact hw
  | comma h hv hc ih => simpa using ih (.cons hv hc hw)

inductive Opened : List Token → List OpenArray → Prop
  | nil : Opened [] []
  | array {ts us : List Token} {opening : Token} {arrays : List OpenArray} {vs : List Tree}
      (h : Opened ts arrays) (ho : opening.kind = .openBracket) (hi : ItemsBefore us vs) :
      Opened (ts ++ opening :: us) (⟨opening.position, vs.reverse⟩ :: arrays)

inductive Stated : List Token → Option OpenBlock → List Tree → Prop
  | nil : Stated [] none []
  | block {ts us : List Token} {header : Token} {as bs : List Tree} (h : IsBlocks ts bs)
      (hv : ∀ b ∈ bs, b.IsHeaded) (hk : header.kind = .header) (hh : isHeader header.lexeme = true)
      (ha : IsAssignments us as) :
      Stated (ts ++ header :: us) (some ⟨header.lexeme, header.position, as.reverse⟩) bs.reverse

inductive Begun : List Token → Phase → Prop
  | assign {key : Token} (hk : key.kind = .identifier) :
      Begun [key] (.assign ⟨key.lexeme, key.position⟩)
  | value {key assign : Token} {ts : List Token} {arrays : List OpenArray}
      (hk : key.kind = .identifier) (ha : assign.kind = .assign) (h : Opened ts arrays) :
      Begun (key :: assign :: ts) (.value ⟨key.lexeme, key.position⟩ arrays)
  | itemEnd {key assign : Token} {ts us : List Token} {a : OpenArray} {arrays : List OpenArray}
      {v : Tree} (hk : key.kind = .identifier) (ha : assign.kind = .assign)
      (h : Opened ts (a :: arrays)) (hv : IsValue us v) :
      Begun (key :: assign :: (ts ++ us))
        (.itemEnd ⟨key.lexeme, key.position⟩ { a with items := v :: a.items } arrays)

/-- The tokens that have been read when a state is reached. No assignment begins outside of blocks.
-/
inductive Reached : List Token → State → Prop
  | start {b? : Option OpenBlock} {bs : List Tree} {ts : List Token} (h : Stated ts b? bs) :
      Reached ts ⟨.statement, b?, bs⟩
  | within {b : OpenBlock} {bs : List Tree} {ts us : List Token} {phase : Phase}
      (h : Stated ts (some b) bs) (hb : Begun us phase) :
      Reached (ts ++ us) ⟨phase, some b, bs⟩

section Reached

variable {ts us : List Token} {t key assign : Token} {b? : Option OpenBlock} {b : OpenBlock}
  {bs : List Tree} {s s' : State} {tree v : Tree} {arrays : List OpenArray}

open State

lemma Stated.assignment (h : Stated ts (some b) bs) (hk : key.kind = .identifier)
    (ha : assign.kind = .assign) (hv : IsValue us v) :
    Stated (ts ++ key :: assign :: us)
      (some { b with assignments := assignment key.lexeme key.position v :: b.assignments }) bs := by
  cases h with
  | block h hv' hk' hh ha' => simpa using Stated.block h hv' hk' hh (ha'.snoc hk ha hv)

lemma Stated.blocks (h : Stated ts b? bs) :
    IsBlocks ts (allBlocks ⟨.statement, b?, bs⟩).reverse ∧
      ∀ b ∈ (allBlocks ⟨.statement, b?, bs⟩).reverse, b.IsHeaded := by
  cases h with
  | nil => exact ⟨.nil, nofun⟩
  | block h hv hk hh ha =>
    simp only [allBlocks, OpenBlock.tree, List.reverse_cons, List.reverse_reverse]
    exact ⟨h.snoc hk ha, by simpa [or_imp, forall_and, isHeaded_block] using ⟨hv, hh⟩⟩

lemma Reached.addValue (h : Stated ts (some b) bs) (hk : key.kind = .identifier)
    (ha : assign.kind = .assign) (ho : Opened us arrays) {vs : List Token} (hv : IsValue vs v) :
    Reached (ts ++ key :: assign :: (us ++ vs))
      (addValue ⟨.statement, some b, bs⟩ ⟨key.lexeme, key.position⟩ v arrays) := by
  cases arrays with
  | nil =>
    cases ho with
    | nil => exact .start (h.assignment hk ha hv)
  | cons a arrays => exact .within h (.itemEnd hk ha ho hv)

lemma Reached.closeArray (h : Stated ts (some b) bs) (hk : key.kind = .identifier)
    (ha : assign.kind = .assign) {a : OpenArray} (ho : Opened us (a :: arrays))
    {ws : List Token} {items : List Tree} (hi : IsItems ws items) (ht : t.kind = .closeBracket) :
    Reached (ts ++ key :: assign :: (us ++ ws ++ [t]))
      (closeArray ⟨.statement, some b, bs⟩ ⟨key.lexeme, key.position⟩
        { a with items := items.reverse ++ a.items } arrays) := by
  cases ho with
  | array ho hopen hbefore =>
    have hall := IsValue.array hopen (hbefore.append hi) ht
    simpa [State.closeArray] using Reached.addValue h hk ha ho hall

lemma reached_statement (h : Stated ts b? bs) (hs' : readStatement ⟨.statement, b?, bs⟩ t = .ok s') :
    Reached (ts ++ [t]) s' := by
  simp only [readStatement] at hs'
  split at hs'
  · next ht =>
    split at hs'
    · next hh =>
      cases hs'
      simpa using Reached.start (Stated.block h.blocks.1 h.blocks.2 ht hh .nil)
    · cases hs'
  · cases hs'
  · next ht =>
    cases hs'
    exact .within h (.assign ht)
  · cases hs'

lemma reached_value (h : Stated ts (some b) bs) (hk : key.kind = .identifier)
    (ha : assign.kind = .assign) (ho : Opened us arrays)
    (hs' : readValue ⟨.value ⟨key.lexeme, key.position⟩ arrays, some b, bs⟩
      ⟨key.lexeme, key.position⟩ arrays t = .ok s') :
    Reached (ts ++ key :: assign :: (us ++ [t])) s' := by
  simp only [readValue, State.closeArray, addValue_phase] at hs'
  split at hs'
  · next ht =>
    cases hs'
    exact .within h (.value hk ha (.array ho ht .nil))
  · next a rest ht =>
    cases hs'
    simpa [State.closeArray] using Reached.closeArray h hk ha ho .nil ht
  · next ht =>
    cases hs'
    exact Reached.addValue h hk ha ho (.string ht)
  · next ht =>
    cases hs'
    exact Reached.addValue h hk ha ho (.boolean ht)
  · next ht =>
    split at hs'
    · next n hn =>
      cases hs'
      exact Reached.addValue h hk ha ho (.integer ht hn)
    · cases hs'
  · cases hs'

lemma reached_step (h : Reached ts s) (hs' : s.step t = .ok s') : Reached (ts ++ [t]) s' := by
  cases h with
  | start h => exact reached_statement h hs'
  | within h hb =>
    cases hb with
    | assign hk =>
      simp only [step] at hs'
      split at hs'
      · next ht =>
        cases hs'
        simpa using Reached.within h (.value hk ht .nil)
      · cases hs'
    | value hk ha ho => simpa using reached_value h hk ha ho hs'
    | @itemEnd key assign us vs a arrays v hk ha ho hv =>
      simp only [step] at hs'
      split at hs'
      · next ht =>
        cases hs'
        cases ho with
        | array ho hopen hbefore =>
          have hall := Opened.array ho hopen (hbefore.comma hv ht)
          simpa using Reached.within h (.value hk ha hall)
      · next ht =>
        have hall := Reached.closeArray h hk ha ho (.last hv) ht
        simp only [State.closeArray, addValue_phase] at hs' hall
        cases hs'
        simpa using hall
      · cases hs'

lemma reached_of_foldlM (h : ts.foldlM step initial = .ok s) : Reached ts s := by
  have hinit : Reached [] initial := .start .nil
  exact Outcome.foldlM_reads (fun _ _ _ _ => reached_step) hinit h

lemma reached_finish (h : Reached ts s) (hs : s.finish = .ok tree) :
    ∃ bs, IsBlocks ts bs ∧ (∀ b ∈ bs, b.IsHeaded) ∧ tree = root bs := by
  cases h with
  | start h =>
    cases hs
    exact ⟨_, h.blocks.1, h.blocks.2, rfl⟩
  | within h hb => cases hb <;> cases hs

end Reached

theorem ofTokens_eq_ok_iff {ts : List Token} {tree : Tree} :
    ofTokens ts = .ok tree ↔ ∃ bs, IsBlocks ts bs ∧ (∀ b ∈ bs, b.IsHeaded) ∧ tree = root bs := by
  constructor
  · intro h
    obtain ⟨s, hs, hf⟩ := Outcome.bind_eq_ok h
    exact reached_finish (reached_of_foldlM hs) hf
  · rintro ⟨bs, hbs, hv, rfl⟩
    exact ofTokens_blocks hbs hv

end Tree

end RowFilter.Config
