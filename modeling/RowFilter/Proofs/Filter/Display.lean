import RowFilter.Proofs.Filter.Binding
import RowFilter.Proofs.Filter.Word
import RowFilter.Proofs.Filter.Writing
import RowFilter.Proofs.Scalar

/-! The s-expression of a filter tells the filter, up to the positions in it. -/

namespace RowFilter.Filter

open Clause (comparisonTree comparisonTree_of_ne trees faultAll? filterTree)
open Text (EndsRun endsRun_nil endsRun_cons run_append_inj shown_append_inj IsTold separated
  joined_append_inj code_append_inj toList_intercalate_cons)

lemma Literal.IsPlain.exists_plain {l : Literal} (h : l.IsPlain) :
    ∃ s : Scalar, l = .scalar s ∧ s.IsPlain := by
  obtain ⟨s, rfl⟩ := h.exists_scalar
  refine ⟨s, rfl, ?_⟩
  cases s <;> exact h

lemma exists_plains {ls : List Literal} (h : ∀ l ∈ ls, l.IsPlain) :
    ∃ ss : List Scalar, ls = ss.map .scalar ∧ ∀ s ∈ ss, s.IsPlain := by
  induction ls with
  | nil => exact ⟨[], rfl, nofun⟩
  | cons l ls ih =>
    rw [List.forall_mem_cons] at h
    obtain ⟨s, rfl, hs⟩ := h.1.exists_plain
    obtain ⟨ss, rfl, hss⟩ := ih h.2
    exact ⟨s :: ss, rfl, List.forall_mem_cons.mpr ⟨hs, hss⟩⟩

lemma texts_map_scalar (ss : List Scalar) :
    Literal.texts (ss.map .scalar) = ss.map Scalar.text := by
  induction ss with
  | nil => rfl
  | cons s ss ih => rw [List.map_cons, Literal.texts, ih, Literal.text, List.map_cons]

lemma toList_text_list (s : Scalar) (ss : List Scalar) :
    (Literal.list ((s :: ss).map .scalar)).text.toList =
      '[' :: (s.text.toList ++
        (separated [',', ' '] (fun s => s.text.toList) ss ++ [']'])) := by
  rw [Literal.text, texts_map_scalar, List.map_cons, String.toList_append, String.toList_append,
    toList_intercalate_cons, separated, separated, List.flatMap_map]
  simp

lemma list_append_inj {s t : Scalar} {ss ts : List Scalar} (hs : ∀ x ∈ s :: ss, x.IsPlain)
    (ht : ∀ x ∈ t :: ts, x.IsPlain) {u v : List Char}
    (h : (Literal.list ((s :: ss).map .scalar)).text.toList ++ u =
      (Literal.list ((t :: ts).map .scalar)).text.toList ++ v) : s :: ss = t :: ts ∧ u = v := by
  have hclose : ∀ {p : Char → Bool}, p ']' = false → ∀ {u}, EndsRun p (']' :: u) :=
    fun hp u => endsRun_cons hp u
  simp only [toList_text_list, List.cons_append, List.append_assoc, List.cons.injEq,
    true_and] at h
  obtain ⟨hst, huv⟩ := joined_append_inj rfl (fun x hx => Scalar.told (hs x hx)) ht (hclose rfl)
    (hclose rfl) (hclose rfl) (hclose rfl) h
  exact ⟨hst, (List.cons.inj huv).2⟩

def valueText : Literal → List Char
  | .null => []
  | v => ' ' :: v.text.toList

lemma Fits.value_told {x : Test} {v w : Literal} (hv : Fits x v) (hw : Fits x w) {u u' : List Char}
    (h : valueText v ++ ')' :: u = valueText w ++ ')' :: u') : v = w ∧ u = u' := by
  cases hv with
  | comparison hc hl =>
    cases hw with
    | comparison _ hl' =>
      obtain ⟨s, rfl, hs⟩ := hl.exists_plain
      obtain ⟨t, rfl, ht⟩ := hl'.exists_plain
      obtain ⟨rfl, huv⟩ := Scalar.told hs ht (endsRun_cons rfl _) (endsRun_cons rfl _)
        (List.cons.inj h).2
      exact ⟨rfl, (List.cons.inj huv).2⟩
    | like s => exact absurd rfl hc
  | like s =>
    cases hw with
    | comparison hc _ => exact absurd rfl hc
    | like t =>
      obtain ⟨rfl, huv⟩ := shown_append_inj (List.cons.inj h).2
      exact ⟨rfl, (List.cons.inj huv).2⟩
  | membership negated hne hl =>
    cases hw with
    | membership _ hne' hl' =>
      obtain ⟨ss, rfl, hss⟩ := exists_plains hl
      obtain ⟨ts, rfl, hts⟩ := exists_plains hl'
      obtain ⟨s, ss, rfl⟩ := List.exists_cons_of_ne_nil (fun he => hne (congrArg _ he))
      obtain ⟨t, ts, rfl⟩ := List.exists_cons_of_ne_nil (fun he => hne' (congrArg _ he))
      obtain ⟨hst, huv⟩ := list_append_inj hss hts (List.cons.inj h).2
      rw [hst]
      exact ⟨rfl, (List.cons.inj huv).2⟩
  | nullity negated =>
    cases hw with
    | nullity _ => exact ⟨rfl, (List.cons.inj h).2⟩

def operators : List Operator :=
  [.connective .and, .connective .or] ++
    [.eq, .ne, .gt, .gte, .lt, .lte, .like].map (fun c => .test (.comparison c)) ++
    [.test (.membership true), .test (.membership false), .test (.nullity true),
      .test (.nullity false)]

lemma mem_operators (op : Operator) : op ∈ operators := by
  rcases op with (_ | _) | (_ | _) | (_ | _) | (_ | _) <;> decide

lemma sql_append_inj {op op' : Operator} {u v : List Char}
    (h : op.sql.toList ++ ' ' :: u = op'.sql.toList ++ ' ' :: v) : op = op' ∧ u = v := by
  have hcode : ∀ x ∈ operators, ∀ y ∈ operators,
      x.sql.toList ++ [' '] <+: y.sql.toList ++ [' '] → x = y := by decide +kernel
  rw [List.append_cons, List.append_cons op'.sql.toList] at h
  exact code_append_inj mem_operators hcode h

namespace Tree

/-- A tree without positions, of which every node can be told by its text. -/
inductive IsDisplayed : Tree → Prop
  | group {c : Connective} {ts : List Tree} (hne : ts ≠ []) (h : ∀ t ∈ ts, IsDisplayed t) :
      IsDisplayed (.operator (.connective c) .start ts)
  | test {x : Test} {key : String} {v : Literal} (hk : isValidKey key = true) (hf : Fits x v) :
      IsDisplayed (.operator (.test x) .start [.operand key v []])

lemma toList_texts (ts : List Tree) :
    (texts ts).toList = separated [' '] (fun t => t.text.toList) ts := by
  induction ts with
  | nil => rfl
  | cons t ts ih => simp [texts, ih, separated]

lemma toList_text_operator (op : Operator) (p : Position) (t : Tree) (ts : List Tree) :
    (operator op p (t :: ts)).text.toList =
      '(' :: (op.sql.toList ++ ' ' :: (t.text.toList ++
        (separated [' '] (fun t => t.text.toList) ts ++ [')']))) := by
  simp [text, texts, toList_texts]

lemma toList_text_operand (key : String) (v : Literal) (ds : List Tree) :
    (operand key v ds).text.toList = key.toList ++ valueText v := by
  cases v <;> simp [text, valueText]

def isKeyChar (c : Char) : Bool := c.isAlphanum || c == '_'

lemma operand_append_inj {x : Test} {key key' : String} {v w : Literal} {u u' : List Char}
    (hk : isValidKey key = true) (hk' : isValidKey key' = true) (hv : Fits x v) (hw : Fits x w)
    (h : key.toList ++ (valueText v ++ ')' :: u) = key'.toList ++ (valueText w ++ ')' :: u')) :
    key = key' ∧ v = w ∧ u = u' := by
  have hkey : ∀ {key}, isValidKey key = true → ∀ c ∈ key.toList, isKeyChar c = true := by
    intro key hk c hc
    rw [isKeyChar, Bool.or_eq_true, beq_iff_eq]
    exact Token.mem_key hk c hc
  have hends : ∀ v u, EndsRun isKeyChar (valueText v ++ ')' :: u) := by
    intro v u
    cases v with
    | null => exact endsRun_cons (by decide) u
    | _ => exact endsRun_cons (by decide) _
  obtain ⟨hkeys, hrest⟩ := run_append_inj (hkey hk) (hends v u) (hkey hk') (hends w u') h
  obtain ⟨rfl, huv⟩ := hv.value_told hw hrest
  exact ⟨String.toList_inj.mp hkeys, rfl, huv⟩

lemma operator_append_inj {op op' : Operator} {p p' : Position} {t t' : Tree} {ts ts' : List Tree}
    {u v : List Char}
    (h : (operator op p (t :: ts)).text.toList ++ u =
      (operator op' p' (t' :: ts')).text.toList ++ v) :
    op = op' ∧ t.text.toList ++ (separated [' '] (fun t => t.text.toList) ts ++ ')' :: u) =
      t'.text.toList ++ (separated [' '] (fun t => t.text.toList) ts' ++ ')' :: v) := by
  simp only [toList_text_operator, List.cons_append, List.append_assoc, List.cons.injEq,
    true_and] at h
  exact sql_append_inj h

lemma IsDisplayed.told {t : Tree} (h : IsDisplayed t) :
    IsTold (fun _ => false) (fun t => t.text.toList) IsDisplayed t := by
  induction h with
  | @group c ts hne h ih =>
    intro t' ht' u v hu hv he
    obtain ⟨t, ts, rfl⟩ := List.exists_cons_of_ne_nil hne
    cases ht' with
    | @group c' ts' hne' h' =>
      obtain ⟨t', ts', rfl⟩ := List.exists_cons_of_ne_nil hne'
      obtain ⟨hop, hrest⟩ := operator_append_inj he
      obtain rfl := Operator.connective.inj hop
      obtain ⟨hts, huv⟩ := joined_append_inj rfl ih h' (endsRun_cons rfl _) (endsRun_cons rfl _)
        (endsRun_cons rfl _) (endsRun_cons rfl _) hrest
      rw [hts]
      exact ⟨rfl, (List.cons.inj huv).2⟩
    | test hk hf => cases (operator_append_inj he).1
  | @test x key w hk hf =>
    intro t' ht' u v hu hv he
    cases ht' with
    | @group c' ts' hne' h' =>
      obtain ⟨t', ts', rfl⟩ := List.exists_cons_of_ne_nil hne'
      cases (operator_append_inj he).1
    | test hk' hf' =>
      obtain ⟨hop, hrest⟩ := operator_append_inj he
      obtain rfl := Operator.test.inj hop
      rw [toList_text_operand, toList_text_operand, List.append_assoc, List.append_assoc] at hrest
      obtain ⟨rfl, rfl, huv⟩ := operand_append_inj hk hk' hf hf' hrest
      exact ⟨rfl, huv⟩

lemma unplacedAll_eq_map (ts : List Tree) : unplacedAll ts = ts.map unplaced := by
  induction ts with
  | nil => rfl
  | cons t ts ih => rw [unplacedAll, ih, List.map_cons]

lemma text_unplaced (t : Tree) : t.unplaced.text = t.text := by
  induction t with
  | operator op p children ih =>
    have hchildren : texts (unplacedAll children) = texts children := by
      clear p
      induction children with
      | nil => rfl
      | cons c cs ihc =>
        rw [List.forall_mem_cons] at ih
        rw [unplacedAll, texts, texts, ih.1, ihc ih.2]
    rw [unplaced, text, text, hchildren]
  | operand key v children ih => cases v <;> rfl

end Tree

def Token.IsPointed (t : Token) : Prop :=
  ∀ d, t.kind = .decimal → Decimal.ofText? t.lexeme.toList = some d → d.scale ≠ 0

lemma Token.Spells.isPointed {t : Token} {span : List Char} (h : Token.Spells t span) :
    t.IsPointed := by
  intro d hk hd
  cases h with
  | mark p h =>
    have hall : ∀ x ∈ Token.marks, x.2 ≠ .decimal := by decide
    exact absurd hk (hall _ h)
  | quoted p hq h => cases hk
  | word p hw hc =>
    obtain rfl : _ = Kind.decimal := hk
    obtain ⟨d', hd', hform, -⟩ := Token.exists_decimal hc
    rw [String.toList_ofList, hd'] at hd
    obtain rfl := Option.some.inj hd
    exact Decimal.scale_ne_zero hform

section Displayed

variable {t : Token} {ts : List Token} {key : Tree.Key} {op? : Option Comparison}

lemma IsLiteral.isPlain {l : Literal} (h : IsLiteral t l) (ht : t.IsPointed) :
    l = .null ∨ l.IsPlain := by
  cases h with
  | decimal hk hd => exact .inr (ht _ hk hd)
  | null => exact .inl rfl
  | _ => exact .inr trivial

lemma IsItems.isPlain {ls : List Literal} (h : IsItems ts ls) (ht : ∀ t ∈ ts, t.IsPointed)
    (hn : ls.any Literal.isNull = false) : ls ≠ [] ∧ ∀ l ∈ ls, l.IsPlain := by
  have hplain : ∀ {t l}, IsLiteral t l → t.IsPointed → l.isNull = false → l.IsPlain := by
    intro t l hl hp hnull
    rcases hl.isPlain hp with rfl | h
    · cases hnull
    · exact h
  induction h with
  | single h =>
    rw [List.any_cons, Bool.or_eq_false_iff] at hn
    exact ⟨List.cons_ne_nil _ _,
      List.forall_mem_singleton.mpr (hplain h (ht _ List.mem_cons_self) hn.1)⟩
  | cons h hc hs ih =>
    rw [List.any_cons, Bool.or_eq_false_iff] at hn
    simp only [List.forall_mem_cons] at ht
    exact ⟨List.cons_ne_nil _ _,
      List.forall_mem_cons.mpr ⟨hplain h ht.1 hn.1, (ih ht.2.2 hn.2).2⟩⟩

variable (hv : isValidKey key.name = true)
include hv

lemma isDisplayed_test {x : Test} {v : Literal} (h : Fits x v) :
    (Tree.test x key.position key.name v).unplaced.IsDisplayed :=
  .test hv h

lemma isDisplayed_scalar {l : Literal} (hl : l.IsPlain)
    (hf : (Construct.comparison key op? l).fault? = none) :
    (comparisonTree key op? l).unplaced.IsDisplayed := by
  obtain ⟨s, rfl⟩ := hl.exists_scalar
  by_cases hlike : op? = some .like
  · subst hlike
    have hs := Construct.isString_of_fault?_like hf
    cases s with
    | string s => exact isDisplayed_test hv (.like s)
    | _ => cases hs
  · have hc : op?.getD .eq ≠ .like := by
      cases op? with
      | none => decide
      | some c => exact fun he => hlike (congrArg some he)
    have ht : ∀ c, Comparison.test c (.scalar s) = .comparison c := by
      intro c
      cases c <;> rfl
    rw [comparisonTree_of_ne hlike, ht]
    exact isDisplayed_test hv (.comparison hc hl)

lemma isDisplayed_null (hf : (Construct.comparison key op? .null).fault? = none) :
    (comparisonTree key op? .null).unplaced.IsDisplayed := by
  rcases Construct.of_fault?_null hf with rfl | rfl | rfl
  · exact isDisplayed_test hv (.nullity false)
  · exact isDisplayed_test hv (.nullity false)
  · exact isDisplayed_test hv (.nullity true)

lemma isDisplayed_list {ls : List Literal} (hne : ls ≠ []) (hl : ∀ l ∈ ls, l.IsPlain)
    (hf : (Construct.comparison key op? (.list ls)).fault? = none) :
    (comparisonTree key op? (.list ls)).unplaced.IsDisplayed := by
  rcases Construct.of_fault?_list hf with rfl | rfl | rfl | rfl
  · exact isDisplayed_test hv (.membership false hne hl)
  · exact isDisplayed_test hv (.membership false hne hl)
  · exact isDisplayed_test hv (.membership true hne hl)
  · have hs := List.all_eq_true.mp (Construct.isString_of_fault?_like hf)
    rw [comparisonTree, Tree.unplaced, Tree.unplacedAll_eq_map, List.map_map]
    refine .group (by simpa using hne) ?_
    rw [List.forall_mem_map]
    intro l hmem
    have hstring : l.isString = true := hs l hmem
    unfold Literal.isString at hstring
    split at hstring
    · exact isDisplayed_test hv (.like _)
    · cases hstring

lemma isDisplayed_comparisonTree {operand : Literal} (h : IsOperand ts operand)
    (ht : ∀ t ∈ ts, t.IsPointed) (hf : (Construct.comparison key op? operand).fault? = none) :
    (comparisonTree key op? operand).unplaced.IsDisplayed := by
  cases h with
  | literal h =>
    rcases h.isPlain (ht _ List.mem_cons_self) with rfl | hl
    · exact isDisplayed_null hv hf
    · exact isDisplayed_scalar hv hl hf
  | list ho h hc =>
    rw [List.forall_mem_append, List.forall_mem_cons] at ht
    obtain ⟨hne, hl⟩ := h.isPlain ht.1.2 (Construct.noNull_of_fault?_list hf)
    exact isDisplayed_list hv hne hl hf

end Displayed

mutual

lemma IsClause.isDisplayed {ts : List Token} {c : Clause} (h : IsClause ts c)
    (ht : ∀ t ∈ ts, t.IsPointed) {depth : Nat} (hf : c.fault? depth = none) :
    c.tree.unplaced.IsDisplayed := by
  cases h with
  | group hk hc ho h he =>
    rw [Clause.fault?_group] at hf
    split at hf
    · simp only [List.forall_mem_append, List.forall_mem_cons] at ht
      obtain ⟨hne, hall⟩ := IsClauses.isDisplayed h ht.1.2.2.2 hf
      exact .group hne hall
    · cases hf
  | comparison hh h =>
    rw [Clause.fault?_comparison] at hf
    rw [List.forall_mem_append] at ht
    split at hf
    · next hv => exact isDisplayed_comparisonTree hv h ht.2 hf
    · cases hf

lemma IsClauses.isDisplayed {ts : List Token} {cs : List Clause} (h : IsClauses ts cs)
    (ht : ∀ t ∈ ts, t.IsPointed) {depth : Nat} (hf : faultAll? depth cs = none) :
    Tree.unplacedAll (trees cs) ≠ [] ∧ ∀ t ∈ Tree.unplacedAll (trees cs), t.IsDisplayed := by
  cases h with
  | single h =>
    rw [Clause.faultAll?_cons, Option.or_eq_none_iff] at hf
    exact ⟨List.cons_ne_nil _ _, List.forall_mem_singleton.mpr (IsClause.isDisplayed h ht hf.1)⟩
  | cons h hc hs =>
    rw [Clause.faultAll?_cons, Option.or_eq_none_iff] at hf
    rw [List.forall_mem_append, List.forall_mem_cons] at ht
    exact ⟨List.cons_ne_nil _ _, List.forall_mem_cons.mpr
      ⟨IsClause.isDisplayed h ht.1 hf.1, (IsClauses.isDisplayed hs ht.2.2 hf.2).2⟩⟩

end

namespace Tree

lemma isDisplayed_of_ofText {s : String} {tree : Tree} (h : ofText s = .ok tree) :
    tree.unplaced.IsDisplayed := by
  rw [ofText] at h
  split at h
  · cases h
  · next ts hs =>
    obtain ⟨cs, hcs, hf, rfl⟩ := exists_clauses_of_ofTokens (Outcome.mapError_eq_ok h)
    have ht : ∀ t ∈ ts, t.IsPointed := by
      intro t ht
      obtain ⟨span, hspan⟩ := Token.exists_spells hs ht
      exact hspan.isPointed
    obtain ⟨hne, hall⟩ := hcs.isDisplayed ht hf
    exact .group hne hall

section Bind

variable {t : Target} {n : Nat}

lemma operand?_unplacedAll (children : List Tree) :
    operand? (unplacedAll children) = operand? children := by
  match children with
  | [] => rfl
  | [.operand key v ds] => rfl
  | [.operator op p ds] => rfl
  | .operand key v ds :: c :: cs => rfl
  | .operator op p ds :: c :: cs => rfl

lemma bind_unplaced (tree : Tree) : bind t n tree.unplaced = bind t n tree := by
  induction tree generalizing n with
  | operand key v children ih => rfl
  | operator op p children ih =>
    cases op with
    | test x => simp only [unplaced, bind, operand?_unplacedAll]
    | connective c =>
      have hchildren : bindAll t n (unplacedAll children) = bindAll t n children := by
        clear p
        induction children generalizing n with
        | nil => rfl
        | cons c cs ihc =>
          rw [List.forall_mem_cons] at ih
          rw [unplacedAll, bindAll, bindAll, ih.1]
          simp only [ihc ih.2]
      simp only [unplaced, bind, hchildren]

end Bind

theorem unplaced_eq_of_text_eq {s s' : String} {a b : Tree} (ha : ofText s = .ok a)
    (hb : ofText s' = .ok b) (h : a.text = b.text) :
    a.unplaced = b.unplaced ∧
      ∀ (q : Query.Select) (t : Target), q.narrow t a = q.narrow t b := by
  have htext : a.unplaced.text.toList ++ [] = b.unplaced.text.toList ++ [] := by
    rw [text_unplaced, text_unplaced, h]
  obtain ⟨hab, -⟩ := (isDisplayed_of_ofText ha).told (isDisplayed_of_ofText hb) endsRun_nil
    endsRun_nil htext
  refine ⟨hab, fun q t => ?_⟩
  have hbind : bind t q.bindings.next a = bind t q.bindings.next b := by
    rw [← bind_unplaced a, hab, bind_unplaced]
  rw [Query.Select.narrow, Query.Select.narrow, hbind]

theorem unplaced_eq_of_text_eq_quotes_and_blanks :
    ∃ a b, ofText "age:null,name:like:[\"O'%\",b]" = .ok a ∧
      ofText "age:eq: null, name:LIKE:['O\\'%', 'b']" = .ok b ∧
      a.text = "(AND (IS NULL age) (OR (LIKE name \"O'%\") (LIKE name \"b\")))" ∧
      b.text = a.text ∧ a.unplaced = b.unplaced ∧
      ∀ (q : Query.Select) (t : Target), q.narrow t a = q.narrow t b := by
  have ha : (ofText "age:null,name:like:[\"O'%\",b]").map text =
      .ok "(AND (IS NULL age) (OR (LIKE name \"O'%\") (LIKE name \"b\")))" := by decide +kernel
  have hb : (ofText "age:eq: null, name:LIKE:['O\\'%', 'b']").map text =
      .ok "(AND (IS NULL age) (OR (LIKE name \"O'%\") (LIKE name \"b\")))" := by decide +kernel
  obtain ⟨a, ha, hatext⟩ := Outcome.map_eq_ok ha
  obtain ⟨b, hb, hbtext⟩ := Outcome.map_eq_ok hb
  have h : a.text = b.text := hatext.trans hbtext.symm
  exact ⟨a, b, ha, hb, hatext, h.symm, unplaced_eq_of_text_eq ha hb h⟩

end Tree

end RowFilter.Filter
