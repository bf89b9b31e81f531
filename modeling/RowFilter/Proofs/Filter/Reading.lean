import Mathlib
import RowFilter.Filter.Reading
import RowFilter.Proofs.Outcome

namespace RowFilter.Filter

namespace Tree

def likeTest (key : Key) (pattern : String) : Tree :=
  test (.comparison .like) key.position key.name (.scalar (.string pattern))

lemma likePattern_eq_ok {key : Key} {l : Literal} {tree : Tree} (h : likePattern key l = .ok tree) :
    ∃ pattern, tree = likeTest key pattern := by
  simp only [likePattern] at h
  split at h
  · next s =>
    cases h
    exact ⟨s, rfl⟩
  · cases h

lemma mapM_likePattern_eq_ok {key : Key} {items : List Literal} {trees : List Tree}
    (h : items.mapM (likePattern key) = .ok trees) :
    ∃ patterns : List String, trees = patterns.map (likeTest key) := by
  have hf := Outcome.mapM_eq_ok h
  clear h
  induction hf with
  | nil => exact ⟨[], rfl⟩
  | cons hl hls ih =>
    obtain ⟨s, rfl⟩ := likePattern_eq_ok hl
    obtain ⟨patterns, rfl⟩ := ih
    exact ⟨s :: patterns, rfl⟩

lemma ofComparison_eq_ok {key : Key} {op? : Option Comparison} {operand : Literal} {tree : Tree}
    (h : ofComparison key op? operand = .ok tree) :
    (∃ x, tree = test x key.position key.name operand) ∨
      ∃ patterns : List String,
        tree = .operator (.connective .or) key.position (patterns.map (likeTest key)) := by
  have leaf : ∀ x,
      (.ok (test x key.position key.name operand) : Except ParseError Tree) = .ok tree →
        ∃ x, tree = test x key.position key.name operand := by
    intro x hx
    cases hx
    exact ⟨x, rfl⟩
  simp only [ofComparison] at h
  split at h
  · split at h
    · exact .inl (leaf _ h)
    · exact .inl (leaf _ h)
    · cases h
  · next items =>
    split at h
    · cases h
    · split at h
      · exact .inl (leaf _ h)
      · exact .inl (leaf _ h)
      · obtain ⟨trees, ht, rfl⟩ := Outcome.map_eq_ok h
        obtain ⟨patterns, rfl⟩ := mapM_likePattern_eq_ok ht
        exact .inr ⟨patterns, rfl⟩
      · cases h
  · split at h
    · exact .inl (leaf _ h)
    · cases h
    · exact .inl (leaf _ h)

namespace Phase

def key? : Phase → Option Key
  | .keyColon key => some key
  | .operatorOrOperand key => some key
  | .operatorColon key _ => some key
  | .operand key _ => some key
  | .item key _ _ => some key
  | .itemEnd key _ _ => some key
  | _ => none

end Phase

namespace State

inductive Change (s : State) : State → Prop
  | phase (p : Phase) (h : ∀ key ∈ p.key?, key ∈ s.phase.key? ∨ isValidKey key.name = true) :
      Change s { s with phase := p }
  | comparison {key : Key} {op? : Option Comparison} {operand : Literal} {tree : Tree}
      (hk : key ∈ s.phase.key?) (h : ofComparison key op? operand = .ok tree) :
      Change s (s.addConjunct tree)
  | openGroup (c : Connective) (p : Position) :
      Change s ⟨.conjunct, ⟨c, p, []⟩, s.group :: s.outer⟩
  | closeGroup {g : Group} {gs : List Group} (h : s.outer = g :: gs) :
      Change s (addConjunct ⟨s.phase, g, gs⟩ s.group.tree)

variable {s s' : State} {t : Token}

lemma change_of_enter {p : Phase} (h : s.enter p = .ok s')
    (hp : ∀ key ∈ p.key?, key ∈ s.phase.key? ∨ isValidKey key.name = true) : s.Change s' := by
  cases h
  exact .phase p hp

lemma change_of_addComparison {key : Key} {op? : Option Comparison} {operand : Literal}
    (hk : key ∈ s.phase.key?) (h : s.addComparison key op? operand = .ok s') : s.Change s' := by
  obtain ⟨tree, ht, rfl⟩ := Outcome.map_eq_ok h
  exact .comparison hk ht

lemma change_of_startConjunct (h : s.startConjunct t = .ok s') : s.Change s' := by
  simp only [startConjunct] at h
  split at h
  · split at h
    · exact change_of_enter h (fun key hk => by cases hk)
    · cases h
  · split at h
    · next hv =>
      refine change_of_enter h fun key hk => .inr ?_
      cases hk
      exact hv
    · cases h
  · cases h

lemma change_of_readOperand {key : Key} {op? : Option Comparison} (hk : key ∈ s.phase.key?)
    (h : s.readOperand key op? t = .ok s') : s.Change s' := by
  simp only [readOperand] at h
  split at h
  · refine change_of_enter h fun k hk' => .inl ?_
    cases hk'
    exact hk
  · split at h
    · exact change_of_addComparison hk h
    · cases h

lemma change_of_step (h : s.step t = .ok s') : s.Change s' := by
  obtain ⟨phase, group, outer⟩ := s
  cases phase with
  | conjunct => exact change_of_startConjunct h
  | groupColon c p =>
    simp only [step] at h
    split at h
    · exact change_of_enter h (fun key hk => by cases hk)
    · cases h
  | groupBracket c p =>
    simp only [step] at h
    split at h
    · cases h
      exact .openGroup c p
    · cases h
  | keyColon key =>
    simp only [step] at h
    split at h
    · exact change_of_enter h (fun _ hk => .inl hk)
    · cases h
  | operatorOrOperand key =>
    simp only [step] at h
    split at h
    · exact change_of_enter h (fun _ hk => .inl hk)
    · exact change_of_readOperand rfl h
  | operatorColon key op =>
    simp only [step] at h
    split at h
    · exact change_of_enter h (fun _ hk => .inl hk)
    · cases h
  | operand key op => exact change_of_readOperand rfl h
  | item key op? items =>
    simp only [step, readItem] at h
    split at h
    · exact change_of_enter h (fun _ hk => .inl hk)
    · cases h
  | itemEnd key op? items =>
    simp only [step] at h
    split at h
    · exact change_of_enter h (fun _ hk => .inl hk)
    · exact change_of_addComparison rfl h
    · cases h
  | conjunctEnd =>
    simp only [step, endConjunct] at h
    split at h
    · exact change_of_enter h (fun key hk => by cases hk)
    · cases h
      exact .closeGroup rfl
    · cases h

structure Holds (P : Tree → Prop) (s : State) : Prop where
  key : ∀ key ∈ s.phase.key?, isValidKey key.name = true
  group : ∀ c ∈ s.group.conjuncts, P c
  outer : ∀ g ∈ s.outer, ∀ c ∈ g.conjuncts, P c

variable {P : Tree → Prop}

lemma Holds.addConjunct {tree : Tree} (hs : s.Holds P) (h : P tree) :
    (s.addConjunct tree).Holds P where
  key key hk := by cases hk
  group c hc := by
    rcases List.mem_cons.mp hc with rfl | hc
    · exact h
    · exact hs.group c hc
  outer := hs.outer

lemma Holds.openGroup (hs : s.Holds P) (c : Connective) (p : Position) :
    Holds P ⟨.conjunct, ⟨c, p, []⟩, s.group :: s.outer⟩ where
  key key hk := by cases hk
  group d hd := by cases hd
  outer g hg := by
    rcases List.mem_cons.mp hg with rfl | hg
    · exact hs.group
    · exact hs.outer g hg

lemma holds_initial : initial.Holds P where
  key key hk := by cases hk
  group c hc := by cases hc
  outer g hg := by cases hg

section Induction

variable
  (comparison : ∀ key op? operand tree, isValidKey key.name = true →
    ofComparison key op? operand = .ok tree → P tree)
  (group : ∀ c p children, (∀ d ∈ children, P d) → P (.operator (.connective c) p children))

include group in
lemma Holds.tree (hs : s.Holds P) : P s.group.tree :=
  group _ _ _ fun d hd => hs.group d (List.mem_reverse.mp hd)

include comparison group

lemma Holds.change (hs : s.Holds P) (h : s.Change s') : s'.Holds P := by
  cases h with
  | phase p hp => exact ⟨fun key hk => (hp key hk).elim (hs.key key) id, hs.group, hs.outer⟩
  | comparison hk ht => exact hs.addConjunct (comparison _ _ _ _ (hs.key _ hk) ht)
  | openGroup c p => exact hs.openGroup c p
  | @closeGroup g gs ho =>
    have hg : ∀ d ∈ g.conjuncts, P d := hs.outer g (ho ▸ List.mem_cons_self)
    have hgs : ∀ g' ∈ gs, ∀ d ∈ g'.conjuncts, P d := fun g' hg' =>
      hs.outer g' (ho ▸ List.mem_cons_of_mem g hg')
    exact Holds.addConjunct ⟨hs.key, hg, hgs⟩ (hs.tree group)

end Induction

end State

theorem ofTokens_induction {P : Tree → Prop}
    (comparison : ∀ key op? operand tree, isValidKey key.name = true →
      ofComparison key op? operand = .ok tree → P tree)
    (group : ∀ c p children, (∀ d ∈ children, P d) → P (.operator (.connective c) p children))
    {ts : List Token} {tree : Tree} (h : ofTokens ts = .ok tree) : P tree := by
  rw [ofTokens] at h
  split at h
  · cases h
  · obtain ⟨s, hr, hf⟩ := Outcome.bind_eq_ok h
    have hs : s.Holds P := Outcome.foldlM_invariant
      (fun s t s' hs ht => hs.change comparison group (State.change_of_step ht))
      State.holds_initial hr
    rw [State.finish] at hf
    split at hf
    · cases hf
      exact hs.tree group
    · cases hf

end Tree

end RowFilter.Filter
