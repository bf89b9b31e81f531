import RowFilter.Proofs.Filter.Binding
import RowFilter.Proofs.Filter.Reading

namespace RowFilter.Filter

open Query

def IsLetter (c : Char) : Prop := ('A' ≤ c ∧ c ≤ 'Z') ∨ ('a' ≤ c ∧ c ≤ 'z')

def IsDigit (c : Char) : Prop := '0' ≤ c ∧ c ≤ '9'

def IsIdentifier (s : String) : Prop :=
  ∃ c cs, s.toList = c :: cs ∧ (IsLetter c ∨ c = '_') ∧ ∀ d ∈ cs, IsLetter d ∨ IsDigit d ∨ d = '_'

lemma isAlpha_iff (c : Char) : c.isAlpha = true ↔ IsLetter c := by
  simp [Char.isAlpha, Char.isUpper, Char.isLower, IsLetter, Char.le_def]

lemma isDigit_iff (c : Char) : c.isDigit = true ↔ IsDigit c := by
  simp [Char.isDigit, IsDigit, Char.le_def]

lemma isValidKey_iff (s : String) : isValidKey s = true ↔ IsIdentifier s := by
  rw [isValidKey, IsIdentifier]
  cases s.toList with
  | nil => simp
  | cons c cs =>
    simp [Char.isAlphanum, isAlpha_iff, isDigit_iff, or_assoc]

namespace Tree

mutual

def keys : Tree → List String
  | .operator _ _ children => keysAll children
  | .operand key _ children => key :: keysAll children

def keysAll : List Tree → List String
  | [] => []
  | c :: cs => c.keys ++ keysAll cs

end

lemma mem_keysAll_iff {key : String} {cs : List Tree} :
    key ∈ keysAll cs ↔ ∃ c ∈ cs, key ∈ c.keys := by
  induction cs with
  | nil => simp [keysAll]
  | cons c cs ih => simp [keysAll, ih]

lemma eq_of_mem_keys_ofComparison {key : Key} {op? : Option Comparison} {operand : Literal}
    {tree : Tree} (h : ofComparison key op? operand = .ok tree) {k : String} (hk : k ∈ tree.keys) :
    k = key.name := by
  rcases ofComparison_eq_ok h with ⟨x, rfl⟩ | ⟨patterns, rfl⟩
  · exact List.mem_singleton.mp hk
  · obtain ⟨c, hc, hkc⟩ := mem_keysAll_iff.mp hk
    obtain ⟨s, hs, rfl⟩ := List.mem_map.mp hc
    exact List.mem_singleton.mp hkc

lemma isValidKey_of_ofTokens {ts : List Token} {tree : Tree} (h : ofTokens ts = .ok tree) :
    ∀ key ∈ tree.keys, isValidKey key = true := by
  refine ofTokens_induction (P := fun tree => ∀ key ∈ tree.keys, isValidKey key = true) ?_ ?_ h
  · intro key op? operand tree hv ht k hk
    rw [eq_of_mem_keys_ofComparison ht hk]
    exact hv
  · intro c p children ih k hk
    obtain ⟨d, hd, hkd⟩ := mem_keysAll_iff.mp hk
    exact ih d hd k hkd

lemma isIdentifier_of_ofText {s : String} {tree : Tree} (h : ofText s = .ok tree) :
    ∀ key ∈ tree.keys, IsIdentifier key := by
  intro key hk
  rw [ofText] at h
  split at h
  · cases h
  · next ts hs =>
    have ht := Outcome.mapError_eq_ok h
    exact (isValidKey_iff key).mp (isValidKey_of_ofTokens ht key hk)

variable {t : Target} {n : Nat}

lemma column_bind {tree : Tree} {b : Bound} (h : bind t n tree = .ok b) :
    ∀ l ∈ b.predicate.leaves, ∃ key ∈ tree.keys, t.allows key = true ∧ l.column = t.column key := by
  refine bind_induction (motive := fun _ tree b => ∀ l ∈ b.predicate.leaves,
      ∃ key ∈ tree.keys, t.allows key = true ∧ l.column = t.column key)
    (M := fun _ cs ps _ => ∀ l ∈ Predicate.leavesAll ps,
      ∃ key ∈ keysAll cs, t.allows key = true ∧ l.column = t.column key) ?_ ?_ ?_ ?_ h
  · intro n x p key v ds b ha hb l hl
    rw [(bindTest_eq_ok hb).2.1] at hl
    obtain rfl := List.mem_singleton.mp hl
    exact ⟨key, List.mem_cons_self, ha, rfl⟩
  · intro n c p children ps vs hall
    exact hall
  · intro n l hl
    cases hl
  · intro n c cs b ps vs hb hall l hl
    rcases List.mem_append.mp hl with hl | hl
    · obtain ⟨key, hk, ha, hc⟩ := hb l hl
      exact ⟨key, List.mem_append_left _ hk, ha, hc⟩
    · obtain ⟨key, hk, ha, hc⟩ := hall l hl
      exact ⟨key, List.mem_append_right _ hk, ha, hc⟩

end Tree

end RowFilter.Filter
