import Mathlib
import RowFilter.Query.Select

namespace RowFilter.Query

lemma placeholder_injective : Function.Injective placeholder := by
  intro m n h
  exact Nat.repr_injective ((String.append_right_inj "?").mp h)

namespace Bindings

variable (b : Bindings)

def numbers : List Nat := b.entries.map Prod.fst

def value? (p : String) : Option Scalar :=
  (b.entries.find? fun e => placeholder e.1 == p).map Prod.snd

lemma value?_placeholder (n : Nat) : b.value? (placeholder n) = b.get? n := by
  rw [value?, get?]
  induction b.entries with
  | nil => rfl
  | cons e l ih =>
    rw [List.lookup_cons, List.find?_cons]
    by_cases h : n = e.1
    · simp [h]
    · have hp : placeholder e.1 ≠ placeholder n := fun he => h (placeholder_injective he).symm
      rw [beq_false_of_ne hp, beq_false_of_ne h]
      exact ih

lemma next_eq : b.next = b.numbers.getLast?.elim 1 (· + 1) := by
  rw [numbers, List.getLast?_map, next]
  cases b.entries.getLast? <;> rfl

lemma next_pos : 0 < b.next := by
  rw [next]
  split <;> exact Nat.succ_pos _

lemma lt_next {n : Nat} (h : n ∈ b.numbers) : n < b.next := by
  obtain ⟨e, he, rfl⟩ := List.mem_map.mp h
  rw [next]
  rcases List.eq_nil_or_concat b.entries with hb | ⟨l, last, hb⟩
  · rw [hb] at he
    cases he
  · have hi := b.increasing
    rw [hb, List.concat_eq_append] at he hi
    rw [hb, List.concat_eq_append, List.getLast?_concat]
    -- the numbers increase, so every entry is the last one or lies before it
    rcases List.mem_append.mp he with he | he
    · have hlt := (List.pairwise_append.mp hi).2.2 e he last (List.mem_singleton.mpr rfl)
      exact Nat.lt_succ_of_lt (Nat.compare_eq_lt.mp hlt)
    · rw [List.mem_singleton.mp he]
      exact Nat.lt_succ_self _

lemma entries_insert {n : Nat} (h : b.next ≤ n) (v : Scalar) :
    (b.insert n v).entries = b.entries ++ [(n, v)] := by
  have hl : ∀ e ∈ b.entries, e.1 < n := fun e he =>
    (b.lt_next (List.mem_map_of_mem he)).trans_le h
  change Ordered.insert n v b.entries = _
  generalize b.entries = l at hl ⊢
  induction l with
  | nil => rfl
  | cons e l ih =>
    have hc : compare n e.1 = .gt := Nat.compare_eq_gt.mpr (hl e List.mem_cons_self)
    rw [Ordered.insert, hc, List.cons_append]
    exact congrArg _ (ih fun f hf => hl f (List.mem_cons_of_mem _ hf))

lemma next_insert {n : Nat} (h : b.next ≤ n) (v : Scalar) : (b.insert n v).next = n + 1 := by
  rw [next, b.entries_insert h, List.getLast?_concat]

lemma next_insertFrom (vs : List Scalar) :
    (b.insertFrom b.next vs).next = b.next + vs.length := by
  induction vs generalizing b with
  | nil => rfl
  | cons v vs ih =>
    have hn := b.next_insert le_rfl v
    rw [insertFrom, ← hn, ih (b.insert b.next v), hn, List.length_cons, Nat.add_assoc,
      Nat.add_comm 1]

lemma insertFrom_append (n : Nat) (vs ws : List Scalar) :
    b.insertFrom n (vs ++ ws) = (b.insertFrom n vs).insertFrom (n + vs.length) ws := by
  induction vs generalizing b n with
  | nil => rfl
  | cons v vs ih =>
    rw [List.cons_append, insertFrom, ih (b.insert n v), insertFrom, List.length_cons,
      Nat.add_assoc, Nat.add_comm 1]

lemma entries_insertFrom {n : Nat} (h : b.next ≤ n) (vs : List Scalar) :
    (b.insertFrom n vs).entries = b.entries ++ (List.range' n vs.length).zip vs := by
  induction vs generalizing b n with
  | nil => exact (List.append_nil _).symm
  | cons v vs ih =>
    have hn := (b.next_insert h v).le
    rw [insertFrom, ih (b.insert n v) hn, b.entries_insert h, List.length_cons, List.range'_succ,
      List.zip_cons_cons, List.append_assoc, List.singleton_append]

lemma numbers_insertFrom {n : Nat} (h : b.next ≤ n) (vs : List Scalar) :
    (b.insertFrom n vs).numbers = b.numbers ++ List.range' n vs.length := by
  rw [numbers, b.entries_insertFrom h, List.map_append, List.map_fst_zip (by simp)]
  rfl

lemma get?_insertFrom_of_lt {m n : Nat} (h : m < n) (vs : List Scalar) :
    (b.insertFrom n vs).get? m = b.get? m := by
  induction vs generalizing b n with
  | nil => rfl
  | cons v vs ih =>
    rw [insertFrom, ih (b.insert n v) (Nat.lt_succ_of_lt h), get?_insert_ne b v h.ne]

lemma map_get?_insertFrom (n : Nat) (vs : List Scalar) :
    (List.range' n vs.length).map (b.insertFrom n vs).get? = vs.map some := by
  induction vs generalizing b n with
  | nil => rfl
  | cons v vs ih =>
    have hv : ((b.insert n v).insertFrom (n + 1) vs).get? n = some v := by
      rw [get?_insertFrom_of_lt _ (Nat.lt_succ_self n), get?_insert_self]
    rw [List.length_cons, List.range'_succ, insertFrom, List.map_cons, hv, ih (b.insert n v),
      List.map_cons]

end Bindings

end RowFilter.Query
