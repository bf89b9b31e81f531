import Mathlib
import RowFilter.Text.Scan

namespace RowFilter.Text

section Run

variable {f : Char → Bool}

def EndsRun (f : Char → Bool) (cs : List Char) : Prop := ∀ c ∈ cs.head?, f c = false

lemma endsRun_nil : EndsRun f [] := nofun

lemma endsRun_cons {c : Char} (h : f c = false) (cs : List Char) : EndsRun f (c :: cs) := by
  intro d hd
  cases hd
  exact h

lemma EndsRun.append {cs ds : List Char} (h : EndsRun f cs) (h' : EndsRun f ds) :
    EndsRun f (cs ++ ds) := by
  cases cs with
  | nil => exact h'
  | cons c cs => exact h

lemma EndsRun.append_right {cs : List Char} (h : EndsRun f cs) (hne : cs ≠ []) (ds : List Char) :
    EndsRun f (cs ++ ds) := by
  obtain ⟨c, cs, rfl⟩ := List.exists_cons_of_ne_nil hne
  exact endsRun_cons (h c rfl) _

lemma EndsRun.of_append {cs ds : List Char} (h : EndsRun f (cs ++ ds)) : EndsRun f cs := by
  cases cs with
  | nil => exact endsRun_nil
  | cons c cs => exact h

lemma EndsRun.mono {g : Char → Bool} {cs : List Char} (h : EndsRun f cs)
    (hfg : ∀ c, g c = true → f c = true) : EndsRun g cs := by
  intro c hc
  by_contra hg
  rw [Bool.not_eq_false] at hg
  exact absurd ((h c hc).symm.trans (hfg c hg)) (by decide)

lemma endsRun_dropWhile (f : Char → Bool) (cs : List Char) : EndsRun f (cs.dropWhile f) := by
  intro c hc
  have h := List.head?_dropWhile_not f cs
  rw [Option.mem_def.mp hc] at h
  exact h

variable {cs rest : List Char} (h : ∀ c ∈ cs, f c = true) (hr : EndsRun f rest)
include h hr

lemma takeWhile_run : (cs ++ rest).takeWhile f = cs := by
  rw [List.takeWhile_append_of_pos h]
  cases rest with
  | nil => simp
  | cons d rest => simp [hr d rfl]

lemma dropWhile_run : (cs ++ rest).dropWhile f = rest := by
  rw [List.dropWhile_append_of_pos h]
  cases rest with
  | nil => rfl
  | cons d rest => simp [hr d rfl]

lemma run_append_inj {ds rest' : List Char} (h' : ∀ c ∈ ds, f c = true) (hr' : EndsRun f rest')
    (he : cs ++ rest = ds ++ rest') : cs = ds ∧ rest = rest' := by
  have ht := congrArg (List.takeWhile f) he
  have hd := congrArg (List.dropWhile f) he
  rw [takeWhile_run h hr, takeWhile_run h' hr'] at ht
  rw [dropWhile_run h hr, dropWhile_run h' hr'] at hd
  exact ⟨ht, hd⟩

end Run

section Append

variable {f : Char → Bool} {ds : List Char}

lemma takeWhile_append_endsRun (h : EndsRun f ds) (cs : List Char) :
    (cs ++ ds).takeWhile f = cs.takeWhile f := by
  induction cs with
  | nil => exact takeWhile_run (List.forall_mem_nil _) h
  | cons c cs ih => by_cases hc : f c <;> simp [hc, ih]

lemma dropWhile_append_endsRun (h : EndsRun f ds) (cs : List Char) :
    (cs ++ ds).dropWhile f = cs.dropWhile f ++ ds := by
  induction cs with
  | nil => exact dropWhile_run (List.forall_mem_nil _) h
  | cons c cs ih => by_cases hc : f c <;> simp [hc, ih]

end Append

namespace Scan

variable {τ ε : Type}

lemma result_eq_ok_iff {s : Scan τ ε} {ts : List τ} :
    s.result = .ok ts ↔ s.fault? = none ∧ s.tokens = ts := by
  rw [result]
  cases s.fault? with
  | none => simp
  | some e => simp

lemma result_foldr_cons (ts : List τ) : (ts.foldr cons (done : Scan τ ε)).result = .ok ts := by
  have h : ts.foldr cons (done : Scan τ ε) = ⟨ts, none⟩ := by
    induction ts with
    | nil => rfl
    | cons t ts ih => rw [List.foldr_cons, ih, cons]
  rw [h, result]

end Scan

end RowFilter.Text
