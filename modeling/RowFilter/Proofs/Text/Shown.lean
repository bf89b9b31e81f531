import RowFilter.Proofs.Text.Scan
import RowFilter.Text.Shown

namespace RowFilter.Text

lemma digitChar_inj {m n : Nat} (hm : m < 16) (hn : n < 16)
    (h : Nat.digitChar m = Nat.digitChar n) : m = n := by
  have hall : ∀ m < 16, ∀ n < 16, Nat.digitChar m = Nat.digitChar n → m = n := by decide
  exact hall m hm n hn h

lemma toDigits_inj {m n : Nat} (h : Nat.toDigits 16 m = Nat.toDigits 16 n) : m = n := by
  induction m using Nat.strongRecOn generalizing n with
  | ind m ih =>
    have hlong : ∀ k c d, Nat.toDigits 16 k ++ [c] ≠ [d] := fun k c d he => by
      simpa [Nat.toDigits_ne_nil] using congrArg List.length he
    rw [Nat.toDigits_eq_if (by decide), Nat.toDigits_eq_if (b := 16) (n := n) (by decide)] at h
    split at h
    · next hm =>
      split at h
      · next hn => exact digitChar_inj hm hn (List.singleton_inj.mp h)
      · exact absurd h.symm (hlong _ _ _)
    · next hm =>
      split at h
      · exact absurd h (hlong _ _ _)
      · next hn =>
        obtain ⟨hdiv, hmod⟩ := List.append_inj' h rfl
        have hd := ih (m / 16) (by omega) hdiv
        have hr := digitChar_inj (Nat.mod_lt m (by decide)) (Nat.mod_lt n (by decide))
          (List.singleton_inj.mp hmod)
        omega

lemma ne_brace_of_mem_toDigits {n : Nat} {c : Char} (h : c ∈ Nat.toDigits 16 n) : c ≠ '\x7d' := by
  have hdigit : ∀ m < 16, Nat.digitChar m ≠ '\x7d' := by decide
  induction n using Nat.strongRecOn with
  | ind n ih =>
    rw [Nat.toDigits_eq_if (by decide)] at h
    split at h
    · next hn =>
      rw [List.mem_singleton.mp h]
      exact hdigit n hn
    · next hn =>
      rcases List.mem_append.mp h with h | h
      · exact ih (n / 16) (by omega) h
      · rw [List.mem_singleton.mp h]
        exact hdigit _ (Nat.mod_lt n (by decide))

def escapes : List (Char × Char) :=
  [('\x00', '0'), ('\t', 't'), ('\r', 'r'), ('\n', 'n'), ('"', '"'), ('\\', '\\')]

inductive Shows (c : Char) : List Char → Prop
  | plain (hq : c ≠ '"') (hb : c ≠ '\\') : Shows c [c]
  | escape {e : Char} (h : (c, e) ∈ escapes) : Shows c ['\\', e]
  | code : Shows c ('\\' :: 'u' :: '\x7b' :: (Nat.toDigits 16 c.toNat ++ ['\x7d']))

lemma shows_shownChar (c : Char) : Shows c (shownChar c) := by
  unfold shownChar
  split
  · exact .escape (by decide)
  · exact .escape (by decide)
  · exact .escape (by decide)
  · exact .escape (by decide)
  · exact .escape (by decide)
  · exact .escape (by decide)
  · split
    · next hq hb _ => exact .plain hq hb
    · exact .code

lemma Shows.exists_head {c : Char} {cs : List Char} (h : Shows c cs) :
    ∃ d ds, cs = d :: ds ∧ d ≠ '"' := by
  cases h with
  | plain hq hb => exact ⟨c, [], rfl, hq⟩
  | escape h => exact ⟨_, _, rfl, by decide⟩
  | code => exact ⟨_, _, rfl, by decide⟩

lemma Shows.append_inj {c d : Char} {cs ds u v : List Char} (hc : Shows c cs) (hd : Shows d ds)
    (h : cs ++ u = ds ++ v) : c = d ∧ u = v := by
  have hcode : ∀ {c e}, (c, e) ∈ escapes → e ≠ 'u' := by
    intro c e he
    have hall : ∀ x ∈ escapes, x.2 ≠ 'u' := by decide
    exact hall _ he
  cases hc with
  | plain hq hb =>
    cases hd with
    | plain _ _ => exact List.cons.inj h
    | escape _ => exact absurd (List.cons.inj h).1 hb
    | code => exact absurd (List.cons.inj h).1 hb
  | escape hc =>
    cases hd with
    | plain _ hb => exact absurd (List.cons.inj h).1.symm hb
    | escape hd =>
      obtain ⟨rfl, huv⟩ := List.cons.inj (List.cons.inj h).2
      have hall : ∀ x ∈ escapes, ∀ y ∈ escapes, x.2 = y.2 → x.1 = y.1 := by decide
      exact ⟨hall _ hc _ hd rfl, huv⟩
    | code => exact absurd (List.cons.inj (List.cons.inj h).2).1 (hcode hc)
  | code =>
    cases hd with
    | plain _ hb => exact absurd (List.cons.inj h).1.symm hb
    | escape hd => exact absurd (List.cons.inj (List.cons.inj h).2).1.symm (hcode hd)
    | code =>
      simp only [List.cons_append, List.append_assoc, List.cons.injEq, true_and] at h
      have hne : ∀ n, ∀ c ∈ Nat.toDigits 16 n, (c != '\x7d') = true := fun n c hc =>
        bne_iff_ne.mpr (ne_brace_of_mem_toDigits hc)
      obtain ⟨hdigits, hrest⟩ := run_append_inj (hne _) (endsRun_cons (by decide) _) (hne _)
        (endsRun_cons (by decide) _) h
      exact ⟨Char.toNat_inj.mp (toDigits_inj hdigits), (List.cons.inj hrest).2⟩

lemma flatMap_shownChar_append_inj {cs ds u v : List Char}
    (h : cs.flatMap shownChar ++ '"' :: u = ds.flatMap shownChar ++ '"' :: v) : cs = ds ∧ u = v := by
  induction cs generalizing ds with
  | nil =>
    cases ds with
    | nil => exact ⟨rfl, (List.cons.inj h).2⟩
    | cons d ds =>
      obtain ⟨e, es, he, hq⟩ := (shows_shownChar d).exists_head
      rw [List.flatMap_cons, he] at h
      exact absurd (List.cons.inj h).1.symm hq
  | cons c cs ih =>
    cases ds with
    | nil =>
      obtain ⟨e, es, he, hq⟩ := (shows_shownChar c).exists_head
      rw [List.flatMap_cons, he] at h
      exact absurd (List.cons.inj h).1 hq
    | cons d ds =>
      rw [List.flatMap_cons, List.flatMap_cons, List.append_assoc, List.append_assoc] at h
      obtain ⟨rfl, hrest⟩ := (shows_shownChar c).append_inj (shows_shownChar d) h
      obtain ⟨rfl, huv⟩ := ih hrest
      exact ⟨rfl, huv⟩

lemma shown_append_inj {s t : String} {u v : List Char}
    (h : (shown s).toList ++ u = (shown t).toList ++ v) : s = t ∧ u = v := by
  simp only [shown, String.toList_ofList, List.cons_append, List.append_assoc, List.cons.injEq,
    true_and] at h
  obtain ⟨hst, huv⟩ := flatMap_shownChar_append_inj h
  exact ⟨String.toList_inj.mp hst, huv⟩

end RowFilter.Text
