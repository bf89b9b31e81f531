import Mathlib.Logic.Relation
import RowFilter.Proofs.Query.Leaf

/-! Conditions up to the grouping of their conjunctions. -/

namespace RowFilter.Query

namespace Predicate

/-- One change in the grouping of a conjunction, anywhere in a condition. -/
inductive Flattens : Predicate → Predicate → Prop
  | splice (l ps r : List Predicate) :
      Flattens (.junction .and (l ++ .junction .and ps :: r)) (.junction .and (l ++ ps ++ r))
  | single (p : Predicate) : Flattens (.junction .and [p]) p
  | inside {p q : Predicate} (c : Connective) (l r : List Predicate) (h : Flattens p q) :
      Flattens (.junction c (l ++ p :: r)) (.junction c (l ++ q :: r))

def IsFlat (p : Predicate) : Prop := ∀ q, ¬ p.Flattens q

def conjoin : List Predicate → Predicate
  | [p] => p
  | ps => .junction .and ps

mutual

def conjuncts : Predicate → List Predicate
  | .junction .and parts => conjunctsAll parts
  | .junction .or parts => [.junction .or (flats parts)]
  | p => [p]

def conjunctsAll : List Predicate → List Predicate
  | [] => []
  | p :: ps => p.conjuncts ++ conjunctsAll ps

def flats : List Predicate → List Predicate
  | [] => []
  | p :: ps => conjoin p.conjuncts :: flats ps

end

def flat (p : Predicate) : Predicate := conjoin p.conjuncts

lemma conjunctsAll_eq_flatMap (ps : List Predicate) : conjunctsAll ps = ps.flatMap conjuncts := by
  induction ps with
  | nil => rfl
  | cons p ps ih => rw [conjunctsAll, ih, List.flatMap_cons]

lemma conjunctsAll_append (ps qs : List Predicate) :
    conjunctsAll (ps ++ qs) = conjunctsAll ps ++ conjunctsAll qs := by
  simp only [conjunctsAll_eq_flatMap, List.flatMap_append]

lemma flats_eq_map (ps : List Predicate) : flats ps = ps.map flat := by
  induction ps with
  | nil => rfl
  | cons p ps ih => rw [flats, ih, List.map_cons, flat]

section Reaches

open Relation (ReflTransGen)

variable {p q : Predicate} {l ps : List Predicate}

lemma flattens_inside (c : Connective) (l r : List Predicate) (h : ReflTransGen Flattens p q) :
    ReflTransGen Flattens (.junction c (l ++ p :: r)) (.junction c (l ++ q :: r)) := by
  induction h with
  | refl => exact .refl
  | tail _ h ih => exact ih.tail (h.inside c l r)

lemma flattens_parts (c : Connective) (h : ∀ p ∈ ps, ReflTransGen Flattens p p.flat) :
    ReflTransGen Flattens (.junction c (l ++ ps)) (.junction c (l ++ ps.map flat)) := by
  induction ps generalizing l with
  | nil => exact .refl
  | cons p ps ih =>
    rw [List.forall_mem_cons] at h
    have hrest := ih (l := l ++ [p.flat]) h.2
    rw [List.append_assoc, List.append_assoc] at hrest
    exact (flattens_inside c l ps h.1).trans hrest

lemma flattens_spliced (p : Predicate) (l r : List Predicate) :
    ReflTransGen Flattens (.junction .and (l ++ p.flat :: r))
      (.junction .and (l ++ p.conjuncts ++ r)) := by
  rw [flat, conjoin.eq_def]
  split
  · next x hx => simpa [hx] using ReflTransGen.refl
  · exact .single (.splice l p.conjuncts r)

lemma flattens_conjuncts :
    ReflTransGen Flattens (.junction .and (l ++ ps.map flat))
      (.junction .and (l ++ conjunctsAll ps)) := by
  induction ps generalizing l with
  | nil => exact .refl
  | cons p ps ih =>
    have hrest := ih (l := l ++ p.conjuncts)
    rw [List.append_assoc l p.conjuncts (conjunctsAll ps)] at hrest
    exact (flattens_spliced p l (ps.map flat)).trans hrest

lemma flattens_conjoin (ps : List Predicate) :
    ReflTransGen Flattens (.junction .and ps) (conjoin ps) := by
  rw [conjoin.eq_def]
  split
  · next p => exact .single (.single p)
  · exact .refl

lemma flattens_flat (p : Predicate) : ReflTransGen Flattens p p.flat := by
  induction p with
  | comparison column op s => exact .refl
  | membership column negated ss => exact .refl
  | nullity column negated => exact .refl
  | junction c parts ih =>
    have hparts : ReflTransGen Flattens (.junction c parts) (.junction c (parts.map flat)) :=
      flattens_parts (l := []) c ih
    cases c with
    | or =>
      rw [flat, conjuncts, flats_eq_map]
      exact hparts
    | and =>
      rw [flat, conjuncts]
      exact (hparts.trans (flattens_conjuncts (l := []))).trans (flattens_conjoin _)

end Reaches

section Flat

variable {p : Predicate} {ps : List Predicate}

def IsConjunct (p : Predicate) : Prop := p.IsFlat ∧ ∀ ps, p ≠ .junction .and ps

lemma isFlat_junction {c : Connective} (hflat : ∀ p ∈ ps, p.IsFlat)
    (hand : c = .and → (∀ p ∈ ps, p.IsConjunct) ∧ ∀ p, ps ≠ [p]) : (junction c ps).IsFlat := by
  intro q hq
  generalize hw : junction c ps = w at hq
  cases hq with
  | splice l qs r =>
    cases hw
    exact ((hand rfl).1 (.junction .and qs) (by simp)).2 qs rfl
  | single p =>
    cases hw
    exact (hand rfl).2 q rfl
  | @inside p q c l r h =>
    cases hw
    exact hflat p (by simp) q h

lemma isFlat_conjoin (h : ∀ p ∈ ps, p.IsConjunct) : (conjoin ps).IsFlat := by
  rw [conjoin.eq_def]
  split
  · next p => exact (h p List.mem_cons_self).1
  · next hne => exact isFlat_junction (fun p hp => (h p hp).1) fun _ => ⟨h, hne⟩

lemma isConjunct_of_mem (p : Predicate) : ∀ x ∈ p.conjuncts, x.IsConjunct := by
  induction p with
  | comparison column op s => exact List.forall_mem_singleton.mpr ⟨nofun, nofun⟩
  | membership column negated ss => exact List.forall_mem_singleton.mpr ⟨nofun, nofun⟩
  | nullity column negated => exact List.forall_mem_singleton.mpr ⟨nofun, nofun⟩
  | junction c parts ih =>
    cases c with
    | and =>
      intro x hx
      rw [conjuncts, conjunctsAll_eq_flatMap] at hx
      obtain ⟨p, hp, hx⟩ := List.mem_flatMap.mp hx
      exact ih p hp x hx
    | or =>
      rw [conjuncts, flats_eq_map]
      refine List.forall_mem_singleton.mpr ⟨isFlat_junction ?_ nofun, nofun⟩
      exact List.forall_mem_map.mpr fun p hp => isFlat_conjoin (ih p hp)

lemma isFlat_flat (p : Predicate) : p.flat.IsFlat := isFlat_conjoin p.isConjunct_of_mem

end Flat

section Unique

open Relation (ReflTransGen)

variable {p q : Predicate}

lemma Flattens.conjuncts_eq (h : p.Flattens q) : p.conjuncts = q.conjuncts := by
  induction h with
  | splice l ps r =>
    simp only [conjuncts, conjunctsAll_append, conjunctsAll, List.append_assoc]
  | single p => rw [conjuncts, conjunctsAll, conjunctsAll, List.append_nil]
  | inside c l r h ih =>
    cases c with
    | and => simp only [conjuncts, conjunctsAll_append, conjunctsAll, ih]
    | or => simp only [conjuncts, flats_eq_map, List.map_append, List.map_cons, flat, ih]

lemma flat_eq_of_flattens (h : ReflTransGen Flattens p q) : p.flat = q.flat := by
  induction h with
  | refl => rfl
  | tail _ h ih => exact ih.trans (congrArg conjoin h.conjuncts_eq)

lemma eq_flat_of_flattens (h : ReflTransGen Flattens p q) (hq : q.IsFlat) : q = p.flat := by
  rw [flat_eq_of_flattens h]
  rcases q.flattens_flat.cases_head with heq | ⟨q', hstep, -⟩
  · exact heq
  · exact absurd hstep (hq q')

/-- The condition that comes of another one in whatever order this is flattened. -/
structure IsFlatForm (p v : Predicate) : Prop where
  reached : ReflTransGen Flattens p v
  isFlat : v.IsFlat
  unique : ∀ u, ReflTransGen Flattens p u → u.IsFlat → u = v

theorem isFlatForm_flat (p : Predicate) : p.IsFlatForm p.flat :=
  ⟨p.flattens_flat, p.isFlat_flat, fun _ => eq_flat_of_flattens⟩

end Unique

end Predicate

namespace Select

open Predicate (conjuncts conjunctsAll conjunctsAll_append)

lemma conjuncts_combine (p : Predicate) (w? : Option Predicate) :
    (combine .and p w?).conjuncts = w?.elim [] conjuncts ++ p.conjuncts := by
  cases w? with
  | none => rfl
  | some w =>
    rcases combine_cases .and p w with ⟨parts, rfl, h⟩ | h
    · rw [h, conjuncts, conjunctsAll_append, Option.elim_some, conjuncts, conjunctsAll,
        conjunctsAll, List.append_nil]
    · rw [h, conjuncts, conjunctsAll, conjunctsAll, conjunctsAll, List.append_nil, Option.elim_some]

end Select

end RowFilter.Query
