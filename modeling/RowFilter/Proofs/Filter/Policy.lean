import RowFilter.Filter.Application
import RowFilter.Proofs.Filter.Acceptance

/-! Filters of requests, applied in place. The policy counts only for a filter that cannot be read.
-/

namespace RowFilter

def Request.IsFirst (r : Request) (name value : String) : Prop :=
  ∃ before behind, r.query = before ++ (name, value) :: behind ∧ ∀ x ∈ before, x.1 ≠ name

lemma Request.query?_eq_some_iff {r : Request} {name value : String} :
    r.query? name = some value ↔ r.IsFirst name value := by
  simp only [query?, IsFirst, List.lookup_eq_some_iff, bne_iff_ne, ne_comm]

lemma Request.query?_eq_none_iff {r : Request} {name : String} :
    r.query? name = none ↔ ∀ value, ¬ r.IsFirst name value := by
  simp only [Option.eq_none_iff_forall_ne_some, ne_eq, query?_eq_some_iff]

lemma Request.isFirst_addQuery_empty {name value text : String} :
    (empty.addQuery name value).IsFirst name text ↔ value = text := by
  rw [← query?_eq_some_iff]
  simp [query?, addQuery, empty]

namespace Filter

open Query

def InPlace.apply (p : Parameter) (r : Request) (t : Target) (q : Select) :
    Except ApplyError Bool × Select :=
  match p.tree? r with
  | .error e => (.error (.read e), q)
  | .ok none => (.ok false, q)
  | .ok (some tree) =>
    match InPlace.run t tree q with
    | (.ok (), q') => (.ok true, q')
    | (.error e, q') => (.error (.bind e), q')

variable {p : Parameter} {r : Request} {t : Target} {q : Select} {text : String} {tree : Tree}

namespace Parameter

lemma tree?_of_absent (h : ∀ text, ¬ r.IsFirst p.name text) : p.tree? r = .ok none := by
  rw [tree?, Request.query?_eq_none_iff.mpr h]

lemma tree?_of_ok (h : r.IsFirst p.name text) (ht : Tree.ofText text = .ok tree) :
    p.tree? r = .ok (some tree) := by
  rw [tree?, Request.query?_eq_some_iff.mpr h]
  simp only [ht]

lemma tree?_of_error (h : r.IsFirst p.name text) {e : FilterError}
    (he : Tree.ofText text = .error e) :
    p.tree? r = match p.policy with
      | .strict => .error e
      | .lenient => .ok none := by
  rw [tree?, Request.query?_eq_some_iff.mpr h]
  cases hp : p.policy <;> simp only [he]

lemma apply_of_none (h : p.tree? r = .ok none) : p.apply r t q = .ok none := by
  rw [apply, h]

lemma apply_of_refused {e : FilterError} (h : p.tree? r = .error e) :
    p.apply r t q = .error (.read e) := by
  rw [apply, h]

lemma apply_of_some (h : p.tree? r = .ok (some tree)) :
    p.apply r t q =
      match q.narrow t tree with
      | .error e => .error (.bind e)
      | .ok q' => .ok (some q') := by
  cases hn : q.narrow t tree <;> simp only [apply, h, hn]

end Parameter

namespace InPlace

lemma apply_eq (p : Parameter) (r : Request) (t : Target) (q : Select) :
    apply p r t q =
      match p.apply r t q with
      | .ok (some q') => (.ok true, q')
      | .ok none => (.ok false, q)
      | .error e => (.error e, q) := by
  rw [apply, Parameter.apply]
  cases p.tree? r with
  | error e => rfl
  | ok tree? =>
    cases tree? with
    | none => rfl
    | some tree =>
      simp only [run_eq]
      cases q.narrow t tree <;> rfl

lemma apply_of_tree? {tree : Tree} (h : p.tree? r = .ok (some tree)) :
    apply p r t q =
      match q.narrow t tree with
      | .ok q' => (.ok true, q')
      | .error e => (.error (.bind e), q) := by
  rw [apply_eq, Parameter.apply_of_some h]
  cases q.narrow t tree <;> rfl

lemma apply_of_ofText {name : String} (h : r.IsFirst name text) (ht : Tree.ofText text = .ok tree) :
    (∃ key, tree.keys.find? (fun key => !t.allows key) = some key ∧
      ∀ policy, apply ⟨name, policy⟩ r t q = (.error (.bind (.unknownField key)), q)) ∨
    (∀ key ∈ tree.keys, t.allows key = true) ∧
      ∃ q', q.narrow t tree = .ok q' ∧ ∀ policy, apply ⟨name, policy⟩ r t q = (.ok true, q') := by
  have hrun : ∀ policy, apply ⟨name, policy⟩ r t q =
      match q.narrow t tree with
      | .ok q' => (.ok true, q')
      | .error e => (.error (.bind e), q) := fun _ => apply_of_tree? (Parameter.tree?_of_ok h ht)
  rcases Select.narrow_cases_of_ofText (q := q) (t := t) ht with ⟨key, hk, hn⟩ | ⟨hall, q', hn⟩
  · rw [hn] at hrun
    exact .inl ⟨key, hk, hrun⟩
  · rw [hn] at hrun
    exact .inr ⟨hall, q', hn, hrun⟩

lemma apply_of_error {name : String} (h : r.IsFirst name text) {e : FilterError}
    (he : Tree.ofText text = .error e) :
    apply ⟨name, .strict⟩ r t q = (.error (.read e), q) ∧
      apply ⟨name, .lenient⟩ r t q = (.ok false, q) := by
  constructor
  · rw [apply, Parameter.tree?_of_error h he]
  · rw [apply, Parameter.tree?_of_error h he]

lemma apply_of_absent (h : ∀ text, ¬ r.IsFirst p.name text) : apply p r t q = (.ok false, q) := by
  rw [apply, Parameter.tree?_of_absent h]

lemma apply_cases (p : Parameter) (r : Request) (t : Target) (q : Select) :
    (∃ q', apply p r t q = (.ok true, q')) ∨ apply p r t q = (.ok false, q) ∨
      (∃ e, apply p r t q = (.error (.read e), q)) ∨
      ∃ key, apply p r t q = (.error (.bind (.unknownField key)), q) := by
  obtain ⟨name, policy⟩ := p
  by_cases hp : ∃ text, r.IsFirst name text
  · obtain ⟨text, hp⟩ := hp
    cases ht : Tree.ofText text with
    | error e =>
      obtain ⟨hstrict, hlenient⟩ := apply_of_error (t := t) (q := q) hp ht
      cases policy with
      | strict => exact .inr (.inr (.inl ⟨e, hstrict⟩))
      | lenient => exact .inr (.inl hlenient)
    | ok tree =>
      rcases apply_of_ofText (t := t) (q := q) hp ht with ⟨key, -, h⟩ | ⟨-, q', -, h⟩
      · exact .inr (.inr (.inr ⟨key, h policy⟩))
      · exact .inl ⟨q', h policy⟩
  · exact .inr (.inl (apply_of_absent (not_exists.mp hp)))

lemma apply_snd (h : (apply p r t q).2 ≠ q) : (apply p r t q).1 = .ok true := by
  rcases apply_cases p r t q with ⟨q', ha⟩ | ha | ⟨e, ha⟩ | ⟨key, ha⟩
  · rw [ha]
  all_goals
    rw [ha] at h
    exact absurd rfl h

lemma apply_ne_malformed (m : Malformed) :
    (apply p r t q).1 ≠ .error (.bind (.malformedTree m)) := by
  rcases apply_cases p r t q with ⟨q', ha⟩ | ha | ⟨e, ha⟩ | ⟨key, ha⟩ <;> simp [ha]

lemma apply_policy {name : String} (h : ∀ text e, r.IsFirst name text → Tree.ofText text ≠ .error e) :
    apply ⟨name, .strict⟩ r t q = apply ⟨name, .lenient⟩ r t q := by
  by_cases hp : ∃ text, r.IsFirst name text
  · obtain ⟨text, hp⟩ := hp
    cases ht : Tree.ofText text with
    | error e => exact absurd ht (h text e hp)
    | ok tree =>
      rw [apply_of_tree? (Parameter.tree?_of_ok hp ht), apply_of_tree? (Parameter.tree?_of_ok hp ht)]
  · rw [not_exists] at hp
    rw [apply_of_absent hp, apply_of_absent hp]

end InPlace

/-- The query changes only where a filter is applied. The policy makes a difference only for a first
value that cannot be read: it is then reported, or left aside. A filter that has been read is
applied, or refused for its first field that is not allowed, under both policies alike. -/
theorem apply_outcome (name : String) (r : Request) (t : Target) (q : Select) :
    let run (policy : Policy) := InPlace.apply ⟨name, policy⟩ r t q
    (∀ policy, run policy =
      match Parameter.apply ⟨name, policy⟩ r t q with
      | .ok (some q') => (.ok true, q')
      | .ok none => (.ok false, q)
      | .error e => (.error e, q)) ∧
    (∀ policy, (run policy).2 ≠ q → (run policy).1 = .ok true) ∧
    ((∀ text e, r.IsFirst name text → Tree.ofText text ≠ .error e) → run .strict = run .lenient) ∧
    (∀ text e, r.IsFirst name text → Tree.ofText text = .error e →
      run .strict = (.error (.read e), q) ∧ run .lenient = (.ok false, q)) ∧
    (∀ text tree, r.IsFirst name text → Tree.ofText text = .ok tree →
      (∃ key, tree.keys.find? (fun key => !t.allows key) = some key ∧
        ∀ policy, run policy = (.error (.bind (.unknownField key)), q)) ∨
      (∀ key ∈ tree.keys, t.allows key = true) ∧
        ∃ q', q.narrow t tree = .ok q' ∧ ∀ policy, run policy = (.ok true, q')) ∧
    ∀ policy m, (run policy).1 ≠ .error (.bind (.malformedTree m)) := by
  refine ⟨fun _ => InPlace.apply_eq _ r t q, fun _ => InPlace.apply_snd, InPlace.apply_policy, ?_, ?_,
    fun _ => InPlace.apply_ne_malformed⟩
  · exact fun text e h he => InPlace.apply_of_error h he
  · exact fun text tree h ht => InPlace.apply_of_ofText h ht

theorem apply_outcome_broken_filter :
    let q : Select := .ofTable "users" "u"
    let t : Target := ⟨"u", fun key => key != "pw"⟩
    let broken : Request := ⟨[("page", "2"), ("filter", "name:(broken"), ("filter", "name:foo")], []⟩
    let secret : Request := ⟨[("filter", "or:[name:foo,pw:null]")], []⟩
    broken.IsFirst "filter" "name:(broken" ∧
    (∃ e, Tree.ofText "name:(broken" = .error e ∧
      InPlace.apply ⟨"filter", .strict⟩ broken t q = (.error (.read e), q) ∧
      InPlace.apply ⟨"filter", .lenient⟩ broken t q = (.ok false, q)) ∧
    secret.IsFirst "filter" "or:[name:foo,pw:null]" ∧
    ∃ tree, Tree.ofText "or:[name:foo,pw:null]" = .ok tree ∧
      ∀ policy, InPlace.apply ⟨"filter", policy⟩ secret t q = (.error (.bind (.unknownField "pw")), q) := by
  intro q t broken secret
  have hbroken : broken.IsFirst "filter" "name:(broken" := ⟨[("page", "2")], _, rfl, by decide⟩
  have hsecret : secret.IsFirst "filter" "or:[name:foo,pw:null]" := ⟨[], [], rfl, by decide⟩
  have herror : (Tree.ofText "name:(broken").map Tree.keys =
      .error (.lex (.unexpectedChar '(' ⟨1, 6⟩)) := by decide +kernel
  have hkeys : (Tree.ofText "or:[name:foo,pw:null]").map Tree.keys = .ok ["name", "pw"] := by
    decide +kernel
  obtain ⟨-, -, -, hunread, -, -⟩ := apply_outcome "filter" broken t q
  obtain ⟨-, -, -, -, hread, -⟩ := apply_outcome "filter" secret t q
  refine ⟨hbroken, ?_, hsecret, ?_⟩
  · cases he : Tree.ofText "name:(broken" with
    | error e => exact ⟨e, rfl, hunread _ e hbroken he⟩
    | ok tree =>
      rw [he] at herror
      cases herror
  · obtain ⟨tree, htree, hk⟩ := Outcome.map_eq_ok hkeys
    have hfirst : tree.keys.find? (fun key => !t.allows key) = some "pw" := by
      rw [hk]
      decide
    refine ⟨tree, htree, ?_⟩
    rcases hread _ tree hsecret htree with ⟨key, hkey, h⟩ | ⟨hall, -⟩
    · rw [hfirst] at hkey
      cases hkey
      exact h
    · exact absurd (hall "pw" (hk ▸ by decide)) (by decide)

end Filter

end RowFilter
