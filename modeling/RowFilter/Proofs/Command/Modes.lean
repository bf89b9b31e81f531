import RowFilter.Command.Compile
import RowFilter.Proofs.Filter.Policy

/-! The modes of the command that compiles a filter, compared. -/

namespace RowFilter

open RowFilter.Filter Query

namespace Command.CompileOptions

def mode (o : CompileOptions) (strict syntaxOnly : Bool) : CompileOptions :=
  { o with strict, syntaxOnly }

/-- The text that a command has to read as its filter. -/
def IsFilter (o : CompileOptions) (text : String) : Prop :=
  match o.queryString? with
  | some s => (Request.ofQueryString s).IsFirst "filter" text
  | none => o.filter? = some text

def unfiltered (o : CompileOptions) : Json :=
  .ofMembers
    [("sql", .string ("SELECT " ++ o.tableAlias ++ " FROM " ++ o.table ++ " " ++ o.tableAlias)),
      ("parameters", .ofMembers [])]

variable {o : CompileOptions} {r : Request} {text : String}

lemma json_select (o : CompileOptions) : o.entity.select.json = o.unfiltered := rfl

lemma exists_request (h : o.filter? ≠ none ∨ o.queryString? ≠ none) :
    ∃ r, o.request? = some r ∧ ∀ text, r.IsFirst "filter" text ↔ o.IsFilter text := by
  cases hs : o.queryString? with
  | some s => exact ⟨.ofQueryString s, by simp [request?, hs], fun text => by simp [IsFilter, hs]⟩
  | none =>
    obtain ⟨filter, hf⟩ := Option.ne_none_iff_exists'.mp (h.resolve_right fun hq => hq hs)
    refine ⟨Request.empty.addQuery "filter" filter, by simp [request?, hs, hf, parameter], fun text => ?_⟩
    simp [IsFilter, hs, hf, Request.isFirst_addQuery_empty]

lemma allows_iff {key : String} :
    o.entity.target.allows key = true ↔ o.fields = [] ∨ key ∈ o.fields := by
  by_cases hf : o.fields = [] <;> simp [entity, Entity.target, hf]

lemma find?_unlisted {keys : List String} {key : String}
    (h : keys.find? (fun key => !o.entity.target.allows key) = some key) :
    o.fields ≠ [] ∧ keys.find? (· ∉ o.fields) = some key := by
  have hf : o.fields ≠ [] := by
    intro hf
    have hallows : o.entity.target.allows key = true := allows_iff.mpr (.inl hf)
    simpa [hallows] using List.find?_some h
  have hpred : (fun key => !o.entity.target.allows key) = fun key => decide (key ∉ o.fields) := by
    funext key
    rw [Bool.eq_iff_iff]
    simp [← Bool.not_eq_true, allows_iff, hf]
  rw [hpred] at h
  exact ⟨hf, h⟩

section Request

variable (hr : o.request? = some r)
include hr

lemma compile_check (strict : Bool) : (o.mode strict true).compile = o.check r := by
  have hmode : (o.mode strict true).request? = some r := hr
  rw [compile, hmode]
  rfl

lemma compile_apply (strict : Bool) :
    (o.mode strict false).compile =
      match (o.mode strict false).parameter.apply r o.entity.target o.entity.select with
      | .error e => .error (.filter e)
      | .ok q? => .ok (.output (q?.getD o.entity.select).json) := by
  have hmode : (o.mode strict false).request? = some r := hr
  rw [compile, hmode]
  rfl

lemma compile_of_absent (h : ∀ text, ¬ r.IsFirst "filter" text) (strict : Bool) :
    (o.mode strict true).compile = .error .noFilter ∧
      (o.mode strict false).compile = .ok (.output o.unfiltered) := by
  constructor
  · have hquery : r.query? o.parameter.name = none := Request.query?_eq_none_iff.mpr h
    rw [compile_check hr, check, hquery]
  · have htree := Parameter.tree?_of_absent (p := (o.mode strict false).parameter) h
    rw [compile_apply hr, Parameter.apply_of_none htree, ← json_select]
    rfl

variable (hf : r.IsFirst "filter" text)
include hf

lemma compile_check_of_first (strict : Bool) :
    (o.mode strict true).compile =
      match Tree.ofText text with
      | .error e => .error (.filter (.read e))
      | .ok t => .ok (.valid t) := by
  have hquery : r.query? o.parameter.name = some text := Request.query?_eq_some_iff.mpr hf
  cases ht : Tree.ofText text <;> simp only [compile_check hr, check, hquery, ht]

lemma compile_of_error {e : FilterError} (he : Tree.ofText text = .error e) :
    (o.mode true false).compile = .error (.filter (.read e)) ∧
      (o.mode false false).compile = .ok (.output o.unfiltered) := by
  constructor
  · have htree := Parameter.tree?_of_error (p := (o.mode true false).parameter) hf he
    rw [compile_apply hr, Parameter.apply_of_refused htree]
  · have htree := Parameter.tree?_of_error (p := (o.mode false false).parameter) hf he
    rw [compile_apply hr, Parameter.apply_of_none htree, ← json_select]
    rfl

lemma compile_of_ok {tree : Tree} (ht : Tree.ofText text = .ok tree) (strict : Bool) :
    (o.mode strict false).compile =
      match o.entity.select.narrow o.entity.target tree with
      | .error e => .error (.filter (.bind e))
      | .ok q => .ok (.output q.json) := by
  have htree := Parameter.tree?_of_ok (p := (o.mode strict false).parameter) hf ht
  rw [compile_apply hr, Parameter.apply_of_some htree]
  cases o.entity.select.narrow o.entity.target tree <;> rfl

end Request

/-- The check of the syntax tells what the command does without it. A filter that passes narrows the
query alike in both modes, or is refused alike for the first field that is not listed, if fields are
listed. One that cannot be read is reported by the strict command; the other shows the whole table,
and so do both if there is no filter in the query string. -/
theorem compile_modes_agree (o : CompileOptions) (h : o.filter? ≠ none ∨ o.queryString? ≠ none)
    (strict : Bool) :
    match (o.mode strict true).compile with
    | .ok (.valid tree) =>
      (∃ text, o.IsFilter text ∧ Tree.ofText text = .ok tree) ∧
        (((o.fields = [] ∨ ∀ key ∈ tree.keys, key ∈ o.fields) ∧
            ∃ q, o.entity.select.narrow o.entity.target tree = .ok q ∧
              ∀ strict', (o.mode strict' false).compile = .ok (.output q.json)) ∨
          o.fields ≠ [] ∧ ∃ key, tree.keys.find? (· ∉ o.fields) = some key ∧
            ∀ strict', (o.mode strict' false).compile = .error (.filter (.bind (.unknownField key))))
    | .error (.filter (.read e)) =>
      (∃ text, o.IsFilter text ∧ Tree.ofText text = .error e) ∧
        (o.mode true false).compile = .error (.filter (.read e)) ∧
          (o.mode false false).compile = .ok (.output o.unfiltered)
    | .error .noFilter =>
      (∀ text, ¬ o.IsFilter text) ∧
        ∀ strict', (o.mode strict' false).compile = .ok (.output o.unfiltered)
    | _ => False := by
  obtain ⟨r, hr, hfirst⟩ := exists_request h
  by_cases hf : ∃ text, r.IsFirst "filter" text
  · obtain ⟨text, hf⟩ := hf
    have hfilter := (hfirst text).mp hf
    rw [compile_check_of_first hr hf]
    cases ht : Tree.ofText text with
    | error e => exact ⟨⟨text, hfilter, ht⟩, compile_of_error hr hf ht⟩
    | ok tree =>
      refine ⟨⟨text, hfilter, ht⟩, ?_⟩
      have hrun := compile_of_ok hr hf ht
      rcases Select.narrow_cases_of_ofText (q := o.entity.select) (t := o.entity.target) ht with
        ⟨key, hkey, hn⟩ | ⟨hall, q, hn⟩
      · rw [hn] at hrun
        obtain ⟨hlisted, hkey⟩ := find?_unlisted hkey
        exact .inr ⟨hlisted, key, hkey, hrun⟩
      · rw [hn] at hrun
        simp only [allows_iff, forall_or_left] at hall
        exact .inl ⟨hall, q, hn, hrun⟩
  · rw [not_exists] at hf
    rw [(compile_of_absent hr hf strict).1]
    refine ⟨fun text ht => hf text ((hfirst text).mpr ht), fun strict' => ?_⟩
    exact (compile_of_absent hr hf strict').2

theorem compile_modes_agree_unlisted_field :
    let o : CompileOptions :=
      { queryString? := some "?page=2&filter=or%3A%5Bname:foo,pw:null%5D&filter=(", fields := ["name"] }
    (o.filter? ≠ none ∨ o.queryString? ≠ none) ∧
      (∃ tree, (o.mode false true).compile = .ok (.valid tree)) ∧
      ∀ strict, (o.mode strict false).compile = .error (.filter (.bind (.unknownField "pw"))) := by
  intro o
  have h : o.filter? ≠ none ∨ o.queryString? ≠ none := .inr (by simp [o])
  have hkeys : ((o.mode false true).compile.map fun
      | .valid tree => tree.keys
      | .output _ => []) = .ok ["name", "pw"] := by decide +kernel
  have hagree := compile_modes_agree o h false
  obtain ⟨result, hresult, hk⟩ := Outcome.map_eq_ok hkeys
  rw [hresult] at hagree
  cases result with
  | output j => exact hagree.elim
  | valid tree =>
    have hk : tree.keys = ["name", "pw"] := hk
    have hfirst : tree.keys.find? (· ∉ o.fields) = some "pw" := by
      rw [hk]
      decide
    refine ⟨h, ⟨tree, hresult⟩, ?_⟩
    rcases hagree.2 with ⟨hlisted, -⟩ | ⟨-, key, hkey, hrun⟩
    · rcases hlisted with hlisted | hlisted
      · cases hlisted
      · exact absurd (hlisted "pw" (by simp [hk])) (by decide)
    · rw [hfirst] at hkey
      cases hkey
      exact hrun

end Command.CompileOptions

end RowFilter
