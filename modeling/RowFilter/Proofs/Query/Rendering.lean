import RowFilter.Proofs.Filter.Field
import RowFilter.Proofs.Text.Told

/-! The SQL of a condition tells its form, which is the condition without junctions that leave no
mark. -/

namespace RowFilter.Query

open RowFilter.Filter (IsIdentifier IsLetter IsDigit)
open Text (EndsRun endsRun_nil endsRun_cons run_append_inj IsTold separated separated_map
  toList_intercalate_cons endsRun_separated separated_append_inj joined_append_inj code_append_inj)

def IsField (column : String) : Prop :=
  ∃ tableAlias key, IsIdentifier tableAlias ∧ IsIdentifier key ∧
    column = tableAlias ++ "." ++ key

def IsNumbered (s : String) : Prop := ∃ n, s = placeholder n

structure Leaf.IsNamed (l : Leaf String) : Prop where
  column : IsField l.column
  operand : ∀ s ∈ l.operands, IsNumbered s

def opening : Test → String
  | .comparison c => c.sql ++ " "
  | .membership negated => (Test.membership negated).sql ++ " ("
  | .nullity negated => (Test.nullity negated).sql

def closing : Test → String
  | .membership _ => ")"
  | _ => ""

def Leaf.text (l : Leaf String) : List Char :=
  l.column.toList ++ ' ' :: ((opening l.test).toList ++ ((", ".intercalate l.operands).toList ++
    (closing l.test).toList))

def isOperandChar (c : Char) : Bool := c.isDigit || c == ',' || c == '?'

lemma placeholder_told {s : String} (h : IsNumbered s) :
    IsTold Char.isDigit String.toList IsNumbered s := by
  have hdigits : ∀ n, (placeholder n).toList = '?' :: Nat.toDigits 10 n ∧
      ∀ c ∈ Nat.toDigits 10 n, c.isDigit = true := by
    intro n
    refine ⟨?_, fun c hc => Nat.isDigit_of_mem_toDigits (by decide) (by decide) hc⟩
    rw [placeholder, String.toList_append]
    exact congrArg _ Nat.toList_repr
  obtain ⟨m, rfl⟩ := h
  rintro y ⟨n, rfl⟩ u v hu hv h
  obtain ⟨hm, hmd⟩ := hdigits m
  obtain ⟨hn, hnd⟩ := hdigits n
  rw [hm, hn] at h
  obtain ⟨hmn, huv⟩ := run_append_inj hmd hu hnd hv (List.cons.inj h).2
  refine ⟨String.toList_inj.mp ?_, huv⟩
  rw [hm, hn, hmn]

lemma IsField.ne_blank {column : String} (h : IsField column) :
    ∀ c ∈ column.toList, (c != ' ') = true := by
  have hidentifier : ∀ s, IsIdentifier s → ' ' ∉ s.toList := by
    rintro s ⟨c, cs, hs, hc, hcs⟩ hm
    rw [hs] at hm
    rcases List.mem_cons.mp hm with rfl | hm
    · simp [IsLetter] at hc
    · simpa [IsLetter, IsDigit] using hcs _ hm
  obtain ⟨tableAlias, key, ha, hk, rfl⟩ := h
  have hb : ' ' ∉ (tableAlias ++ "." ++ key).toList := by
    simp [hidentifier _ ha, hidentifier _ hk]
  intro c hc
  exact bne_iff_ne.mpr fun he => hb (he ▸ hc)

lemma IsField.exists_start {column : String} (h : IsField column) :
    ∃ c cs, column.toList = c :: cs ∧ (IsLetter c ∨ c = '_') := by
  obtain ⟨tableAlias, key, ⟨c, cs, hs, hc, -⟩, -, rfl⟩ := h
  exact ⟨c, cs ++ '.' :: key.toList, by simp [hs], hc⟩

def tests : List Test :=
  [.eq, .ne, .gt, .gte, .lt, .lte, .like].map Test.comparison ++
    [.membership true, .membership false, .nullity true, .nullity false]

lemma mem_tests (x : Test) : x ∈ tests := by
  rcases x with (_ | _) | (_ | _) | (_ | _) <;> decide

lemma opening_append_inj {x y : Test} {u v : List Char}
    (h : (opening x).toList ++ u = (opening y).toList ++ v) : x = y ∧ u = v := by
  have hcode : ∀ x ∈ tests, ∀ y ∈ tests, (opening x).toList <+: (opening y).toList → x = y := by
    decide +kernel
  exact code_append_inj mem_tests hcode h

lemma operands_eq_nil {ss : List String} (hs : ∀ s ∈ ss, IsNumbered s) {u v : List Char}
    (hu : EndsRun isOperandChar u) (h : u = (", ".intercalate ss).toList ++ v) : ss = [] := by
  cases ss with
  | nil => rfl
  | cons s ss =>
    obtain ⟨n, rfl⟩ := hs s List.mem_cons_self
    rw [h, toList_intercalate_cons, placeholder, String.toList_append] at hu
    exact absurd (hu '?' rfl) (by decide)

lemma operands_append_inj {ss ss' : List String} (hs : ∀ s ∈ ss, IsNumbered s)
    (hs' : ∀ s ∈ ss', IsNumbered s) {u v : List Char} (hu : EndsRun isOperandChar u)
    (hv : EndsRun isOperandChar v)
    (h : (", ".intercalate ss).toList ++ u = (", ".intercalate ss').toList ++ v) :
    ss = ss' ∧ u = v := by
  have hdigit : ∀ {u}, EndsRun isOperandChar u → EndsRun Char.isDigit u := fun hu =>
    hu.mono fun c hc => by simp [isOperandChar, hc]
  have hcomma : ∀ {u}, EndsRun isOperandChar u → EndsRun (· == ',') u := fun hu =>
    hu.mono fun c hc => by simp_all [isOperandChar]
  cases ss with
  | nil =>
    have hnil : u = (", ".intercalate ss').toList ++ v := by simpa using h
    obtain rfl := operands_eq_nil hs' hu hnil
    exact ⟨rfl, by simpa using hnil⟩
  | cons s ss =>
    cases ss' with
    | nil => exact absurd (operands_eq_nil hs hv (by simpa using h.symm)) (List.cons_ne_nil s ss)
    | cons s' ss' =>
      rw [toList_intercalate_cons, toList_intercalate_cons, List.append_assoc,
        List.append_assoc] at h
      have hcons : ", ".toList = ',' :: [' '] := rfl
      rw [hcons] at h
      exact joined_append_inj rfl (fun s hm => placeholder_told (hs s hm)) hs' (hdigit hu)
        (hdigit hv) (hcomma hu) (hcomma hv) h

lemma Leaf.IsNamed.told {l : Leaf String} (hl : l.IsNamed) :
    IsTold isOperandChar Leaf.text Leaf.IsNamed l := by
  intro l' hl' u v hu hv h
  have hclosing : ∀ x, ∀ {u}, EndsRun isOperandChar u →
      EndsRun isOperandChar ((closing x).toList ++ u) := by
    intro x u hu
    cases x with
    | membership negated =>
      rw [closing]
      exact endsRun_cons rfl u
    | _ => exact hu
  simp only [Leaf.text, List.append_assoc, List.cons_append] at h
  obtain ⟨hcolumn, hblank⟩ := run_append_inj hl.column.ne_blank (endsRun_cons (by decide) _)
    hl'.column.ne_blank (endsRun_cons (by decide) _) h
  obtain ⟨htest, hrest⟩ := opening_append_inj (List.cons.inj hblank).2
  rw [← htest] at hrest
  obtain ⟨hoperands, hend⟩ := operands_append_inj hl.operand hl'.operand (hclosing _ hu)
    (hclosing _ hv) hrest
  obtain ⟨x, column, ss⟩ := l
  obtain ⟨x', column', ss'⟩ := l'
  obtain rfl := String.toList_inj.mp hcolumn
  obtain rfl : x = x' := htest
  obtain rfl : ss = ss' := hoperands
  exact ⟨rfl, List.append_cancel_left hend⟩

/-- A condition up to what its text does not show. A junction has two parts or more. -/
inductive Form
  | constant (value : Bool)
  | leaf (l : Leaf String)
  | junction (c : Connective) (first second : Form) (rest : List Form)

namespace Form

def neutral : Connective → Form
  | .and => .constant true
  | .or => .constant false

def join (c : Connective) : List Form → Form
  | [] => neutral c
  | [f] => f
  | f :: g :: fs => .junction c f g fs

def separator (c : Connective) : List Char := ' ' :: (c.sql.toList ++ [' '])

mutual

def text : Form → List Char
  | .constant b => (if b then "1 = 1" else "1 = 0").toList
  | .leaf l => l.text
  | .junction c f g fs =>
    '(' :: (f.text ++ (separated (separator c) id (g.text :: texts fs) ++ [')']))

def texts : List Form → List (List Char)
  | [] => []
  | f :: fs => f.text :: texts fs

end

lemma texts_eq_map (fs : List Form) : texts fs = fs.map text := by
  induction fs with
  | nil => rfl
  | cons f fs ih => rw [texts, ih, List.map_cons]

inductive IsNamed : Form → Prop
  | constant (b : Bool) : IsNamed (.constant b)
  | leaf {l : Leaf String} (h : l.IsNamed) : IsNamed (.leaf l)
  | junction {c : Connective} {f g : Form} {fs : List Form}
      (h : ∀ x ∈ f :: g :: fs, IsNamed x) : IsNamed (.junction c f g fs)

lemma isNamed_join (c : Connective) {fs : List Form} (h : ∀ f ∈ fs, f.IsNamed) :
    (join c fs).IsNamed := by
  match fs with
  | [] => cases c <;> exact .constant _
  | [f] => exact h f List.mem_cons_self
  | f :: g :: fs => exact .junction h

def Begins (c : Char) : Form → Prop
  | .constant _ => c = '1'
  | .leaf _ => IsLetter c ∨ c = '_'
  | .junction _ _ _ _ => c = '('

lemma IsNamed.exists_begins {x : Form} (h : x.IsNamed) : ∃ c cs, x.text = c :: cs ∧ x.Begins c := by
  cases h with
  | constant b => cases b <;> exact ⟨'1', _, rfl, rfl⟩
  | @leaf l h =>
    obtain ⟨c, cs, hcolumn, hc⟩ := h.column.exists_start
    exact ⟨c, _, by rw [text, Leaf.text, hcolumn, List.cons_append], hc⟩
  | junction h => exact ⟨'(', _, rfl, rfl⟩

inductive Alike : Form → Form → Prop
  | constant (b b' : Bool) : Alike (.constant b) (.constant b')
  | leaf (l l' : Leaf String) : Alike (.leaf l) (.leaf l')
  | junction (c c' : Connective) (f g f' g' : Form) (fs fs' : List Form) :
      Alike (.junction c f g fs) (.junction c' f' g' fs')

lemma alike_of_begins {c : Char} {x y : Form} (hx : x.Begins c) (hy : y.Begins c) : Alike x y := by
  cases x <;> cases y <;> first | constructor | simp_all [Begins, IsLetter]

lemma separator_inj {c d : Connective} {f g : Form} {fs gs : List Form} {u v : List Char}
    (h : separated (separator c) text (f :: fs) ++ u =
      separated (separator d) text (g :: gs) ++ v) : c = d := by
  cases c <;> cases d <;> first | rfl | simp [separated, separator, Connective.sql] at h

lemma text_junction (c : Connective) (f g : Form) (fs : List Form) (u : List Char) :
    (junction c f g fs).text ++ u =
      '(' :: (f.text ++ (separated (separator c) text (g :: fs) ++ ')' :: u)) := by
  simp [text, texts_eq_map, ← List.map_cons, separated_map]

lemma IsNamed.alike {x y : Form} (hx : x.IsNamed) (hy : y.IsNamed) {u v : List Char}
    (h : x.text ++ u = y.text ++ v) : Alike x y := by
  obtain ⟨c, cs, hc, hbegins⟩ := hx.exists_begins
  obtain ⟨d, ds, hd, hbegins'⟩ := hy.exists_begins
  rw [hc, hd] at h
  obtain ⟨rfl, -⟩ := List.cons.inj h
  exact alike_of_begins hbegins hbegins'

lemma IsNamed.told {x : Form} (h : x.IsNamed) : IsTold isOperandChar text IsNamed x := by
  -- one form is taken apart, the other is of the same constructor by the first character of the text
  induction h with
  | constant b =>
    intro y hy u v hu hv h
    cases IsNamed.alike (.constant b) hy h with
    | constant b b' =>
      cases b <;> cases b' <;> simp_all [text]
  | leaf hl =>
    intro y hy u v hu hv h
    cases IsNamed.alike (.leaf hl) hy h with
    | leaf l l' =>
      cases hy with
      | leaf hl' =>
        obtain ⟨rfl, huv⟩ := hl.told hl' hu hv h
        exact ⟨rfl, huv⟩
  | junction hx ih =>
    intro y hy u v hu hv h
    cases IsNamed.alike (.junction hx) hy h with
    | junction c c' f g f' g' fs fs' =>
      cases hy with
      | junction hy =>
        rw [List.forall_mem_cons] at ih hy
        rw [text_junction, text_junction] at h
        have hclose : ∀ {p : Char → Bool}, p ')' = false → ∀ {u}, EndsRun p (')' :: u) :=
          fun hp u => endsRun_cons hp u
        obtain ⟨rfl, hrest⟩ := ih.1 hy.1 (endsRun_separated rfl _ _ (hclose rfl))
          (endsRun_separated rfl _ _ (hclose rfl)) (List.cons.inj h).2
        obtain rfl := separator_inj hrest
        obtain ⟨hparts, huv⟩ := separated_append_inj rfl ih.2 hy.2 (hclose rfl) (hclose rfl)
          (hclose rfl) (hclose rfl) hrest
        obtain ⟨rfl, rfl⟩ := List.cons.inj hparts
        exact ⟨rfl, (List.cons.inj huv).2⟩

end Form

namespace Predicate

mutual

def form : Predicate → Form
  | comparison column op s => .leaf ⟨.comparison op, column, [s]⟩
  | membership column negated ss => .leaf ⟨.membership negated, column, ss⟩
  | nullity column negated => .leaf ⟨.nullity negated, column, []⟩
  | junction c parts => .join c (forms parts)

def forms : List Predicate → List Form
  | [] => []
  | p :: ps => p.form :: forms ps

end

lemma forms_eq_map (ps : List Predicate) : forms ps = ps.map form := by
  induction ps with
  | nil => rfl
  | cons p ps ih => rw [forms, ih, List.map_cons]

lemma sqls_eq_map (ps : List Predicate) : sqls ps = ps.map sql := by
  induction ps with
  | nil => rfl
  | cons p ps ih => rw [sqls, ih, List.map_cons]

def IsNamed (p : Predicate) : Prop := ∀ l ∈ p.leaves, l.IsNamed

lemma toList_joinParts (c : Connective) {ss : List String} {fs : List Form}
    (h : fs.map Form.text = ss.map String.toList) :
    (joinParts c ss).toList = (Form.join c fs).text := by
  cases ss with
  | nil =>
    obtain rfl := List.map_eq_nil_iff.mp h
    cases c <;> rfl
  | cons s ss =>
    obtain ⟨f, fs, rfl, hs, hss⟩ := List.map_eq_cons_iff.mp h
    cases ss with
    | nil =>
      obtain rfl := List.map_eq_nil_iff.mp hss
      exact hs.symm
    | cons s' ss =>
      obtain ⟨g, fs, rfl, hs', hss⟩ := List.map_eq_cons_iff.mp hss
      have hsql : joinParts c (s :: s' :: ss) =
          "(" ++ (" " ++ c.sql ++ " ").intercalate (s :: s' :: ss) ++ ")" := rfl
      rw [Form.join, Form.text, Form.texts_eq_map, hs, hs', hss, ← List.map_cons, separated_map, hsql,
        String.toList_append, String.toList_append, toList_intercalate_cons]
      simp [Form.separator]

lemma toList_sql (p : Predicate) : p.sql.toList = p.form.text := by
  induction p with
  | comparison column op s => simp [sql, form, Form.text, Leaf.text, opening, closing]
  | membership column negated ss => simp [sql, form, Form.text, Leaf.text, opening, closing]
  | nullity column negated => simp [sql, form, Form.text, Leaf.text, opening, closing]
  | junction c parts ih =>
    rw [sql, form, sqls_eq_map, forms_eq_map]
    refine toList_joinParts c ?_
    rw [List.map_map, List.map_map]
    exact List.map_congr_left fun p hp => (ih p hp).symm

lemma IsNamed.form {p : Predicate} (h : p.IsNamed) : p.form.IsNamed := by
  induction p with
  | comparison column op s => exact .leaf (h _ (List.mem_singleton.mpr rfl))
  | membership column negated ss => exact .leaf (h _ (List.mem_singleton.mpr rfl))
  | nullity column negated => exact .leaf (h _ (List.mem_singleton.mpr rfl))
  | junction c parts ih =>
    rw [Predicate.form, forms_eq_map]
    refine Form.isNamed_join c (List.forall_mem_map.mpr fun p hp => ih p hp fun l hl => ?_)
    exact h l (mem_leavesAll hp hl)

theorem sql_eq_iff {p q : Predicate} (hp : p.IsNamed) (hq : q.IsNamed) :
    p.sql = q.sql ↔ p.form = q.form := by
  rw [← String.toList_inj, toList_sql, toList_sql]
  constructor
  · intro h
    have he : p.form.text ++ [] = q.form.text ++ [] := congrArg (· ++ []) h
    exact (hp.form.told hq.form endsRun_nil endsRun_nil he).1
  · exact congrArg Form.text

theorem sql_eq_iff_single_parts :
    let name : Predicate := .comparison "u.name" .like (placeholder 1)
    let ids : Predicate := .membership "u.id" true [placeholder 2, placeholder 10]
    let p : Predicate := .junction .and [.junction .or [name], .junction .or [], ids, .junction .and []]
    let q : Predicate := .junction .or
      [.junction .and [name, .junction .or [], .junction .and [ids], .junction .and []]]
    p.IsNamed ∧ q.IsNamed ∧ p.sql = q.sql ∧ p.form = q.form := by
  intro name ids p q
  have hfield : ∀ key, IsIdentifier key → IsField ("u" ++ "." ++ key) := fun key hk =>
    ⟨"u", key, (RowFilter.Filter.isValidKey_iff "u").mp (by decide), hk, rfl⟩
  have hname : (Leaf.mk (.comparison .like) "u.name" [placeholder 1]).IsNamed :=
    ⟨hfield "name" ((RowFilter.Filter.isValidKey_iff _).mp (by decide)), by simp [IsNumbered]⟩
  have hids : (Leaf.mk (.membership true) "u.id" [placeholder 2, placeholder 10]).IsNamed :=
    ⟨hfield "id" ((RowFilter.Filter.isValidKey_iff _).mp (by decide)), by simp [IsNumbered]⟩
  have hleaves : ∀ l ∈ [Leaf.mk (.comparison .like) "u.name" [placeholder 1],
      Leaf.mk (.membership true) "u.id" [placeholder 2, placeholder 10]], l.IsNamed := by
    simp [hname, hids]
  have hp : p.IsNamed := hleaves
  have hq : q.IsNamed := hleaves
  have hsql : p.sql = q.sql := by decide +kernel
  exact ⟨hp, hq, hsql, (sql_eq_iff hp hq).mp hsql⟩

end Predicate

end RowFilter.Query
