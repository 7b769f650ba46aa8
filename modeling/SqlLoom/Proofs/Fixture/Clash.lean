import SqlLoom.Proofs.Fixture.Frame
import SqlLoom.Proofs.Layout.Parameters
import SqlLoom.Proofs.Layout.Redirect

/-! Which injections can be written out. Whether a fixture is left out depends on the clause in
front alone, while a set operation is written with one clause made of those of all its operands. So
a fixture meets the tables of the other operands, and one of its name has to equal it. -/
namespace SqlLoom

open Fixture

namespace Statement

/-- The tables that are written in one clause with those of the place that `withSlot?` reads. A set
operation whose first operand is a data change has that place inside of it, and hoists nothing
there. -/
def hoistedTables : Statement → List CommonTable
  | .setOp ⟨left, _, _, right, _, _, _⟩ =>
    if left.leftmost?.isSome then (left.operandWiths ++ right.operandWiths).flatMap (·.tables)
    else left.hoistedTables
  | .insert ⟨_, _, .query q, _⟩ => q.hoistedTables
  | .createTable ⟨_, _, _, _, some q⟩ => q.hoistedTables
  | _ => []

end Statement

lemma leftmost?_redirect (own deep : List QualifiedName) : (s : Statement) →
    (s.redirect own deep).leftmost?.isSome = s.leftmost?.isSome
  | .select ⟨_, _, _, _, _, _, _, _, _, _, _⟩ => rfl
  | .setOp ⟨l, _, _, _, _, _, _⟩ => leftmost?_redirect own deep l
  | .values ⟨_, _⟩ => rfl
  | .insert ⟨_, _, .query _, _⟩ => rfl
  | .insert ⟨_, _, .rows _, _⟩ => rfl
  | .createTable ⟨_, _, _, _, none⟩ => rfl
  | .createTable ⟨_, _, _, _, some _⟩ => rfl
  | .update ⟨_, _, _, _, _, _⟩ => rfl
  | .delete ⟨_, _, _, _, _⟩ => rfl

lemma hoistedTables_redirect (own deep : List QualifiedName) : (s : Statement) →
    (s.redirect own deep).hoistedTables = s.hoistedTables.map (.redirect own deep)
  | .select ⟨_, _, _, _, _, _, _, _, _, _, _⟩ => rfl
  | .setOp ⟨l, op, a, r, o, m, k⟩ => by
    have hleft := leftmost?_redirect own deep l
    have hrest := hoistedTables_redirect own deep l
    have hall := operandWiths_redirect own deep (.setOp ⟨l, op, a, r, o, m, k⟩)
    rw [redirect_setOp] at hall ⊢
    simp only [Statement.hoistedTables, hleft]
    split
    · exact hall
    · exact hrest
  | .values ⟨_, _⟩ => rfl
  | .insert ⟨_, _, .query q, _⟩ => hoistedTables_redirect own deep q
  | .insert ⟨_, _, .rows _, _⟩ => rfl
  | .createTable ⟨_, _, _, _, none⟩ => rfl
  | .createTable ⟨_, _, _, _, some q⟩ => hoistedTables_redirect own deep q
  | .update ⟨_, _, _, _, _, _⟩ => rfl
  | .delete ⟨_, _, _, _, _⟩ => rfl

namespace Layout

/-- The marks of the place for a WITH clause before and after `fixtures` are put there: they are
the same unless one of `ts` differs from the first of `fixtures` of its name, and then such a one
clashes. -/
def Meets (fixtures ts : List CommonTable) (ms ms' : List Piece) : Prop :=
  clash? ms = none →
    (∀ t ∈ ts, ¬ t.Differs fixtures) ∧ ms' = ms ∨
      ∃ t ∈ ts, t.Differs fixtures ∧ clash? ms' = some t.name

namespace Meets

variable {fixtures ts : List CommonTable} {ms ms' : List Piece}

lemma refl (ms : List Piece) : Meets fixtures [] ms ms := fun _ => .inl ⟨by simp, rfl⟩

/-- The rest of the statement is as before. -/
lemma append (h : Meets fixtures ts ms ms') (ns : List Piece) :
    Meets fixtures ts (ms ++ ns) (ms' ++ ns) := by
  intro hc
  rcases h (clash?_append_eq_none.mp hc).1 with ⟨hnone, rfl⟩ | ⟨t, ht, hd, hclash⟩
  · exact .inl ⟨hnone, rfl⟩
  · exact .inr ⟨t, ht, hd, by rw [clash?_append, hclash, Option.some_or]⟩

lemma append_left (h : Meets fixtures ts ms ms') (ns : List Piece) :
    Meets fixtures ts (ns ++ ms) (ns ++ ms') := by
  intro hc
  obtain ⟨hns, hms⟩ := clash?_append_eq_none.mp hc
  rcases h hms with ⟨hnone, rfl⟩ | ⟨t, ht, hd, hclash⟩
  · exact .inl ⟨hnone, rfl⟩
  · exact .inr ⟨t, ht, hd, by rw [clash?_append, hns, hclash, Option.none_or]⟩

end Meets

section
variable {fixtures : List CommonTable} {w : Option WithClause}
variable (hp : fixtures.Pairwise fun t u => Text.sameName t.name u.name = false)
variable (hblank : ∀ t ∈ fixtures, ∀ d, tableMarks d t = [])
variable (hself : ∀ t ∈ fixtures, ∀ u, t.equals u = true → u = t)

include hblank in
lemma marks_withClause_joined (d : Nat) (w : Option WithClause) :
    marks (withClause d (some (.joined fixtures w))).flatten = marks (withClause d w).flatten := by
  have hnone : fixtures.flatMap (tableMarks d) = [] :=
    List.flatMap_eq_nil_iff.mpr fun t ht => hblank t ht d
  rw [marks_withClause, marks_withClause, Option.getD_some, WithClause.joined, List.flatMap_append,
    hnone, List.nil_append]

include hp hblank hself in
lemma meets_hoisted (d : Nat) (ts : List CommonTable) :
    Meets fixtures ts
      ((Hoisted.ofTables id ts).clashes.map .clash ++
        (Hoisted.ofTables id ts).kept.flatMap (tableMarks d))
      ((Hoisted.ofTables id (fixtures ++ ts)).clashes.map .clash ++
        (Hoisted.ofTables id (fixtures ++ ts)).kept.flatMap (tableMarks d)) := by
  intro hc
  have hnone := clash?_clashes.mp (clash?_append_eq_none.mp hc).1
  cases hnew : (Hoisted.ofTables id (fixtures ++ ts)).clashes with
  | nil =>
    have hd : ∀ t ∈ ts, ¬ t.Differs fixtures := by
      intro t ht hd
      have := (Hoisted.mem_clashes_append hp hnone).mpr ⟨t, ht, hd, rfl⟩
      simp [hnew] at this
    refine .inl ⟨hd, ?_⟩
    rw [hnone, Hoisted.flatMap_kept_append (fun t ht => hblank t ht d) _ hd]
    intro t ht u _ hequal
    rw [hself t ht u hequal]
    exact hblank t ht d
  | cons name names =>
    obtain ⟨t, ht, hd, rfl⟩ : ∃ t ∈ ts, t.Differs fixtures ∧ t.name = name := by
      rw [← Hoisted.mem_clashes_append hp hnone, hnew]
      exact List.mem_cons_self ..
    exact .inr ⟨t, ht, hd, rfl⟩

/-- As an operand, the first select is written without its clause. -/
lemma statement_operand_setWith (d : Nat) (parent : SetOperator) (right : Bool) (w : WithClause) :
    (s : Statement) → s.leftmost?.isSome →
    statement d (.operand parent right) (s.setWith w) = statement d (.operand parent right) s
  | .select ⟨_, _, _, _, _, _, _, _, _, _, _⟩, _ => rfl
  | .setOp ⟨l, op, _, _, _, _, _⟩, h => by
    simp only [Statement.setWith, statement, statement_operand_setWith d op false w l h]
  | .values _, h => nomatch h
  | .insert _, h => nomatch h
  | .createTable _, h => nomatch h
  | .update _, h => nomatch h
  | .delete _, h => nomatch h

/-- The clause of the first select is the first of those that are hoisted. -/
lemma operandWiths_joined : (s : Statement) → s.leftmost?.isSome → s.withSlot? = some w →
    (s.setWith (.joined fixtures w)).operandWiths.flatMap (·.tables) =
      fixtures ++ s.operandWiths.flatMap (·.tables)
  | .select ⟨w, _, _, _, _, _, _, _, _, _, _⟩, _, hw => by
    cases hw
    cases w <;> simp [Statement.setWith, Statement.operandWiths, WithClause.joined]
  | .setOp ⟨l, _, _, _, _, _, _⟩, h, hw => by
    rw [Statement.setWith, Statement.operandWiths, Statement.operandWiths, List.flatMap_append,
      List.flatMap_append, operandWiths_joined l h hw, List.append_assoc]
  | .values _, h, _ => nomatch h
  | .insert _, h, _ => nomatch h
  | .createTable _, h, _ => nomatch h
  | .update _, h, _ => nomatch h
  | .delete _, h, _ => nomatch h

/-- Without a select in front, no clause that is hoisted changes. -/
lemma operandWiths_setWith_of_leftmost {s : Statement} (w : WithClause) (h : s.leftmost? = none) :
    (s.setWith w).operandWiths = s.operandWiths := by
  simpa [redirect_nil] using (operandWiths_setWith [] w s h).1

include hp hblank hself in
/-- A statement before and after tables are put into the place for a WITH clause. -/
lemma meets_setWith (d : Nat) (placement : Placement) : (s : Statement) → s.withSlot? = some w →
    (placement.isOperand → s.leftmost? = none) →
    Meets fixtures s.hoistedTables (marks (statement d placement s))
      (marks (statement d placement (s.setWith (.joined fixtures w))))
  | .select ⟨w, _, _, _, _, _, _, _, _, _, _⟩, hw, ha => by
    cases hw
    cases placement with
    | whole =>
      simp only [Statement.setWith, statement, marks_stacked, List.flatten_append, marks_append,
        marks_withClause_joined hblank, Statement.hoistedTables]
      exact .refl _
    | operand _ _ => simp [Statement.leftmost?] at ha
  | .setOp ⟨l, op, a, r, o, m, k⟩, hw, ha => by
    rw [Statement.setWith, Statement.hoistedTables]
    split
    · next hl =>
      cases placement with
      | whole =>
        have htables : ((Statement.setOp ⟨l, op, a, r, o, m, k⟩).setWith
            (.joined fixtures w)).operandWiths.flatMap (·.tables) =
            fixtures ++ (l.operandWiths ++ r.operandWiths).flatMap (·.tables) :=
          operandWiths_joined (.setOp ⟨l, op, a, r, o, m, k⟩) hl hw
        have hbody : body d ⟨l.setWith (.joined fixtures w), op, a, r, o, m, k⟩ =
            body d ⟨l, op, a, r, o, m, k⟩ := by
          rw [body, body, statement_operand_setWith d op false _ l hl]
        rw [marks_setOp, marks_setOp, hbody]
        rw [Statement.setWith] at htables
        rw [htables]
        exact (meets_hoisted hp hblank hself d _).append _
      | operand _ _ =>
        have hnone : l.leftmost? = none := ha rfl
        simp [hnone] at hl
    · next hl =>
      have hnone : l.leftmost? = none := by simpa using hl
      have hbody : Meets fixtures l.hoistedTables (marks (body d ⟨l, op, a, r, o, m, k⟩))
          (marks (body d ⟨l.setWith (.joined fixtures w), op, a, r, o, m, k⟩)) := by
        rw [marks_body, marks_body]
        exact ((((meets_setWith d (.operand op false) l hw fun _ => hnone).append _).append
          _).append _).append _
      cases placement with
      | whole =>
        have htables : (Statement.setOp ⟨l.setWith (.joined fixtures w), op, a, r, o, m,
            k⟩).operandWiths = (Statement.setOp ⟨l, op, a, r, o, m, k⟩).operandWiths := by
          rw [Statement.operandWiths, Statement.operandWiths,
            operandWiths_setWith_of_leftmost _ hnone]
        rw [marks_setOp, marks_setOp, htables]
        exact hbody.append_left _
      | operand _ _ =>
        rw [marks_setOp_operand, marks_setOp_operand]
        exact hbody
  | .values _, hw, _ => nomatch hw
  | .insert ⟨_, _, .rows _, _⟩, hw, _ => nomatch hw
  | .insert ⟨_, _, .query q, is⟩, hw, _ => by
    cases placement <;>
      simpa [Statement.setWith, statement, Statement.hoistedTables] using
        (meets_setWith _ .whole q hw (by simp)).append (marks (items _ is).flatten)
  | .createTable ⟨_, _, _, _, none⟩, hw, _ => nomatch hw
  | .createTable ⟨_, _, _, _, some q⟩, hw, _ => by
    cases placement <;>
      simpa [Statement.setWith, statement, asQuery, Statement.hoistedTables] using
        meets_setWith _ .whole q hw (by simp)
  | .update ⟨w, _, _, _, _, _⟩, hw, _ => by
    cases hw
    cases placement <;>
      simp only [Statement.setWith, statement, marks_stacked, marks_nestedAt, List.flatten_append,
        marks_append, marks_withClause_joined hblank, Statement.hoistedTables] <;>
      exact .refl _
  | .delete ⟨w, _, _, _, _⟩, hw, _ => by
    cases hw
    cases placement <;>
      simp only [Statement.setWith, statement, marks_stacked, marks_nestedAt, List.flatten_append,
        marks_append, marks_withClause_joined hblank, Statement.hoistedTables] <;>
      exact .refl _

end

end Layout

namespace Statement

/-- Slots and clashes decide whether a statement can be written out, and with which parameters. -/
lemma format_of_marks {s s' : Statement} {o : FormatOptions} {before : Rendered}
    (hm : Layout.marks (Layout.statement 0 .whole s') = Layout.marks (Layout.statement 0 .whole s))
    (h : s.format o = .ok before) :
    ∃ after, s'.format o = .ok after ∧ after.params = before.params := by
  have hclash : Layout.clash? (Layout.statement 0 .whole s') =
      Layout.clash? (Layout.statement 0 .whole s) := by
    rw [← Layout.clash?_marks, hm, Layout.clash?_marks]
  have hslots : Layout.occurrences (Layout.statement 0 .whole s') =
      Layout.occurrences (Layout.statement 0 .whole s) := by
    rw [← Layout.occurrences_marks, hm, Layout.occurrences_marks]
  simp only [format] at h ⊢
  rw [hclash, hslots]
  cases hc : Layout.clash? (Layout.statement 0 .whole s) with
  | some name => simp [hc] at h
  | none =>
    rw [hc] at h
    cases hr : (Registry.ofOccurrences
        (Layout.occurrences (Layout.statement 0 .whole s))).finish o.preset with
    | error e => simp [hr] at h
    | ok params =>
      simp only [hr, Except.ok.injEq] at h
      exact ⟨_, rfl, by rw [← h]⟩

end Statement

lemma eq_of_forall₂ {α : Type} {R : α → α → Prop} {xs ys : List α} (h : List.Forall₂ R xs ys)
    (hR : ∀ y ∈ ys, ∀ x, R x y → x = y) : xs = ys := by
  induction h with
  | nil => rfl
  | cons hxy _ ih =>
    obtain ⟨hy, hys⟩ := List.forall_mem_cons.mp hR
    rw [hy _ hxy, ih hys]

/-- What relates a literal to itself only relates rows of literals to themselves only. -/
lemma eq_of_literalRows {R : Expr → Expr → Prop} (hR : ∀ {e v}, R e (.literal v) → e = .literal v)
    {rs rs' : List (List Expr)} (h : List.Forall₂ (List.Forall₂ R) rs rs')
    (hl : ∀ r ∈ rs', ∀ e ∈ r, ∃ v, e = .literal v) : rs = rs' :=
  eq_of_forall₂ h fun r hr _ hrow => eq_of_forall₂ hrow fun e he _ hcell => by
    obtain ⟨v, rfl⟩ := hl r hr e he
    exact hR hcell

lemma eq_of_nullItems {R : SelectItem → SelectItem → Prop}
    (hR : ∀ {i a}, R i ⟨.null, a⟩ → i = ⟨.null, a⟩) {is : List SelectItem} {columns : List String}
    (h : List.Forall₂ R is (columns.map fun c => ⟨.null, some c⟩)) :
    is = columns.map fun c => ⟨.null, some c⟩ :=
  eq_of_forall₂ h fun i hi _ hitem => by
    obtain ⟨c, -, rfl⟩ := List.mem_map.mp hi
    exact hR hitem

lemma CommonTable.erases_redirect (own deep : List QualifiedName) (t : CommonTable) :
    CommonTable.Erases (fun _ _ => True) t (t.redirect own deep) := by
  obtain ⟨n, cs, b⟩ := t
  exact .mk (erases_statement (fun _ _ _ => trivial) (fun _ _ _ => trivial) b)

namespace FixtureTable

variable {f : FixtureTable} {t u : CommonTable}

/-- Nothing but literals is in the table of a fixture, so that it equals itself only. -/
lemma eq_of_equals (ht : f.toCommonTable = .ok t) (h : t.equals u = true) : u = t := by
  replace h : CommonTable.Like AnyValue u t := Likeness.like_table (fun _ => trivial) h
  obtain ⟨-, rfl | ⟨rows, rfl, hrows⟩⟩ := toCommonTable_eq_ok ht
  · rw [emptyBody] at h
    cases h with | mk hb =>
    cases hb with | select hw his hfs hjs hf hg hh ho hl hk =>
    cases hw; cases hfs; cases hjs; cases hg; cases hh; cases ho; cases hl; cases hk
    cases hf with | some hf =>
    cases hf with | binary hl hr =>
    cases hl; cases hr
    rw [eq_of_nullItems (fun h => by cases h with | mk hv => cases hv; rfl) his]
    rfl
  · cases h with | mk hb =>
    cases hb with | values hrs =>
    rw [eq_of_literalRows (fun h => by cases h; rfl) hrs fun r hr => (hrows r hr).2]

/-- No schema has been dropped from what has become the table of a fixture. -/
lemma eq_of_erases {P : String → String → Prop} (ht : f.toCommonTable = .ok t)
    (h : CommonTable.Erases P u t) : u = t := by
  obtain ⟨-, rfl | ⟨rows, rfl, hrows⟩⟩ := toCommonTable_eq_ok ht
  · rw [emptyBody] at h
    cases h with | mk hb =>
    cases hb with | select hw his hfs hjs hf hg hh ho hl hk =>
    cases hw; cases hfs; cases hjs; cases hg; cases hh; cases ho; cases hl; cases hk
    cases hf with | some hf =>
    cases hf with | binary hl hr =>
    cases hl; cases hr
    rw [eq_of_nullItems (fun h => by cases h with | mk hv => cases hv; rfl) his]
    rfl
  · cases h with | mk hb =>
    cases hb with | values hrs =>
    rw [eq_of_literalRows (fun h => by cases h; rfl) hrs fun r hr => (hrows r hr).2]

lemma marks_literals (d : Nat) {es : List Expr} (h : ∀ e ∈ es, ∃ v, e = .literal v) :
    Layout.marks (Layout.exprs d es).flatten = [] := by
  induction es with
  | nil => rfl
  | cons e es ih =>
    obtain ⟨⟨v, rfl⟩, hes⟩ := List.forall_mem_cons.mp h
    simp [Layout.exprs, Layout.expr, ih hes]

lemma marks_literalRows (d : Nat) {rs : List (List Expr)}
    (h : ∀ r ∈ rs, ∀ e ∈ r, ∃ v, e = .literal v) :
    Layout.marks (Layout.rows d rs).flatten = [] := by
  induction rs with
  | nil => rfl
  | cons r rs ih =>
    obtain ⟨hr, hrs⟩ := List.forall_mem_cons.mp h
    simp [Layout.rows, marks_literals d hr, ih hrs]

lemma tableMarks_of_toCommonTable (ht : f.toCommonTable = .ok t) (d : Nat) :
    Layout.tableMarks d t = [] := by
  obtain ⟨-, rfl | ⟨rows, rfl, hrows⟩⟩ := toCommonTable_eq_ok ht
  · have hitems : ∀ columns : List String, Layout.marks (Layout.items (d + 1)
        (columns.map fun c => { value := .literal .null, aliasName := some c })).flatten = [] := by
      intro columns
      induction columns with
      | nil => rfl
      | cons c cs ih => simpa [Layout.items, Layout.expr] using ih
    simp [Layout.tableMarks, emptyBody, Layout.statement, Layout.withClause, Layout.sources,
      Layout.joins, Layout.clause, Layout.exprs, Layout.order, Layout.expr, Expr.null, Expr.number,
      hitems]
  · simp [Layout.tableMarks, Layout.statement, marks_literalRows _ fun r hr => (hrows r hr).2]

/-- The table of the fixture has the name of a table that it does not equal. -/
def Contradicts (f : FixtureTable) (u : CommonTable) : Prop :=
  Text.sameName f.target.name u.name = true ∧ ∀ t, f.toCommonTable = .ok t → t.equals u = false

end FixtureTable

namespace Fixture

lemma find?_of_mem {ts : List CommonTable} {t : CommonTable} {name : String}
    (hp : ts.Pairwise fun t u => Text.sameName t.name u.name = false) (hm : t ∈ ts)
    (hn : Text.sameName t.name name = true) :
    ts.find? (fun u => Text.sameName u.name name) = some t := by
  induction ts with
  | nil => simp at hm
  | cons u ts ih =>
    rw [List.pairwise_cons] at hp
    rcases List.mem_cons.mp hm with rfl | hm
    · simp [hn]
    · have hu : Text.sameName u.name name = false := by
        by_contra hne
        have := Text.sameName_trans (by simpa using hne) hn
        simp [hp.1 t hm] at this
      rw [List.find?_cons_of_neg (by simp [hu]), ih hp.2 hm]

section
variable {fs : List FixtureTable} {tables : List CommonTable} {u : CommonTable}
variable (hall : List.Forall₂ (fun f t => FixtureTable.toCommonTable f = .ok t) fs tables)

include hall in
lemma contradicts_of_differs (own deep : List QualifiedName)
    (h : (u.redirect own deep).Differs tables) : ∃ f ∈ fs, f.Contradicts u := by
  obtain ⟨t, hfind, hne⟩ := h
  obtain ⟨f, hf, ht⟩ := exists_left_of_forall₂ hall (List.mem_of_find?_eq_some hfind)
  obtain ⟨hinert, hname⟩ := FixtureTable.inert_of_toCommonTable ht
  refine ⟨f, hf, ?_, fun t' ht' => ?_⟩
  · simpa [hname] using List.find?_some hfind
  · obtain rfl : t = t' := by simpa [ht] using ht'
    by_contra hequal
    obtain rfl : u = t := FixtureTable.eq_of_equals ht (by simpa using hequal)
    rw [hinert.redirect] at hne
    exact hequal hne

include hall in
lemma differs_of_contradicts
    (hp : tables.Pairwise fun t u => Text.sameName t.name u.name = false)
    (own deep : List QualifiedName) {f : FixtureTable} (hf : f ∈ fs) (h : f.Contradicts u) :
    (u.redirect own deep).Differs tables := by
  obtain ⟨t, ht, hft⟩ := exists_left_of_forall₂ hall.flip hf
  have hname : Text.sameName t.name u.name = true := by
    rw [(FixtureTable.inert_of_toCommonTable hft).2]
    exact h.1
  refine ⟨t, find?_of_mem hp ht hname, ?_⟩
  by_contra hequal
  have hredirect : u.redirect own deep = t :=
    FixtureTable.eq_of_equals hft (by simpa using hequal)
  obtain rfl : u = t := FixtureTable.eq_of_erases hft (hredirect ▸ u.erases_redirect own deep)
  rw [hredirect] at hequal
  exact hequal (h.2 u hft)

include hall in
/-- The marks of a statement before and after the tables of fixtures are put in front. -/
lemma meets_inject {s : Statement} {slot : Option WithClause} (hslot : s.withSlot? = some slot)
    (hp : tables.Pairwise fun t u => Text.sameName t.name u.name = false)
    (hclash : Layout.clash? (Layout.statement 0 .whole s) = none) (targets : List QualifiedName) :
    Layout.Meets tables (s.hoistedTables.map (.redirect targets targets))
      (Layout.marks (Layout.statement 0 .whole s))
      (Layout.marks (Layout.statement 0 .whole
        ((s.setWith (.joined tables slot)).redirect targets targets))) := by
  have hfixture : ∀ t ∈ tables, ∃ f : FixtureTable, f.toCommonTable = .ok t := by
    intro t ht
    obtain ⟨f, -, hf⟩ := exists_left_of_forall₂ hall ht
    exact ⟨f, hf⟩
  have hinert : ∀ t ∈ tables, t.Inert := by
    intro t ht
    obtain ⟨f, hf⟩ := hfixture t ht
    exact (FixtureTable.inert_of_toCommonTable hf).1
  have hblank : ∀ t ∈ tables, ∀ d, Layout.tableMarks d t = [] := by
    intro t ht d
    obtain ⟨f, hf⟩ := hfixture t ht
    exact FixtureTable.tableMarks_of_toCommonTable hf d
  have hself : ∀ t ∈ tables, ∀ u, t.equals u = true → u = t := by
    intro t ht u hu
    obtain ⟨f, hf⟩ := hfixture t ht
    exact FixtureTable.eq_of_equals hf hu
  have hstays := Layout.stays_statement targets targets 0 .whole s (by rwa [Layout.clash?_marks])
  have hslot' : (s.redirect targets targets).withSlot? =
      some (slot.map (.redirect targets targets)) := by
    rw [withSlot?_redirect, hslot, Option.map_some]
  rw [redirect_setWith_joined targets targets hinert, ← hstays, ← hoistedTables_redirect]
  exact Layout.meets_setWith hp hblank hself 0 .whole _ hslot' (by simp)

end

/-- An injection into a statement that can be written out gives one that can be written out, with
the same parameters, unless a fixture that is not left out contradicts a table that is hoisted
beside it. Then such a table clashes. -/
theorem inject_format {fs : List FixtureTable} {s out : Statement} {o : FormatOptions}
    {before : Rendered} (hs : s.format o = .ok before) (h : inject fs s = .ok out) :
    ((∃ after, out.format o = .ok after) ↔
      ∀ f ∈ kept fs s, ∀ u ∈ s.hoistedTables, ¬ f.Contradicts u) ∧
    (∀ after, out.format o = .ok after → after.params = before.params) ∧
    (∀ e, out.format o = .error e →
      ∃ f ∈ kept fs s, ∃ u ∈ s.hoistedTables, f.Contradicts u ∧ e = .duplicateTable u.name) := by
  rcases inject_eq_ok h with ⟨hno, rfl⟩ | ⟨slot, tables, hslot, -, hall, hpair, rfl⟩
  · simp [hno, hs]
  generalize (kept fs s).map FixtureTable.target = targets
  have hp := (List.pairwise_append.mp hpair).1
  have hclash := (Statement.format_eq_ok hs).1
  rcases meets_inject hall hslot hp hclash targets (by rwa [Layout.clash?_marks]) with
    ⟨hnone, hmarks⟩ | ⟨u', hu', hdiffers, hout⟩
  · obtain ⟨after, hafter, hparams⟩ := Statement.format_of_marks hmarks hs
    refine ⟨⟨fun _ f hf u hu hc => ?_, fun _ => ⟨after, hafter⟩⟩, ?_, ?_⟩
    · exact hnone _ (List.mem_map_of_mem hu)
        (differs_of_contradicts hall hp targets targets hf hc)
    · simp [hafter, hparams]
    · simp [hafter]
  · obtain ⟨u, hu, rfl⟩ := List.mem_map.mp hu'
    obtain ⟨f, hf, hc⟩ := contradicts_of_differs hall targets targets hdiffers
    have hformat : ((s.setWith (.joined tables slot)).redirect targets targets).format o =
        .error (.duplicateTable u.name) := by
      rw [Layout.clash?_marks] at hout
      simp [Statement.format, hout]
    refine ⟨⟨fun hok => ?_, fun hnone => absurd hc (hnone f hf u hu)⟩, ?_, ?_⟩
    · simp [hformat] at hok
    · simp [hformat]
    · intro e he
      rw [hformat] at he
      exact ⟨f, hf, u, hu, hc, by simpa using he.symm⟩

/-- The clause of the right operand is not looked at, and its table clashes with the fixture. -/
theorem inject_format_right_operand :
    let users : List Source := [.table none "users" none]
    let item : SelectItem := { value := .column none "id" }
    let own : CommonTable :=
      ⟨"users", [], .select { items := [{ value := .number "1", aliasName := some "id" }] }⟩
    let s : Statement := .setOp
      { left := .select { items := [item], froms := users }
        op := .union
        right := .select
          { withClause := some { tables := [own] }, items := [item], froms := users } }
    let f : FixtureTable := ⟨⟨"users", ["id"]⟩, [[("id", .int 2)]]⟩
    ∃ before out, s.format {} = .ok before ∧ inject [f] s = .ok out ∧
      s.hoistedTables = [own] ∧ out.format {} = .error (.duplicateTable "users") := by
  intro users item own s f
  have hf : f.target = ⟨none, "users"⟩ := by decide
  have hname : Text.sameName "users" "users" = true := by decide
  have hclash : Layout.clash? (Layout.statement 0 .whole s) = none ∧
      Layout.occurrences (Layout.statement 0 .whole s) = [] := by
    rw [← Layout.clash?_marks, ← Layout.occurrences_marks]
    simp [s, own, item, users, Layout.statement, Layout.operandWiths, Layout.hoistedWith,
      Layout.tables, Hoisted.ofTables, Hoisted.add, Layout.items, Layout.expr, Layout.sources,
      Layout.source, Layout.joins, Layout.clause, Layout.exprs, Layout.order, Layout.withClause,
      Expr.number]
    exact ⟨rfl, rfl⟩
  obtain ⟨before, hbefore⟩ : ∃ before, s.format {} = .ok before := by
    simp only [Statement.format, hclash]
    exact ⟨_, rfl⟩
  obtain ⟨cells, hcells⟩ : ∃ cells, f.cells [("id", .int 2)] = .ok cells := by
    simp [FixtureTable.cells, TableSchema.hasColumn, Text.sameName, f]
  have hfixture : f.toCommonTable = .ok ⟨"users", ["id"], .values { rows := [cells] }⟩ := by
    simp [FixtureTable.toCommonTable, hf, f, hcells]
  obtain ⟨out, hout⟩ : ∃ out, inject [f] s = .ok out := by
    cases hi : inject [f] s with
    | ok out => exact ⟨out, rfl⟩
    | error e =>
      simp [inject, s, Statement.withSlot?, hfixture, bind, Except.bind, pure, Except.pure,
        WithClause.prepend, WithClause.pushAll, WithClause.push, WithClause.get?, EStateM.bind,
        EStateM.pure] at hi
  obtain ⟨hiff, -, herror⟩ := inject_format hbefore hout
  have htables : s.hoistedTables = [own] := rfl
  refine ⟨before, out, hbefore, hout, htables, ?_⟩
  have hkept : f ∈ kept [f] s := by
    simp [mem_kept, Kept, s, Statement.withSlot?]
  have hdiffers : f.Contradicts own := by
    refine ⟨by rw [hf]; exact hname, fun t ht => ?_⟩
    obtain rfl : _ = t := by simpa [hfixture] using ht
    rfl
  cases hformat : out.format {} with
  | ok after =>
    exact absurd hdiffers (hiff.mp ⟨after, hformat⟩ f hkept own (by simp [htables]))
  | error e =>
    obtain ⟨-, -, u, hu, -, rfl⟩ := herror e hformat
    obtain rfl : u = own := by simpa [htables] using hu
    rfl

end Fixture

end SqlLoom
