import SqlLoom.Proofs.Fixture.Erasure
import SqlLoom.Proofs.Fixture.Injection
import SqlLoom.Proofs.Walk.Erasure

/-! What an injection leaves as it is. -/
namespace SqlLoom

open Fixture

def WithClause.redirect (own deep : List QualifiedName) (w : WithClause) : WithClause :=
  { w with tables := w.tables.map (.redirect own deep) }

section
variable (own deep : List QualifiedName)

lemma tables_redirect_getD (w : Option WithClause) :
    ((w.map (WithClause.redirect own deep)).getD {}).tables =
      (w.getD {}).tables.map (.redirect own deep) := by
  cases w <;> rfl

lemma recursive_redirect_getD (w : Option WithClause) :
    ((w.map (WithClause.redirect own deep)).getD {}).recursive = (w.getD {}).recursive := by
  cases w <;> rfl

lemma redirect_joined {own deep : List QualifiedName} {fixtures : List CommonTable}
    (hi : ∀ t ∈ fixtures, t.Inert) (w : Option WithClause) :
    (WithClause.joined fixtures w).redirect own deep =
      .joined fixtures (w.map (WithClause.redirect own deep)) := by
  rw [WithClause.redirect, WithClause.joined, WithClause.joined, List.map_append,
    map_redirect_inert hi, tables_redirect_getD, recursive_redirect_getD]

/-- The place for a WITH clause is searched like the rest. -/
lemma withSlot?_redirect : (s : Statement) →
    (s.redirect own deep).withSlot? = s.withSlot?.map (·.map (.redirect own deep))
  | .select ⟨_, _, _, _, _, _, _, _, _, _, _⟩ => congrArg some (mapWith_redirect own deep _)
  | .setOp ⟨l, _, _, _, _, _, _⟩ => withSlot?_redirect l
  | .values ⟨_, _⟩ => rfl
  | .insert ⟨_, _, .query q, _⟩ => withSlot?_redirect q
  | .insert ⟨_, _, .rows _, _⟩ => rfl
  | .createTable ⟨_, _, _, _, none⟩ => rfl
  | .createTable ⟨_, _, _, _, some q⟩ => withSlot?_redirect q
  | .update ⟨_, _, _, _, _, _⟩ => congrArg some (mapWith_redirect own deep _)
  | .delete ⟨_, _, _, _, _⟩ => congrArg some (mapWith_redirect own deep _)

lemma redirect_setWith (w : WithClause) : (s : Statement) →
    (s.setWith w).redirect own deep = (s.redirect own deep).setWith (w.redirect own deep)
  | .select ⟨_, _, _, _, _, _, _, _, _, _, _⟩ => by
    simp [Statement.setWith, redirect_select, mapWith_redirect, WithClause.redirect]
  | .setOp ⟨l, _, _, _, _, _, _⟩ => by
    simp [Statement.setWith, redirect_setOp, redirect_setWith w l]
  | .values ⟨_, _⟩ => rfl
  | .insert ⟨_, _, .query q, _⟩ => by
    simp [Statement.setWith, redirect_insert_query, redirect_setWith w q]
  | .insert ⟨_, _, .rows _, _⟩ => rfl
  | .createTable ⟨_, _, _, _, none⟩ => rfl
  | .createTable ⟨_, _, _, _, some q⟩ => by
    simp [Statement.setWith, redirect_createTable_query, redirect_setWith w q]
  | .update ⟨_, _, _, _, _, _⟩ => by
    simp [Statement.setWith, redirect_update, mapWith_redirect, WithClause.redirect]
  | .delete ⟨_, _, _, _, _⟩ => by
    simp [Statement.setWith, redirect_delete, mapWith_redirect, WithClause.redirect]

end

/-- It does not matter whether tables that no search changes are put in front before or after. -/
lemma redirect_setWith_joined (own deep : List QualifiedName) {fixtures : List CommonTable}
    (hi : ∀ t ∈ fixtures, t.Inert) (w : Option WithClause) (s : Statement) :
    (s.setWith (.joined fixtures w)).redirect own deep =
      (s.redirect own deep).setWith (.joined fixtures (w.map (.redirect own deep))) := by
  rw [redirect_setWith, redirect_joined hi]

lemma withSlot?_setWith (w : WithClause) : (s : Statement) → s.withSlot?.isSome →
    (s.setWith w).withSlot? = some (some w)
  | .select _, _ => rfl
  | .setOp ⟨l, _, _, _, _, _, _⟩, h => withSlot?_setWith w l h
  | .values _, h => nomatch h
  | .insert ⟨_, _, .rows _, _⟩, h => nomatch h
  | .insert ⟨_, _, .query q, _⟩, h => withSlot?_setWith w q h
  | .createTable ⟨_, _, _, _, none⟩, h => nomatch h
  | .createTable ⟨_, _, _, _, some q⟩, h => withSlot?_setWith w q h
  | .update _, _ => rfl
  | .delete _, _ => rfl

lemma erases_refl_tables (ts : List CommonTable) :
    List.Forall₂ (CommonTable.Erases fun _ _ => False) ts ts := by
  induction ts with
  | nil => exact .nil
  | cons t ts ih =>
    obtain ⟨n, cs, b⟩ := t
    exact .cons (.mk (.refl b)) ih

/-- A table whose body has no placeholders. -/
def CommonTable.Silent (t : CommonTable) : Prop :=
  ∀ sc, placeholders (Tour.statement false t.body sc) = []

section
variable {fixtures : List CommonTable} (hf : ∀ t ∈ fixtures, t.Silent)

include hf in
lemma placeholders_tables_silent (frame : Nat → Frame) (total : Option Nat) (index : Nat)
    (sc : Scopes) : placeholders (Tour.tables frame total index fixtures sc) = [] := by
  induction fixtures generalizing index with
  | nil => simp [Tour.tables]
  | cons t ts ih =>
    obtain ⟨ht, hts⟩ := List.forall_mem_cons.mp hf
    obtain ⟨n, cs, b⟩ := t
    have hb := ht (.body n :: frame (total.getD index) :: sc)
    simp [Tour.tables, Report.placeholder, hb, ih hts]

include hf in
/-- Tables without placeholders in front of a clause. -/
lemma echoes_joined (w : Option WithClause) (sc sc' : Scopes) :
    Echoes (Tour.withClause w sc) (Tour.withClause (some (.joined fixtures w)) sc') := by
  have hsilent := placeholders_tables_silent hf
  rcases w with _ | ⟨isRecursive, ts⟩
  · simp [Echoes, Tour.withClause, WithClause.joined, Report.placeholder, hsilent]
  · have hrest := fun frame frame' total total' index =>
      Tour.echoes_tables frame frame' total total' 0 index sc sc' ts (erases_refl_tables ts)
    simp only [Echoes] at hrest
    simp [Echoes, Tour.withClause, WithClause.joined, tables_append, Report.placeholder, hsilent]
    exact hrest _ _ _ _ _

/-- The clause of a select, and the rest of it. -/
lemma placeholders_select (s : Select) (sc : Scopes) :
    placeholders (Tour.statement false (.select s) sc) =
      placeholders (Tour.withClause s.withClause sc) ++
        placeholders (Tour.statement true (.select s) (Walk.withScopes s.withClause sc)) := by
  obtain ⟨w, d, is, fs, js, f, g, h, o, l, k⟩ := s
  simp [Tour.statement, Report.placeholder, Walk.withScopes]

lemma placeholders_operand_select (s : Select) (w : Option WithClause) (sc : Scopes) :
    placeholders (Tour.statement true (.select { s with withClause := w }) sc) =
      placeholders (Tour.statement true (.select s) sc) := by
  obtain ⟨w, d, is, fs, js, f, g, h, o, l, k⟩ := s
  simp [Tour.statement, Report.placeholder, Walk.withScopes, Select.sources]

lemma placeholders_update (asOperand : Bool) (u : Update) (sc : Scopes) :
    placeholders (Tour.statement asOperand (.update u) sc) =
      placeholders (Tour.withClause u.withClause sc) ++
        placeholders (Tour.statement asOperand (.update { u with withClause := none })
          (Walk.withScopes u.withClause sc)) := by
  obtain ⟨w, tg, as, fs, f, is⟩ := u
  simp [Tour.statement, Walk.withScopes, Tour.withClause]

lemma placeholders_delete (asOperand : Bool) (u : Delete) (sc : Scopes) :
    placeholders (Tour.statement asOperand (.delete u) sc) =
      placeholders (Tour.withClause u.withClause sc) ++
        placeholders (Tour.statement asOperand (.delete { u with withClause := none })
          (Walk.withScopes u.withClause sc)) := by
  obtain ⟨w, tg, us, f, is⟩ := u
  simp [Tour.statement, Walk.withScopes, Tour.withClause]

/-- A walk that begins in other scopes. -/
lemma echoes_scopes (asOperand : Bool) (s : Statement) (sc sc' : Scopes) :
    Echoes (Tour.statement asOperand s sc) (Tour.statement asOperand s sc') :=
  Tour.echoes_statement (P := fun _ _ => False) asOperand sc sc' s (.refl s)

include hf in
lemma echoes_operandWiths_setWith {w : Option WithClause} : (s : Statement) → (sc sc' : Scopes) →
    s.withSlot? = some w → Echoes (Tour.operandWiths s sc)
      (Tour.operandWiths (s.setWith (.joined fixtures w)) sc')
  | .select ⟨_, _, _, _, _, _, _, _, _, _, _⟩, sc, sc', hw => by
    cases hw
    exact echoes_joined hf _ sc sc'
  | .setOp ⟨l, _, _, r, _, _, _⟩, sc, sc', hw =>
    (echoes_operandWiths_setWith l sc sc' hw).append
      (Tour.echoes_operandWiths (P := fun _ _ => False) _ _ r (.refl r))
  | .values _, _, _, _ => .nil
  | .insert ⟨_, _, .rows _, _⟩, _, _, _ => .nil
  | .insert ⟨_, _, .query _, _⟩, _, _, _ => .nil
  | .createTable ⟨_, _, _, _, none⟩, _, _, _ => .nil
  | .createTable ⟨_, _, _, _, some _⟩, _, _, _ => .nil
  | .update _, _, _, _ => .nil
  | .delete _, _, _, _ => .nil

include hf in
/-- Tables without placeholders in front of a statement. -/
lemma echoes_setWith {w : Option WithClause} (asOperand : Bool) : (s : Statement) →
    (sc sc' : Scopes) → s.withSlot? = some w → Echoes (Tour.statement asOperand s sc)
      (Tour.statement asOperand (s.setWith (.joined fixtures w)) sc')
  | .select s, sc, sc', hw => by
    cases hw
    rw [Statement.setWith, Echoes]
    cases asOperand with
    | true =>
      rw [placeholders_operand_select]
      exact echoes_scopes true (.select s) sc sc'
    | false =>
      rw [placeholders_select, placeholders_select, placeholders_operand_select]
      exact congrArg₂ (· ++ ·) (echoes_joined hf _ sc sc') (echoes_scopes true (.select s) _ _)
  | .setOp ⟨l, op, a, r, o, m, k⟩, sc, sc', hw => by
    have hpart := Statement.Erases.refl (P := fun _ _ => False) (.setOp ⟨l, op, a, r, o, m, k⟩)
    cases hpart with
    | setOp hl hr ho hm hk =>
      have htail := fun sc sc' => ((((echoes_setWith true l sc sc' hw).append
        (Tour.echoes_statement true sc sc' r hr)).append
        (Tour.echoes_order .plain sc sc' o ho)).append
        (Tour.echoes_option sc sc' m hm)).append (Tour.echoes_option sc sc' k hk)
      cases asOperand with
      | true => exact .cons rfl (htail _ _)
      | false =>
        exact .cons rfl ((((echoes_operandWiths_setWith hf l sc sc' hw).append
          (Tour.echoes_operandWiths _ _ r hr)).append (htail _ _)).append (.leaves _ _ _ _))
  | .values _, _, _, hw => nomatch hw
  | .insert ⟨_, _, .rows _, _⟩, _, _, hw => nomatch hw
  | .insert ⟨tb, cs, .query q, is⟩, sc, sc', hw => by
    have hpart := Statement.Erases.refl (P := fun _ _ => False) (.insert ⟨tb, cs, .query q, is⟩)
    cases hpart with
    | insert _ his =>
      exact ((Echoes.again _ _ _ _ _).append (echoes_setWith false q sc sc' hw)).append
        (Tour.echoes_items sc sc' is his)
  | .createTable ⟨_, _, _, _, none⟩, _, _, hw => nomatch hw
  | .createTable ⟨_, _, _, _, some q⟩, sc, sc', hw =>
    (Echoes.again _ _ _ _ _).append (echoes_setWith false q sc sc' hw)
  | .update u, sc, sc', hw => by
    cases hw
    rw [Statement.setWith, Echoes, placeholders_update asOperand u sc,
      placeholders_update asOperand { u with withClause := some _ } sc']
    exact congrArg₂ (· ++ ·) (echoes_joined hf _ sc sc') (echoes_scopes asOperand _ _ _)
  | .delete d, sc, sc', hw => by
    cases hw
    rw [Statement.setWith, Echoes, placeholders_delete asOperand d sc,
      placeholders_delete asOperand { d with withClause := some _ } sc']
    exact congrArg₂ (· ++ ·) (echoes_joined hf _ sc sc') (echoes_scopes asOperand _ _ _)

end

lemma placeholders_literals {es : List Expr} (h : ∀ e ∈ es, ∃ v, e = .literal v) (sc : Scopes) :
    placeholders (Tour.exprs es sc) = [] := by
  induction es with
  | nil => simp [Tour.exprs]
  | cons e es ih =>
    obtain ⟨⟨v, rfl⟩, hes⟩ := List.forall_mem_cons.mp h
    simp [Tour.exprs, Tour.expr, Report.placeholder, ih hes]

lemma placeholders_literalRows {rs : List (List Expr)}
    (h : ∀ r ∈ rs, ∀ e ∈ r, ∃ v, e = .literal v) (sc : Scopes) :
    placeholders (Tour.rows rs sc) = [] := by
  induction rs with
  | nil => simp [Tour.rows]
  | cons r rs ih =>
    obtain ⟨hr, h⟩ := List.forall_mem_cons.mp h
    simp [Tour.rows, placeholders_literals hr, ih h]

lemma placeholders_emptyBody (columns : List String) (sc : Scopes) :
    placeholders (Tour.statement false (FixtureTable.emptyBody columns) sc) = [] := by
  have hitems : ∀ sc, placeholders (Tour.items
      (columns.map fun c => { value := .literal .null, aliasName := some c }) sc) = [] := by
    intro sc
    induction columns with
    | nil => simp [Tour.items]
    | cons c cs ih => simp [Tour.items, ih, Tour.expr, Report.placeholder]
  simp [FixtureTable.emptyBody, Tour.statement, Report.placeholder, Tour.withClause,
    Walk.withScopes, hitems, Tour.sources, Tour.joins, Tour.option, Tour.exprs, Tour.order,
    Expr.null, Expr.number, Tour.expr]

lemma FixtureTable.silent_of_toCommonTable {f : FixtureTable} {t : CommonTable}
    (h : f.toCommonTable = .ok t) : t.Silent := by
  intro sc
  obtain ⟨-, rfl | ⟨rows, rfl, hrows⟩⟩ := toCommonTable_eq_ok h
  · exact placeholders_emptyBody _ sc
  · simp [Tour.statement, Report.placeholder, placeholders_literalRows fun r hr => (hrows r hr).2]

/-- A common table with columns, all of which every row of its list of values has. -/
def CommonTable.Filled (t : CommonTable) : Prop :=
  t.columns ≠ [] ∧ ∀ v, t.body = .values v → ∀ r ∈ v.rows, r.length = t.columns.length

lemma FixtureTable.filled_of_toCommonTable {f : FixtureTable} {t : CommonTable}
    (h : f.toCommonTable = .ok t) : t.Filled := by
  obtain ⟨hcolumns, rfl | ⟨rows, rfl, hrows⟩⟩ := toCommonTable_eq_ok h
  · exact ⟨hcolumns, fun v hv => nomatch hv⟩
  · refine ⟨hcolumns, fun v hv r hr => ?_⟩
    cases hv
    exact (hrows r hr).1

namespace Fixture

/-- The reference names the table of a fixture, with its schema or where it has none. -/
def Meant (fs : List FixtureTable) (schema name : String) : Prop :=
  ∃ f ∈ fs, Text.sameName f.target.name name = true ∧
    ∀ own, f.target.schema = some own → Text.sameName own schema = true

lemma loses_targets (fs : List FixtureTable) : Loses (Meant fs) (fs.map FixtureTable.target) := by
  intro schema name h
  obtain ⟨target, htarget, hshadows⟩ := List.any_eq_true.mp h
  obtain ⟨f, hf, rfl⟩ := List.mem_map.mp htarget
  rw [shadows, Bool.and_eq_true, Option.all_eq_true] at hshadows
  exact ⟨f, hf, hshadows.1, hshadows.2⟩

/-- An injection leaves a statement alone, or puts the tables of the fixtures that are not left out
in front of those that the statement has, under different names. Otherwise only schemas are gone,
from references to those fixtures, and all placeholders are where they were. -/
theorem inject_frame {fs : List FixtureTable} {s out : Statement} (h : inject fs s = .ok out) :
    ((kept fs s = [] ∧ out = s) ∨
      ∃ tables slot slot' s', tables ≠ [] ∧
        List.Forall₂ (fun f t => FixtureTable.toCommonTable f = .ok t) (kept fs s) tables ∧
        (∀ t ∈ tables, t.Filled) ∧
        s.withSlot? = some slot ∧ s'.withSlot? = some slot' ∧
        Statement.Erases (Meant (kept fs s)) s s' ∧
        List.Forall₂ (CommonTable.Erases (Meant (kept fs s)))
          (slot.getD {}).tables (slot'.getD {}).tables ∧
        out = s'.setWith ⟨(slot.getD {}).recursive, tables ++ (slot'.getD {}).tables⟩ ∧
        out.withSlot? = some (some ⟨(slot.getD {}).recursive,
          tables ++ (slot'.getD {}).tables⟩) ∧
        (tables ++ (slot'.getD {}).tables).Pairwise
          fun t u => Text.sameName t.name u.name = false) ∧
    Report.parameters out = Report.parameters s := by
  rcases inject_eq_ok h with ⟨hno, rfl⟩ | ⟨slot, tables, hslot, hne, hall, hpair, rfl⟩
  · exact ⟨.inl ⟨hno, rfl⟩, rfl⟩
  have hi : ∀ t ∈ tables, t.Inert ∧ t.Silent ∧ t.Filled := by
    intro t ht
    obtain ⟨f, -, hf⟩ := exists_left_of_forall₂ hall ht
    exact ⟨(FixtureTable.inert_of_toCommonTable hf).1, FixtureTable.silent_of_toCommonTable hf,
      FixtureTable.filled_of_toCommonTable hf⟩
  generalize hT : (kept fs s).map FixtureTable.target = targets
  have hloses : Loses (Meant (kept fs s)) targets := hT ▸ loses_targets (kept fs s)
  have herases : Statement.Erases (Meant (kept fs s)) s (s.redirect targets targets) :=
    erases_statement hloses hloses s
  have hslot' : (s.redirect targets targets).withSlot? =
      some (slot.map (WithClause.redirect targets targets)) := by
    rw [withSlot?_redirect, hslot, Option.map_some]
  have hout := redirect_setWith_joined targets targets (fun t ht => (hi t ht).1) slot s
  constructor
  · refine .inr ⟨tables, slot, slot.map (WithClause.redirect targets targets),
      s.redirect targets targets, hne, hall, fun t ht => (hi t ht).2.2, hslot, hslot', herases, ?_,
      ?_, ?_, ?_⟩
    · rw [tables_redirect_getD]
      exact erases_tables hloses hloses _
    · rw [hout, WithClause.joined, recursive_redirect_getD]
    · rw [hout, withSlot?_setWith _ _ (by rw [hslot']; rfl), WithClause.joined,
        recursive_redirect_getD]
    · rw [tables_redirect_getD]
      nth_rewrite 1 [← map_redirect_inert (fun t ht => (hi t ht).1) targets targets]
      rw [← List.map_append, List.pairwise_map]
      exact hpair
  · have hfrom : Echoes (Tour.statement false s [])
        (Tour.statement false (s.redirect targets targets) []) :=
      Tour.echoes_statement false [] [] s herases
    have hinto := echoes_setWith (fun t ht => (hi t ht).2.1) false _ [] [] hslot'
    rw [hout, Report.parameters, Report.parameters, Tour.trace_reverse, Tour.trace_reverse]
    exact (Eq.trans hfrom hinto).symm

/-- Of two fixtures the statement defines one itself, and it reads the other in a common table. -/
theorem inject_frame_defined :
    let users : Source := .table (some "public") "users" none
    let item : SelectItem := { value := .column none "id" }
    let id : Expr := .parameter "id" none
    let inner (s : Source) : CommonTable :=
      ⟨"recent", [], .select { items := [item], froms := [s], filter := some id }⟩
    let s : Statement := .select
      { withClause := some { tables := [inner users] }
        items := [item]
        froms := [.table none "recent" none] }
    let f : FixtureTable := ⟨⟨"public.users", ["id"]⟩, [[("id", .null)]]⟩
    let g : FixtureTable := ⟨⟨"recent", ["id"]⟩, []⟩
    ∃ out, inject [f, g] s = .ok out ∧ Report.parameters out = [⟨"id", none⟩] := by
  intro users item id inner s f g
  have hf : f.target = ⟨some "public", "users"⟩ := by decide
  have hg : g.target = ⟨none, "recent"⟩ := by decide
  have hname : Text.sameName "recent" "recent" = true ∧ Text.sameName "recent" "users" = false ∧
      Text.sameName "users" "recent" = false := by decide
  obtain ⟨cells, hcells⟩ : ∃ cells, f.cells [("id", .null)] = .ok cells := by
    simp [FixtureTable.cells, TableSchema.hasColumn, Text.sameName, f]
  have hfixture : f.toCommonTable = .ok ⟨"users", ["id"], .values { rows := [cells] }⟩ := by
    simp [FixtureTable.toCommonTable, hf, f, hcells]
  obtain ⟨out, hout⟩ : ∃ out, inject [f, g] s = .ok out := by
    cases hi : inject [f, g] s with
    | ok out => exact ⟨out, rfl⟩
    | error e =>
      simp [inject, s, inner, Statement.withSlot?, hf, hg, hfixture, hname, bind, Except.bind,
        pure, Except.pure, WithClause.prepend, WithClause.pushAll, WithClause.push,
        WithClause.get?, EStateM.bind, EStateM.pure] at hi
  refine ⟨out, hout, ?_⟩
  rw [(inject_frame hout).2]
  rfl

end Fixture

end SqlLoom
