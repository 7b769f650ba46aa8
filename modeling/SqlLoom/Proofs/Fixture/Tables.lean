import SqlLoom.Proofs.Fixture.Front
import SqlLoom.Proofs.Result
import SqlLoom.Proofs.Statement.WithClause

/-! Fixtures as common tables: their bodies are lists of literals, which no search changes and
which refer to nothing. -/
namespace SqlLoom

open Fixture

lemma mapList_literals (targets : List QualifiedName) {es : List Expr}
    (h : ∀ e ∈ es, ∃ v, e = .literal v) : mapList (intoQuery targets) es = es := by
  induction es with
  | nil => simp [mapList]
  | cons e es ih =>
    simp only [List.mem_cons, forall_eq_or_imp] at h
    obtain ⟨⟨v, rfl⟩, h⟩ := h
    exact congrArg (Expr.literal v :: ·) (ih h)

lemma mapRows_literals (targets : List QualifiedName) {rs : List (List Expr)}
    (h : ∀ r ∈ rs, ∀ e ∈ r, ∃ v, e = .literal v) : mapRows (intoQuery targets) rs = rs := by
  induction rs with
  | nil => simp [mapRows]
  | cons r rs ih =>
    simp only [List.mem_cons, forall_eq_or_imp] at h
    simp [mapRows, mapList_literals targets h.1, ih h.2]

lemma entries_literals {es : List Expr} (h : ∀ e ∈ es, ∃ v, e = .literal v) (sc : Scopes) :
    entries (Tour.exprs es sc) = [] := by
  induction es with
  | nil => simp [Tour.exprs]
  | cons e es ih =>
    simp only [List.mem_cons, forall_eq_or_imp] at h
    obtain ⟨⟨v, rfl⟩, h⟩ := h
    exact ih h

lemma entries_literalRows {rs : List (List Expr)}
    (h : ∀ r ∈ rs, ∀ e ∈ r, ∃ v, e = .literal v) (sc : Scopes) :
    entries (Tour.rows rs sc) = [] := by
  induction rs with
  | nil => simp [Tour.rows]
  | cons r rs ih =>
    simp only [List.mem_cons, forall_eq_or_imp] at h
    simp [Tour.rows, entries_literals h.1, ih h.2]

lemma inert_values (name : String) (columns : List String) {rows : List (List Expr)}
    (h : ∀ r ∈ rows, ∀ e ∈ r, ∃ v, e = .literal v) :
    CommonTable.Inert ⟨name, columns, .values { rows }⟩ where
  redirect own deep := by
    simp [CommonTable.redirect, redirect_values, mapRows_literals deep h]
  entries sc := by simp [Tour.statement, Event.entry?, entries_literalRows h]

lemma inert_emptyBody (name : String) (columns : List String) :
    CommonTable.Inert ⟨name, columns, FixtureTable.emptyBody columns⟩ where
  redirect own deep := by
    have hitems : mapItems (intoQuery deep)
        (columns.map fun c => { value := .null, aliasName := some c }) =
        columns.map fun c => { value := .null, aliasName := some c } := by
      induction columns with
      | nil => rfl
      | cons c cs ih => exact congrArg ({ value := .null, aliasName := some c } :: ·) ih
    rw [CommonTable.redirect, FixtureTable.emptyBody, redirect_select, hitems]
    rfl
  entries sc := by
    have hitems : ∀ sc, SqlLoom.entries (Tour.items
        (columns.map fun c => { value := .literal .null, aliasName := some c }) sc) = [] := by
      intro sc
      induction columns with
      | nil => rfl
      | cons c cs ih => exact ih
    simp [FixtureTable.emptyBody, Tour.statement, Event.entry?, Tour.withClause, Walk.withScopes,
      hitems, Tour.sources, Tour.joins, Tour.option, Tour.exprs, Tour.order, Expr.null,
      Expr.number, Tour.expr]

namespace FixtureTable

lemma cells_literal {f : FixtureTable} {row : FixtureRow} {es : List Expr}
    (h : f.cells row = .ok es) : ∀ e ∈ es, ∃ v, e = .literal v := by
  unfold cells at h
  split at h
  · simp at h
  · cases h
    simp only [List.mem_map, forall_exists_index, and_imp, forall_apply_eq_imp_iff₂]
    intro c _
    unfold cell
    split
    · exact ⟨_, rfl⟩
    · exact ⟨_, rfl⟩

lemma length_cells {f : FixtureTable} {row : FixtureRow} {es : List Expr}
    (h : f.cells row = .ok es) : es.length = f.schema.columns.length := by
  unfold cells at h
  split at h
  · simp at h
  · cases h
    exact List.length_map _

/-- A fixture has columns, and its common table holds them all in every row. -/
lemma toCommonTable_eq_ok {f : FixtureTable} {t : CommonTable} (h : f.toCommonTable = .ok t) :
    f.schema.columns ≠ [] ∧
    (t = ⟨f.target.name, f.schema.columns, emptyBody f.schema.columns⟩ ∨
      ∃ rows, t = ⟨f.target.name, f.schema.columns, .values { rows }⟩ ∧
        ∀ r ∈ rows, r.length = f.schema.columns.length ∧ ∀ e ∈ r, ∃ v, e = .literal v) := by
  simp only [toCommonTable] at h
  split at h
  · simp at h
  next hcolumns =>
    refine ⟨by simpa using hcolumns, ?_⟩
    split at h
    · cases h
      exact .inl rfl
    · cases hr : f.rows.mapM f.cells with
      | error e => simp [hr, bind, Except.bind] at h
      | ok rows =>
        simp only [hr, bind, Except.bind, pure, Except.pure, Except.ok.injEq] at h
        subst h
        refine .inr ⟨rows, rfl, fun r hm => ?_⟩
        obtain ⟨row, -, hc⟩ := exists_left_of_forall₂ (Result.forall₂_of_mapM hr) hm
        exact ⟨length_cells hc, cells_literal hc⟩

lemma inert_of_toCommonTable {f : FixtureTable} {t : CommonTable}
    (h : f.toCommonTable = .ok t) : t.Inert ∧ t.name = f.target.name := by
  obtain ⟨-, rfl | ⟨rows, rfl, hrows⟩⟩ := toCommonTable_eq_ok h
  · exact ⟨inert_emptyBody _ _, rfl⟩
  · exact ⟨inert_values _ _ fun r hr => (hrows r hr).2, rfl⟩

end FixtureTable

end SqlLoom
