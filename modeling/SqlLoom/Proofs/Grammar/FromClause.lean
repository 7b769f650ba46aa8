import Mathlib.Data.List.Flatten
import Mathlib.Data.List.Nodup
import Mathlib.Data.List.Perm.Subperm
import SqlLoom.Grammar.Denote
import SqlLoom.Layout
import SqlLoom.Proofs.Result
import SqlLoom.Proofs.Walk.Tour
import SqlLoom.Report.SelectValues

/-! The relations of a FROM clause, each entry with what is joined to it. A select has one list of
all that stands in front of the joins and one list of all joins, so that a comma behind a join
changes the order of the text. -/
namespace SqlLoom

lemma flatten_sublist_intercalate {α : Type} (sep : List α) (parts : List (List α)) :
    parts.flatten.Sublist (List.intercalate sep parts) := by
  induction parts with
  | nil => exact List.Sublist.refl _
  | cons part parts ih =>
    cases parts with
    | nil => simp
    | cons next parts =>
      rw [List.intercalate_cons_cons, List.flatten_cons, List.append_assoc]
      exact (List.sublist_append_of_sublist_right ih).append_left part

namespace Layout

lemma flatMap_source_sublist_listed (d : Nat) (keyword : String) (xs : List Source) :
    (xs.flatMap (source d)).Sublist (listed keyword (sources d xs)).flatten := by
  have hparts : sources d xs = xs.map (source d) := by
    induction xs with
    | nil => rfl
    | cons x xs ih => rw [sources, ih, List.map_cons]
  rw [hparts, listed]
  cases xs with
  | nil => exact List.Sublist.refl _
  | cons x xs =>
    rw [List.flatMap_def]
    exact (List.sublist_append_of_sublist_left (flatten_sublist_intercalate comma _)).cons _

lemma flatMap_source_sublist_joins (d : Nat) (js : List Join) :
    ((js.map (·.source)).flatMap (source d)).Sublist (joins d js).flatten := by
  induction js with
  | nil => exact List.Sublist.refl _
  | cons j js ih =>
    obtain ⟨type, x, c⟩ := j
    rw [joins.eq_def, List.map_cons, List.flatMap_cons, List.flatten_cons]
    exact .append (.cons _ (List.sublist_append_left _ _)) ih

end Layout

namespace Tour

lemma map_source_sublist_sources (sc : Scopes) (xs : List Source) :
    (xs.map (Event.source · sc)).Sublist (sources xs sc) := by
  induction xs with
  | nil => exact List.Sublist.refl _
  | cons x xs ih =>
    have hx : [Event.source x sc].Sublist (source x sc) := by cases x <;> simp [source]
    exact hx.append ih

lemma map_source_sublist_joins (sc : Scopes) (js : List Join) :
    (js.map (Event.source ·.source sc)).Sublist (joins js sc) := by
  induction js with
  | nil => exact List.Sublist.refl _
  | cons j js ih =>
    obtain ⟨type, x, c⟩ := j
    have hx : [Event.source x sc].Sublist (source x sc) := by cases x <;> simp [source]
    exact (List.sublist_append_of_sublist_left hx).append ih

end Tour

namespace Select

/-- An order in which the relations of a select are written, reported and expanded. -/
structure InOrder (s : Select) (xs : List Source) : Prop where
  written : ∀ d p, (xs.flatMap (Layout.source d)).Sublist (Layout.statement d p (.select s))
  reported : ∀ asOperand sc, ∃ below,
    (xs.map (Event.source · (.query s.sources :: below))).Sublist
      (Tour.statement asOperand (.select s) sc)
  expanded : ∀ resolver below name,
    Report.expandItem ⟨resolver, .query s.sources :: below⟩ ⟨.wildcard none, name⟩ =
      List.flatten <$> xs.mapM fun x => Report.expandSource ⟨resolver, .query s.sources :: below⟩
        ⟨x, Scopes.relation below x, 0⟩

lemma inOrder_sources (s : Select) : s.InOrder s.sources where
  written d p := by
    obtain ⟨w, distinct, is, fs, js, f, g, h, os, l, o⟩ := s
    have hclauses : ((fs ++ js.map (·.source)).flatMap (Layout.source d)).Sublist
        (Layout.listed "FROM " (Layout.sources d fs) ++ Layout.joins d js).flatten := by
      rw [List.flatMap_append, List.flatten_append]
      exact (Layout.flatMap_source_sublist_listed d _ fs).append
        (Layout.flatMap_source_sublist_joins d js)
    have hstacked : ∀ before first filter groups having modifiers,
        ((fs ++ js.map (·.source)).flatMap (Layout.source d)).Sublist
          (Layout.stacked d (before ++ (first :: Layout.listed "FROM " (Layout.sources d fs) ++
            Layout.joins d js ++ filter ++ groups ++ having ++ modifiers))) := by
      intro before first filter groups having modifiers
      refine (hclauses.trans ?_).trans (flatten_sublist_intercalate _ _)
      refine (List.sublist_append_of_sublist_right ?_).flatten
      iterate 4 refine List.sublist_append_of_sublist_left ?_
      exact List.sublist_cons_self _ _
    have hnested : ∀ {ps qs : List Piece} (bare : Bool), ps.Sublist qs →
        ps.Sublist (if bare then qs else Layout.parenthesized qs) := by
      intro ps qs bare h
      cases bare with
      | true => exact h
      | false => exact (List.sublist_append_of_sublist_left h).cons _
    cases p with
    | whole => exact hstacked (Layout.withClause d w) _ _ _ _ _
    | operand parent right => exact hnested _ (hstacked [] _ _ _ _ _)
  reported asOperand sc := by
    obtain ⟨w, distinct, is, fs, js, f, g, h, os, l, o⟩ := s
    refine ⟨Walk.withScopes (if asOperand then none else w) sc, ?_⟩
    rw [Tour.statement]
    refine .cons _ (List.sublist_append_of_sublist_left (List.sublist_append_of_sublist_right ?_))
    refine List.sublist_append_of_sublist_left (.cons _ (.cons _ ?_))
    iterate 6 refine List.sublist_append_of_sublist_left ?_
    rw [sources, List.map_append, List.map_map]
    exact (List.sublist_append_of_sublist_right (Tour.map_source_sublist_sources _ fs)).append
      (Tour.map_source_sublist_joins _ js)
  expanded resolver below name := by
    simp only [Report.expandItem, Report.coveredSources, Scopes.currentSources, List.mapM_map,
      map_eq_pure_bind]
    rfl

end Select

namespace Grammar.Denote

/-- A relation of a FROM clause, with everything that is joined to it. -/
structure Entry where
  first : Source
  joins : List SqlLoom.Join

namespace Entry

/-- The relations of an entry, in the order of the text. -/
def sources (e : Entry) : List Source := e.first :: e.joins.map (·.source)

/-- The relations of a clause when those in front of the joins are taken before all joins. -/
def hoisted (es : List Entry) : List Source :=
  es.map (·.first) ++ (es.flatMap (·.joins)).map (·.source)

lemma hoisted_perm (es : List Entry) : (hoisted es).Perm (es.flatMap sources) := by
  rw [hoisted, List.map_flatMap, List.map_eq_flatMap]
  exact List.flatMap_append_perm es _ _

/-- All that stands in front of a join in the text stays in front of it. -/
lemma subperm_before_join (before after : List Entry) (x : Source) (js js' : List SqlLoom.Join)
    (j : SqlLoom.Join) :
    ∃ earlier later, hoisted (before ++ ⟨x, js ++ j :: js'⟩ :: after) =
        earlier ++ j.source :: later ∧
      ((before ++ [Entry.mk x js]).flatMap sources).Subperm earlier := by
  let started : List Entry := before ++ [⟨x, js⟩]
  refine ⟨started.map (·.first) ++ after.map (·.first) ++
      (started.flatMap (·.joins)).map (·.source),
    (js' ++ after.flatMap (·.joins)).map (·.source), ?_, ?_⟩
  · simp [hoisted, started]
  · refine ⟨hoisted started, hoisted_perm started, ?_⟩
    exact (List.sublist_append_left _ _).append_right _

/-- The order of the text is kept if only the last entry has joins. -/
lemma hoisted_eq {es : List Entry} (h : ∀ e ∈ es.dropLast, e.joins = []) :
    hoisted es = es.flatMap sources := by
  induction es with
  | nil => rfl
  | cons e es ih =>
    cases es with
    | nil => simp [hoisted, sources]
    | cons e' es =>
      rw [List.dropLast_cons_cons, List.forall_mem_cons] at h
      rw [List.flatMap_cons, ← ih h.2]
      simp [hoisted, sources, h.1]

/-- Where all relations differ, the order of the text is kept in no other case. -/
lemma joins_eq_nil_of_hoisted_eq {es : List Entry} (hnodup : (hoisted es).Nodup)
    (h : hoisted es = es.flatMap sources) : ∀ e ∈ es.dropLast, e.joins = [] := by
  induction es with
  | nil => simp
  | cons e es ih =>
    cases es with
    | nil => simp
    | cons e' es =>
      obtain ⟨x, js⟩ := e
      cases js with
      | nil =>
        have htail : hoisted (⟨x, []⟩ :: e' :: es) = x :: hoisted (e' :: es) := by simp [hoisted]
        rw [htail] at hnodup h
        rw [List.dropLast_cons_cons, List.forall_mem_cons]
        exact ⟨rfl, ih hnodup.of_cons (List.cons.inj h).2⟩
      | cons j js =>
        -- The first relation of the next entry would be the first join of this one.
        have hfirst : e'.first = j.source := by
          simp only [hoisted, sources, List.map_cons, List.cons_append, List.flatMap_cons] at h
          exact (List.cons.inj (List.cons.inj h).2).1
        have hfront : e'.first ∈ (⟨x, j :: js⟩ :: e' :: es).map Entry.first := by simp
        have hjoined : e'.first ∈
            ((⟨x, j :: js⟩ :: e' :: es).flatMap Entry.joins).map (·.source) := by simp [hfirst]
        exact (List.disjoint_of_nodup_append hnodup hfront hjoined).elim

end Entry

/-- The entries of a FROM clause, one after the other. -/
def entries : List TableWithJoins → Denotation (List Entry)
  | [] => return []
  | ⟨r, js⟩ :: ts => do
    let first ← factor r
    let joins ← joins js
    return ⟨first, joins⟩ :: (← entries ts)

lemma tables_eq (ts : List TableWithJoins) :
    tables ts = entries ts >>= fun es => pure (es.map (·.first), es.flatMap (·.joins)) := by
  induction ts with
  | nil => rfl
  | cons t ts ih =>
    obtain ⟨r, js⟩ := t
    simp only [tables, entries, ih, bind_assoc, pure_bind, List.map_cons, List.flatMap_cons]

lemma length_of_joins {js : List Join} {n m : Nat} {js' : List SqlLoom.Join}
    (h : (joins js).run n = .ok (js', m)) : js'.length = js.length := by
  induction js generalizing n js' with
  | nil =>
    cases h
    rfl
  | cons j js ih =>
    obtain ⟨op, r, c, isGlobal, nearest⟩ := j
    rw [joins] at h
    obtain ⟨type, _, -, h⟩ := Result.run_bind_eq_ok h
    obtain ⟨condition, _, -, h⟩ := Result.run_bind_eq_ok h
    obtain ⟨source, _, -, h⟩ := Result.run_bind_eq_ok h
    obtain ⟨rest, _, hrest, h⟩ := Result.run_bind_eq_ok h
    cases h
    rw [List.length_cons, List.length_cons, ih hrest]

lemma lengths_of_entries {ts : List TableWithJoins} {n m : Nat} {es : List Entry}
    (h : (entries ts).run n = .ok (es, m)) :
    es.map (·.joins.length) = ts.map (·.joins.length) := by
  induction ts generalizing n es with
  | nil =>
    cases h
    rfl
  | cons t ts ih =>
    obtain ⟨r, js⟩ := t
    rw [entries] at h
    obtain ⟨first, _, -, h⟩ := Result.run_bind_eq_ok h
    obtain ⟨js, _, hjs, h⟩ := Result.run_bind_eq_ok h
    obtain ⟨rest, _, hrest, h⟩ := Result.run_bind_eq_ok h
    cases h
    rw [List.map_cons, List.map_cons, ih hrest, length_of_joins hjs]

/-- The entries have joins where those of the text have. -/
lemma joins_eq_nil_iff_of_entries {ts : List TableWithJoins} {n m : Nat} {es : List Entry}
    (h : (entries ts).run n = .ok (es, m)) :
    (∀ e ∈ es.dropLast, e.joins = []) ↔ ∀ t ∈ ts.dropLast, t.joins = [] := by
  have hzero : ∀ {α β : Type} (f : α → List β) (xs : List α),
      (∀ x ∈ xs.dropLast, f x = []) ↔ ∀ l ∈ (xs.map fun x => (f x).length).dropLast, l = 0 := by
    intro α β f xs
    simp [← List.map_dropLast]
  rw [hzero Entry.joins, lengths_of_entries h, ← hzero]

/-- The order in which the relations of a select are written, reported and expanded has those of its
FROM clause and no others, and what stands in front of a join in the text stays in front of it. It
is the order of the text if only the last entry of the clause has joins, and where all relations
differ in no other case: a relation behind a comma comes before every join. -/
theorem select_sources {s : Select} {n m : Nat} {q : SqlLoom.Select}
    (h : (select s).run n = .ok (q, m)) :
    q.InOrder q.sources ∧ ∃ k l es, (entries s.froms).run k = .ok (es, l) ∧
      q.sources.Perm (es.flatMap Entry.sources) ∧
      ((∀ t ∈ s.froms.dropLast, t.joins = []) → q.sources = es.flatMap Entry.sources) ∧
      (q.sources.Nodup → q.sources = es.flatMap Entry.sources →
        ∀ t ∈ s.froms.dropLast, t.joins = []) ∧
      ∀ before x js j js' after, es = before ++ ⟨x, js ++ j :: js'⟩ :: after →
        ∃ earlier later, q.sources = earlier ++ j.source :: later ∧
          ((before ++ [Entry.mk x js]).flatMap Entry.sources).Subperm earlier := by
  obtain ⟨opening, d, top, is, into, ts, views, f, g, sorting, filter, windowed, tail⟩ := s
  cases windowed with
  | true => 
    obtain ⟨distinct, _, -, h⟩ := Result.run_bind_eq_ok h
    cases h
  | false =>
    obtain ⟨distinct, _, -, h⟩ := Result.run_bind_eq_ok h
    obtain ⟨items, k, -, h⟩ := Result.run_bind_eq_ok h
    obtain ⟨⟨froms, js⟩, l, htables, h⟩ := Result.run_bind_eq_ok h
    rw [tables_eq] at htables
    obtain ⟨es, l, hes, htables⟩ := Result.run_bind_eq_ok htables
    cases htables
    obtain ⟨filter, _, -, h⟩ := Result.run_bind_eq_ok h
    obtain ⟨groupBy, _, -, h⟩ := Result.run_bind_eq_ok h
    obtain ⟨having', _, -, h⟩ := Result.run_bind_eq_ok h
    cases h
    have hlast := joins_eq_nil_iff_of_entries hes
    refine ⟨Select.inOrder_sources _, k, l, es, hes, Entry.hoisted_perm es, ?_, ?_, ?_⟩
    · exact fun hts => Entry.hoisted_eq (hlast.mpr hts)
    · exact fun hnodup hq => hlast.mp (Entry.joins_eq_nil_of_hoisted_eq hnodup hq)
    · rintro before x js j js' after rfl
      exact Entry.subperm_before_join before after x js js' j

/-- In `FROM a CROSS JOIN b, c` the order becomes `a`, `c`, `b`. -/
theorem select_sources_comma_behind_join :
    let table : String → Factor := fun name => .table [⟨name, none, {}⟩] "" none "" none ""
    let s : Select :=
      { opening := { token := .word "SELECT" none, position := none }
        items := []
        froms := [⟨table "a", [⟨.cross, table "b", .none, false, none⟩]⟩, ⟨table "c", []⟩]
        groupBy := .exprs [] "" }
    ∃ q es, (select s).run 0 = .ok (q, 0) ∧ (∃ k l, (entries s.froms).run k = .ok (es, l)) ∧
      q.sources = [.table none "a" none, .table none "c" none, .table none "b" none] ∧
      q.sources ≠ es.flatMap Entry.sources := by
  intro table s
  let q : SqlLoom.Select :=
    { items := []
      froms := [.table none "a" none, .table none "c" none]
      joins := [⟨.cross, .table none "b" none, none⟩] }
  have hs : (select s).run 0 = .ok (q, 0) := rfl
  obtain ⟨-, k, l, es, hes, -, -, horder, -⟩ := select_sources hs
  refine ⟨q, es, hs, ⟨k, l, hes⟩, rfl, fun hq => ?_⟩
  have hnodup : q.sources.Nodup := by simp [q, SqlLoom.Select.sources]
  have hnil := horder hnodup hq _ (.head _)
  cases hnil

end Grammar.Denote

end SqlLoom
