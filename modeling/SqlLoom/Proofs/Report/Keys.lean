import Mathlib.Data.List.Basic
import SqlLoom.Proofs.Text
import SqlLoom.Proofs.Walk.Entries
import SqlLoom.Report.Schema
import SqlLoom.Report.Tables

/-! The report of schemas and the report of tables know the same tables. A column or a wildcard adds
the physical table behind an entry of a query around it, and that entry is reported by itself. -/
namespace SqlLoom.Report

lemma mem_keys_touch {key k : String} {columns : List String} {ts : List (String × List String)} :
    k ∈ (touch key columns ts).map (·.1) ↔ k = key ∨ k ∈ ts.map (·.1) := by
  induction ts with
  | nil => simp [touch]
  | cons t ts ih =>
    obtain ⟨key', cs⟩ := t
    simp only [touch]
    split
    · simp
    · split
      · next h => simp [h]
      · rw [List.map_cons, List.mem_cons, ih, List.map_cons, List.mem_cons, or_left_comm]

namespace SchemaState

def keys (st : SchemaState) : List String := st.tables.map (·.1)

/-- Keys are only added, and only those of physical tables that `seen` knows. -/
structure Grows (seen : Relation → Prop) (st st' : SchemaState) : Prop where
  keeps : st.keys ⊆ st'.keys
  adds : ∀ key ∈ st'.keys, key ∈ st.keys ∨
    ∃ schema name, seen (.physical schema name) ∧ key = tableKey schema name

namespace Grows

variable {seen : Relation → Prop} {st st' st'' : SchemaState}

lemma of_tables_eq (h : st'.tables = st.tables) : Grows seen st st' := by
  have hk : st'.keys = st.keys := by rw [keys, h, keys]
  exact ⟨by simp [hk], fun key hkey => .inl (hk ▸ hkey)⟩

lemma refl : Grows seen st st := of_tables_eq rfl

lemma trans (h : Grows seen st st') (h' : Grows seen st' st'') : Grows seen st st'' where
  keeps := List.Subset.trans h.keeps h'.keeps
  adds key hkey := (h'.adds key hkey).elim (h.adds key) .inr

lemma record {schema : Option String} {name : String} (h : seen (.physical schema name))
    (columns : List String) : Grows seen st (st.record schema name columns) where
  keeps _ hkey := mem_keys_touch.mpr (.inr hkey)
  adds key hkey := by
    rcases mem_keys_touch.mp hkey with rfl | hkey
    · exact .inr ⟨schema, name, h, rfl⟩
    · exact .inl hkey

lemma recordIn {r : Relation} (h : seen r) (column : String) :
    Grows seen st (st.recordIn r column) := by
  cases r with
  | physical schema name => exact record h [column]
  | _ => exact refl

lemma fail (e : Error) : Grows seen st (st.fail e) := of_tables_eq rfl

lemma mono {seen' : Relation → Prop} (hs : ∀ r, seen r → seen' r) (h : Grows seen st st') :
    Grows seen' st st' where
  keeps := h.keeps
  adds key hkey := (h.adds key hkey).imp_right
    fun ⟨schema, name, hr, hk⟩ => ⟨schema, name, hs _ hr, hk⟩

end Grows

/-- The tables behind the entries of the queries around. -/
def Listed (sc : Scopes) (r : Relation) : Prop := ∃ s : ResolvedSource, sc.Lists s ∧ s.relation = r

variable {resolver : Option ColumnResolver} {sc : Scopes} {st : SchemaState}

lemma grows_bareColumn (name : String) :
    Grows (Listed sc) st (bareColumn ⟨resolver, sc⟩ name st) := by
  have howner : ∀ r ∈ sc.currentSources, Grows (Listed sc) st (st.recordIn r.relation name) :=
    fun r hr => .recordIn ⟨r, Scopes.lists_of_mem_currentSources hr, rfl⟩ name
  unfold bareColumn
  split
  · exact .refl
  · next only h => exact howner only (h ▸ List.mem_singleton_self only)
  · split
    · next owner h =>
      have hm : owner ∈ sc.currentSources.filter (declares ⟨resolver, sc⟩ name) :=
        h ▸ List.mem_singleton_self owner
      exact howner owner (List.mem_of_mem_filter hm)
    · exact .fail _
    · exact .fail _

lemma grows_column (role : Role) (qualifier : Option String) (name : String) :
    Grows (Listed sc) st (column ⟨resolver, sc⟩ role qualifier name st) := by
  unfold column
  split
  · split
    · next r h => exact .recordIn ⟨r, Scopes.lists_of_resolveQualifier h, rfl⟩ name
    · exact .refl
  · split
    · exact .refl
    · exact grows_bareColumn name

lemma grows_wildcardOver {r : ResolvedSource} (hr : r ∈ sc.currentSources) {st' : SchemaState}
    (h : wildcardOver ⟨resolver, sc⟩ st r = .ok st') : Grows (Listed sc) st st' := by
  unfold wildcardOver at h
  split at h
  · next schema name hrel =>
    obtain ⟨columns, -, rfl⟩ : ∃ columns, Outlook.physical ⟨resolver, sc⟩ schema name
        r.source.referenceName = .ok columns ∧ st.record schema name columns = st' := by
      cases hp : Outlook.physical ⟨resolver, sc⟩ schema name r.source.referenceName with
      | error e => rw [hp] at h; cases h
      | ok columns => rw [hp] at h; cases h; exact ⟨columns, rfl, rfl⟩
    exact .record ⟨r, Scopes.lists_of_mem_currentSources hr, hrel⟩ columns
  · cases h
    exact .refl

lemma grows_foldlM {rs : List ResolvedSource} (hrs : rs ⊆ sc.currentSources) {st' : SchemaState}
    (h : rs.foldlM (wildcardOver ⟨resolver, sc⟩) st = .ok st') : Grows (Listed sc) st st' := by
  induction rs generalizing st with
  | nil => cases h; exact .refl
  | cons r rs ih =>
    rw [List.foldlM_cons] at h
    cases hr : wildcardOver ⟨resolver, sc⟩ st r with
    | error e => rw [hr] at h; cases h
    | ok mid =>
      rw [hr] at h
      exact (grows_wildcardOver (hrs (by simp)) hr).trans (ih (fun _ hm => hrs (by simp [hm])) h)

lemma grows_wildcards (is : List SelectItem) :
    Grows (Listed sc) st (wildcards ⟨resolver, sc⟩ st is) := by
  induction is generalizing st with
  | nil => exact .refl
  | cons i is ih =>
    rw [wildcards]
    cases h : wildcardItem ⟨resolver, sc⟩ st i with
    | error e => exact .fail e
    | ok mid =>
      refine Grows.trans ?_ ih
      unfold wildcardItem at h
      split at h
      · exact grows_foldlM (fun _ hm => List.mem_of_mem_filter hm) h
      · cases h
        exact .refl

end SchemaState

end SqlLoom.Report

namespace SqlLoom

def TableReference.key (t : TableReference) : String := Report.tableKey t.schema t.name

namespace Event

/-- Tables are met as FROM entries only: no INSERT, no UPDATE and no table function. -/
def EntriesOnly : Event → Prop
  | .statement (.insert _) _ | .statement (.update _) _ | .source (.function _ _ _) _ => False
  | _ => True

/-- What can be read from here: the entry that is reported, or one of a query around. -/
def Shows (e : Event) (r : Relation) : Prop :=
  (∃ x, e = .source x e.scopes ∧ e.scopes.relation x = r) ∨ Report.SchemaState.Listed e.scopes r

end Event

/-- No INSERT, no UPDATE and no table function anywhere. -/
def Statement.EntriesOnly (s : Statement) : Prop := ∀ e ∈ s.trace, e.EntriesOnly

namespace Report

open SchemaState

variable {resolver : Option ColumnResolver} {st : SchemaState}

/-- A step keeps the keys, and what it adds can be read from the place of the report. -/
lemma grows_step {e : Event} (he : e.EntriesOnly) : Grows e.Shows st (step resolver st e) := by
  cases e with
  | enter kind sc => cases kind <;> exact .of_tables_eq rfl
  | leave kind sc => cases kind <;> exact .of_tables_eq rfl
  | statement s sc =>
    cases s with
    | insert i => exact he.elim
    | update u => exact he.elim
    | _ => exact .refl
  | select s sc =>
    have hopen : Grows (Event.select s sc).Shows st
        { st with aliases := s.items.filterMap SelectItem.aliasName :: st.aliases.tail } :=
      .of_tables_eq rfl
    exact hopen.trans ((grows_wildcards s.items).mono fun _ => .inr)
  | table i t sc => exact .refl
  | endTable t sc => exact .refl
  | source x sc =>
    simp only [step]
    split
    · next schema name h => exact .record (.inl ⟨x, rfl, h⟩) []
    · exact .refl
  | value role x sc =>
    cases x with
    | column qualifier name => exact (grows_column role qualifier name).mono fun _ => .inr
    | _ => exact .refl

lemma grows_run {es : List Event} (hes : ∀ e ∈ es, e.EntriesOnly) :
    Grows (fun r => ∃ e ∈ es, e.Shows r) st (es.foldl (step resolver) st) := by
  induction es generalizing st with
  | nil => exact .refl
  | cons e es ih =>
    have hstep : Grows e.Shows st (step resolver st e) := grows_step (hes e (by simp))
    have hrest : Grows _ (step resolver st e) (es.foldl (step resolver) (step resolver st e)) :=
      ih fun e' he' => hes e' (by simp [he'])
    refine (hstep.mono fun r hr => ⟨e, by simp, hr⟩).trans (hrest.mono ?_)
    rintro r ⟨e', he', hr⟩
    exact ⟨e', by simp [he'], hr⟩

/-- The table behind an entry has its key once the entry has been reported. -/
lemma mem_keys_run {es : List Event} (hes : ∀ e ∈ es, e.EntriesOnly) {x : Source} {sc : Scopes}
    (hx : .source x sc ∈ es) {schema : Option String} {name : String}
    (hr : sc.relation x = .physical schema name) :
    tableKey schema name ∈ (es.foldl (step resolver) st).keys := by
  obtain ⟨before, after, rfl⟩ := List.append_of_mem hx
  rw [List.foldl_append, List.foldl_cons]
  refine (grows_run fun e he => hes e (by simp [he])).keeps ?_
  simp only [step, hr]
  exact mem_keys_touch.mpr (.inl rfl)

/-- Without table functions the references are the physical tables behind FROM entries. -/
lemma mem_keys_tables {s : Statement} (hs : s.EntriesOnly) {key : String} :
    key ∈ (tables false s).map TableReference.key ↔
      ∃ x sc schema name, .source x sc ∈ s.trace ∧ sc.relation x = .physical schema name ∧
        key = tableKey schema name := by
  simp only [tables, List.mem_map, Text.mem_distinct, List.mem_filterMap, List.mem_reverse,
    Bool.false_eq_true, if_false]
  constructor
  · rintro ⟨t, ⟨e, he, ht⟩, rfl⟩
    cases e with
    | source x sc =>
      cases hr : sc.relation x with
      | physical schema name =>
        simp only [physicalReference, hr] at ht
        cases ht
        exact ⟨x, sc, schema, name, he, hr, rfl⟩
      | function =>
        cases x with
        | function _ _ _ => exact (hs _ he).elim
        | _ => simp [physicalReference, hr] at ht
      | _ => simp [physicalReference, hr] at ht
    | _ => cases ht
  · rintro ⟨x, sc, schema, name, hx, hr, rfl⟩
    exact ⟨⟨schema, name, x.aliasName?⟩, ⟨_, hx, by simp only [physicalReference, hr]⟩, rfl⟩

/-- In a statement without INSERT, UPDATE and table functions the report of schemas, where it
succeeds, has an entry for exactly the tables that the report of tables lists. -/
theorem keys_schemas (resolver : Option ColumnResolver) {s : Statement} (hs : s.EntriesOnly)
    {ts : List TableSchema} (h : schemas resolver s = .ok ts) (key : String) :
    key ∈ ts.map (·.name) ↔ key ∈ (tables false s).map TableReference.key := by
  have hes : ∀ e ∈ s.trace.reverse, e.EntriesOnly := fun e he => hs e (List.mem_reverse.mp he)
  have hts : ts.map (·.name) = (s.trace.reverse.foldl (step resolver) {}).keys := by
    simp only [schemas] at h
    split at h
    · cases h
    · cases h
      simp [keys, TableSchema.ofColumns, Function.comp_def]
  rw [hts, mem_keys_tables hs]
  constructor
  · intro hkey
    rcases (grows_run hes).adds key hkey with hkey | ⟨schema, name, ⟨e, he, hshow⟩, rfl⟩
    · exact absurd hkey List.not_mem_nil
    rw [List.mem_reverse] at he
    rcases hshow with ⟨x, hx, hr⟩ | ⟨r, hlist, hr⟩
    · rw [hx] at he
      exact ⟨x, e.scopes, schema, name, he, hr, rfl⟩
    · obtain ⟨sc, hx, hrel⟩ := Tour.source_mem_trace_of_lists he hlist
      exact ⟨r.source, sc, schema, name, hx, hrel.trans hr, rfl⟩
  · rintro ⟨x, sc, schema, name, hx, hr, rfl⟩
    exact mem_keys_run hes (List.mem_reverse.mpr hx) hr

/-- A column of the outer query and a table behind a common table have their keys. -/
theorem keys_schemas_correlated :
    let recent : CommonTable :=
      { name := "recent"
        body := .select
          { items := [{ value := .column none "id" }]
            froms := [.table (some "shop") "orders" none] } }
    let parts : Select :=
      { items := [{ value := .column (some "i") "id" }, { value := .column none "rank" }]
        froms := [.table none "parts" none] }
    let s : Statement := .delete
      { withClause := some { tables := [recent] }
        target := .table none "items" (some "i")
        usings := [.table none "recent" none]
        filter := some (.exists (.select parts)) }
    s.EntriesOnly ∧ ∃ ts, schemas none s = .ok ts ∧
      ts.map (·.name) = ["items", "parts", "shop.orders"] ∧
      ∀ key, key ∈ ts.map (·.name) ↔ key ∈ (tables false s).map TableReference.key := by
  intro recent parts s
  have hs : s.EntriesOnly := by
    intro e he
    rw [Tour.mem_trace] at he
    revert e
    simp [s, recent, parts, Tour.statement, Tour.withClause, Tour.tables, Tour.inside, Tour.items,
      Tour.expr, Tour.sources, Tour.source, Tour.joins, Tour.option, Tour.exprs, Tour.order,
      Tour.leaves, Tour.again, Walk.withScopes, Event.EntriesOnly]
  have hts : schemas none s =
      .ok [⟨"items", ["id"]⟩, ⟨"parts", ["rank"]⟩, ⟨"shop.orders", ["id"]⟩] := by
    simp only [s, recent, parts]
    rfl
  exact ⟨hs, _, hts, rfl, keys_schemas none hs hts⟩

end Report

end SqlLoom
