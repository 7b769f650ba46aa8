import Mathlib.Data.List.Pairwise
import SqlLoom.Fixture.File
import SqlLoom.Proofs.Fixture.Tables
import SqlLoom.Proofs.Result
import SqlLoom.Proofs.Scalar

/-! Tables of a fixture file. Where an entry declares no columns, its table has one for every key of
its rows, so that the rows can always be written out, each as wide as the columns and with no value
lost. Where it declares some, a key without a column is the one thing that can go wrong. -/
namespace SqlLoom

namespace Text

lemma sameName_refl (a : String) : sameName a a = true := sameName_iff.mpr rfl

lemma sameName_comm (a b : String) : sameName a b = sameName b a := by
  rw [Bool.eq_iff_iff, sameName_iff, sameName_iff, eq_comm]

end Text

namespace ColumnResolver

variable {α β : Type}

lemma mem_of_mem_insertSorted {key : String} {value : α} {kv : String × α}
    {xs : List (String × α)} (h : kv ∈ insertSorted key value xs) :
    kv = (key, value) ∨ kv ∈ xs := by
  induction xs with
  | nil => exact .inl (List.mem_singleton.mp h)
  | cons x xs ih =>
    obtain ⟨k, v⟩ := x
    simp only [insertSorted] at h
    split at h
    · exact List.mem_cons.mp h
    · split at h
      next hk =>
        subst hk
        exact (List.mem_cons.mp h).imp_right (List.mem_cons_of_mem _)
      · rcases List.mem_cons.mp h with rfl | h
        · exact .inr List.mem_cons_self
        · exact (ih h).imp_right (List.mem_cons_of_mem _)

lemma key_mem_insertSorted {key k : String} {value : α} {xs : List (String × α)} :
    k ∈ (insertSorted key value xs).map Prod.fst ↔ k = key ∨ k ∈ xs.map Prod.fst := by
  induction xs with
  | nil => simp [insertSorted]
  | cons x xs ih =>
    obtain ⟨k', v⟩ := x
    simp only [insertSorted]
    split
    · simp
    · split
      next hk => simp [hk]
      · simp only [List.map_cons, List.mem_cons, ih]
        exact or_left_comm

lemma sortKeys_concat (xs : List (String × α)) (x : String × α) :
    sortKeys (xs ++ [x]) = insertSorted x.1 x.2 (sortKeys xs) := by
  simp [sortKeys]

/-- Sorting adds no entry. -/
lemma sortKeys_subset (xs : List (String × α)) : sortKeys xs ⊆ xs := by
  induction xs using List.reverseRecOn with
  | nil => exact List.Subset.refl _
  | append_singleton xs x ih =>
    intro kv h
    rw [sortKeys_concat] at h
    rcases mem_of_mem_insertSorted h with rfl | h
    · exact List.mem_append_right _ List.mem_cons_self
    · exact List.mem_append_left _ (ih h)

/-- Sorting loses no key. -/
lemma key_mem_sortKeys {k : String} {xs : List (String × α)} :
    k ∈ (sortKeys xs).map Prod.fst ↔ k ∈ xs.map Prod.fst := by
  induction xs using List.reverseRecOn with
  | nil => rfl
  | append_singleton xs x ih =>
    rw [sortKeys_concat, key_mem_insertSorted, ih, List.map_append, List.mem_append, or_comm]
    simp

end ColumnResolver

namespace FixtureTable

open ColumnResolver

/-- The value that a row has for a column, under the exact name if there is one. -/
def found (row : FixtureRow) (column : String) : Option Scalar :=
  Json.lookup column row <|> (row.find? (Text.sameName ·.1 column)).map (·.2)

lemma cell_eq (row : FixtureRow) (column : String) :
    cell row column = ((found row column).map fun v => .literal v.toLiteral).getD .null := by
  unfold cell
  split
  next v hv =>
    have hfound : found row column = some v := hv
    rw [hfound]
    rfl
  next hv =>
    have hfound : found row column = none := hv
    rw [hfound]
    rfl

/-- A column that no key of the row names holds a null. -/
lemma cell_eq_null {row : FixtureRow} {column : String}
    (h : ∀ kv ∈ row, Text.sameName kv.1 column = false) : cell row column = .null := by
  have hlookup : Json.lookup column row = none := by
    rw [Option.eq_none_iff_forall_ne_some]
    intro v hv
    have := h _ (Json.mem_of_lookup_eq_some hv)
    simp [Text.sameName_refl] at this
  have hfind : row.find? (Text.sameName ·.1 column) = none := by
    rw [List.find?_eq_none]
    intro kv hkv
    simp [h kv hkv]
  simp [cell_eq, found, hlookup, hfind]

/-- A column that a key of the row names holds the value of such a key. -/
lemma exists_cell_eq {row : FixtureRow} {column : String}
    (h : ∃ kv ∈ row, Text.sameName kv.1 column = true) :
    ∃ kv ∈ row, Text.sameName kv.1 column = true ∧ cell row column = .literal kv.2.toLiteral := by
  cases hlookup : Json.lookup column row with
  | some v =>
    exact ⟨(column, v), Json.mem_of_lookup_eq_some hlookup, Text.sameName_refl column,
      by simp [cell_eq, found, hlookup]⟩
  | none =>
    obtain ⟨kv, hkv, hname⟩ := h
    have hsome : (row.find? (Text.sameName ·.1 column)).isSome :=
      List.find?_isSome.mpr ⟨kv, hkv, hname⟩
    obtain ⟨entry, hentry⟩ := Option.isSome_iff_exists.mp hsome
    have hentryName := List.find?_some hentry
    exact ⟨entry, List.mem_of_find?_eq_some hentry, hentryName,
      by simp [cell_eq, found, hlookup, hentry]⟩

variable {f : FixtureTable}

lemma cells_of_known {row : FixtureRow} (h : ∀ kv ∈ row, f.schema.hasColumn kv.1 = true) :
    f.cells row = .ok (f.schema.columns.map (cell row)) := by
  unfold cells
  split
  next k v hfind =>
    have hfound := List.find?_some hfind
    have hunknown : (!f.schema.hasColumn k) = true := hfound
    have hknown : f.schema.hasColumn k = true := h (k, v) (List.mem_of_find?_eq_some hfind)
    simp [hknown] at hunknown
  next => rfl

/-- A row with a key that no column has is refused for such a key. -/
lemma cells_of_unknown {row : FixtureRow} (h : ∃ kv ∈ row, f.schema.hasColumn kv.1 = false) :
    ∃ k reason, f.cells row = .error (.columnResolution k reason) := by
  obtain ⟨kv, hkv, hunknown⟩ := h
  unfold cells
  split
  next k v hfind => exact ⟨k, _, rfl⟩
  next hfind =>
    have hno := List.find?_eq_none.mp hfind kv hkv
    simp [hunknown] at hno

lemma toCommonTable_without_columns (h : f.schema.columns = []) :
    f.toCommonTable =
      .error (.missingOperand ("fixture for '" ++ f.schema.name ++ "' declares no columns")) := by
  simp [toCommonTable, h]

/-- Where all keys have columns, the common table holds one list of cells for each row. -/
lemma toCommonTable_of_known (hc : f.schema.columns ≠ [])
    (h : ∀ row ∈ f.rows, ∀ kv ∈ row, f.schema.hasColumn kv.1 = true) :
    f.toCommonTable = .ok ⟨f.target.name, f.schema.columns,
      if f.rows.isEmpty then emptyBody f.schema.columns
      else .values { rows := f.rows.map fun row => f.schema.columns.map (cell row) }⟩ := by
  have hcells : f.rows.mapM f.cells =
      .ok (f.rows.map fun row => f.schema.columns.map (cell row)) :=
    Result.mapM_of_ok fun row hrow => cells_of_known (h row hrow)
  cases hr : f.rows.isEmpty with
  | true => simp [toCommonTable, hc, hr]
  | false => simp [toCommonTable, hc, hr, hcells, bind, Except.bind, pure, Except.pure]

/-- The keys decide whether a table with columns can be written out. -/
lemma toCommonTable_eq_columnResolution_iff (hc : f.schema.columns ≠ []) :
    (∃ k reason, f.toCommonTable = .error (.columnResolution k reason)) ↔
      ∃ row ∈ f.rows, ∃ kv ∈ row, f.schema.hasColumn kv.1 = false := by
  constructor
  · rintro ⟨k, reason, h⟩
    by_contra hno
    push Not at hno
    rw [toCommonTable_of_known hc fun row hrow kv hkv => by simpa using hno row hrow kv hkv] at h
    cases h
  · rintro ⟨row, hrow, kv, hkv, hunknown⟩
    have hrows : f.rows.isEmpty = false := by
      cases hf : f.rows with
      | nil => simp [hf] at hrow
      | cons _ _ => rfl
    obtain ⟨k, reason, hcells⟩ := cells_of_unknown ⟨kv, hkv, hunknown⟩
    obtain ⟨row', hrow', e, he, hall⟩ := Result.mapM_of_error hrow ⟨_, hcells⟩
    by_cases hknown : ∀ kv ∈ row', f.schema.hasColumn kv.1 = true
    · rw [cells_of_known hknown] at he
      cases he
    · push Not at hknown
      obtain ⟨k', reason', hk⟩ := @cells_of_unknown f row' (by simpa using hknown)
      rw [hk] at he
      cases he
      exact ⟨k', reason', by simp [toCommonTable, hc, hrows, hall, bind, Except.bind]⟩

end FixtureTable

namespace FixtureFile

open ColumnResolver FixtureTable

lemma subset_extendColumns (columns names : List String) :
    columns ⊆ extendColumns columns names := by
  induction names generalizing columns with
  | nil => exact List.Subset.refl _
  | cons n names ih =>
    simp only [extendColumns, List.foldl_cons]
    split
    · exact ih columns
    · exact List.Subset.trans (List.subset_append_left columns [n]) (ih _)

/-- Every further name has a column in the end, if not in its own spelling. -/
lemma exists_mem_extendColumns (columns : List String) {names : List String} {n : String}
    (h : n ∈ names) : ∃ c ∈ extendColumns columns names, Text.sameName c n = true := by
  induction names generalizing columns with
  | nil => exact absurd h List.not_mem_nil
  | cons m names ih =>
    rcases List.mem_cons.mp h with rfl | h
    · simp only [extendColumns, List.foldl_cons]
      split
      next hthere =>
        obtain ⟨c, hc, hname⟩ := List.any_eq_true.mp hthere
        exact ⟨c, subset_extendColumns columns names hc, hname⟩
      · exact ⟨n, subset_extendColumns _ names (by simp), Text.sameName_refl n⟩
    · exact ih _ h

/-- A row of an entry as its table holds it. -/
def tableRow (row : List (String × Json)) : FixtureRow :=
  sortKeys (row.map fun (k, j) => (k, Scalar.ofJson j))

lemma mem_of_mem_tableRow {row : List (String × Json)} {kv : String × Scalar}
    (h : kv ∈ tableRow row) : ∃ j, (kv.1, j) ∈ row ∧ kv.2 = Scalar.ofJson j := by
  obtain ⟨⟨k, j⟩, hkj, rfl⟩ := List.mem_map.mp (sortKeys_subset _ h)
  exact ⟨j, hkj, rfl⟩

/-- A row keeps its keys. -/
lemma exists_key_tableRow {row : List (String × Json)} {P : String → Prop} :
    (∃ kv ∈ tableRow row, P kv.1) ↔ ∃ kj ∈ row, P kj.1 := by
  constructor
  · rintro ⟨kv, hkv, hP⟩
    obtain ⟨j, hj, -⟩ := mem_of_mem_tableRow hkv
    exact ⟨(kv.1, j), hj, hP⟩
  · rintro ⟨⟨k, j⟩, hkj, hP⟩
    have hkey : k ∈ (tableRow row).map Prod.fst :=
      key_mem_sortKeys.mpr (List.mem_map.mpr ⟨_, List.mem_map_of_mem hkj, rfl⟩)
    obtain ⟨kv, hkv, rfl⟩ := List.mem_map.mp hkey
    exact ⟨kv, hkv, hP⟩

/-- No two keys of the row agree up to ASCII case. -/
def Apart (row : List (String × Json)) : Prop :=
  row.Pairwise fun a b => Text.sameName a.1 b.1 = false

lemma Apart.eq_of_sameName {row : List (String × Json)} (h : Apart row) {a b : String × Json}
    (ha : a ∈ row) (hb : b ∈ row) (hname : Text.sameName a.1 b.1 = true) : a = b := by
  by_contra hne
  have hsymm : Std.Symm fun a b : String × Json => Text.sameName a.1 b.1 = false :=
    ⟨fun a b hab => by rwa [Text.sameName_comm] at hab⟩
  have hdiffer := List.Pairwise.forall h ha hb hne
  rw [hname] at hdiffer
  cases hdiffer

/-- The cells of a row. Each value stands in the columns that its key names, of which there is at
least one, and a column without a key is null. -/
structure Shows (columns : List String) (row : List (String × Json)) (cells : List Expr) :
    Prop where
  width : cells.length = columns.length
  values : Apart row → ∀ kj ∈ row, (∃ c ∈ columns, Text.sameName c kj.1 = true) ∧
    ∀ c ∈ columns.zip cells, Text.sameName c.1 kj.1 = true →
      c.2 = .literal (Scalar.ofJson kj.2).toLiteral
  nulls : ∀ c ∈ columns.zip cells, (∀ kj ∈ row, Text.sameName c.1 kj.1 = false) → c.2 = .null

lemma shows_map_cell {columns : List String} {row : List (String × Json)}
    (h : ∀ kj ∈ row, ∃ c ∈ columns, Text.sameName c kj.1 = true) :
    Shows columns row (columns.map (cell (tableRow row))) := by
  have hzip : ∀ c ∈ columns.zip (columns.map (cell (tableRow row))),
      c.2 = cell (tableRow row) c.1 := by
    intro c hc
    have heq : columns.zip (columns.map (cell (tableRow row))) =
        columns.map fun column => (column, cell (tableRow row) column) := by
      simpa using List.zip_map' (f := id) (g := cell (tableRow row)) (l := columns)
    rw [heq, List.mem_map] at hc
    obtain ⟨column, -, rfl⟩ := hc
    rfl
  refine ⟨List.length_map _, fun hapart kj hkj => ⟨h kj hkj, fun c hc hname => ?_⟩,
    fun c hc hno => ?_⟩
  · -- The key that the cell is found under agrees with `kj`, and so is `kj` itself.
    have hcolumn : Text.sameName kj.1 c.1 = true := (Text.sameName_comm kj.1 c.1).trans hname
    have hkey : ∃ kv ∈ tableRow row, Text.sameName kv.1 c.1 = true :=
      exists_key_tableRow (P := fun k => Text.sameName k c.1 = true).mpr ⟨kj, hkj, hcolumn⟩
    obtain ⟨kv, hkv, hkvName, hcell⟩ := exists_cell_eq hkey
    obtain ⟨j, hj, hvalue⟩ := mem_of_mem_tableRow hkv
    have heq : (kv.1, j) = kj := hapart.eq_of_sameName hj hkj
      (Text.sameName_trans hkvName hcolumn)
    rw [hzip c hc, hcell, hvalue, ← heq]
  · rw [hzip c hc]
    refine cell_eq_null fun kv hkv => ?_
    obtain ⟨j, hj, -⟩ := mem_of_mem_tableRow hkv
    exact (Text.sameName_comm kv.1 c.1).trans (hno (kv.1, j) hj)

variable (schemas : List TableSchema) (name : String) (e : FixtureEntry)

lemma rows_toTable : (toTable schemas name e).rows = e.rows.map tableRow := rfl

/-- The keys of all rows, in the order in which the table holds them. -/
def usedKeys (e : FixtureEntry) : List String :=
  (e.rows.map tableRow).flatMap fun row => row.map (·.1)

lemma mem_columns_toTable_of_undeclared (hc : e.columns = []) {c : String} :
    c ∈ (toTable schemas name e).schema.columns ↔
      c ∈ match schemas.find? (isSchemaOf name) with
        | some s => extendColumns s.columns (usedKeys e)
        | none => usedKeys e := by
  simp only [toTable, TableSchema.ofColumns, hc, List.isEmpty_nil, Bool.not_true,
    Bool.false_eq_true, if_false, Text.mem_distinct]
  rfl

/-- The columns of the table of an entry that declares none have one for each key. -/
lemma hasColumn_toTable_of_undeclared (hc : e.columns = []) {row : List (String × Json)}
    (hrow : row ∈ e.rows) {kj : String × Json} (hkj : kj ∈ row) :
    (toTable schemas name e).schema.hasColumn kj.1 = true := by
  have hused : kj.1 ∈ usedKeys e := by
    obtain ⟨kv, hkv, heq⟩ := exists_key_tableRow (P := (· = kj.1)).mpr ⟨kj, hkj, rfl⟩
    exact List.mem_flatMap.mpr
      ⟨tableRow row, List.mem_map_of_mem hrow, List.mem_map.mpr ⟨kv, hkv, heq⟩⟩
  have hmem := @mem_columns_toTable_of_undeclared schemas name e hc
  rw [TableSchema.hasColumn, List.any_eq_true]
  cases hschema : schemas.find? (isSchemaOf name) with
  | some s =>
    obtain ⟨c, hcolumn, hname⟩ := exists_mem_extendColumns s.columns hused
    exact ⟨c, hmem.mpr (by rwa [hschema]), hname⟩
  | none => exact ⟨kj.1, hmem.mpr (by rwa [hschema]), Text.sameName_refl _⟩

lemma hasColumn_toTable_of_declared (hc : e.columns ≠ []) (k : String) :
    (toTable schemas name e).schema.hasColumn k = e.columns.any fun c => Text.sameName c k := by
  rw [Bool.eq_iff_iff, TableSchema.hasColumn, List.any_eq_true, List.any_eq_true]
  simp [toTable, TableSchema.ofColumns, hc]

lemma forall_key_tableRow {row : List (String × Json)} {P : String → Prop} :
    (∀ kv ∈ tableRow row, P kv.1) ↔ ∀ kj ∈ row, P kj.1 := by
  have h := @exists_key_tableRow row fun k => ¬P k
  simpa only [not_exists, not_and, not_not] using not_congr h

variable {schemas name e}

/-- Where the table can be written out, its rows show those of the entry, in order. -/
lemma rows_of_toCommonTable {table : CommonTable}
    (h : (toTable schemas name e).toCommonTable = .ok table) (hrows : e.rows ≠ []) :
    ∃ rows, table = ⟨(toTable schemas name e).target.name,
        (toTable schemas name e).schema.columns, .values { rows }⟩ ∧
      List.Forall₂ (Shows (toTable schemas name e).schema.columns) e.rows rows := by
  have hc : (toTable schemas name e).schema.columns ≠ [] := (toCommonTable_eq_ok h).1
  have hknown : ∀ row ∈ e.rows, ∀ kj ∈ row,
      (toTable schemas name e).schema.hasColumn kj.1 = true := by
    intro row hrow kj hkj
    by_contra hno
    obtain ⟨k, reason, herror⟩ := (toCommonTable_eq_columnResolution_iff hc).mpr
      ⟨tableRow row, List.mem_map_of_mem hrow,
        exists_key_tableRow (P := fun k => TableSchema.hasColumn _ k = false).mpr
          ⟨kj, hkj, by simpa using hno⟩⟩
    rw [h] at herror
    cases herror
  have hwritten : ∀ row ∈ (toTable schemas name e).rows, ∀ kv ∈ row,
      (toTable schemas name e).schema.hasColumn kv.1 = true := by
    rw [rows_toTable, List.forall_mem_map]
    intro row hrow
    exact (forall_key_tableRow (P := fun k => TableSchema.hasColumn _ k = true)).mpr
      (hknown row hrow)
  have hempty : (toTable schemas name e).rows.isEmpty = false := by simpa [rows_toTable] using hrows
  rw [toCommonTable_of_known hc hwritten, hempty, rows_toTable, List.map_map] at h
  cases h
  refine ⟨_, rfl, List.forall₂_map_right_iff.mpr (List.forall₂_same.mpr fun row hrow => ?_)⟩
  exact shows_map_cell fun kj hkj => List.any_eq_true.mp (hknown row hrow kj hkj)

/-- **Tables of a fixture file.** The table of an entry without declared columns can be written out
unless it is left without any column. Whatever table is written out with rows has one list of cells
for each row of the entry, which shows it. The table of an entry with declared columns fails at a
column exactly if some row has a key that none of them names. -/
theorem toCommonTable_toTable (schemas : List TableSchema) {f : FixtureFile} {name : String}
    {e : FixtureEntry} (h : (name, e) ∈ f.tables) :
    let t := toTable schemas name e
    t ∈ f.toTables schemas ∧
    (e.columns = [] → ∀ error, t.toCommonTable = .error error ↔ t.schema.columns = [] ∧
      error = .missingOperand ("fixture for '" ++ name ++ "' declares no columns")) ∧
    (∀ table, t.toCommonTable = .ok table → e.rows ≠ [] →
      ∃ rows, table = ⟨t.target.name, t.schema.columns, .values { rows }⟩ ∧
        List.Forall₂ (Shows t.schema.columns) e.rows rows) ∧
    (e.columns ≠ [] → ((∃ k reason, t.toCommonTable = .error (.columnResolution k reason)) ↔
      ∃ row ∈ e.rows, ∃ kj ∈ row, ∀ c ∈ e.columns, Text.sameName c kj.1 = false)) := by
  intro t
  refine ⟨List.mem_map.mpr ⟨_, h, rfl⟩, fun hnone error => ?_, fun table ht hrows => ?_,
    fun hdeclared => ?_⟩
  · by_cases hc : t.schema.columns = []
    · rw [toCommonTable_without_columns hc, Except.error.injEq, and_iff_right hc, eq_comm]
      rfl
    · have hknown : ∀ row ∈ t.rows, ∀ kv ∈ row, t.schema.hasColumn kv.1 = true := by
        rw [rows_toTable, List.forall_mem_map]
        intro row hrow
        exact (forall_key_tableRow (P := fun k => t.schema.hasColumn k = true)).mpr fun kj hkj =>
          hasColumn_toTable_of_undeclared schemas name e hnone hrow hkj
      simp [toCommonTable_of_known hc hknown, hc]
  · exact rows_of_toCommonTable ht hrows
  · have hc : t.schema.columns ≠ [] := by
      obtain ⟨c, hmem⟩ := List.exists_mem_of_ne_nil _ hdeclared
      have hcolumn : t.schema.hasColumn c = true := by
        rw [hasColumn_toTable_of_declared schemas name e hdeclared, List.any_eq_true]
        exact ⟨c, hmem, Text.sameName_refl c⟩
      rintro hnil
      simp [TableSchema.hasColumn, hnil] at hcolumn
    have hkeys : ∀ row, (∃ kv ∈ tableRow row, t.schema.hasColumn kv.1 = false) ↔
        ∃ kj ∈ row, ∀ c ∈ e.columns, Text.sameName c kj.1 = false := by
      intro row
      rw [exists_key_tableRow (P := fun k => t.schema.hasColumn k = false)]
      simp [t, hasColumn_toTable_of_declared schemas name e hdeclared]
    rw [toCommonTable_eq_columnResolution_iff hc, rows_toTable]
    simp only [List.mem_map, exists_exists_and_eq_and, hkeys]

/-- One entry extends the columns of a collected schema, in which its keys are spelled differently.
The other declares columns, and a row has a key that is none of them. -/
theorem toCommonTable_toTable_extended :
    let users : FixtureEntry :=
      ⟨[], [[("Id", .num (.int 1))], [("name", .str "B"), ("id", .num (.int 2))]]⟩
    let orders : FixtureEntry := ⟨["id"], [[("ID", .null)], [("note", .null)]]⟩
    let f : FixtureFile := ⟨[("orders", orders), ("users", users)]⟩
    let schemas : List TableSchema := [⟨"public.users", ["id", "email"]⟩]
    let columns := ["id", "email", "name"]
    ("users", users) ∈ f.tables ∧ ("orders", orders) ∈ f.tables ∧
      (∃ rows, (toTable schemas "users" users).toCommonTable =
          .ok ⟨"users", columns, .values { rows }⟩ ∧
        List.Forall₂ (Shows columns) users.rows rows) ∧
      ∃ k reason, (toTable schemas "orders" orders).toCommonTable =
        .error (.columnResolution k reason) := by
  intro users orders f schemas columns
  have husers : ("users", users) ∈ f.tables := by simp [f]
  have horders : ("orders", orders) ∈ f.tables := by simp [f]
  have hcolumns : (toTable schemas "users" users).schema.columns = columns := by decide +kernel
  have hname : (toTable schemas "users" users).target.name = "users" := by decide +kernel
  obtain ⟨-, herror, hrows, -⟩ := toCommonTable_toTable schemas husers
  obtain ⟨-, -, -, hunknown⟩ := toCommonTable_toTable schemas horders
  refine ⟨husers, horders, ?_, (hunknown (by simp [orders])).mpr ?_⟩
  · cases htable : (toTable schemas "users" users).toCommonTable with
    | error e =>
      have hnil := ((herror rfl e).mp htable).1
      simp [hcolumns, columns] at hnil
    | ok table =>
      obtain ⟨rows, rfl, hshows⟩ := hrows table htable (by simp [users])
      rw [hcolumns] at hshows
      exact ⟨rows, by rw [hcolumns, hname], hshows⟩
  · have hnote : Text.sameName "id" "note" = false := by decide
    exact ⟨[("note", .null)], by simp [orders], ("note", .null), by simp,
      by simpa [orders] using hnote⟩

end FixtureFile

end SqlLoom
