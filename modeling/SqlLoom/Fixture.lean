import SqlLoom.Columns
import SqlLoom.Render
import SqlLoom.Statement.Sources

/-! Literal rows in place of tables. A fixture becomes a common table in front of a statement, and
references to the physical table then mean the common table. -/
namespace SqlLoom

/-- A row by column name, in increasing order of the names. -/
abbrev FixtureRow := List (String × Scalar)

structure FixtureTable where
  schema : TableSchema
  rows : List FixtureRow

namespace FixtureTable

/-- One row of nulls. -/
def nullRow (schema : TableSchema) : FixtureTable := ⟨schema, [[]]⟩

def target (f : FixtureTable) : QualifiedName := .parse f.schema.name

/-- The value of a column: under the very name, or else under the first that agrees up to case. -/
def cell (row : FixtureRow) (column : String) : Expr :=
  match Json.lookup column row <|> (row.find? fun (k, _) => Text.sameName k column).map (·.2) with
  | some v => .literal v.toLiteral
  | none => .null

/-- The cells of a row in the order of the columns. Every name of the row must be a column. -/
def cells (f : FixtureTable) (row : FixtureRow) : Result (List Expr) :=
  match row.find? fun (k, _) => !f.schema.hasColumn k with
  | some (k, _) =>
    .error (.columnResolution k
      ("fixture column is not part of table '" ++ f.schema.name ++ "'"))
  | none => .ok (f.schema.columns.map (cell row))

/-- A query with the columns and no row. -/
def emptyBody (columns : List String) : Statement :=
  .select
    { items := columns.map fun c => { value := .null, aliasName := some c }
      filter := some (.binary (.number "1") .eq (.number "0")) }

/-- The common table that stands for the fixture. -/
def toCommonTable (f : FixtureTable) : Result CommonTable :=
  let columns := f.schema.columns
  if columns.isEmpty then
    .error (.missingOperand ("fixture for '" ++ f.schema.name ++ "' declares no columns"))
  else if f.rows.isEmpty then .ok ⟨f.target.name, columns, emptyBody columns⟩
  else do
    let rows ← f.rows.mapM f.cells
    return ⟨f.target.name, columns, .values { rows }⟩

end FixtureTable

namespace Fixture

def toWith (fs : List FixtureTable) : Result WithClause := do
  let tables ← fs.mapM FixtureTable.toCommonTable
  WithClause.ofTables tables

/-- The fixtures as a WITH clause of their own. -/
def withText (quoteNames : Bool) (fs : List FixtureTable) : Result String := do
  let w ← toWith fs
  return w.format { quoteNames }

/-- Whether a reference with a schema means the table of a fixture. -/
def shadows (schema name : String) (target : QualifiedName) : Bool :=
  Text.sameName target.name name && target.schema.all (Text.sameName · schema)

/-- Takes the schema from a reference to a fixture's table. -/
def dropSchema (targets : List QualifiedName) : Source → Source
  | .table (some schema) name a =>
    .table (if targets.any (shadows schema name) then none else some schema) name a
  | s => s

/-- Puts one common table for each fixture in front of the others. A fixture whose name the
statement defines itself is left out. -/
def inject (fs : List FixtureTable) (s : Statement) : Result Statement :=
  if fs.isEmpty then .ok s
  else
    match s.withSlot? with
    | none => .error (.unsupported "fixtures need a statement with a query")
    | some slot => do
      let fs := fs.filter fun f => !slot.any fun w => (w.get? f.target.name).isSome
      let tables ← fs.mapM FixtureTable.toCommonTable
      if tables.isEmpty then .ok s
      else
        match WithClause.prepend tables (slot.getD {}) with
        | .error e _ => .error e
        | .ok _ w => .ok ((s.setWith w).mapSources (dropSchema (fs.map FixtureTable.target)))

/-- One row of nulls for each table, so that the shape of a statement can be checked. -/
def injectNulls (schemas : List TableSchema) (s : Statement) : Result Statement :=
  inject (schemas.map .nullRow) s

end Fixture

end SqlLoom
