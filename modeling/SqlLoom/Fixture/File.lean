import SqlLoom.Fixture

/-! Fixtures written as a JSON object: for each table its rows, or its columns and its rows. -/
namespace SqlLoom

structure FixtureEntry where
  columns : List String
  rows : List (List (String × Json))

/-- Entries by table name, in increasing order. -/
structure FixtureFile where
  tables : List (String × FixtureEntry)

namespace FixtureFile

def readRows? : Json → Option (List (List (String × Json)))
  | .arr items => items.mapM fun
    | .obj members => some (Json.mergeMembers (Json.mergedMembers members))
    | _ => none
  | _ => none

def readNames? : Json → Option (List String)
  | .arr items => items.mapM fun
    | .str s => some s
    | _ => none
  | _ => none

/-- Rows, or columns and rows as an object or as a pair. -/
def readEntry? : Json → Option FixtureEntry
  | .obj members => do
    if Json.repeats "columns" members || Json.repeats "rows" members then none
    else
      let columns ← match Json.lookup "columns" members with
        | some j => readNames? j
        | none => some []
      let rows ← readRows? (← Json.lookup "rows" members)
      some ⟨columns, rows⟩
  | .arr [columns, rows] =>
    (readRows? (.arr [columns, rows])).map (⟨[], ·⟩) <|>
      return ⟨← readNames? columns, ← readRows? rows⟩
  | j => (readRows? j).map (⟨[], ·⟩)

def ofJson? : Json → Option FixtureFile
  | .obj members => do
    let entries ← members.mapM fun (name, j) => return (name, ← readEntry? j)
    some ⟨ColumnResolver.sortKeys entries⟩
  | _ => none

/-- The columns of the collected schema, and after them the further names the rows use. -/
def extendColumns (columns names : List String) : List String :=
  names.foldl
    (fun cs n => if cs.any fun c => Text.sameName c n then cs else cs ++ [n]) columns

def isSchemaOf (name : String) (s : TableSchema) : Bool :=
  Text.sameName s.name name || Text.sameName (QualifiedName.parse s.name).name name

def toTable (schemas : List TableSchema) (name : String) (e : FixtureEntry) : FixtureTable :=
  let rows : List FixtureRow :=
    e.rows.map fun row => ColumnResolver.sortKeys (row.map fun (k, j) => (k, Scalar.ofJson j))
  let used := rows.flatMap fun row => row.map (·.1)
  let columns :=
    if !e.columns.isEmpty then e.columns
    else
      match schemas.find? (isSchemaOf name) with
      | some s => extendColumns s.columns used
      | none => used
  ⟨.ofColumns name columns, rows⟩

/-- Columns are those declared, or those of the collected schema, or those the rows use. -/
def toTables (schemas : List TableSchema) (f : FixtureFile) : List FixtureTable :=
  f.tables.map fun (name, e) => toTable schemas name e

end FixtureFile

end SqlLoom
