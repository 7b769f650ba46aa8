import SqlLoom.Statement

/-! What is known of the columns of physical tables: a caller's answers, and schemas collected from
a statement. -/
namespace SqlLoom

/-- The columns of a physical table, in order, if the table is known. -/
abbrev ColumnResolver := String → Option (List String)

/-- A table with its columns, in order and without repeats. -/
structure TableSchema where
  name : String
  columns : List String
  deriving DecidableEq, Repr

namespace ColumnResolver

/-- Puts a key at its place in increasing order, in the stead of an equal one. -/
def insertSorted (key : String) (value : α) : List (String × α) → List (String × α)
  | [] => [(key, value)]
  | (k, v) :: rest =>
    if key < k then (key, value) :: (k, v) :: rest
    else if k = key then (k, value) :: rest
    else (k, v) :: insertSorted key value rest

def sortKeys (entries : List (String × α)) : List (String × α) :=
  entries.foldl (fun kept (k, v) => insertSorted k v kept) []

/-- Answers from a map: the very key, or else the first key that agrees up to ASCII case, in
increasing order. -/
def ofMap (entries : List (String × List String)) : ColumnResolver :=
  let sorted := sortKeys entries
  fun table =>
    Json.lookup table sorted <|> (sorted.find? fun (k, _) => Text.sameName k table).map (·.2)

/-- Answers for the very key only. -/
def exact (entries : List (String × List String)) : ColumnResolver :=
  fun table => Json.lookup table entries

/-- Looks for `schema.name` first, and then for the bare name. -/
def table (r : ColumnResolver) (schema : Option String) (name : String) : Option (List String) :=
  (schema.bind fun s => r (s ++ "." ++ name)) <|> r name

end ColumnResolver

namespace TableSchema

def ofColumns (name : String) (columns : List String) : TableSchema :=
  ⟨name, Text.distinct columns⟩

def hasColumn (s : TableSchema) (column : String) : Bool :=
  s.columns.any fun c => Text.sameName c column

end TableSchema

end SqlLoom
