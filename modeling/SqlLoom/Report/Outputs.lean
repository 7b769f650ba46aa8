import SqlLoom.Columns
import SqlLoom.Scope

/-! The column names that statements and FROM entries expose, with wildcards expanded. A table
name means a common table met on the way down, and else one of the scopes around. -/
namespace SqlLoom

/-- What names can be looked up in. -/
structure Outlook where
  resolver : Option ColumnResolver := none
  scopes : Scopes := []

namespace Outlook

def positionalNames (count : Nat) : List String :=
  (List.range count).map fun i => "column" ++ toString (i + 1)

def itemNames (items : List SelectItem) : List String := items.filterMap SelectItem.outputName

def valuesNames (v : ValuesList) : List String :=
  if v.aliases.isEmpty then positionalNames (v.rows.head?.map List.length |>.getD 0)
  else v.aliases

def tooDeep : Error := .columnResolution "*" "wildcard expansion nests too deeply"

def unknownTable (referenceName table : String) : Error :=
  .columnResolution (referenceName ++ ".*") ("resolver has no columns for table '" ++ table ++ "'")

def physical (x : Outlook) (schema : Option String) (name referenceName : String) :
    Result (List String) :=
  match x.resolver with
  | none => .error (.unresolvedWildcard (some referenceName))
  | some r =>
    match r.table schema name with
    | some columns => .ok columns
    | none => .error (unknownTable referenceName name)

def lookup (x : Outlook) (env : List CommonTable) (name : String) : Option CommonTable :=
  (env.find? fun t => Text.sameName t.name name) <|> x.scopes.resolveTable name

/-- How the outputs of a nested statement are found, given the tables around it. -/
abbrev Descent := List CommonTable → Statement → Result (List String)

def commonTable (body : Descent) (env : List CommonTable) (t : CommonTable) :
    Result (List String) :=
  if t.columns.isEmpty then body env t.body else .ok t.columns

/-- The outputs of an entry; `query` serves its own query and `body` that of a common table. -/
def source (x : Outlook) (query body : Descent) (env : List CommonTable) :
    Source → Result (List String)
  | .table none name a =>
    match x.lookup env name with
    | some t => commonTable body env t
    | none => x.physical none name (a.getD name)
  | .table (some schema) name a => x.physical (some schema) name (a.getD name)
  | .subquery q _ columns _ => if columns.isEmpty then query env q else .ok columns
  | .function _ _ _ => .ok []

/-- The entries that a wildcard covers. -/
def covered (qualifier : Option String) (ss : List Source) : List Source :=
  match qualifier with
  | some q => ss.filter (·.answersTo q)
  | none => ss

/-- The names of one select item. -/
def item (x : Outlook) (query body : Descent) (env : List CommonTable) (ss : List Source)
    (i : SelectItem) : Result (List String) :=
  match i.value with
  | .wildcard qualifier => do
    let parts ← (covered qualifier ss).mapM (x.source query body env)
    return parts.flatten
  | _ => .ok i.outputName.toList

def select (x : Outlook) (query body : Descent) (env : List CommonTable) (s : Select) :
    Result (List String) := do
  let parts ← s.items.mapM (x.item query body env s.sources)
  return parts.flatten

/-- The nearest table comes first. -/
def extend (env : List CommonTable) : Option WithClause → List CommonTable
  | some w => w.tables.reverse ++ env
  | none => env

def step (x : Outlook) (query body : Descent) (env : List CommonTable) :
    Statement → Result (List String)
  | .select s => x.select query body (extend env s.withClause) s
  | .setOp b => query env b.left
  | .values v => .ok (valuesNames v)
  | .insert i => .ok (itemNames i.returning)
  | .update u => .ok (itemNames u.returning)
  | .delete d => .ok (itemNames d.returning)
  | .createTable _ => .ok []

/-- Statements are followed up to a depth; a common table counts for two levels. -/
def statement (x : Outlook) : Nat → Descent
  | 0 => fun _ _ => .error tooDeep
  | 1 => x.step (fun _ _ => .error tooDeep) (fun _ _ => .error tooDeep)
  | n + 2 => x.step (statement x (n + 1)) (statement x n)

def depthLimit : Nat := 65

/-- The outputs of an entry whose meaning is known. -/
def ofRelation (x : Outlook) (s : Source) : Relation → Result (List String)
  | .physical schema name => x.physical schema name s.referenceName
  | .common t => commonTable (x.statement (depthLimit - 1)) [] t
  | .subquery q columns => if columns.isEmpty then x.statement depthLimit [] q else .ok columns
  | .function => .ok []

/-- The outputs of a select with the tables around it, the nearest first. -/
def ofSelect (x : Outlook) (s : Select) (env : List CommonTable) : Result (List String) :=
  x.select (x.statement (depthLimit - 1)) (x.statement (depthLimit - 2)) (extend env s.withClause) s

end Outlook

end SqlLoom
