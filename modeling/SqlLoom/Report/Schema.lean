import SqlLoom.Report.Outputs
import SqlLoom.Walk

/-! The physical tables of a statement with the columns it reads from or writes to them. -/
namespace SqlLoom.Report

/-- Adds a column at its place in increasing order. -/
def insertColumn (column : String) : List String → List String
  | [] => [column]
  | c :: cs =>
    if column < c then column :: c :: cs
    else if c = column then c :: cs
    else c :: insertColumn column cs

/-- Adds columns to the entry of a table; entries stand in increasing order of their keys. -/
def touch (key : String) (columns : List String) :
    List (String × List String) → List (String × List String)
  | [] => [(key, columns.foldl (fun cs c => insertColumn c cs) [])]
  | (k, cs) :: rest =>
    if key < k then (key, columns.foldl (fun cs c => insertColumn c cs) []) :: (k, cs) :: rest
    else if k = key then (k, columns.foldl (fun cs c => insertColumn c cs) cs) :: rest
    else (k, cs) :: touch key columns rest

def tableKey (schema : Option String) (name : String) : String :=
  match schema with
  | some s => s ++ "." ++ name
  | none => name

structure SchemaState where
  tables : List (String × List String) := []
  /-- The output aliases of every open query, the innermost first. -/
  aliases : List (List String) := []
  failure : Option Error := none

namespace SchemaState

def record (st : SchemaState) (schema : Option String) (name : String) (columns : List String) :
    SchemaState :=
  { st with tables := touch (tableKey schema name) columns st.tables }

def recordIn (st : SchemaState) (r : Relation) (column : String) : SchemaState :=
  match r with
  | .physical schema name => st.record schema name [column]
  | _ => st

/-- Only the first failure counts. -/
def fail (st : SchemaState) (e : Error) : SchemaState := { st with failure := st.failure <|> some e }

/-- Whether an entry is known to expose a column. -/
def declares (x : Outlook) (column : String) (r : ResolvedSource) : Bool :=
  let columns : Option (List String) := match r.relation with
    | .physical schema name => x.resolver.bind fun res => res.table schema name
    | .function => none
    | relation => (x.ofRelation r.source relation).toOption
  match columns with
  | some cs => cs.any fun c => Text.sameName c column
  | none => false

def sourceList (rs : List ResolvedSource) : String :=
  Text.commaList (rs.map (·.source.referenceName))

/-- An unqualified column: with several entries in scope, the one that declares it owns it. -/
def bareColumn (x : Outlook) (name : String) (st : SchemaState) : SchemaState :=
  match x.scopes.currentSources with
  | [] => st
  | [only] => st.recordIn only.relation name
  | rs =>
    match rs.filter (declares x name) with
    | [owner] => st.recordIn owner.relation name
    | [] =>
      st.fail (.columnResolution name ("no source among " ++ sourceList rs ++ " declares it"))
    | _ => st.fail (.columnResolution name ("ambiguous between " ++ sourceList rs))

/-- An entry of ORDER BY that is a bare output alias reads the projection and no table. -/
def isAliasReference (role : Role) (name : String) (st : SchemaState) : Bool :=
  role == .ordering && (st.aliases.headD []).any fun a => Text.sameName a name

def column (x : Outlook) (role : Role) (qualifier : Option String) (name : String)
    (st : SchemaState) : SchemaState :=
  match qualifier with
  | some q =>
    match x.scopes.resolveQualifier q 0 with
    | some r => st.recordIn r.relation name
    | none => st
  | none => if st.isAliasReference role name then st else bareColumn x name st

/-- All columns of an entry under a wildcard. Only physical tables have any here. -/
def wildcardOver (x : Outlook) (st : SchemaState) (r : ResolvedSource) : Result SchemaState :=
  match r.relation with
  | .physical schema name => do
    let columns ← x.physical schema name r.source.referenceName
    return st.record schema name columns
  | _ => .ok st

def wildcardItem (x : Outlook) (st : SchemaState) (i : SelectItem) : Result SchemaState :=
  match i.value with
  | .wildcard qualifier =>
    (x.scopes.currentSources.filter fun r =>
      match qualifier with
      | some q => r.source.answersTo q
      | none => true).foldlM (wildcardOver x) st
  | _ => .ok st

/-- The wildcards of a select, up to the first that fails. -/
def wildcards (x : Outlook) (st : SchemaState) : List SelectItem → SchemaState
  | [] => st
  | i :: is =>
    match wildcardItem x st i with
    | .ok st => wildcards x st is
    | .error e => st.fail e

def step (resolver : Option ColumnResolver) (st : SchemaState) : Event → SchemaState
  | .enter .query _ => { st with aliases := [] :: st.aliases }
  | .leave .query _ => { st with aliases := st.aliases.tail }
  | .statement (.insert i) _ => st.record i.table.schema i.table.name i.columns
  | .statement (.update u) sc =>
    match u.target with
    | .table schema name _ =>
      if schema.isNone && (sc.resolveTable name).isSome then st
      else st.record schema name (u.assignments.map (·.column))
    | _ => st
  | .select s sc =>
    wildcards { resolver, scopes := sc }
      { st with aliases := s.items.filterMap SelectItem.aliasName :: st.aliases.tail } s.items
  | .source s sc =>
    match sc.relation s with
    | .physical schema name => st.record schema name []
    | _ => st
  | .value role (.column qualifier name) sc => column { resolver, scopes := sc } role qualifier name st
  | _ => st

end SchemaState

/-- Every physical table with its columns in increasing order, keyed by `schema.table` or by the
bare name. -/
def schemas (resolver : Option ColumnResolver) (s : Statement) : Result (List TableSchema) :=
  let st := s.trace.reverse.foldl (SchemaState.step resolver) {}
  match st.failure with
  | some e => .error e
  | none => .ok (st.tables.map fun (name, columns) => .ofColumns name columns)

end SqlLoom.Report
