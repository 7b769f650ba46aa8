import SqlLoom.Statement

/-! Lexical scopes, innermost first. A name means the nearest visible common table, and only then
a physical table. -/
namespace SqlLoom

inductive ScopeKind where
  | withClause | commonTable | query | subquery
  deriving DecidableEq, Repr

inductive Frame where
  /-- A WITH clause, of which the first `visible` tables can be named. -/
  | tables (all : List CommonTable) (visible : Nat)
  /-- The body of a common table. -/
  | body (name : String)
  /-- The FROM entries of a query, or the target of a data change with its other entries. -/
  | query (sources : List Source)
  /-- A derived table or a query inside an expression. -/
  | subquery (name : Option String)

abbrev Scopes := List Frame

/-- What a FROM entry refers to. -/
inductive Relation where
  | physical (schema : Option String) (name : String)
  | common (table : CommonTable)
  | subquery (query : Statement) (columns : List String)
  | function

/-- A visible common table together with its place: how many frames lie below its clause, and
its index in the clause. -/
structure TablePlace where
  depth : Nat
  index : Nat
  table : CommonTable

/-- A FROM entry found from inside a query. -/
structure ResolvedSource where
  source : Source
  relation : Relation
  /-- The number of query frames that were passed over. -/
  distance : Nat

namespace Frame

def kind : Frame → ScopeKind
  | .tables _ _ => .withClause
  | .body _ => .commonTable
  | .query _ => .query
  | .subquery _ => .subquery

def name? : Frame → Option String
  | .body name => some name
  | .subquery name => name
  | _ => none

def isTables (f : Frame) : Bool := f.kind == .withClause

end Frame

namespace Scopes

def kind? (sc : Scopes) : Option ScopeKind := sc.head?.map Frame.kind

/-- How many bodies of common tables lie around. -/
def tableNesting (sc : Scopes) : Nat := sc.countP (·.kind == .commonTable)

/-- The name of the nearest frame of a kind. -/
def enclosingName (kind : ScopeKind) (sc : Scopes) : Option String :=
  (sc.find? (·.kind == kind)).bind Frame.name?

/-- Whether the innermost frame is a query with nothing but WITH clauses around it. -/
def atRootQuery (sc : Scopes) : Bool :=
  (sc.filter fun f => !f.isTables).length == 1 && sc.kind? == some .query

/-- Makes the first `count` tables of the nearest WITH clause visible. -/
def setVisible (count : Nat) : Scopes → Scopes
  | [] => []
  | .tables all _ :: below => .tables all (min count all.length) :: below
  | f :: below => f :: setVisible count below

def findIn (name : String) (index : Nat) : List CommonTable → Option (Nat × CommonTable)
  | [] => none
  | t :: ts => if Text.sameName t.name name then some (index, t) else findIn name (index + 1) ts

/-- The nearest visible common table of a name. -/
def findTable (name : String) : Scopes → Option TablePlace
  | [] => none
  | .tables all visible :: below =>
    match findIn name 0 (all.take visible) with
    | some (index, table) => some ⟨below.length, index, table⟩
    | none => findTable name below
  | _ :: below => findTable name below

def resolveTable (name : String) (sc : Scopes) : Option CommonTable :=
  (sc.findTable name).map (·.table)

/-- What an entry refers to from here. A name with a schema is always physical. -/
def relation (sc : Scopes) : Source → Relation
  | .table none name _ =>
    match sc.resolveTable name with
    | some t => .common t
    | none => .physical none name
  | .table (some schema) name _ => .physical (some schema) name
  | .subquery query _ columns _ => .subquery query columns
  | .function _ _ _ => .function

/-- The entry a qualifier names, in the innermost query first. -/
def resolveQualifier (qualifier : String) (distance : Nat) : Scopes → Option ResolvedSource
  | [] => none
  | .query sources :: below =>
    match sources.find? (·.answersTo qualifier) with
    | some s => some ⟨s, Scopes.relation below s, distance⟩
    | none => resolveQualifier qualifier (distance + 1) below
  | _ :: below => resolveQualifier qualifier distance below

/-- The entries of the innermost query. -/
def currentSources : Scopes → List ResolvedSource
  | [] => []
  | .query sources :: below => sources.map fun s => ⟨s, Scopes.relation below s, 0⟩
  | _ :: below => currentSources below

end Scopes

end SqlLoom
