import SqlLoom.Statement

/-! Flat results as nested JSON. A mapping is a tree of entities that pick columns, and the
projection is one expression that builds their objects from a derived table. -/
namespace SqlLoom

inductive ResultFormat where
  /-- One array of all rows. -/
  | array
  /-- One object, from the first row. -/
  | single
  deriving DecidableEq, Repr

structure JsonEntity where
  id : String
  name : String
  /-- Without a parent the entity hangs off the root. -/
  parentId : Option String := none
  /-- The key under which the parent object holds the entity. -/
  propertyName : Option String := none
  /-- Pairs of JSON key and column. -/
  columns : List (String × String)
  deriving DecidableEq, Repr

structure JsonMapping where
  rootName : String
  root : JsonEntity
  nested : List JsonEntity := []
  format : ResultFormat := .array
  deriving DecidableEq, Repr

namespace JsonMapping

def parentOf (m : JsonMapping) (e : JsonEntity) : String := e.parentId.getD m.root.id

def children (m : JsonMapping) (id : String) : List JsonEntity :=
  m.nested.filter fun e => e.id != id && m.parentOf e == id

def ids (m : JsonMapping) : List String := m.root.id :: m.nested.map (·.id)

/-- A parent that no entity has, or a missing property name. -/
def entityFault (m : JsonMapping) (e : JsonEntity) : Option Error :=
  if !m.ids.contains (m.parentOf e) then some (.unknownParent e.id (m.parentOf e))
  else if e.propertyName.isNone then some (.missingPropertyName e.id)
  else none

/-- The ids reached from those given, following children `n` times. -/
def reachWithin (m : JsonMapping) : Nat → List String → List String
  | 0, known => known
  | n + 1, known =>
    reachWithin m n (Text.distinct (known ++ known.flatMap fun id => (m.children id).map (·.id)))

def reached (m : JsonMapping) : List String := m.reachWithin m.nested.length [m.root.id]

/-- Every parent exists, every nested entity has a property name, and all are reached from the
root. -/
def validate (m : JsonMapping) : Result Unit :=
  match m.nested.findSome? m.entityFault with
  | some e => .error e
  | none =>
    match m.nested.find? fun e => !m.reached.contains e.id with
    | some orphan => .error (.unknownParent orphan.id (m.parentOf orphan))
    | none => .ok ()

/-- The columns of an entity and of all below it, `levels` deep. -/
def columnsWithin (m : JsonMapping) : Nat → JsonEntity → List String
  | 0, e => e.columns.map (·.2)
  | n + 1, e => e.columns.map (·.2) ++ (m.children e.id).flatMap (columnsWithin m n)

end JsonMapping

/-- Which functions build the objects, and whether a single object is cut off by a limit. -/
structure Projection where
  useJsonb : Bool := true
  limitSingle : Bool := true
  deriving DecidableEq, Repr

namespace Projection

def function (p : Projection) (suffix : String) : String :=
  (if p.useJsonb then "jsonb_" else "json_") ++ suffix

def subColumn (column : String) : Expr := .column (some "_sub") column

/-- `NULL` for an entity all of whose columns are null, its own and those below it. -/
def guard (columns : List String) (object : Expr) : Expr :=
  match Expr.all ((Text.distinct columns).map fun c => .isNull (subColumn c) false) with
  | some allNull => .case none [(allNull, .null)] (some object)
  | none => object

/-- The object of an entity with its children, `levels` deep. -/
def object (p : Projection) (m : JsonMapping) : Nat → JsonEntity → Expr
  | 0, e =>
    .apply (p.function "build_object")
      (e.columns.flatMap fun (key, column) => [.string key, subColumn column])
  | n + 1, e =>
    .apply (p.function "build_object")
      ((e.columns.flatMap fun (key, column) => [.string key, subColumn column]) ++
        (m.children e.id).flatMap fun child =>
          [.string (child.propertyName.getD child.name),
            guard (m.columnsWithin n child) (object p m n child)])

/-- Wraps a query into one select of the projected document. -/
def build (p : Projection) (m : JsonMapping) (s : Statement) : Result Statement := do
  m.validate
  let object := p.object m m.nested.length m.root
  let (value, limit) := match m.format with
    | .array => (Expr.apply (p.function "agg") [object], none)
    | .single => (object, if p.limitSingle then some (Expr.number "1") else none)
  return .select
    { items := [{ value, aliasName := some m.rootName }]
      froms := [.derived s "_sub"]
      limit }

end Projection

end SqlLoom
