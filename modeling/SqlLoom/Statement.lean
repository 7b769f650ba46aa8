import SqlLoom.Error
import SqlLoom.Text

/-! Statements as trees: queries, data changes and table definitions, with the value expressions
and FROM entries inside them. -/
namespace SqlLoom

inductive BinaryOp where
  | eq | notEq | lt | ltEq | gt | gtEq
  | and | or
  | plus | minus | multiply | divide | modulo
  | like | ilike | notLike | notIlike | concat
  deriving DecidableEq, Repr

inductive UnaryOp where
  | not | minus | plus
  deriving DecidableEq, Repr

inductive SetOperator where
  | union | intersect | except
  deriving DecidableEq, Repr

inductive JoinType where
  | inner | left | right | full | cross
  deriving DecidableEq, Repr

inductive FrameMode where
  | rows | range | groups
  deriving DecidableEq, Repr

/-- A bound without a number is unbounded. -/
inductive FrameBound where
  | currentRow
  | preceding (n : Option Nat)
  | following (n : Option Nat)
  deriving DecidableEq, Repr

structure WindowFrame where
  mode : FrameMode
  start : FrameBound
  stop : Option FrameBound
  deriving DecidableEq, Repr

/-- A table name with the schema in front of it, if one is given. -/
structure QualifiedName where
  schema : Option String
  name : String
  deriving DecidableEq, Repr

structure ColumnDefinition where
  name : String
  dataType : String
  deriving DecidableEq, Repr

mutual

/-- Value expressions. -/
inductive Expr where
  | column (qualifier : Option String) (name : String)
  | literal (value : Literal)
  /-- A named placeholder, with its value once bound. -/
  | parameter (name : String) (value : Option Scalar)
  | call (name : String) (args : List Expr) (distinct : Bool) (filter : Option Expr)
      (window : Option Window)
  | binary (left : Expr) (op : BinaryOp) (right : Expr)
  | unary (op : UnaryOp) (operand : Expr)
  | tuple (items : List Expr)
  | array (items : List Expr)
  | inList (operand : Expr) (list : List Expr) (negated : Bool)
  | wildcard (qualifier : Option String)
  | case (operand : Option Expr) (branches : List (Expr × Expr)) (otherwise : Option Expr)
  | subquery (query : Statement)
  | exists (query : Statement)
  | inSubquery (operand : Expr) (query : Statement) (negated : Bool)
  | between (operand low high : Expr) (negated : Bool)
  | isNull (operand : Expr) (negated : Bool)
  /-- `CAST(x AS type)`, or `x::type` in short form. -/
  | cast (operand : Expr) (dataType : String) (short : Bool)
  /-- A pair of parentheses. -/
  | nested (inner : Expr)
  /-- SQL text that is not analysed further. -/
  | raw (text : String)

/-- What follows `OVER`: the name of a window, or a window of its own. -/
structure Window where
  name : Option String := none
  partitionBy : List Expr := []
  orderBy : List OrderItem := []
  frame : Option WindowFrame := none

structure OrderItem where
  value : Expr
  ascending : Option Bool := none
  nullsFirst : Option Bool := none

structure SelectItem where
  value : Expr
  aliasName : Option String := none

/-- An entry of a FROM clause. Whether a table is physical or a common table is a matter of
scope. -/
inductive Source where
  | table (schema : Option String) (name : String) (aliasName : Option String)
  | subquery (query : Statement) (aliasName : String) (columns : List String) (lateral : Bool)
  | function (name : String) (args : List Expr) (aliasName : Option String)

/-- `ON`, `USING` or `NATURAL`. -/
inductive JoinCondition where
  | predicate (condition : Expr)
  | shared (columns : List String)
  | natural

structure Join where
  type : JoinType
  source : Source
  condition : Option JoinCondition := none

/-- One named entry of a WITH clause. -/
structure CommonTable where
  name : String
  columns : List String := []
  body : Statement

structure WithClause where
  recursive : Bool := false
  tables : List CommonTable := []

structure Select where
  withClause : Option WithClause := none
  distinct : Bool := false
  items : List SelectItem := []
  froms : List Source := []
  joins : List Join := []
  filter : Option Expr := none
  groupBy : List Expr := []
  having : Option Expr := none
  orderBy : List OrderItem := []
  limit : Option Expr := none
  offset : Option Expr := none

/-- `left op right`; order and limits govern the whole result. -/
structure SetOperation where
  left : Statement
  op : SetOperator
  all : Bool := false
  right : Statement
  orderBy : List OrderItem := []
  limit : Option Expr := none
  offset : Option Expr := none

/-- A list of rows. Without aliases its columns are `column1`, `column2` and so on. -/
structure ValuesList where
  rows : List (List Expr)
  aliases : List String := []

inductive InsertSource where
  | rows (rows : List (List Expr))
  | query (query : Statement)

structure Insert where
  table : QualifiedName
  columns : List String := []
  source : InsertSource
  returning : List SelectItem := []

structure CreateTable where
  name : QualifiedName
  temporary : Bool := false
  ifNotExists : Bool := false
  columns : List ColumnDefinition := []
  query : Option Statement := none

structure Assignment where
  column : String
  value : Expr

structure Update where
  withClause : Option WithClause := none
  target : Source
  assignments : List Assignment := []
  froms : List Source := []
  filter : Option Expr := none
  returning : List SelectItem := []

structure Delete where
  withClause : Option WithClause := none
  target : Source
  usings : List Source := []
  filter : Option Expr := none
  returning : List SelectItem := []

inductive Statement where
  | select (s : Select)
  | setOp (b : SetOperation)
  | values (v : ValuesList)
  | insert (i : Insert)
  | createTable (c : CreateTable)
  | update (u : Update)
  | delete (d : Delete)

end

instance : Inhabited Expr := ⟨.literal .null⟩
instance : Inhabited Select := ⟨{}⟩
instance : Inhabited Statement := ⟨.select {}⟩

namespace QualifiedName

/-- Everything before the last point is the schema. -/
def parse (s : String) : QualifiedName :=
  match Text.cutLast '.' s with
  | some (schema, name) => ⟨some schema, name⟩
  | none => ⟨none, s⟩

end QualifiedName

namespace Expr

def null : Expr := .literal .null
def string (s : String) : Expr := .literal (.string s)
def number (s : String) : Expr := .literal (.number s)
def bound (name : String) (value : Scalar) : Expr := .parameter name (some value)
def apply (name : String) (args : List Expr) : Expr := .call name args false none none
def conj (a b : Expr) : Expr := .binary a .and b

/-- A left-deep conjunction. -/
def all : List Expr → Option Expr
  | [] => none
  | e :: es => some (es.foldl conj e)

end Expr

namespace SelectItem

/-- The name seen outside the query: the alias, or the name of a bare column. -/
def outputName (i : SelectItem) : Option String :=
  match i.aliasName, i.value with
  | some a, _ => some a
  | none, .column _ name => some name
  | none, _ => none

end SelectItem

namespace Source

def aliasName? : Source → Option String
  | .table _ _ aliasName => aliasName
  | .subquery _ aliasName _ _ => some aliasName
  | .function _ _ aliasName => aliasName

/-- The name that qualifies columns of the entry. -/
def referenceName : Source → String
  | .table _ name aliasName => aliasName.getD name
  | .subquery _ aliasName _ _ => aliasName
  | .function name _ aliasName => aliasName.getD name

def derived (query : Statement) (aliasName : String) : Source := .subquery query aliasName [] false

/-- Whether a qualifier names the entry: its alias if it has one, else its name with or without
the schema. -/
def answersTo (qualifier : String) : Source → Bool
  | .table schema name none =>
    Text.sameName name qualifier ||
      (match schema with
        | some s => Text.sameName (s ++ "." ++ name) qualifier
        | none => false)
  | s => Text.sameName s.referenceName qualifier

end Source

namespace Select

/-- Every FROM entry, joined ones included, in order. -/
def sources (s : Select) : List Source := s.froms ++ s.joins.map (·.source)

end Select

namespace Statement

/-- The first select of a chain of set operations. -/
def leftmost? : Statement → Option Select
  | .select s => some s
  | .setOp ⟨left, _, _, _, _, _, _⟩ => left.leftmost?
  | _ => none

/-- Replaces the first select of a chain of set operations. -/
def mapLeftmost (f : Select → Select) : Statement → Statement
  | .select s => .select (f s)
  | .setOp ⟨left, op, all, right, orderBy, limit, offset⟩ =>
    .setOp ⟨left.mapLeftmost f, op, all, right, orderBy, limit, offset⟩
  | s => s

/-- The WITH clauses of the selects of a set operation, from left to right. -/
def operandWiths : Statement → List WithClause
  | .select s => s.withClause.toList
  | .setOp ⟨left, _, _, right, _, _, _⟩ => left.operandWiths ++ right.operandWiths
  | _ => []

end Statement

end SqlLoom
