import SqlLoom.Grammar.Token
import SqlLoom.Statement

/-! Statements as they are read, before names, placeholders and clauses get their place in a
`Statement`. What has no place there is kept as text. -/
namespace SqlLoom.Grammar

/-- The part of a text between two positions. -/
structure Span where
  start : Position := ⟨0, 0⟩
  stop : Position := ⟨0, 0⟩
  deriving DecidableEq, Repr

/-- A name with the quote it was written in and its place; a string that stands for a name has
none. -/
structure Ident where
  value : String
  quote : Option Char := none
  span : Span := {}
  deriving DecidableEq, Repr

inductive Value where
  | null
  | bool (b : Bool)
  | number (text : String) (long : Bool)
  | string (kind : Quotation) (text : String)
  /-- `$tag$...$tag$` -/
  | dollarString (tag : Option String) (text : String)
  | placeholder (text : String)
  deriving DecidableEq, Repr

/-- How a value is read when it is cast, in a time zone perhaps. -/
structure CastFormat where
  format : Value
  zone : Option Value := none
  deriving DecidableEq, Repr

inductive TypeKind where
  | builtin | interval
  /-- A name that no built-in type has. -/
  | custom
  deriving DecidableEq, Repr

/-- The name behind a FROM entry; columns may carry a type. -/
structure TableAlias where
  name : Ident
  columns : List (Ident × String) := []
  deriving DecidableEq, Repr

inductive JoinOperator where
  | inner | leftOuter | rightOuter | fullOuter | cross | crossApply | outerApply
  | leftSemi | rightSemi | leftAnti | rightAnti | semi | anti | asOf
  deriving DecidableEq, Repr

inductive Quantifier where
  | none | all | distinct | byName | allByName | distinctByName
  deriving DecidableEq, Repr

mutual

inductive Expr where
  | ident (i : Ident)
  | compound (parts : List Ident)
  | wildcard (star : Located)
  | qualifiedWildcard (qualifier : List Ident) (star : Located)
  | value (v : Value)
  | binary (left : Expr) (op : BinaryOp) (right : Expr)
  | like (operand pattern : Expr) (negated caseless any : Bool) (escape : Option String)
  | unary (op : UnaryOp) (operand : Expr)
  | call (c : Call)
  | case (operand : Option Expr) (branches : List (Expr × Expr)) (otherwise : Option Expr)
  | subquery (q : Query)
  | exists (q : Query) (negated : Bool)
  | inList (operand : Expr) (list : List Expr) (negated : Bool)
  | inSubquery (operand : Expr) (q : Query) (negated : Bool)
  | between (operand low high : Expr) (negated : Bool)
  | isNull (operand : Expr) (negated : Bool)
  | cast (operand : Expr) (dataType : String) (type : Shape) (short : Bool)
      (format : Option CastFormat)
  | nested (inner : Expr)
  | tuple (items : List Expr)
  | array (items : List Expr) (named : Bool)
  /-- A construct that is only kept as its text and its shape. -/
  | raw (text : String) (shape : Shape)

/-- The parts of a construct under their names, for messages that spell it out. -/
inductive Shape where
  | text (s : String)
  | string (s : String)
  | ident (i : Ident)
  | value (v : Value)
  | expr (e : Expr)
  | call (c : Call)
  | tagged (name : String) (parts : List Shape)
  | record (name : String) (fields : List Shape)
  | field (name : String) (part : Shape)
  | list (items : List Shape)

structure Call where
  name : List Ident
  /-- Whether the call is written `{fn ...}`. -/
  braced : Bool := false
  /-- A first argument list of two. -/
  parameters : Args
  args : Args
  /-- `WITHIN GROUP (...)`. -/
  grouping : List OrderItem := []
  filter : Option Expr := none
  /-- `RESPECT NULLS` is `true` and `IGNORE NULLS` is `false`. -/
  nulls : Option Bool := none
  window : Option Window := none

inductive Args where
  | none
  | query (q : Query)
  | list (treatment : Option Bool) (args : List Arg) (clauses : List ArgClause)

inductive Arg where
  | expr (e : Expr)
  | wildcard
  | qualified (qualifier : List Ident)
  /-- `name => value`. -/
  | named (text : String) (shape : Shape)

/-- What follows the arguments of a call inside its parentheses. -/
inductive ArgClause where
  | nulls (respected : Bool)
  | order (items : List OrderItem)
  | limit (e : Expr)
  | overflowError
  | overflowTruncate (filler : Option Expr) (counted : Bool)
  | having (greatest : Bool) (e : Expr)
  | separator (v : Value)
  | documentNulls (absent : Bool)

inductive Window where
  | named (name : Ident)
  | spec (base : Option Ident) (partitionBy : List Expr) (orderBy : List OrderItem)
      (frame : Option Frame)

structure OrderItem where
  value : Expr
  ascending : Option Bool
  nullsFirst : Option Bool
  /-- Whether rows are added. -/
  filled : Bool := false
  first : Option Expr := none
  last : Option Expr := none
  step : Option Expr := none

structure Frame where
  mode : FrameMode
  start : Bound
  stop : Option Bound

inductive Bound where
  | currentRow
  | preceding (offset : Option Expr)
  | following (offset : Option Expr)

inductive SelectItem where
  | expr (e : Expr) (aliasName : Option Ident)
  | wildcard (star : Located) (options : String)
  | qualifiedWildcard (qualifier : List Ident) (star : Located) (options : String)

inductive Factor where
  /-- A table, or a function if it has arguments. The texts stand behind the name, in front of the
  alias and behind it. -/
  | table (name : List Ident) (partitions : String) (args : Option TableArgs) (before : String)
      (aliasName : Option TableAlias) (after : String)
  | derived (lateral : Bool) (q : Query) (aliasName : Option TableAlias)
  | function (e : Expr) (aliasName : Option TableAlias)
  | joined (t : TableWithJoins) (aliasName : Option TableAlias)
  /-- An entry that is only kept as text, with what stands behind its alias. -/
  | other (text : String) (aliasName : Option TableAlias) (after : String)

structure TableArgs where
  args : List Arg
  /-- `SETTINGS` and what they set. -/
  settings : String := ""

inductive Constraint where
  | on (condition : Expr)
  | using (columns : List Ident)
  | natural
  | none

structure Join where
  operator : JoinOperator
  relation : Factor
  constraint : Constraint
  /-- Whether `GLOBAL` stands in front. -/
  global : Bool := false
  /-- What rows have to satisfy in a join with the nearest row. -/
  nearest : Option Expr := none

structure TableWithJoins where
  relation : Factor
  joins : List Join := []

inductive Distinct where
  | plain
  | on (columns : List Expr)

inductive GroupBy where
  | all (modifiers : String)
  | exprs (es : List Expr) (modifiers : String)

structure Select where
  /-- The word that begins the select. -/
  opening : Located
  distinct : Option Distinct := none
  top : String := ""
  items : List SelectItem
  into : String := ""
  froms : List TableWithJoins := []
  /-- What stands between the tables and `WHERE`. -/
  views : String := ""
  filter : Option Expr := none
  groupBy : GroupBy
  sorting : String := ""
  having : Option Expr := none
  /-- Whether the select defines windows. -/
  windowed : Bool := false
  tail : String := ""

inductive SetExpr where
  | select (s : Select)
  | query (q : Query)
  | setOp (left : SetExpr) (op : SetOperator) (quantifier : Quantifier) (right : SetExpr)
  | values (explicitRow : Bool) (rows : List (List Expr))
  | other (text : String)

structure CommonTable where
  aliasName : TableAlias
  /-- `MATERIALIZED` or `NOT MATERIALIZED`. -/
  materialized : String := ""
  query : Query
  closing : Located
  /-- What follows the closing parenthesis. -/
  after : Option Ident := none

structure With where
  /-- The word that begins the clause. -/
  opening : Located
  recursive : Bool
  tables : List CommonTable

structure Query where
  withClause : Option With := none
  body : SetExpr
  orderBy : List OrderItem := []
  /-- `INTERPOLATE` behind the order. -/
  interpolation : String := ""
  limit : Option Expr := none
  offset : Option Expr := none
  /-- `ROW` or `ROWS` behind the offset. -/
  offsetUnit : String := ""
  tail : String := ""

end

namespace Shape

/-- Parts under their names. -/
def fields (name : String) (parts : List (String × Shape)) : Shape :=
  .record name (parts.map fun (k, s) => .field k s)

def perhaps : Option Shape → Shape
  | some s => .tagged "Some" [s]
  | none => .text "None"

def expr? (e : Option Expr) : Shape := perhaps (e.map Shape.expr)

def exprs (es : List Expr) : Shape := .list (es.map Shape.expr)

def number (n : Nat) : Shape := .text (toString n)

def number? (n : Option Nat) : Shape := perhaps (n.map number)

def flag (b : Bool) : Shape := .text (if b then "true" else "false")

def objectName (parts : List Ident) : Shape := .tagged "ObjectName" [.list (parts.map Shape.ident)]

def castFormat : CastFormat → Shape
  | ⟨v, none⟩ => .tagged "Value" [.value v]
  | ⟨v, some zone⟩ => .tagged "ValueAtTimeZone" [.value v, .value zone]

def cast (kind : String) (e : Expr) (type : Shape) (format : Option CastFormat) : Shape :=
  fields "Cast" [("kind", .text kind), ("expr", .expr e), ("data_type", type),
    ("format", perhaps (format.map castFormat))]

end Shape

structure DataType where
  text : String
  kind : TypeKind := .builtin
  shape : Shape

/-- A text with the shape of what it spells. -/
structure Piece where
  text : String
  shape : Shape

namespace Piece

def expr (p : Piece) : Expr := .raw p.text p.shape

def type (p : Piece) : DataType := { text := p.text, shape := p.shape }

end Piece

inductive Target where
  | column (name : List Ident)
  | tuple (names : List (List Ident))

structure Assignment where
  target : Target
  value : Expr

structure Insert where
  /-- Everything in front of the table. -/
  head : String
  table : List Ident
  tableAlias : Option Ident := none
  columns : List Ident := []
  partition : String := ""
  source : Option Query
  /-- Everything between the source and RETURNING. -/
  tail : String := ""
  returning : List SelectItem := []

structure Update where
  /-- What stands between `UPDATE` and the table. -/
  conflict : String := ""
  table : TableWithJoins
  assignments : List Assignment
  source : Option TableWithJoins := none
  filter : Option Expr := none
  returning : List SelectItem := []

structure Delete where
  froms : List TableWithJoins
  usings : List TableWithJoins := []
  filter : Option Expr := none
  returning : List SelectItem := []

structure CreateTable where
  /-- The text up to the table's name. -/
  head : String
  name : List Ident
  temporary : Bool
  ifNotExists : Bool
  columns : List (Ident × String) := []
  query : Option Query := none

inductive Statement where
  | query (q : Query)
  | insert (i : Insert)
  | update (u : Update)
  | delete (d : Delete)
  | createTable (c : CreateTable)
  /-- A statement known by the first words of its text only. -/
  | other (text : String)

instance : Inhabited Expr := ⟨.tuple []⟩
instance : Inhabited SetExpr := ⟨.other ""⟩
instance : Inhabited Query := ⟨{ body := default }⟩

end SqlLoom.Grammar
