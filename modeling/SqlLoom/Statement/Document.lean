import SqlLoom.Layout

/-! Statements as JSON documents. Every node is an object that one key tells apart from the others,
and a field that is null, false or an empty array is left out. -/
namespace SqlLoom

namespace Document

def isBlank : Json → Bool
  | .null | .bool false | .arr [] => true
  | _ => false

/-- Fields that always stand, and others that stand unless they are blank. -/
def record (always others : List (String × Json)) : Json :=
  .obj (always ++ others.filter fun f => !isBlank f.2)

def name? : Option String → Json
  | some s => .str s
  | none => .null

def names (xs : List String) : Json := .arr (xs.map .str)

def count (n : Nat) : Json := .num (.int n)

def scalar : Scalar → Json
  | .null => .null
  | .bool b => .bool b
  | .int n => .num (.int n)
  | .text s => .str s
  | .float x => .obj [("float", .str x.plainText)]
  | .date d => .obj [("date", .str d.text)]
  | .timestamp t => .obj [("ts", .str t.offsetText)]
  | .json j => .obj [("json", j)]

def literal : Literal → Json
  | .null => .null
  | .bool b => .bool b
  | .string s => .str s
  | .number t => .obj [("num", .str t)]

def unaryOp : UnaryOp → String
  | .not => "NOT"
  | .minus => "-"
  | .plus => "+"

def setOperator : SetOperator → String
  | .union => "UNION"
  | .intersect => "INTERSECT"
  | .except => "EXCEPT"

def joinType : JoinType → String
  | .inner => "INNER"
  | .left => "LEFT"
  | .right => "RIGHT"
  | .full => "FULL"
  | .cross => "CROSS"

/-- A bound without a number is unbounded. -/
def offset : Option Nat → Json
  | some n => count n
  | none => .null

def bound : FrameBound → Json
  | .currentRow => .str "current"
  | .preceding n => .obj [("preceding", offset n)]
  | .following n => .obj [("following", offset n)]

def frame : Option WindowFrame → Json
  | none => .null
  | some f =>
    record [("mode", .str (Layout.modeText f.mode)), ("start", bound f.start)]
      [("end", match f.stop with
        | some b => bound b
        | none => .null)]

def qualifiedName (q : QualifiedName) : Json :=
  record [("name", .str q.name)] [("schema", name? q.schema)]

def definition (c : ColumnDefinition) : Json :=
  .obj [("name", .str c.name), ("type", .str c.dataType)]

/-- The key of an expression's object. -/
def tag : Expr → String
  | .column _ _ => "col"
  | .literal _ => "lit"
  | .parameter _ _ => "param"
  | .call _ _ _ _ _ => "fn"
  | .binary _ _ _ => "bin"
  | .unary _ _ => "un"
  | .tuple _ => "tuple"
  | .array _ => "array"
  | .inList _ _ _ => "in"
  | .wildcard _ => "star"
  | .case _ _ _ => "case"
  | .subquery _ => "subq"
  | .exists _ => "exists"
  | .inSubquery _ _ _ => "insub"
  | .between _ _ _ _ => "between"
  | .isNull _ _ => "isnull"
  | .cast _ _ _ => "cast"
  | .nested _ => "nested"
  | .raw _ => "raw"

/-- The key of a statement's object. -/
def label : Statement → String
  | .select _ => "select"
  | .setOp _ => "binary"
  | .values _ => "values"
  | .insert _ => "insert"
  | .createTable _ => "create"
  | .update _ => "update"
  | .delete _ => "delete"

/-- A flag that is left out only when it is not set at all. -/
def flag? (key : String) : Option Bool → List (String × Json)
  | some b => [(key, .bool b)]
  | none => []

mutual

def expr : Expr → Json
  | .column q n => .obj [("col", .arr [name? q, .str n])]
  | .literal l => .obj [("lit", literal l)]
  | .parameter n none => .obj [("param", .str n)]
  | .parameter n (some v) => .obj [("param", .str n), ("value", scalar v)]
  | .call n args d f w =>
    record [("fn", .str n)] [("args", .arr (exprs args)), ("distinct", .bool d),
      ("filter", expr? f), ("over", window w)]
  | .binary l op r =>
    .obj [("bin", .str (Layout.opText op)), ("l", expr l), ("r", expr r)]
  | .unary op e => .obj [("un", .str (unaryOp op)), ("v", expr e)]
  | .tuple es => .obj [("tuple", .arr (exprs es))]
  | .array es => .obj [("array", .arr (exprs es))]
  | .inList e es negated =>
    record [("in", expr e)] [("list", .arr (exprs es)), ("not", .bool negated)]
  | .wildcard q => .obj [("star", name? q)]
  | .case o bs e =>
    record [("case", expr? o)] [("when", .arr (branches bs)), ("else", expr? e)]
  | .subquery s => .obj [("subq", statement s)]
  | .exists s => .obj [("exists", statement s)]
  | .inSubquery e s negated =>
    record [("insub", expr e), ("query", statement s)] [("not", .bool negated)]
  | .between e l h negated =>
    record [("between", expr e), ("low", expr l), ("high", expr h)] [("not", .bool negated)]
  | .isNull e negated => record [("isnull", expr e)] [("not", .bool negated)]
  | .cast e type short => record [("cast", expr e), ("type", .str type)] [("short", .bool short)]
  | .nested e => .obj [("nested", expr e)]
  | .raw s => .obj [("raw", .str s)]

def exprs : List Expr → List Json
  | [] => []
  | e :: es => expr e :: exprs es

def expr? : Option Expr → Json
  | some e => expr e
  | none => .null

def branches : List (Expr × Expr) → List Json
  | [] => []
  | (c, r) :: bs => .arr [expr c, expr r] :: branches bs

def window : Option Window → Json
  | none => .null
  | some ⟨n, ps, os, f⟩ =>
    record [] [("name", name? n), ("partition", .arr (exprs ps)), ("order", .arr (orderItems os)),
      ("frame", frame f)]

def orderItems : List OrderItem → List Json
  | [] => []
  | ⟨e, ascending, nullsFirst⟩ :: os =>
    .obj (("v", expr e) :: flag? "asc" ascending ++ flag? "nulls_first" nullsFirst) ::
      orderItems os

def items : List SelectItem → List Json
  | [] => []
  | ⟨e, a⟩ :: is => record [("v", expr e)] [("alias", name? a)] :: items is

def source : Source → Json
  | .table schema n a => record [("table", .str n)] [("schema", name? schema), ("alias", name? a)]
  | .subquery s a columns lateral =>
    record [("subquery", statement s), ("alias", .str a)]
      [("columns", names columns), ("lateral", .bool lateral)]
  | .function n args a => record [("func", .str n)] [("args", .arr (exprs args)), ("alias", name? a)]

def sources : List Source → List Json
  | [] => []
  | s :: ss => source s :: sources ss

def condition : Option JoinCondition → List (String × Json)
  | none => []
  | some (.predicate e) => [("on", expr e)]
  | some (.shared columns) => [("using", names columns)]
  | some .natural => [("natural", .bool true)]

def joins : List Join → List Json
  | [] => []
  | ⟨t, s, c⟩ :: js =>
    .obj ([("type", .str (joinType t)), ("source", source s)] ++ condition c) :: joins js

def rows : List (List Expr) → List Json
  | [] => []
  | r :: rs => .arr (exprs r) :: rows rs

def tables : List CommonTable → List Json
  | [] => []
  | ⟨n, columns, body⟩ :: ts =>
    record [("name", .str n), ("body", statement body)] [("columns", names columns)] :: tables ts

def withClause : Option WithClause → Json
  | none => .null
  | some ⟨recursive, ts⟩ => record [("tables", .arr (tables ts))] [("recursive", .bool recursive)]

def assignments : List Assignment → List Json
  | [] => []
  | ⟨c, e⟩ :: as => .obj [("column", .str c), ("value", expr e)] :: assignments as

/-- The document inside that of a select. -/
def select : Select → Json
  | ⟨w, distinct, is, fs, js, f, g, h, o, l, off⟩ =>
    record [] [("with", withClause w), ("distinct", .bool distinct), ("items", .arr (items is)),
      ("from", .arr (sources fs)), ("joins", .arr (joins js)), ("where", expr? f),
      ("group_by", .arr (exprs g)), ("having", expr? h), ("order_by", .arr (orderItems o)),
      ("limit", expr? l), ("offset", expr? off)]

def statement : Statement → Json
  | .select s => .obj [("select", select s)]
  | .setOp ⟨left, op, all, right, o, l, off⟩ =>
    .obj [("binary", record [("left", statement left), ("op", .str (setOperator op)),
      ("right", statement right)]
      [("all", .bool all), ("order_by", .arr (orderItems o)), ("limit", expr? l),
        ("offset", expr? off)])]
  | .values ⟨rs, aliases⟩ =>
    .obj [("values", record [] [("rows", .arr (rows rs)), ("aliases", names aliases)])]
  | .insert ⟨table, columns, .rows rs, returning⟩ =>
    .obj [("insert", record [("table", qualifiedName table)]
      [("columns", names columns), ("rows", .arr (rows rs)),
        ("returning", .arr (items returning))])]
  | .insert ⟨table, columns, .query q, returning⟩ =>
    .obj [("insert", record [("table", qualifiedName table), ("query", statement q)]
      [("columns", names columns), ("returning", .arr (items returning))])]
  | .createTable ⟨n, temporary, ifNotExists, columns, q⟩ =>
    .obj [("create", record [("name", qualifiedName n)]
      [("temporary", .bool temporary), ("if_not_exists", .bool ifNotExists),
        ("columns", .arr (columns.map definition)), ("as", statement? q)])]
  | .update ⟨w, t, as, fs, f, returning⟩ =>
    .obj [("update", record [("target", source t)]
      [("with", withClause w), ("set", .arr (assignments as)), ("from", .arr (sources fs)),
        ("where", expr? f), ("returning", .arr (items returning))])]
  | .delete ⟨w, t, us, f, returning⟩ =>
    .obj [("delete", record [("target", source t)]
      [("with", withClause w), ("using", .arr (sources us)), ("where", expr? f),
        ("returning", .arr (items returning))])]

def statement? : Option Statement → Json
  | some s => statement s
  | none => .null

end

end Document

namespace Statement

def toJson (s : Statement) : Json := Document.statement s

end Statement

end SqlLoom
