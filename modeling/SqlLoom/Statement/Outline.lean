import SqlLoom.Statement
import SqlLoom.Text.Printable

/-! A statement spelled out with the name of every part, for messages about an expression that stands
where it cannot. -/
namespace SqlLoom.Outline

def tagged (name inner : String) : String := name ++ "(" ++ inner ++ ")"

def listed (parts : List String) : String := "[" ++ Text.commaList parts ++ "]"

def record (name : String) (fields : List (String × String)) : String :=
  name ++ " \x7b " ++ Text.commaList (fields.map fun (k, v) => k ++ ": " ++ v) ++ " \x7d"

def perhaps : Option String → String
  | some s => tagged "Some" s
  | none => "None"

def flag (b : Bool) : String := if b then "true" else "false"

def name? (s : Option String) : String := perhaps (s.map Text.quoted)

def names (xs : List String) : String := listed (xs.map Text.quoted)

def literal : Literal → String
  | .null => "Null"
  | .bool b => tagged "Boolean" (flag b)
  | .number t => tagged "Number" (Text.quoted t)
  | .string s => tagged "String" (Text.quoted s)

def binaryOp : BinaryOp → String
  | .eq => "Eq"
  | .notEq => "NotEq"
  | .lt => "Lt"
  | .ltEq => "LtEq"
  | .gt => "Gt"
  | .gtEq => "GtEq"
  | .and => "And"
  | .or => "Or"
  | .plus => "Plus"
  | .minus => "Minus"
  | .multiply => "Multiply"
  | .divide => "Divide"
  | .modulo => "Modulo"
  | .like => "Like"
  | .ilike => "ILike"
  | .notLike => "NotLike"
  | .notIlike => "NotILike"
  | .concat => "Concat"

def unaryOp : UnaryOp → String
  | .not => "Not"
  | .minus => "Minus"
  | .plus => "Plus"

def setOperator : SetOperator → String
  | .union => "Union"
  | .intersect => "Intersect"
  | .except => "Except"

def joinType : JoinType → String
  | .inner => "Inner"
  | .left => "Left"
  | .right => "Right"
  | .full => "Full"
  | .cross => "Cross"

def frameMode : FrameMode → String
  | .rows => "Rows"
  | .range => "Range"
  | .groups => "Groups"

def frameBound : FrameBound → String
  | .currentRow => "CurrentRow"
  | .preceding n => tagged "Preceding" (perhaps (n.map toString))
  | .following n => tagged "Following" (perhaps (n.map toString))

def frame (f : WindowFrame) : String :=
  record "WindowFrame" [("mode", frameMode f.mode), ("start", frameBound f.start),
    ("end", perhaps (f.stop.map frameBound))]

def qualifiedName (q : QualifiedName) : String :=
  record "QualifiedName" [("schema", name? q.schema), ("name", Text.quoted q.name)]

def definition (c : ColumnDefinition) : String :=
  record "ColumnDefinition" [("name", Text.quoted c.name), ("data_type", Text.quoted c.dataType)]

mutual

def expr : Expr → String
  | .column q n => record "Column" [("qualifier", name? q), ("name", Text.quoted n)]
  | .literal l => tagged "Literal" (literal l)
  | .parameter n v =>
    record "Parameter" [("name", Text.quoted n), ("value", perhaps (v.map fun x => x.display))]
  | .call n args distinct filter w =>
    record "Function" [("name", Text.quoted n), ("args", listed (exprs args)),
      ("distinct", flag distinct), ("filter", expr? filter), ("over", window w)]
  | .binary l op r =>
    record "Binary" [("left", expr l), ("op", binaryOp op), ("right", expr r)]
  | .unary op e => record "Unary" [("op", unaryOp op), ("operand", expr e)]
  | .tuple es => tagged "Tuple" (listed (exprs es))
  | .array es => tagged "Array" (listed (exprs es))
  | .inList e es negated =>
    record "InList" [("expr", expr e), ("list", listed (exprs es)), ("negated", flag negated)]
  | .wildcard q => record "Wildcard" [("qualifier", name? q)]
  | .case o bs e =>
    record "Case" [("operand", expr? o), ("branches", listed (branches bs)),
      ("else_value", expr? e)]
  | .subquery s => tagged "Subquery" (statement s)
  | .exists s => tagged "Exists" (statement s)
  | .inSubquery e s negated =>
    record "InSubquery" [("expr", expr e), ("query", statement s), ("negated", flag negated)]
  | .between e l h negated =>
    record "Between" [("expr", expr e), ("low", expr l), ("high", expr h),
      ("negated", flag negated)]
  | .isNull e negated => record "IsNull" [("expr", expr e), ("negated", flag negated)]
  | .cast e type short =>
    record "Cast" [("expr", expr e), ("data_type", Text.quoted type), ("shorthand", flag short)]
  | .nested e => tagged "Nested" (expr e)
  | .raw s => tagged "Raw" (Text.quoted s)

def exprs : List Expr → List String
  | [] => []
  | e :: es => expr e :: exprs es

def expr? : Option Expr → String
  | some e => tagged "Some" (expr e)
  | none => "None"

def branches : List (Expr × Expr) → List String
  | [] => []
  | (c, r) :: bs => ("(" ++ expr c ++ ", " ++ expr r ++ ")") :: branches bs

def window : Option Window → String
  | none => "None"
  | some ⟨n, ps, os, f⟩ =>
    tagged "Some" (record "WindowSpec" [("name", name? n), ("partition_by", listed (exprs ps)),
      ("order_by", listed (orderItems os)), ("frame", perhaps (f.map frame))])

def orderItems : List OrderItem → List String
  | [] => []
  | ⟨e, ascending, nullsFirst⟩ :: os =>
    record "OrderByItem" [("value", expr e), ("asc", perhaps (ascending.map flag)),
      ("nulls_first", perhaps (nullsFirst.map flag))] :: orderItems os

def items : List SelectItem → List String
  | [] => []
  | ⟨e, a⟩ :: is => record "SelectItem" [("value", expr e), ("alias", name? a)] :: items is

def source : Source → String
  | .table schema n a =>
    record "Table" [("schema", name? schema), ("name", Text.quoted n), ("alias", name? a)]
  | .subquery s a columns lateral =>
    record "Subquery" [("query", statement s), ("alias", Text.quoted a), ("columns", names columns),
      ("lateral", flag lateral)]
  | .function n args a =>
    record "Function" [("name", Text.quoted n), ("args", listed (exprs args)), ("alias", name? a)]

def sources : List Source → List String
  | [] => []
  | s :: ss => source s :: sources ss

def condition : Option JoinCondition → String
  | none => "None"
  | some (.predicate e) => tagged "Some" (tagged "On" (expr e))
  | some (.shared columns) => tagged "Some" (tagged "Using" (names columns))
  | some .natural => tagged "Some" "Natural"

def joins : List Join → List String
  | [] => []
  | ⟨t, s, c⟩ :: js =>
    record "Join" [("join_type", joinType t), ("source", source s), ("condition", condition c)] ::
      joins js

def rows : List (List Expr) → List String
  | [] => []
  | r :: rs => listed (exprs r) :: rows rs

def tables : List CommonTable → List String
  | [] => []
  | ⟨n, columns, body⟩ :: ts =>
    record "CommonTable" [("name", Text.quoted n), ("columns", names columns),
      ("body", statement body)] :: tables ts

def withClause : Option WithClause → String
  | none => "None"
  | some ⟨recursive, ts⟩ =>
    tagged "Some" (record "WithClause" [("recursive", flag recursive),
      ("tables", listed (tables ts))])

def assignments : List Assignment → List String
  | [] => []
  | ⟨c, e⟩ :: as =>
    record "Assignment" [("column", Text.quoted c), ("value", expr e)] :: assignments as

def statement? : Option Statement → String
  | some s => tagged "Some" (statement s)
  | none => "None"

def statement : Statement → String
  | .select ⟨w, distinct, is, fs, js, f, g, h, o, l, off⟩ =>
    tagged "Select" (record "SimpleSelect" [("with", withClause w), ("distinct", flag distinct),
      ("items", listed (items is)), ("from", listed (sources fs)), ("joins", listed (joins js)),
      ("filter", expr? f), ("group_by", listed (exprs g)), ("having", expr? h),
      ("order_by", listed (orderItems o)), ("limit", expr? l), ("offset", expr? off)])
  | .setOp ⟨left, op, all, right, o, l, off⟩ =>
    tagged "Binary" (record "BinarySelect" [("left", statement left), ("op", setOperator op),
      ("all", flag all), ("right", statement right), ("order_by", listed (orderItems o)),
      ("limit", expr? l), ("offset", expr? off)])
  | .values ⟨rs, aliases⟩ =>
    tagged "Values" (record "ValuesQuery" [("rows", listed (rows rs)),
      ("column_aliases", names aliases)])
  | .insert ⟨table, columns, .rows rs, returning⟩ =>
    tagged "Insert" (record "InsertStatement" [("table", qualifiedName table),
      ("columns", names columns), ("source", tagged "Values" (listed (rows rs))),
      ("returning", listed (items returning))])
  | .insert ⟨table, columns, .query q, returning⟩ =>
    tagged "Insert" (record "InsertStatement" [("table", qualifiedName table),
      ("columns", names columns), ("source", tagged "Query" (statement q)),
      ("returning", listed (items returning))])
  | .createTable ⟨n, temporary, ifNotExists, columns, q⟩ =>
    tagged "CreateTable" (record "CreateTableStatement" [("name", qualifiedName n),
      ("temporary", flag temporary), ("if_not_exists", flag ifNotExists),
      ("columns", listed (columns.map definition)), ("as_query", statement? q)])
  | .update ⟨w, t, as, fs, f, returning⟩ =>
    tagged "Update" (record "UpdateStatement" [("with", withClause w), ("target", source t),
      ("assignments", listed (assignments as)), ("from", listed (sources fs)),
      ("filter", expr? f), ("returning", listed (items returning))])
  | .delete ⟨w, t, us, f, returning⟩ =>
    tagged "Delete" (record "DeleteStatement" [("with", withClause w), ("target", source t),
      ("using", listed (sources us)), ("filter", expr? f), ("returning", listed (items returning))])

end

end SqlLoom.Outline
