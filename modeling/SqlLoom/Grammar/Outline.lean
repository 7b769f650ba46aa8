import SqlLoom.Grammar.Printer
import SqlLoom.Statement.Outline

/-! Joins that have no place in a statement, spelled out with the name and the place of every part.
Of a query inside a condition, clauses that are kept as text are left out. -/
namespace SqlLoom.Grammar.Outline

open SqlLoom.Outline (tagged listed record perhaps flag)

def position (p : Position) : String :=
  "Location(" ++ toString p.line ++ "," ++ toString p.column ++ ")"

def span (s : Span) : String := "Span(" ++ position s.start ++ ".." ++ position s.stop ++ ")"

def quoteMark (c : Char) : String := if c = '\'' then "'\\''" else String.ofList ['\'', c, '\'']

def ident (i : Ident) : String :=
  record "Ident" [("value", Text.quoted i.value), ("quote_style", perhaps (i.quote.map quoteMark)),
    ("span", span i.span)]

def idents (is : List Ident) : String := listed (is.map ident)

def objectName (parts : List Ident) : String := tagged "ObjectName" (idents parts)

def stringName : Quotation → String
  | .single => "SingleQuotedString"
  | .double => "DoubleQuotedString"
  | .national => "NationalStringLiteral"
  | .escaped => "EscapedStringLiteral"
  | .unicode => "UnicodeStringLiteral"
  | .hex => "HexStringLiteral"
  | .byte => "SingleQuotedByteStringLiteral"
  | .byteDouble => "DoubleQuotedByteStringLiteral"
  | .verbatim => "SingleQuotedRawStringLiteral"
  | .verbatimDouble => "DoubleQuotedRawStringLiteral"
  | .verbatimTriple => "TripleSingleQuotedRawStringLiteral"
  | .verbatimTripleDouble => "TripleDoubleQuotedRawStringLiteral"

def value : Value → String
  | .null => "Null"
  | .bool b => tagged "Boolean" (flag b)
  | .number t long => tagged "Number" (Text.quoted t ++ ", " ++ flag long)
  | .string kind s => tagged (stringName kind) (Text.quoted s)
  | .dollarString tag s =>
    tagged "DollarQuotedString" (record "DollarQuotedString"
      [("value", Text.quoted s), ("tag", perhaps (tag.map Text.quoted))])
  | .placeholder s => tagged "Placeholder" (Text.quoted s)

def binaryOp : BinaryOp → String
  | .concat => "StringConcat"
  | op => SqlLoom.Outline.binaryOp op

/-- A token as it is named where its text alone would not do. -/
def token : Token → String
  | .symbol "<<" => "ShiftLeft"
  | .symbol ">>" => "ShiftRight"
  | .symbol "&&" => "Overlap"
  | .symbol "#" => "Sharp"
  | .symbol "!" => "ExclamationMark"
  | .symbol "^@" => "CaretAt"
  | .symbol "*" => "Mul"
  | .symbol ")" => "RParen"
  | .word w none =>
    tagged "Word" (record "Word" [("value", Text.quoted w), ("quote_style", "None"),
      ("keyword", Keyword.ofName w)])
  | t => t.text

def located (t : Located) : String :=
  record "TokenWithSpan" [("token", token t.token),
    ("span", span ⟨t.position.getD ⟨0, 0⟩, t.stop⟩)]

def castFormat : CastFormat → String
  | ⟨v, none⟩ => tagged "Value" (value v)
  | ⟨v, some zone⟩ => tagged "ValueAtTimeZone" (value v ++ ", " ++ value zone)

def treatment : Option Bool → String
  | some distinct => tagged "Some" (if distinct then "Distinct" else "All")
  | none => "None"

def nullTreatment (respected : Bool) : String :=
  if respected then "RespectNulls" else "IgnoreNulls"

def documentNulls (absent : Bool) : String := if absent then "AbsentOnNull" else "NullOnNull"

def quantifier : Quantifier → String
  | .none => "None"
  | .all => "All"
  | .distinct => "Distinct"
  | .byName => "ByName"
  | .allByName => "AllByName"
  | .distinctByName => "DistinctByName"

def aliasColumn (c : Ident × String) : String :=
  record "TableAliasColumnDef" [("name", ident c.1),
    ("data_type", perhaps (if c.2.isEmpty then none else some c.2))]

def tableAlias (a : TableAlias) : String :=
  record "TableAlias" [("name", ident a.name), ("columns", listed (a.columns.map aliasColumn))]

def tableAlias? (a : Option TableAlias) : String := perhaps (a.map tableAlias)

def starOptions (star : Located) : String :=
  record "WildcardAdditionalOptions" [("wildcard_token", located star), ("opt_ilike", "None"),
    ("opt_exclude", "None"), ("opt_except", "None"), ("opt_replace", "None"),
    ("opt_rename", "None")]

def materialization (s : String) : String :=
  match s with
  | "MATERIALIZED" => "Some(Materialized)"
  | "NOT MATERIALIZED" => "Some(NotMaterialized)"
  | _ => "None"

/-- `ROW` or `ROWS` behind an offset. -/
def offsetUnit (s : String) : String :=
  match s with
  | " ROW" => "Row"
  | " ROWS" => "Rows"
  | _ => "None"

def joinName : JoinOperator → String
  | .inner => "Inner"
  | .leftOuter => "LeftOuter"
  | .rightOuter => "RightOuter"
  | .fullOuter => "FullOuter"
  | .cross => "CrossJoin"
  | .crossApply => "CrossApply"
  | .outerApply => "OuterApply"
  | .leftSemi => "LeftSemi"
  | .rightSemi => "RightSemi"
  | .leftAnti => "LeftAnti"
  | .rightAnti => "RightAnti"
  | .semi => "Semi"
  | .anti => "Anti"
  | .asOf => "AsOf"

/-- The operator of a join around the outlines of its condition and of what rows are near. -/
def operator (op : JoinOperator) (condition nearest : String) : String :=
  match op with
  | .cross | .crossApply | .outerApply => joinName op
  | .asOf => record "AsOf" [("match_condition", nearest), ("constraint", condition)]
  | op => tagged (joinName op) condition

mutual

def expr : Expr → String
  | .ident i => tagged "Identifier" (ident i)
  | .compound parts => tagged "CompoundIdentifier" (idents parts)
  | .wildcard star => tagged "Wildcard" (located star)
  | .qualifiedWildcard q star =>
    tagged "QualifiedWildcard" (objectName q ++ ", " ++ located star)
  | .value v => tagged "Value" (value v)
  | .binary l op r => record "BinaryOp" [("left", expr l), ("op", binaryOp op), ("right", expr r)]
  | .like e p negated caseless any escape =>
    record (if caseless then "ILike" else "Like") [("negated", flag negated), ("any", flag any),
      ("expr", expr e), ("pattern", expr p), ("escape_char", perhaps (escape.map Text.quoted))]
  | .unary op e => record "UnaryOp" [("op", SqlLoom.Outline.unaryOp op), ("expr", expr e)]
  | .call c => tagged "Function" (call c)
  | .case o bs e =>
    record "Case" [("operand", expr? o), ("conditions", listed (conditions bs)),
      ("results", listed (results bs)), ("else_result", expr? e)]
  | .subquery q => tagged "Subquery" (query q)
  | .exists q negated => record "Exists" [("subquery", query q), ("negated", flag negated)]
  | .inList e es negated =>
    record "InList" [("expr", expr e), ("list", listed (exprs es)), ("negated", flag negated)]
  | .inSubquery e q negated =>
    record "InSubquery" [("expr", expr e), ("subquery", query q), ("negated", flag negated)]
  | .between e l h negated =>
    record "Between" [("expr", expr e), ("negated", flag negated), ("low", expr l),
      ("high", expr h)]
  | .isNull e negated => tagged (if negated then "IsNotNull" else "IsNull") (expr e)
  | .cast e _ type short format =>
    record "Cast" [("kind", if short then "DoubleColon" else "Cast"), ("expr", expr e),
      ("data_type", shape type), ("format", perhaps (format.map castFormat))]
  | .nested e => tagged "Nested" (expr e)
  | .tuple es => tagged "Tuple" (listed (exprs es))
  | .array es named =>
    tagged "Array" (record "Array" [("elem", listed (exprs es)), ("named", flag named)])
  | .raw _ s => shape s

def exprs : List Expr → List String
  | [] => []
  | e :: es => expr e :: exprs es

def expr? : Option Expr → String
  | some e => tagged "Some" (expr e)
  | none => "None"

def shape : Shape → String
  | .text s => s
  | .string s => Text.quoted s
  | .ident i => ident i
  | .value v => value v
  | .expr e => expr e
  | .call c => call c
  | .tagged name parts => tagged name (Text.commaList (shapes parts))
  | .record name parts => name ++ " \x7b " ++ Text.commaList (shapes parts) ++ " \x7d"
  | .field name s => name ++ ": " ++ shape s
  | .list items => listed (shapes items)

def shapes : List Shape → List String
  | [] => []
  | s :: ss => shape s :: shapes ss

def conditions : List (Expr × Expr) → List String
  | [] => []
  | (c, _) :: bs => expr c :: conditions bs

def results : List (Expr × Expr) → List String
  | [] => []
  | (_, r) :: bs => expr r :: results bs

def call : Call → String
  | ⟨name, braced, parameters, as, grouping, filter, nulls, w⟩ =>
    record "Function" [("name", objectName name), ("uses_odbc_syntax", flag braced),
      ("parameters", args parameters), ("args", args as), ("filter", expr? filter),
      ("null_treatment", perhaps (nulls.map nullTreatment)), ("over", window w),
      ("within_group", listed (orderItems grouping))]

def args : Args → String
  | .none => "None"
  | .query q => tagged "Subquery" (query q)
  | .list distinct as clauses =>
    tagged "List" (record "FunctionArgumentList" [("duplicate_treatment", treatment distinct),
      ("args", listed (argList as)), ("clauses", listed (argClauses clauses))])

def argList : List Arg → List String
  | [] => []
  | .expr e :: as => tagged "Unnamed" (tagged "Expr" (expr e)) :: argList as
  | .wildcard :: as => tagged "Unnamed" "Wildcard" :: argList as
  | .qualified q :: as => tagged "Unnamed" (tagged "QualifiedWildcard" (objectName q)) :: argList as
  | .named _ s :: as => shape s :: argList as

def argClauses : List ArgClause → List String
  | [] => []
  | .nulls respected :: cs =>
    tagged "IgnoreOrRespectNulls" (nullTreatment respected) :: argClauses cs
  | .order items :: cs => tagged "OrderBy" (listed (orderItems items)) :: argClauses cs
  | .limit e :: cs => tagged "Limit" (expr e) :: argClauses cs
  | .overflowError :: cs => tagged "OnOverflow" "Error" :: argClauses cs
  | .overflowTruncate filler counted :: cs =>
    tagged "OnOverflow" (record "Truncate" [("filler", expr? filler),
      ("with_count", flag counted)]) :: argClauses cs
  | .having greatest e :: cs =>
    tagged "Having" (tagged "HavingBound" ((if greatest then "Max, " else "Min, ") ++ expr e)) ::
      argClauses cs
  | .separator v :: cs => tagged "Separator" (value v) :: argClauses cs
  | .documentNulls absent :: cs => tagged "JsonNullClause" (documentNulls absent) :: argClauses cs

def window : Option Window → String
  | none => "None"
  | some (.named n) => tagged "Some" (tagged "NamedWindow" (ident n))
  | some (.spec base ps os f) =>
    tagged "Some" (tagged "WindowSpec" (record "WindowSpec"
      [("window_name", perhaps (base.map ident)), ("partition_by", listed (exprs ps)),
        ("order_by", listed (orderItems os)), ("window_frame", frame f)]))

def orderItems : List OrderItem → List String
  | [] => []
  | ⟨e, ascending, nullsFirst, filled, first, last, step⟩ :: os =>
    record "OrderByExpr" [("expr", expr e), ("asc", perhaps (ascending.map flag)),
      ("nulls_first", perhaps (nullsFirst.map flag)),
      ("with_fill", perhaps (if filled then some (record "WithFill" [("from", expr? first),
        ("to", expr? last), ("step", expr? step)]) else none))] :: orderItems os

def frame : Option Frame → String
  | none => "None"
  | some ⟨mode, start, stop⟩ =>
    tagged "Some" (record "WindowFrame" [("units", SqlLoom.Outline.frameMode mode),
      ("start_bound", bound start), ("end_bound", bound? stop)])

def bound : Bound → String
  | .currentRow => "CurrentRow"
  | .preceding e => tagged "Preceding" (expr? e)
  | .following e => tagged "Following" (expr? e)

def bound? : Option Bound → String
  | some b => tagged "Some" (bound b)
  | none => "None"

def selectItems : List SelectItem → List String
  | [] => []
  | .expr e none :: is => tagged "UnnamedExpr" (expr e) :: selectItems is
  | .expr e (some a) :: is =>
    record "ExprWithAlias" [("expr", expr e), ("alias", ident a)] :: selectItems is
  | .wildcard star _ :: is => tagged "Wildcard" (starOptions star) :: selectItems is
  | .qualifiedWildcard q star _ :: is =>
    tagged "QualifiedWildcard" (objectName q ++ ", " ++ starOptions star) :: selectItems is

def factor : Factor → String
  | .table name _ as ordinality a _ =>
    record "Table" [("name", objectName name), ("alias", tableAlias? a), ("args", tableArgs as),
      ("with_hints", "[]"), ("version", "None"), ("with_ordinality", flag !ordinality.isEmpty),
      ("partitions", "[]"), ("json_path", "None")]
  | .derived lateral q a =>
    record "Derived" [("lateral", flag lateral), ("subquery", query q), ("alias", tableAlias? a)]
  | .function e a => record "TableFunction" [("expr", expr e), ("alias", tableAlias? a)]
  | .joined t a =>
    record "NestedJoin" [("table_with_joins", tableWithJoins t), ("alias", tableAlias? a)]
  | .other s a after => s ++ TableAlias.suffix a ++ after

def tableArgs : Option TableArgs → String
  | none => "None"
  | some ⟨as, _⟩ =>
    tagged "Some" (record "TableFunctionArgs" [("args", listed (argList as)), ("settings", "None")])

def constraint : Constraint → String
  | .on e => tagged "On" (expr e)
  | .using is => tagged "Using" (idents is)
  | .natural => "Natural"
  | .none => "None"

def nearestRow : Option Expr → String
  | some e => expr e
  | none => ""

def joins : List Join → List String
  | [] => []
  | ⟨op, r, c, global, nearest⟩ :: js =>
    record "Join" [("relation", factor r), ("global", flag global),
      ("join_operator", operator op (constraint c) (nearestRow nearest))] :: joins js

def tableWithJoins : TableWithJoins → String
  | ⟨r, js⟩ => record "TableWithJoins" [("relation", factor r), ("joins", listed (joins js))]

def tables : List TableWithJoins → List String
  | [] => []
  | t :: ts => tableWithJoins t :: tables ts

def distinctness : Option Distinct → String
  | none => "None"
  | some .plain => "Some(Distinct)"
  | some (.on es) => tagged "Some" (tagged "On" (listed (exprs es)))

def grouping : GroupBy → String
  | .all _ => tagged "All" "[]"
  | .exprs es _ => tagged "Expressions" (listed (exprs es) ++ ", []")

def select : Select → String
  | ⟨opening, d, _, is, _, ts, _, f, g, _, h, _, _⟩ =>
    record "Select" [("select_token", located opening), ("distinct", distinctness d),
      ("top", "None"), ("top_before_distinct", "false"), ("projection", listed (selectItems is)),
      ("into", "None"), ("from", listed (tables ts)), ("lateral_views", "[]"),
      ("prewhere", "None"), ("selection", expr? f), ("group_by", grouping g),
      ("cluster_by", "[]"), ("distribute_by", "[]"), ("sort_by", "[]"), ("having", expr? h),
      ("named_window", "[]"), ("qualify", "None"), ("window_before_qualify", "false"),
      ("value_table_mode", "None"), ("connect_by", "None")]

def rows : List (List Expr) → List String
  | [] => []
  | r :: rs => listed (exprs r) :: rows rs

def setExpr : SetExpr → String
  | .select s => tagged "Select" (select s)
  | .query q => tagged "Query" (query q)
  | .setOp l op q r =>
    record "SetOperation" [("op", SqlLoom.Outline.setOperator op),
      ("set_quantifier", quantifier q), ("left", setExpr l), ("right", setExpr r)]
  | .values explicitRow rs =>
    tagged "Values" (record "Values" [("explicit_row", flag explicitRow),
      ("rows", listed (rows rs))])
  | .other s => s

def commonTables : List CommonTable → List String
  | [] => []
  | ⟨a, materialized, q, closing, after⟩ :: ts =>
    record "Cte" [("alias", tableAlias a), ("query", query q), ("from", perhaps (after.map ident)),
      ("materialized", materialization materialized), ("closing_paren_token", located closing)] ::
        commonTables ts

def withClause : Option With → String
  | none => "None"
  | some ⟨opening, recursive, ts⟩ =>
    tagged "Some" (record "With" [("with_token", located opening), ("recursive", flag recursive),
      ("cte_tables", listed (commonTables ts))])

def offset (unit : String) : Option Expr → String
  | none => "None"
  | some e =>
    tagged "Some" (record "Offset" [("value", expr e), ("rows", offsetUnit unit)])

def query : Query → String
  | ⟨w, b, os, _, l, o, unit, _⟩ =>
    record "Query" [("with", withClause w), ("body", setExpr b),
      ("order_by", if os.isEmpty then "None" else
        tagged "Some" (record "OrderBy" [("exprs", listed (orderItems os)),
          ("interpolate", "None")])),
      ("limit", expr? l), ("limit_by", "[]"), ("offset", offset unit o), ("fetch", "None"),
      ("locks", "[]"), ("for_clause", "None"), ("settings", "None"), ("format_clause", "None")]

end

/-- The operator of a join with its condition. -/
def join (op : JoinOperator) (c : Constraint) (nearest : Option Expr) : String :=
  operator op (constraint c) (nearestRow nearest)

end SqlLoom.Grammar.Outline
