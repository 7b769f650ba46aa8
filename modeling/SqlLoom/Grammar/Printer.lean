import SqlLoom.Grammar.Tree
import SqlLoom.Layout

/-! The canonical text of what has been read: one blank around infix operators, keywords in upper
case, a comma and a blank between the entries of a list. -/
namespace SqlLoom.Grammar

namespace Quoting

/-- Writes a quote twice unless it is escaped already, by a backslash or by another quote. -/
def escape (quote : Char) : Bool → List Char → List Char
  | _, [] => []
  | backslashed, [c] => if c = quote && !backslashed then [c, c] else [c]
  | backslashed, c :: d :: rest =>
    if c = quote then
      if backslashed then c :: escape quote true (d :: rest)
      else if d = quote then c :: d :: escape quote false rest
      else c :: c :: escape quote false (d :: rest)
    else c :: escape quote (c = '\\') (d :: rest)

def escapeText (quote : Char) (s : String) : String := String.ofList (escape quote false s.toList)

/-- The inside of an `E'...'` string. -/
def escapeBackslash (s : String) : String :=
  String.ofList (s.toList.flatMap fun c =>
    match c with
    | '\'' => ['\\', '\'']
    | '\\' => ['\\', '\\']
    | '\n' => ['\\', 'n']
    | '\t' => ['\\', 't']
    | '\r' => ['\\', 'r']
    | c => [c])

def hexPadded (width n : Nat) : List Char :=
  let digits := (Nat.toDigits 16 n).map Char.toUpper
  List.replicate (width - digits.length) '0' ++ digits

/-- The inside of a `U&'...'` string. -/
def escapeUnicode (s : String) : String :=
  String.ofList (s.toList.flatMap fun c =>
    if c = '\'' then ['\'', '\'']
    else if c = '\\' then ['\\', '\\']
    else if c.toNat < 128 then [c]
    else if c.toNat ≤ 0xFFFF then '\\' :: hexPadded 4 c.toNat
    else '\\' :: '+' :: hexPadded 6 c.toNat)

/-- A string literal in its canonical form. -/
def literal (k : Quotation) (s : String) : String :=
  match k with
  | .single => k.enclose (escapeText '\'' s)
  | .double => k.enclose (escapeText '"' s)
  | .escaped => k.enclose (escapeBackslash s)
  | .unicode => k.enclose (escapeUnicode s)
  | k => k.enclose s

end Quoting

namespace Ident

def text (i : Ident) : String :=
  match i.quote with
  | none => i.value
  | some '[' => "[" ++ i.value ++ "]"
  | some q => String.singleton q ++ Quoting.escapeText q i.value ++ String.singleton q

def dotted (parts : List Ident) : String := String.intercalate "." (parts.map text)

/-- The bare names, joined by points. -/
def path (parts : List Ident) : String := String.intercalate "." (parts.map (·.value))

def list (is : List Ident) : String := Text.commaList (is.map text)

end Ident

namespace Value

def text : Value → String
  | .null => "NULL"
  | .bool b => if b then "true" else "false"
  | .number text long => if long then text ++ "L" else text
  | .string kind s => Quoting.literal kind s
  | .dollarString tag s => dollarText tag s
  | .placeholder s => s

end Value

namespace CastFormat

def text : Option CastFormat → String
  | none => ""
  | some ⟨v, none⟩ => " FORMAT " ++ v.text
  | some ⟨v, some zone⟩ => " FORMAT " ++ v.text ++ " AT TIME ZONE " ++ zone.text

end CastFormat

namespace TableAlias

def columnText (c : Ident × String) : String :=
  if c.2.isEmpty then c.1.text else c.1.text ++ " " ++ c.2

def text (a : TableAlias) : String :=
  if a.columns.isEmpty then a.name.text
  else a.name.text ++ " (" ++ Text.commaList (a.columns.map columnText) ++ ")"

def suffix : Option TableAlias → String
  | some a => " AS " ++ a.text
  | none => ""

end TableAlias

namespace Print

def words (parts : List String) : String := String.intercalate " " (parts.filter (· ≠ ""))

def negation (negated : Bool) : String := if negated then "NOT " else ""

def joinWords : JoinOperator → String
  | .inner => "JOIN"
  | .leftOuter => "LEFT JOIN"
  | .rightOuter => "RIGHT JOIN"
  | .fullOuter => "FULL JOIN"
  | .cross => "CROSS JOIN"
  | .crossApply => "CROSS APPLY"
  | .outerApply => "OUTER APPLY"
  | .leftSemi => "LEFT SEMI JOIN"
  | .rightSemi => "RIGHT SEMI JOIN"
  | .leftAnti => "LEFT ANTI JOIN"
  | .rightAnti => "RIGHT ANTI JOIN"
  | .semi => "SEMI JOIN"
  | .anti => "ANTI JOIN"
  | .asOf => "ASOF JOIN"

def quantifier : Quantifier → String
  | .none => ""
  | .all => "ALL"
  | .distinct => "DISTINCT"
  | .byName => "BY NAME"
  | .allByName => "ALL BY NAME"
  | .distinctByName => "DISTINCT BY NAME"

def setOperator : SetOperator → String
  | .union => "UNION"
  | .intersect => "INTERSECT"
  | .except => "EXCEPT"

def unaryText : UnaryOp → String
  | .not => "NOT "
  | .minus => "-"
  | .plus => "+"

def nullTreatment (respected : Bool) : String :=
  if respected then "RESPECT NULLS" else "IGNORE NULLS"

def nullText : Option Bool → String
  | some respected => " " ++ nullTreatment respected
  | none => ""

/-- The character behind which a pattern's own characters stand for themselves. -/
def escapeText : Option String → String
  | some s => " ESCAPE '" ++ s ++ "'"
  | none => ""

mutual

def expr : Expr → String
  | .ident i => i.text
  | .compound parts => Ident.dotted parts
  | .wildcard _ => "*"
  | .qualifiedWildcard q _ => Ident.dotted q ++ ".*"
  | .value v => v.text
  | .binary l op r => expr l ++ " " ++ Layout.opText op ++ " " ++ expr r
  | .like e p negated caseless any escape =>
    expr e ++ " " ++ negation negated ++ (if caseless then "ILIKE " else "LIKE ") ++
      (if any then "ANY " else "") ++ expr p ++ escapeText escape
  | .unary op e => unaryText op ++ expr e
  | .call c => call c
  | .case o bs e =>
    "CASE" ++ optional " " o ++ String.join (branches bs) ++ optional " ELSE " e ++ " END"
  | .subquery q => "(" ++ query q ++ ")"
  | .exists q negated => negation negated ++ "EXISTS (" ++ query q ++ ")"
  | .inList e es negated =>
    expr e ++ " " ++ negation negated ++ "IN (" ++ Text.commaList (exprs es) ++ ")"
  | .inSubquery e q negated =>
    expr e ++ " " ++ negation negated ++ "IN (" ++ query q ++ ")"
  | .between e l h negated =>
    expr e ++ " " ++ negation negated ++ "BETWEEN " ++ expr l ++ " AND " ++ expr h
  | .isNull e negated => expr e ++ (if negated then " IS NOT NULL" else " IS NULL")
  | .cast e type _ short format =>
    if short then expr e ++ "::" ++ type
    else "CAST(" ++ expr e ++ " AS " ++ type ++ CastFormat.text format ++ ")"
  | .nested e => "(" ++ expr e ++ ")"
  | .tuple es => "(" ++ Text.commaList (exprs es) ++ ")"
  | .array es named => (if named then "ARRAY[" else "[") ++ Text.commaList (exprs es) ++ "]"
  | .raw s _ => s

def exprs : List Expr → List String
  | [] => []
  | e :: es => expr e :: exprs es

def optional (head : String) : Option Expr → String
  | some e => head ++ expr e
  | none => ""

def branches : List (Expr × Expr) → List String
  | [] => []
  | (c, r) :: bs => (" WHEN " ++ expr c ++ " THEN " ++ expr r) :: branches bs

def call : Call → String
  | ⟨name, braced, parameters, as, grouping, filter, nulls, w⟩ =>
    (if braced then "\x7bfn " else "") ++ Ident.dotted name ++ args parameters ++ args as ++
      (if grouping.isEmpty then ""
        else " WITHIN GROUP (ORDER BY " ++ Text.commaList (orderItems grouping) ++ ")") ++
      filterText filter ++ nullText nulls ++ window w ++ (if braced then "\x7d" else "")

def filterText : Option Expr → String
  | some e => " FILTER (WHERE " ++ expr e ++ ")"
  | none => ""

def args : Args → String
  | .none => ""
  | .query q => "(" ++ query q ++ ")"
  | .list treatment as clauses =>
    let listed := Text.commaList (argList as)
    let treated := match treatment with
      | some true => "DISTINCT "
      | some false => "ALL "
      | none => ""
    let gap := if clauses.isEmpty || as.isEmpty then "" else " "
    "(" ++ treated ++ listed ++ gap ++ String.intercalate " " (argClauses clauses) ++ ")"

def argClauses : List ArgClause → List String
  | [] => []
  | .nulls respected :: cs => nullTreatment respected :: argClauses cs
  | .order items :: cs => ("ORDER BY " ++ Text.commaList (orderItems items)) :: argClauses cs
  | .limit e :: cs => ("LIMIT " ++ expr e) :: argClauses cs
  | .overflowError :: cs => "ON OVERFLOW ERROR" :: argClauses cs
  | .overflowTruncate filler counted :: cs =>
    ("ON OVERFLOW TRUNCATE" ++ optional " " filler ++
      (if counted then " WITH COUNT" else " WITHOUT COUNT")) :: argClauses cs
  | .having greatest e :: cs =>
    ((if greatest then "HAVING MAX " else "HAVING MIN ") ++ expr e) :: argClauses cs
  | .separator v :: cs => ("SEPARATOR " ++ v.text) :: argClauses cs
  | .documentNulls absent :: cs =>
    (if absent then "ABSENT ON NULL" else "NULL ON NULL") :: argClauses cs

def argList : List Arg → List String
  | [] => []
  | a :: as => arg a :: argList as

def arg : Arg → String
  | .expr e => expr e
  | .wildcard => "*"
  | .qualified q => Ident.dotted q ++ ".*"
  | .named s _ => s

def window : Option Window → String
  | none => ""
  | some (.named n) => " OVER " ++ n.text
  | some (.spec base ps os f) =>
    " OVER (" ++ words
      [ match base with
        | some n => n.text
        | none => "",
        if ps.isEmpty then "" else "PARTITION BY " ++ Text.commaList (exprs ps),
        if os.isEmpty then "" else "ORDER BY " ++ Text.commaList (orderItems os),
        frame f ] ++ ")"

def frame : Option Frame → String
  | none => ""
  | some ⟨mode, start, none⟩ => Layout.modeText mode ++ " " ++ bound start
  | some ⟨mode, start, some stop⟩ =>
    Layout.modeText mode ++ " BETWEEN " ++ bound start ++ " AND " ++ bound stop

def bound : Bound → String
  | .currentRow => "CURRENT ROW"
  | .preceding none => "UNBOUNDED PRECEDING"
  | .preceding (some e) => expr e ++ " PRECEDING"
  | .following none => "UNBOUNDED FOLLOWING"
  | .following (some e) => expr e ++ " FOLLOWING"

def orderItems : List OrderItem → List String
  | [] => []
  | ⟨e, ascending, nullsFirst, filled, first, last, step⟩ :: os =>
    (expr e ++ Layout.directionText ascending nullsFirst ++ (if filled then " WITH FILL" else "") ++
      optional " FROM " first ++ optional " TO " last ++ optional " STEP " step) :: orderItems os

def selectItems : List SelectItem → List String
  | [] => []
  | .expr e none :: is => expr e :: selectItems is
  | .expr e (some a) :: is => (expr e ++ " AS " ++ a.text) :: selectItems is
  | .wildcard _ options :: is => ("*" ++ options) :: selectItems is
  | .qualifiedWildcard q _ options :: is =>
    (Ident.dotted q ++ ".*" ++ options) :: selectItems is

def factor : Factor → String
  | .table name partitions args before a after =>
    Ident.dotted name ++ partitions ++ tableArgs args ++ before ++ TableAlias.suffix a ++ after
  | .derived lateral q a =>
    (if lateral then "LATERAL (" else "(") ++ query q ++ ")" ++ TableAlias.suffix a
  | .function e a => "TABLE(" ++ expr e ++ ")" ++ TableAlias.suffix a
  | .joined t a => "(" ++ tableWithJoins t ++ ")" ++ TableAlias.suffix a
  | .other s a after => s ++ TableAlias.suffix a ++ after

def tableArgs : Option TableArgs → String
  | none => ""
  | some ⟨as, settings⟩ =>
    "(" ++ Text.commaList (argList as ++ if settings.isEmpty then [] else [settings]) ++ ")"

def constraint : Constraint → String
  | .on e => " ON " ++ expr e
  | .using is => " USING(" ++ Ident.list is ++ ")"
  | .natural => ""
  | .none => ""

def joins : List Join → List String
  | [] => []
  | ⟨op, r, c, global, nearest⟩ :: js =>
    let natural := match c with
      | .natural => "NATURAL "
      | _ => ""
    ((if global then " GLOBAL " else " ") ++ natural ++ joinWords op ++ " " ++ factor r ++
      nearestText nearest ++ constraint c) :: joins js

def nearestText : Option Expr → String
  | some e => " MATCH_CONDITION (" ++ expr e ++ ")"
  | none => ""

def tableWithJoins : TableWithJoins → String
  | ⟨r, js⟩ => factor r ++ String.join (joins js)

def tables : List TableWithJoins → List String
  | [] => []
  | t :: ts => tableWithJoins t :: tables ts

def distinct : Option Distinct → String
  | none => ""
  | some .plain => " DISTINCT"
  | some (.on es) => " DISTINCT ON (" ++ Text.commaList (exprs es) ++ ")"

def groupBy : GroupBy → String
  | .all modifiers => " GROUP BY ALL" ++ modifiers
  | .exprs es modifiers =>
    if es.isEmpty then "" else " GROUP BY " ++ Text.commaList (exprs es) ++ modifiers

def select : Select → String
  | ⟨_, d, top, is, into, ts, views, f, g, sorting, h, _, tail⟩ =>
    "SELECT" ++ distinct d ++ top ++ " " ++ Text.commaList (selectItems is) ++ into ++
      (if ts.isEmpty then "" else " FROM " ++ Text.commaList (tables ts)) ++ views ++
      optional " WHERE " f ++ groupBy g ++ sorting ++ optional " HAVING " h ++ tail

def rows (head : String) : List (List Expr) → List String
  | [] => []
  | r :: rs => (head ++ "(" ++ Text.commaList (exprs r) ++ ")") :: rows head rs

def setExpr : SetExpr → String
  | .select s => select s
  | .query q => "(" ++ query q ++ ")"
  | .setOp l op qt r =>
    setExpr l ++ " " ++ setOperator op ++ (if qt = .none then "" else " " ++ quantifier qt) ++
      " " ++ setExpr r
  | .values explicitRow rs => "VALUES " ++ Text.commaList (rows (if explicitRow then "ROW" else "") rs)
  | .other s => s

def commonTables : List CommonTable → List String
  | [] => []
  | ⟨a, materialized, q, _, after⟩ :: ts =>
    (a.text ++ " AS " ++ (if materialized.isEmpty then "" else materialized ++ " ") ++ "(" ++
      query q ++ ")" ++ ((after.map fun i => " FROM " ++ i.text).getD "")) :: commonTables ts

def withClause : Option With → String
  | none => ""
  | some ⟨_, recursive, ts⟩ =>
    (if recursive then "WITH RECURSIVE " else "WITH ") ++ Text.commaList (commonTables ts) ++ " "

def query : Query → String
  | ⟨w, b, os, interpolation, l, o, unit, tail⟩ =>
    withClause w ++ setExpr b ++
      (if os.isEmpty then "" else " ORDER BY " ++ Text.commaList (orderItems os)) ++ interpolation ++
      optional " LIMIT " l ++ optional " OFFSET " o ++ unit ++ tail

end

def target : Target → String
  | .column name => Ident.dotted name
  | .tuple names => "(" ++ Text.commaList (names.map Ident.dotted) ++ ")"

def assignments (as : List Assignment) : String :=
  Text.commaList (as.map fun a => target a.target ++ " = " ++ expr a.value)

def returning (is : List SelectItem) : String :=
  if is.isEmpty then "" else " RETURNING " ++ Text.commaList (selectItems is)

def insert (i : Insert) : String :=
  i.head ++ " " ++ Ident.dotted i.table ++
    (match i.tableAlias with
      | some a => " AS " ++ a.text
      | none => "") ++ " " ++
    (if i.columns.isEmpty then "" else "(" ++ Ident.list i.columns ++ ") ") ++ i.partition ++
    (match i.source with
      | some q => query q
      | none => if i.columns.isEmpty then "DEFAULT VALUES" else "") ++
    i.tail ++ returning i.returning

def update (u : Update) : String :=
  "UPDATE " ++ u.conflict ++ tableWithJoins u.table ++ " SET " ++ assignments u.assignments ++
    (match u.source with
      | some t => " FROM " ++ tableWithJoins t
      | none => "") ++
    optional " WHERE " u.filter ++ returning u.returning

/-- A text that starts like the statement. -/
def heading : Statement → String
  | .query q => query q
  | .insert i => insert i
  | .update u => update u
  | .delete _ => "DELETE FROM"
  | .createTable c => c.head
  | .other s => s

end Print

end SqlLoom.Grammar
