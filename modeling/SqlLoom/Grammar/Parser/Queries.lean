import SqlLoom.Grammar.Parser.Tables

/-! Queries: WITH clauses, selects, lists of rows and set operations. -/
namespace SqlLoom.Grammar.Parser

/-! ### Select items -/

/-- Names in parentheses, or a single one without. -/
def oneOrMore (p : Parser String) : Parser String := do
  if ← peekSymbol "(" then
    return "(" ++ Text.commaList (← parenthesized (commaSeparated p)) ++ ")"
  else p

/-- What one grammar lets follow a star: columns to leave out, to replace and to rename. -/
def starOptions (r : Rules) : Parser String := do
  let pattern ← if ← keyword "ILIKE" then do
      let t ← next
      match t.token with
      | .string .single s => pure (" ILIKE " ++ Quoting.literal .single s)
      | _ => expected "ilike pattern" t
    else pure ""
  let excluded ← if ← keywordIf pattern.isEmpty "EXCLUDE" then do
      pure (" EXCLUDE " ++ (← oneOrMore (return (← ident).text)))
    else pure ""
  let excepted ← if ← keyword "EXCEPT" then do
      let names ← if ← peekSymbol "(" then columnList false else do pure [← ident]
      pure (" EXCEPT (" ++ Ident.list names ++ ")")
    else pure ""
  let replaced ← if ← keyword "REPLACE" then do
      if !(← peekSymbol "(") then expected "( after REPLACE but" (← next)
      let items ← parenthesized (commaSeparated do
        let e ← r.whole
        let link := if ← keyword "AS" then " AS " else " "
        return text e ++ link ++ (← ident).text)
      pure (" REPLACE (" ++ Text.commaList items ++ ")")
    else pure ""
  let renamed ← if ← keyword "RENAME" then do
      pure (" RENAME " ++ (← oneOrMore do
        let name ← ident
        expectKeyword "AS"
        return name.text ++ " AS " ++ (← ident).text))
    else pure ""
  return pattern ++ excluded ++ excepted ++ replaced ++ renamed

def starTail (r : Rules) : Parser String := do
  if ← dialectIn [.generic] then starOptions r else return ""

/-- A select item. One grammar takes `name = value` for an alias. -/
def selectItem (r : Rules) : Parser SelectItem := do
  match ← starOrExpr r with
  | .wildcard t => return .wildcard t (← starTail r)
  | .qualifiedWildcard q t => return .qualifiedWildcard q t (← starTail r)
  | .ident name =>
    if name.quote.isNone && Text.foldCase name.value == "from" then
      failWith ("Expected an expression, found: " ++ name.value) (← peek).position
    else return .expr (.ident name) (← optionalAlias Keyword.columnReserved)
  | .binary (.ident name) .eq value =>
    if ← dialectIn [.sqlServer] then return .expr value (some name)
    else
      return .expr (.binary (.ident name) .eq value) (← optionalAlias Keyword.columnReserved)
  | e => return .expr e (← optionalAlias Keyword.columnReserved)

/-- `RETURNING` with its items. -/
def returning (r : Rules) : Parser (List SelectItem) := do
  return (← after "RETURNING" (commaSeparated (selectItem r))).getD []

/-! ### Selects -/

def groupItem (r : Rules) : Parser Expr := do
  let row (lift : Bool) : Parser (List Expr) := do
    if lift && !(← peekSymbol "(") then return [← r.whole]
    else
      parenthesized do
        if ← peekSymbol ")" then return [] else commaSeparated r.whole
  let lifted (es : List Expr) : String :=
    match es with
    | [e] => text e
    | es => "(" ++ textList es ++ ")"
  if ← dialectIn [.postgres, .generic] then
    if ← keywords ["GROUPING", "SETS"] then
      let sets ← parenthesized (commaSeparated (row false))
      return .raw ("GROUPING SETS (" ++
          Text.commaList (sets.map fun es => "(" ++ textList es ++ ")") ++ ")")
        (.tagged "GroupingSets" [.list (sets.map Shape.exprs)])
    else
      match ← oneOf ["CUBE", "ROLLUP"] with
      | some k =>
        let sets ← parenthesized (commaSeparated (row true))
        return .raw (k ++ " (" ++ Text.commaList (sets.map lifted) ++ ")")
          (.tagged (Text.capitalized k) [.list (sets.map Shape.exprs)])
      | none => if ← symbols ["(", ")"] then return .tuple [] else r.whole
  else r.whole

/-- `WITH ROLLUP` and its kin behind a GROUP BY. -/
def groupModifiers : Parser String := do
  if ← dialectIn [.generic] then
    let ks ← repeated do
      if ← keyword "WITH" then some <$> expectOneOf ["ROLLUP", "CUBE", "TOTALS"] else return none
    return String.join (ks.map (" WITH " ++ ·))
  else return ""

def groupBy (r : Rules) : Parser GroupBy := do
  if ← keywords ["GROUP", "BY"] then
    if ← keyword "ALL" then return .all (← groupModifiers)
    else
      let es ← commaSeparated (groupItem r)
      return .exprs es (← groupModifiers)
  else return .exprs [] ""

def distinctness (r : Rules) : Parser (Option Distinct) := do
  let position := (← peek).position
  let all ← keyword "ALL"
  if !(← keyword "DISTINCT") then return none
  else if all then failWith "Cannot specify both ALL and DISTINCT" position
  else if ← keyword "ON" then
    return some (.on (← parenthesized (commaSeparatedOr ")" r.whole)))
  else return some .plain

/-- What follows `TOP`. -/
def topClause (r : Rules) : Parser String := do
  let quantity ← if ← peekSymbol "(" then do
      pure ("(" ++ text (← parenthesized r.whole) ++ ")")
    else do pure (toString (← literalUnsigned))
  let percent := if ← keyword "PERCENT" then " PERCENT" else ""
  let ties := if ← keywords ["WITH", "TIES"] then " WITH TIES" else ""
  return " TOP " ++ quantity ++ percent ++ ties

/-- What follows `INTO`. -/
def intoClause : Parser String := do
  let temporary := if (← oneOf ["TEMP", "TEMPORARY"]).isSome then " TEMPORARY" else ""
  let unlogged := if ← keyword "UNLOGGED" then " UNLOGGED" else ""
  let table := if ← keyword "TABLE" then " TABLE" else ""
  return " INTO" ++ temporary ++ unlogged ++ table ++ " " ++ Ident.dotted (← objectName)

/-- A list of expressions behind two keywords. -/
def sortedBy (r : Rules) (word : String) : Parser String := do
  if ← keywords [word, "BY"] then
    return " " ++ word ++ " BY " ++ textList (← commaSeparated r.whole)
  else return ""

def namedWindow (r : Rules) : Parser String := do
  let name ← ident
  expectKeyword "AS"
  let body ← if ← symbol "(" then do pure (Print.window (some (← windowSpec r (operand r))))
    else if ← dialectIn [.generic] then do pure (" OVER " ++ (← ident).text)
    else expectedHere "("
  return name.text ++ " AS " ++ (body.drop 6).toString

/-- `WINDOW` and `QUALIFY`, in either order. -/
def windowClauses (r : Rules) : Parser (Bool × String) := do
  let windows : Parser String := do
    return " WINDOW " ++ Text.commaList (← commaSeparated (namedWindow r))
  let qualify : Parser String := do return " QUALIFY " ++ text (← r.whole)
  if ← keyword "WINDOW" then
    let ws ← windows
    if ← keyword "QUALIFY" then return (true, ws ++ (← qualify)) else return (true, ws)
  else if ← keyword "QUALIFY" then
    let q ← qualify
    if ← keyword "WINDOW" then return (true, q ++ (← windows)) else return (false, q)
  else return (false, "")

/-- Words that cannot name a column of a view without `AS`. -/
def viewReserved : List String := ["WHERE", "GROUP", "CLUSTER", "HAVING", "LATERAL"]

/-- A function whose rows are joined to each row, if one comes next. -/
def lateralView? (r : Rules) : Parser (Option String) := do
  if ← keywords ["LATERAL", "VIEW"] then
    let outer ← flag "OUTER"
    let e ← exprText r
    let name ← objectName
    let columns := (← commaSeparated (optionalAlias viewReserved)).filterMap id
    let listed := if columns.isEmpty then "" else " AS " ++ Ident.list columns
    return some (" LATERAL VIEW" ++ outer ++ " " ++ e ++ " " ++ Ident.dotted name ++ listed)
  else return none

/-- How each row is linked to the ones above it, in either order. -/
def hierarchy (r : Rules) : Parser String := do
  let links : Parser String :=
    withReader (fun s : Setting => { s with linked := true }) (exprListText r)
  let (start, links) ← if ← keywords ["CONNECT", "BY"] then do
      let links ← links
      expectKeywords ["START", "WITH"]
      pure (← exprText r, links)
    else do
      expectKeywords ["START", "WITH"]
      let start ← exprText r
      expectKeywords ["CONNECT", "BY"]
      pure (start, ← links)
  return " START WITH " ++ start ++ " CONNECT BY " ++ links

/-- What follows `SELECT`. -/
def select (r : Rules) (opening : Located) : Parser Select := do
  let distinct ← distinctness r
  let top ← if ← keyword "TOP" then topClause r else pure ""
  let items ← commaSeparated (selectItem r)
  let into ← if ← keyword "INTO" then intoClause else pure ""
  let froms ← if ← keyword "FROM" then commaSeparated (tableAndJoins r) else pure []
  let views ← repeated (lateralView? r)
  let d ← dialect
  let before ← if d.isGeneric then clause "PREWHERE" (exprText r) else pure ""
  let filter ← after "WHERE" r.whole
  let groupBy ← groupBy r
  let cluster ← sortedBy r "CLUSTER"
  let distribute ← sortedBy r "DISTRIBUTE"
  let sort ← sortedBy r "SORT"
  let having ← after "HAVING" r.whole
  let (windowed, windows) ← windowClauses r
  let linked := d.hasHierarchies && ((← peekKeyword "START") || (← peekKeyword "CONNECT"))
  let links ← if linked then hierarchy r else pure ""
  return { opening, distinct, top, items, into, froms, views := String.join views ++ before, filter,
           groupBy, sorting := cluster ++ distribute ++ sort, having, windowed,
           tail := windows ++ links }

/-! ### Set operations -/

def quantifier : Parser Quantifier := do
  if ← keywords ["DISTINCT", "BY", "NAME"] then return .distinctByName
  else if ← keywords ["BY", "NAME"] then return .byName
  else if ← keyword "ALL" then
    if ← keywords ["BY", "NAME"] then return .allByName else return .all
  else if ← keyword "DISTINCT" then return .distinct
  else return .none

/-- `TABLE name`. Two tokens are taken besides the first, whether a point is there or not. -/
def tableBody : Parser SetExpr := do
  let first ← next
  let second ← next
  let third ← next
  let word (what : String) (t : Located) : Parser String := do
    match t.token with
    | .word w _ => return w
    | _ => expected what t
  if second.token == .symbol "." then
    let schema ← word "Schema name" first
    let table ← word "Table name" third
    return .other ("TABLE " ++ schema ++ "." ++ table)
  else return .other ("TABLE " ++ (← word "Table name" first))

/-- What is not a set operation: a select, a query in parentheses, rows or a table. -/
def simpleBody (r : Rules) : Parser SetExpr := do
  let opening ← peek
  if ← keyword "SELECT" then return .select (← select r opening)
  else if ← symbol "(" then
    let q ← r.query
    expectSymbol ")"
    return .query q
  else if ← keyword "VALUES" then
    let (rows, explicitRow) ← rowsOf r
    return .values explicitRow rows
  else if ← keyword "TABLE" then tableBody
  else expectedHere "SELECT, VALUES, or a subquery in the query body"

/-- The set operator that comes next and how tightly it binds. -/
def setOperator? : Parser (Option (SetOperator × Nat)) := do
  match (← peekToken).keyword? with
  | some "UNION" => return some (.union, 10)
  | some "EXCEPT" => return some (.except, 10)
  | some "INTERSECT" => return some (.intersect, 20)
  | _ => return none

/-- Takes set operators as long as they bind tighter than a precedence. -/
def remainingBody (right : Nat → Parser SetExpr) (precedence : Nat) :
    Nat → SetExpr → Parser SetExpr
  | 0, left => return left
  | n + 1, left => do
    match ← setOperator? with
    | none => return left
    | some (op, upcoming) =>
      if upcoming ≤ precedence then return left
      else
        skip
        let q ← quantifier
        remainingBody right precedence n (.setOp left op q (← right upcoming))

/-- The right operand of an operator of the highest precedence is a simple body. -/
def tightBody (r : Rules) (_ : Nat) : Parser SetExpr := simpleBody r

def middleBody (r : Rules) (precedence : Nat) : Parser SetExpr := do
  remainingBody (tightBody r) precedence ((← read).steps + 1) (← simpleBody r)

def body (r : Rules) : Parser SetExpr := do
  remainingBody (middleBody r) 0 ((← read).steps + 1) (← simpleBody r)

/-! ### Queries -/

def commonTable (r : Rules) : Parser CommonTable := do
  let name ← ident
  let columns ← if ← peekKeyword "AS" then pure [] else aliasColumns r
  expectKeyword "AS"
  let materialized ← if ← dialectIn [.postgres] then do
      if ← keyword "MATERIALIZED" then pure "MATERIALIZED"
      else if ← keywords ["NOT", "MATERIALIZED"] then pure "NOT MATERIALIZED"
      else pure ""
    else pure ""
  expectSymbol "("
  let query ← r.query
  let closing ← peek
  expectSymbol ")"
  return { aliasName := ⟨name, columns⟩, materialized, query, closing, after := ← after "FROM" ident }

def withClause (r : Rules) : Parser (Option With) := do
  let opening ← peek
  if ← keyword "WITH" then
    let recursive ← keyword "RECURSIVE"
    return some { opening, recursive, tables := ← commaSeparated (commonTable r) }
  else return none

structure Limits where
  limit : Option Expr := none
  offset : Option Expr := none
  unit : String := ""

/-- One round of LIMIT and OFFSET, each of which may come first. -/
def limitRound (r : Rules) (l : Limits) : Parser Limits := do
  let l ← if ← keywordIf l.limit.isNone "LIMIT" then do
      if ← keyword "ALL" then pure l else pure { l with limit := some (← r.whole) }
    else pure l
  let l ← if ← keywordIf l.offset.isNone "OFFSET" then do
      let value ← r.whole
      let unit := match ← oneOf ["ROW", "ROWS"] with
        | some k => " " ++ k
        | none => ""
      pure { l with offset := some value, unit }
    else pure l
  let commas := (← dialect).hasLimitComma
  match l.limit, l.offset with
  | some first, none =>
    if ← symbolIf commas "," then return { l with offset := some first, limit := some (← r.whole) }
    else return l
  | _, _ => return l

/-- What follows `FETCH`. -/
def fetchClause : Parser String := do
  let _ ← expectOneOf ["FIRST", "NEXT"]
  let quantity ← if (← oneOf ["ROW", "ROWS"]).isSome then pure " ROWS"
    else do
      let n ← value
      let percent := if ← keyword "PERCENT" then " PERCENT" else ""
      let _ ← expectOneOf ["ROW", "ROWS"]
      pure (" " ++ n.text ++ percent ++ " ROWS")
  if ← keyword "ONLY" then return " FETCH FIRST" ++ quantity ++ " ONLY"
  else if ← keywords ["WITH", "TIES"] then return " FETCH FIRST" ++ quantity ++ " WITH TIES"
  else expectedHere "one of ONLY or WITH TIES"

/-- What follows `FOR`, for a lock on the rows. -/
def lockClause : Parser String := do
  let kind ← expectOneOf ["UPDATE", "SHARE"]
  let tables ← if ← keyword "OF" then do pure (" OF " ++ Ident.dotted (← objectName)) else pure ""
  let waiting ← if ← keyword "NOWAIT" then pure " NOWAIT"
    else if ← keywords ["SKIP", "LOCKED"] then pure " SKIP LOCKED"
    else pure ""
  return " FOR " ++ kind ++ tables ++ waiting

/-- A string in parentheses. -/
def enclosedString : Parser String := return "('" ++ (← parenthesized literalString) ++ "')"

/-- The form in which rows are turned into a document. -/
structure Rendering where
  kind : String
  root : String := ""
  marks : List String := []

/-- Options behind commas. A comma is taken even if no option follows it. -/
def renderingOptions (marks : List (List String)) : Nat → Rendering → Parser Rendering
  | 0, f => return f
  | n + 1, f => do
    if ← symbol "," then
      match ← marks.findM? fun ks =>
          match ks with
          | k :: rest => do
            let given ← keyword k
            if given then expectKeywords rest
            return given
          | [] => return false with
      | some ks => renderingOptions marks n { f with marks := String.intercalate " " ks :: f.marks }
      | none =>
        if ← keyword "ROOT" then
          renderingOptions marks n { f with root := ", ROOT" ++ (← enclosedString) }
        else renderingOptions marks n f
    else return f

/-- The options that were given, in a fixed order. -/
def Rendering.marked (f : Rendering) (k : String) : String :=
  if f.marks.contains k then ", " ++ k else ""

/-- What follows `FOR XML`. -/
def xmlClause : Parser String := do
  let kind ← match ← oneOf ["RAW", "AUTO", "EXPLICIT", "PATH"] with
    | some k => do
      let named := k == "RAW" || k == "PATH"
      if named && (← peekSymbol "(") then pure (k ++ (← enclosedString)) else pure k
    | none => failWith "Expected FOR XML [RAW | AUTO | EXPLICIT | PATH ]" none
  let f ← renderingOptions [["ELEMENTS"], ["BINARY", "BASE64"], ["TYPE"]] ((← read).steps + 1)
    { kind }
  return " FOR XML " ++ f.kind ++ f.marked "BINARY BASE64" ++ f.marked "TYPE" ++ f.root ++
    f.marked "ELEMENTS"

/-- What follows `FOR JSON`. -/
def jsonClause : Parser String := do
  let kind ← match ← oneOf ["AUTO", "PATH"] with
    | some k => pure k
    | none => failWith "Expected FOR JSON [AUTO | PATH ]" none
  let f ← renderingOptions [["INCLUDE_NULL_VALUES"], ["WITHOUT_ARRAY_WRAPPER"]]
    ((← read).steps + 1) { kind }
  return " FOR JSON " ++ f.kind ++ f.root ++ f.marked "INCLUDE_NULL_VALUES" ++
    f.marked "WITHOUT_ARRAY_WRAPPER"

/-- Locks on the rows, up to a clause that turns the rows into something else. -/
def lockClauses : Nat → Parser String
  | 0 => return ""
  | n + 1 => do
    if ← keyword "FOR" then
      if ← keyword "XML" then xmlClause
      else if ← keyword "JSON" then jsonClause
      else if ← keyword "BROWSE" then return " FOR BROWSE"
      else
        let lock ← lockClause
        return lock ++ (← lockClauses n)
    else return ""

/-- Clauses behind the limits, which only bear on how the rows are handed out. -/
def queryTail (r : Rules) : Parser String := do
  let generic := (← dialect).isGeneric
  let limitBy ← if generic then clause "BY" (exprListText r) else pure ""
  let settings ← settings
  let fetch ← if ← keyword "FETCH" then fetchClause else pure ""
  let locks ← lockClauses ((← read).steps + 1)
  let format ← if ← keywordIf generic "FORMAT" then do
      if ← keyword "NULL" then pure " FORMAT NULL" else pure (" FORMAT " ++ (← ident).text)
    else pure ""
  return limitBy ++ (if settings.isEmpty then "" else " " ++ settings) ++ fetch ++ locks ++ format

/-- How gaps in the rows are filled, behind the order. -/
def interpolationClause (r : Rules) : Parser String := do
  if ← keywordIf (← dialect).isGeneric "INTERPOLATE" then
    if ← symbol "(" then
      let columns ← commaSeparatedOr ")" do
        let column ← ident
        return column.text ++ (← clause "AS" (exprText r))
      expectSymbol ")"
      return " INTERPOLATE (" ++ Text.commaList columns ++ ")"
    else return " INTERPOLATE"
  else return ""

/-- A query. `change?` reads a data change in place of a body, if one comes next. -/
def query (r : Rules) (change? : Parser (Option String)) : Parser Query := do
  let withClause ← withClause r
  match ← change? with
  | some t => return { withClause, body := .other t }
  | none =>
    let body ← body r
    let ordered ← keywords ["ORDER", "BY"]
    let orderBy ← if ordered then orderList r else pure []
    let interpolation ← if ordered then interpolationClause r else pure ""
    let l ← limitRound r (← limitRound r {})
    return { withClause, body, orderBy, interpolation, limit := l.limit, offset := l.offset,
             offsetUnit := l.unit, tail := ← queryTail r }

end SqlLoom.Grammar.Parser
