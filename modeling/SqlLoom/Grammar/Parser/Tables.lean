import SqlLoom.Grammar.Parser.Exprs

/-! FROM entries: tables, functions, derived tables and joins. -/
namespace SqlLoom.Grammar.Parser

def aliasColumns (r : Rules) : Parser (List (Ident × String)) := do
  if ← peekSymbol "(" then
    parenthesized (commaSeparated do
      let name ← ident
      let type ← maybe (dataType r)
      return (name, (type.map DataType.text).getD ""))
  else return []

def tableAlias (r : Rules) : Parser (Option TableAlias) := do
  match ← optionalAlias Keyword.tableReserved with
  | some name => return some ⟨name, ← aliasColumns r⟩
  | none => return none

def rowsOf (r : Rules) : Parser (List (List Expr) × Bool) := do
  let emptyRows ← dialectIn [.mySql]
  let rows ← commaSeparated do
    let explicitRow ← keyword "ROW"
    expectSymbol "("
    if emptyRows && (← peekSymbol ")") then
      skip
      return (explicitRow, [])
    else
      let es ← commaSeparated r.whole
      expectSymbol ")"
      return (explicitRow, es)
  return (rows.map (·.2), rows.any (·.1))

def derivedTable (r : Rules) (lateral : Bool) : Parser Factor := do
  let q ← r.query
  expectSymbol ")"
  return .derived lateral q (← tableAlias r)

/-- `SETTINGS` with their values, in the grammar that has them. -/
def settings : Parser String := do
  if ← keywordIf (← dialect).isGeneric "SETTINGS" then
    let listed ← commaSeparated do
      let name ← ident
      expectSymbol "="
      return name.text ++ " = " ++ (← value).text
    return "SETTINGS " ++ Text.commaList listed
  else return ""

/-- Arguments of a table function, which settings may follow or stand for. -/
def tableArgsWithin (r : Rules) : Nat → Parser TableArgs
  | 0 => return { args := [] }
  | n + 1 => do
    let given ← settings
    if given.isEmpty then
      let a ← functionArg r
      if ← symbol "," then
        let rest ← tableArgsWithin r n
        return { rest with args := a :: rest.args }
      else return { args := [a] }
    else return { args := [], settings := given }

def tableArgs (r : Rules) : Parser TableArgs := do
  if ← symbol ")" then return { args := [] }
  else
    let args ← tableArgsWithin r ((← read).steps + 1)
    expectSymbol ")"
    return args

/-! ### Tables turned around -/

/-- The alias behind `AS`, as it follows a text. -/
def namedAs : Parser String := do
  return ((← after "AS" ident).map fun i => " AS " ++ i.text).getD ""

/-- A call under a bare name, with its alias. -/
def aggregate (r : Rules) : Parser String := do
  let t ← next
  match t.token with
  | .word w _ =>
    let shown := Print.call (← functionCall r (operand r) [⟨w, none, {}⟩])
    return shown ++ (← namedAs)
  | _ => expectedHere "a function identifier"

/-- The values that become columns. -/
def pivotValues (r : Rules) : Parser String := do
  if ← keyword "ANY" then
    if ← keywords ["ORDER", "BY"] then
      return "ANY ORDER BY " ++ Text.commaList (Print.orderItems (← orderList r))
    else return "ANY"
  else if ← peekQuery then return Print.query (← r.query)
  else return Text.commaList (← commaSeparated do return text (← r.whole) ++ (← namedAs))

/-- What follows `PIVOT`: rows become columns. -/
def pivot (r : Rules) : Parser String := do
  let inner ← parenthesized do
    let aggregates ← commaSeparated (aggregate r)
    expectKeyword "FOR"
    let column ← objectName
    expectKeyword "IN"
    let values ← parenthesized (pivotValues r)
    let fallback ← if ← keywords ["DEFAULT", "ON", "NULL"] then do
        pure (" DEFAULT ON NULL (" ++ text (← parenthesized r.whole) ++ ")")
      else pure ""
    return Text.commaList aggregates ++ " FOR " ++ Ident.dotted column ++ " IN (" ++ values ++ ")" ++
      fallback
  return " PIVOT(" ++ inner ++ ")"

/-- What follows `UNPIVOT`: columns become rows. -/
def unpivot : Parser String := do
  let inner ← parenthesized do
    let value ← ident
    expectKeyword "FOR"
    let name ← ident
    expectKeyword "IN"
    return value.text ++ " FOR " ++ name.text ++ " IN (" ++ Ident.list (← mandatoryColumns) ++ ")"
  return " UNPIVOT(" ++ inner ++ ")"

/-- What turns a table around, as often as it is written. -/
def pivotedWithin (r : Rules) : Nat → Factor → Parser Factor
  | 0, f => return f
  | n + 1, f => do
    match ← oneOf ["PIVOT", "UNPIVOT"] with
    | none => return f
    | some k =>
      let turn ← if k = "PIVOT" then pivot r else unpivot
      pivotedWithin r n (.other (Print.factor f ++ turn) (← tableAlias r) "")

def pivoted (r : Rules) (f : Factor) : Parser Factor := do pivotedWithin r ((← read).steps + 1) f

/-! ### Patterns of rows -/

/-- How often a piece of a pattern occurs, behind an opening brace. -/
def repetitionRange : Parser String := do
  let t ← next
  let bound (s : String) : Parser String := return toString (← unsignedOf 32 s t.position)
  match t.token with
  | .symbol "," =>
    let u ← next
    match u.token with
    | .number high _ =>
      expectSymbol "\x7d"
      return "\x7b," ++ (← bound high) ++ "\x7d"
    | _ => expected "literal number" u
  | .number low _ =>
    if ← symbol "," then
      let u ← next
      match u.token with
      | .number high _ =>
        expectSymbol "\x7d"
        let low ← bound low
        return "\x7b" ++ low ++ "," ++ (← bound high) ++ "\x7d"
      | .symbol "\x7d" => return "\x7b" ++ (← bound low) ++ ",\x7d"
      | _ => expected "\x7d or upper bound" u
    else
      expectSymbol "\x7d"
      return "\x7b" ++ (← bound low) ++ "\x7d"
  | _ => expected "quantifier range" t

/-- How often a piece of a pattern occurs, if that is said. -/
def repetition? : Parser (Option String) := do
  match (← peekToken) with
  | .symbol "*" =>
    skip
    return some "*"
  | .symbol "+" =>
    skip
    return some "+"
  | .placeholder "?" =>
    skip
    return some "?"
  | .symbol "\x7b" =>
    skip
    some <$> repetitionRange
  | _ => return none

/-- One piece of a pattern without what says how often it occurs. -/
def patternAtom (pattern : Parser String) : Parser String := do
  match (← peekToken) with
  | .symbol "^" =>
    skip
    return "^"
  | .placeholder "$" =>
    skip
    return "$"
  | .symbol "\x7b" =>
    skip
    expectSymbol "-"
    let name ← ident
    expectSymbol "-"
    expectSymbol "\x7d"
    return "\x7b- " ++ name.text ++ " -\x7d"
  | .word "PERMUTE" none =>
    skip
    return "PERMUTE(" ++ Ident.list (← parenthesized (commaSeparated ident)) ++ ")"
  | .symbol "(" =>
    skip
    let inner ← pattern
    expectSymbol ")"
    return "( " ++ inner ++ " )"
  | _ => return (← ident).text

/-- Pieces that follow each other. -/
def patternPiecesWithin (piece : Parser String) : Nat → Parser (List String)
  | 0 => return []
  | n + 1 => do
    let p ← piece
    if (← peekSymbol ")") || (← peekSymbol "|") then return [p]
    else return p :: (← patternPiecesWithin piece n)

/-- A pattern of rows: pieces, and alternatives between bars. -/
def patternWithin : Nat → Parser String
  | 0 => throw .tooDeep
  | n + 1 => do
    let pattern := patternWithin n
    let piece : Parser String := do
      let p ← patternAtom pattern
      return p ++ String.join (← repeated repetition?)
    let pieces := String.intercalate " " (← patternPiecesWithin piece ((← read).steps + 1))
    if ← symbol "|" then return pieces ++ " | " ++ (← pattern) else return pieces

/-- Which rows of a match are shown. -/
def rowsPerMatch : Parser String := do
  if ← keywords ["ONE", "ROW", "PER", "MATCH"] then return "ONE ROW PER MATCH "
  else if ← keywords ["ALL", "ROWS", "PER", "MATCH"] then
    let mode ← choice [["SHOW", "EMPTY", "MATCHES"], ["OMIT", "EMPTY", "MATCHES"],
      ["WITH", "UNMATCHED", "ROWS"]]
    return "ALL ROWS PER MATCH " ++ (mode.map (· ++ " ")).getD ""
  else return ""

/-- Where the search for the next match starts. -/
def afterMatch : Parser String := do
  if ← keywords ["AFTER", "MATCH", "SKIP"] then
    let place ← if ← keywords ["PAST", "LAST", "ROW"] then pure "PAST LAST ROW"
      else if ← keywords ["TO", "NEXT", "ROW"] then pure " TO NEXT ROW"
      else if ← keywords ["TO", "FIRST"] then do pure ("TO FIRST " ++ (← ident).text)
      else if ← keywords ["TO", "LAST"] then do pure ("TO LAST " ++ (← ident).text)
      else do expected "after match skip option" (← next)
    return "AFTER MATCH SKIP " ++ place ++ " "
  else return ""

/-- What follows `MATCH_RECOGNIZE`. -/
def rowPattern (r : Rules) : Parser String := do
  let steps := (← read).steps
  let inner ← parenthesized do
    let partitions ← if ← keywords ["PARTITION", "BY"] then do
        pure ("PARTITION BY " ++ (← exprListText r) ++ " ")
      else pure ""
    let order ← if ← keywords ["ORDER", "BY"] then do
        pure ("ORDER BY " ++ Text.commaList (Print.orderItems (← orderList r)) ++ " ")
      else pure ""
    let measures ← if ← keyword "MEASURES" then do
        let measures ← commaSeparated do
          let e ← exprText r
          let _ ← keyword "AS"
          return e ++ " AS " ++ (← ident).text
        pure ("MEASURES " ++ Text.commaList measures ++ " ")
      else pure ""
    let rows ← rowsPerMatch
    let next ← afterMatch
    expectKeyword "PATTERN"
    let pattern ← parenthesized (patternWithin (steps + 1))
    expectKeyword "DEFINE"
    let definitions ← commaSeparated do
      let name ← ident
      expectKeyword "AS"
      return name.text ++ " AS " ++ (← exprText r)
    return partitions ++ order ++ measures ++ rows ++ next ++ "PATTERN (" ++ pattern ++
      ") DEFINE " ++ Text.commaList definitions
  return " MATCH_RECOGNIZE(" ++ inner ++ ")"

/-! ### Tables in documents -/

/-- What a column of a document holds where its path leads nowhere, or to something else. -/
def absence? : Parser (Option String) := do
  let what ← if ← keyword "NULL" then pure "NULL"
    else if ← keyword "ERROR" then pure "ERROR"
    else if ← keyword "DEFAULT" then do pure ("DEFAULT " ++ (← value).text)
    else return none
  expectKeyword "ON"
  return some what

structure Absences where
  onEmpty : String := ""
  onError : String := ""

def absencesWithin : Nat → Absences → Parser Absences
  | 0, a => return a
  | n + 1, a => do
    match ← absence? with
    | none => return a
    | some what =>
      if ← keyword "EMPTY" then absencesWithin n { a with onEmpty := " " ++ what ++ " ON EMPTY" }
      else
        expectKeyword "ERROR"
        absencesWithin n { a with onError := " " ++ what ++ " ON ERROR" }

def documentColumnWithin (r : Rules) : Nat → Parser String
  | 0 => throw .tooDeep
  | n + 1 => do
    if ← keyword "NESTED" then
      let _ ← keyword "PATH"
      let path ← value
      expectKeyword "COLUMNS"
      let columns ← parenthesized (commaSeparated (documentColumnWithin r n))
      return "NESTED PATH " ++ path.text ++ " COLUMNS (" ++ Text.commaList columns ++ ")"
    else
      let name ← ident
      if ← keyword "FOR" then
        expectKeyword "ORDINALITY"
        return name.text ++ " FOR ORDINALITY"
      else
        let type ← dataType r
        let existence := if ← keyword "EXISTS" then " EXISTS" else ""
        expectKeyword "PATH"
        let path ← value
        let a ← absencesWithin ((← read).steps + 1) {}
        return name.text ++ " " ++ type.text ++ existence ++ " PATH " ++ path.text ++ a.onEmpty ++
          a.onError

/-- What follows `JSON_TABLE`. -/
def documentTable (r : Rules) : Parser Factor := do
  let steps := (← read).steps
  let inner ← parenthesized do
    let e ← r.whole
    expectSymbol ","
    let path ← value
    expectKeyword "COLUMNS"
    let columns ← parenthesized (commaSeparated (documentColumnWithin r (steps + 1)))
    return text e ++ ", " ++ path.text ++ " COLUMNS(" ++ Text.commaList columns ++ ")"
  return .other ("JSON_TABLE(" ++ inner ++ ")") (← tableAlias r) ""

def openColumn (r : Rules) : Parser String := do
  let name ← ident
  let type ← dataType r
  let path ← match (← peekToken) with
    | .string .single s => do
      skip
      pure (" " ++ Quoting.literal .single s)
    | _ => pure ""
  let document ← if ← keyword "AS" then do
      expectKeyword "JSON"
      pure " AS JSON"
    else pure ""
  return name.text ++ " " ++ type.text ++ path ++ document

/-- What follows `OPENJSON`. -/
def openedTable (r : Rules) : Parser Factor := do
  let inner ← parenthesized do
    let e ← r.whole
    if ← symbol "," then return text e ++ ", " ++ (← value).text else return text e
  let columns ← if ← keyword "WITH" then do
      pure (" WITH (" ++ Text.commaList (← parenthesized (commaSeparated (openColumn r))) ++ ")")
    else pure ""
  return .other ("OPENJSON(" ++ inner ++ ")" ++ columns) (← tableAlias r) ""

/-! ### FROM entries -/

/-- A table or a table function, by its name. -/
def namedTable (r : Rules) : Parser Factor := do
  let d ← dialect
  let name ← objectName
  let partitions ← if ← keywordIf (d.isMySql || d.isGeneric) "PARTITION" then do
      pure ("PARTITION (" ++ Ident.list (← columnList false) ++ ")")
    else pure ""
  let version ← if d == .sqlServer then do
      if ← keywords ["FOR", "SYSTEM_TIME", "AS", "OF"] then
        pure (" FOR SYSTEM_TIME AS OF " ++ text (← r.whole))
      else pure ""
    else pure ""
  let args ← if ← symbol "(" then some <$> tableArgs r else pure none
  let ordinality ← flags ["WITH", "ORDINALITY"]
  let aliasName ← tableAlias r
  let hints ← if ← keywordBefore "WITH" "(" then do
      pure (" WITH (" ++ (← parenthesized (exprListText r)) ++ ")")
    else pure ""
  let f ← pivoted r (.table name partitions args ordinality aliasName (hints ++ version))
  if ← keywordIf d.isGeneric "MATCH_RECOGNIZE" then
    let pattern ← rowPattern r
    return .other (Print.factor f ++ pattern) (← tableAlias r) ""
  else return f

/-- What follows `UNNEST`. A `WITH` behind it is taken even if no `OFFSET` follows. -/
def unnestTable (r : Rules) : Parser Factor := do
  let arrays ← parenthesized (exprListText r)
  let ordinality ← flags ["WITH", "ORDINALITY"]
  let aliasName ← tableAlias r
  let withOffset ← if ← keyword "WITH" then keyword "OFFSET" else pure false
  let offset ← if withOffset then do
      match ← optionalAlias Keyword.columnReserved with
      | some a => pure (" WITH OFFSET AS " ++ a.text)
      | none => pure " WITH OFFSET"
    else pure ""
  return .other ("UNNEST(" ++ arrays ++ ")" ++ ordinality) aliasName offset

/-- A table function behind `LATERAL`. -/
def lateralFunction (r : Rules) : Parser Factor := do
  let name ← objectName
  expectSymbol "("
  let args ← commaSeparatedOr ")" (functionArg r)
  expectSymbol ")"
  return .other ("LATERAL " ++ Ident.dotted name ++ "(" ++
    Text.commaList (Print.argList args) ++ ")") (← tableAlias r) ""

def constraint (r : Rules) (natural : Bool) : Parser Constraint := do
  if natural then return .natural
  else if ← keyword "ON" then return .on (← r.whole)
  else if ← keyword "USING" then return .using (← mandatoryColumns)
  else return .none

/-- The join operator that comes next, if one does; `true` stands for `NATURAL`. -/
def joinOperator : Parser (Option (JoinOperator × Bool)) := do
  let natural ← keyword "NATURAL"
  let sided (left : Bool) (word : String) : Parser (Option (JoinOperator × Bool)) := do
    skip
    match ← oneOf ["OUTER", "SEMI", "ANTI", "JOIN"] with
    | some k =>
      if k ≠ "JOIN" then expectKeyword "JOIN"
      let op := match left, k with
        | true, "SEMI" => JoinOperator.leftSemi
        | true, "ANTI" => .leftAnti
        | true, _ => .leftOuter
        | false, "SEMI" => .rightSemi
        | false, "ANTI" => .rightAnti
        | false, _ => .rightOuter
      return some (op, natural)
    | none => failWith ("expected OUTER, SEMI, ANTI or JOIN after " ++ word) none
  match (← peekToken).keyword? with
  | some "INNER" | some "JOIN" =>
    let _ ← keyword "INNER"
    expectKeyword "JOIN"
    return some (.inner, natural)
  | some "LEFT" => sided true "LEFT"
  | some "RIGHT" => sided false "RIGHT"
  | some "ANTI" =>
    expectKeywords ["ANTI", "JOIN"]
    return some (.anti, natural)
  | some "SEMI" =>
    expectKeywords ["SEMI", "JOIN"]
    return some (.semi, natural)
  | some "FULL" =>
    skip
    let _ ← keyword "OUTER"
    expectKeyword "JOIN"
    return some (.fullOuter, natural)
  | some "OUTER" => expectedHere "LEFT, RIGHT, or FULL"
  | _ => if natural then expectedHere "a join type after NATURAL" else return none

/-- A further entry joined to those before it, if there is one. -/
def join? (r : Rules) (factor : Parser Factor) : Parser (Option Join) := do
  let global ← keyword "GLOBAL"
  if ← keyword "CROSS" then
    if ← keyword "JOIN" then return some ⟨.cross, ← factor, .none, global, none⟩
    else if ← keyword "APPLY" then return some ⟨.crossApply, ← factor, .none, global, none⟩
    else expectedHere "JOIN or APPLY after CROSS"
  else if ← keyword "OUTER" then
    expectKeyword "APPLY"
    return some ⟨.outerApply, ← factor, .none, global, none⟩
  else if ← keyword "ASOF" then
    expectKeyword "JOIN"
    let relation ← factor
    expectKeyword "MATCH_CONDITION"
    let nearest ← parenthesized r.whole
    return some ⟨.asOf, relation, ← constraint r false, global, some nearest⟩
  else
    match ← joinOperator with
    | some (op, natural) =>
      let relation ← factor
      return some ⟨op, relation, ← constraint r natural, global, none⟩
    | none => return none

def withJoins (r : Rules) (factor : Parser Factor) : Parser TableWithJoins := do
  let relation ← factor
  return ⟨relation, ← repeated (join? r factor)⟩

/-- The alias of a table in parentheses, in the grammar that lets it stand behind them. -/
def realias (f : Factor) (a : TableAlias) : Parser Factor :=
  let clash (inner : TableAlias) : Parser Factor := failWith ("duplicate alias " ++ inner.text) none
  match f with
  | .table name partitions args before none after =>
    return .table name partitions args before (some a) after
  | .derived lateral q none => return .derived lateral q (some a)
  | .function e none => return .function e (some a)
  | .joined t none => return .joined t (some a)
  | .other s none after => return .other s (some a) after
  | .table _ _ _ _ (some inner) _ | .derived _ _ (some inner) | .function _ (some inner)
  | .joined _ (some inner) | .other _ (some inner) _ => clash inner

/-- What follows an opening parenthesis: a derived table or a join. -/
def enclosedTable (r : Rules) (factor : Parser Factor) : Parser Factor := do
  match ← maybe (derivedTable r false) with
  | some f => pivoted r f
  | none =>
    let t ← withJoins r factor
    let enclosed := match t with
      | ⟨.joined _ _, _⟩ => true
      | ⟨_, js⟩ => !js.isEmpty
    if enclosed then
      expectSymbol ")"
      return .joined t (← tableAlias r)
    else if ← dialectIn [.generic] then
      expectSymbol ")"
      match ← tableAlias r with
      | some a => realias t.relation a
      | none => return t.relation
    else expectedHere "joined table"

def factorWithin (r : Rules) : Nat → Parser Factor
  | 0 => throw .tooDeep
  | n + 1 => do
    let d ← dialect
    if ← keyword "LATERAL" then
      if ← symbol "(" then derivedTable r true else lateralFunction r
    else if ← keyword "TABLE" then
      let e ← parenthesized r.whole
      return .function e (← tableAlias r)
    else if ← symbol "(" then enclosedTable r (factorWithin r n)
    else if d.isGeneric && (← keywordBefore "VALUES" "(") then
      let (rows, explicitRow) ← rowsOf r
      return .derived false { body := .values explicitRow rows } (← tableAlias r)
    else if ← keywordIf (d.isPostgres || d.isGeneric) "UNNEST" then unnestTable r
    else if ← keywordBefore "JSON_TABLE" "(" then documentTable r
    else if ← keywordBefore "OPENJSON" "(" then openedTable r
    else namedTable r

def factor (r : Rules) : Parser Factor := do factorWithin r ((← read).steps + 1)

def tableAndJoins (r : Rules) : Parser TableWithJoins := withJoins r (factor r)

end SqlLoom.Grammar.Parser
