import SqlLoom.Grammar.Parser.Queries

/-! Statements that change data. -/
namespace SqlLoom.Grammar.Parser

/-- `OR REPLACE`, which may be written without `OR`, and its kin. -/
def conflictClause : Parser String := do
  let choices := ["REPLACE", "ROLLBACK", "ABORT", "FAIL", "IGNORE"]
  match ← choices.findM? fun k => keywords ["OR", k] with
  | some k => return "OR " ++ k
  | none => if ← keyword "REPLACE" then return "OR REPLACE" else return ""

def assignmentTarget : Parser Target := do
  if ← peekSymbol "(" then return .tuple (← parenthesized (commaSeparated objectName))
  else return .column (← objectName)

def assignment (r : Rules) : Parser Assignment := do
  let target ← assignmentTarget
  expectSymbol "="
  return ⟨target, ← r.whole⟩

/-- What follows `ON` behind the rows of an insertion. -/
def conflictAction (r : Rules) : Parser String := do
  if ← keyword "CONFLICT" then
    let target ← if ← keywords ["ON", "CONSTRAINT"] then do
        pure (" ON CONSTRAINT " ++ Ident.dotted (← objectName))
      else if ← peekSymbol "(" then do pure ("(" ++ Ident.list (← columnList false) ++ ")")
      else pure ""
    expectKeyword "DO"
    if ← keyword "NOTHING" then return " ON CONFLICT" ++ target ++ " DO NOTHING"
    else
      expectKeywords ["UPDATE", "SET"]
      let as ← commaSeparated (assignment r)
      let filter ← after "WHERE" r.whole
      return " ON CONFLICT" ++ target ++ " DO UPDATE SET " ++ Print.assignments as ++
        Print.optional " WHERE " filter
  else
    expectKeywords ["DUPLICATE", "KEY", "UPDATE"]
    return " ON DUPLICATE KEY UPDATE " ++ Print.assignments (← commaSeparated (assignment r))

/-- The name of a file format. -/
def fileFormat : Parser String := do
  let t ← next
  match t.token.keyword? with
  | some k =>
    if ["AVRO", "JSONFILE", "ORC", "PARQUET", "RCFILE", "SEQUENCEFILE", "TEXTFILE"].contains k then
      return k
    else expected "fileformat" t
  | none => expected "fileformat" t

/-- The words between `INSERT` and the table or directory. -/
structure InsertWords where
  conflict : String
  priority : Option String
  ignore : Bool
  overwrite : Bool
  into : Bool
  isLocal : Bool

def insertWords : Parser InsertWords := do
  let conflict ← conflictClause
  let extended ← dialectIn [.mySql, .generic]
  let priority ← if extended then oneOf ["LOW_PRIORITY", "DELAYED", "HIGH_PRIORITY"] else pure none
  let ignore ← keywordIf extended "IGNORE"
  let overwrite ← keyword "OVERWRITE"
  let into ← keyword "INTO"
  return { conflict, priority, ignore, overwrite, into, isLocal := ← keyword "LOCAL" }

/-- Everything in front of the table. -/
def InsertWords.head (w : InsertWords) (word : String) (table : Bool) : String :=
  if w.conflict.isEmpty then
    Print.words [word, w.priority.getD "", if w.ignore then "IGNORE" else "",
      if w.overwrite then "OVERWRITE" else "", if w.into then "INTO" else "",
      if table then "TABLE" else ""]
  else "INSERT " ++ w.conflict ++ " INTO"

/-- What follows `DIRECTORY`: rows that go to files. -/
def insertDirectory (r : Rules) (w : InsertWords) : Parser Statement := do
  let path ← literalString
  let format ← if ← keywords ["STORED", "AS"] then do pure (" STORED AS " ++ (← fileFormat))
    else pure ""
  let source ← r.query
  return .other ("INSERT" ++ (if w.overwrite then " OVERWRITE" else "") ++
    (if w.isLocal then " LOCAL" else "") ++ " DIRECTORY '" ++ path ++ "'" ++ format ++ " " ++
    Print.query source)

/-- What follows the table of an insertion. -/
def insertTable (r : Rules) (head : String) : Parser Insert := do
  let d ← dialect
  let table ← objectName
  let tableAlias ← if ← keywordIf d.isPostgres "AS" then some <$> ident else pure none
  let (columns, partition, source) ← if ← keywords ["DEFAULT", "VALUES"] then pure ([], "", none)
    else do
      let enclosed := (← peekSymbol "(") && (← keywordAt? 1) == some "SELECT"
      let columns ← if enclosed then pure [] else optionalColumns d.isMySql
      let partition ← if ← keywordIf (!enclosed) "PARTITION" then do
          pure ("PARTITION (" ++ (← parenthesized (exprListText r)) ++ ") ")
        else pure ""
      pure (columns, partition, some (← r.query))
  let rowAlias ← if ← keywordIf (d.isMySql || d.isGeneric) "AS" then do
      let name ← objectName
      let names ← optionalColumns false
      pure (" AS " ++ Ident.dotted name ++
        (if names.isEmpty then "" else " (" ++ Ident.list names ++ ")"))
    else pure ""
  let action ← if ← keyword "ON" then conflictAction r else pure ""
  return { head, table, tableAlias, columns, partition, source, tail := rowAlias ++ action,
           returning := ← returning r }

/-- What follows `INSERT` or `REPLACE`. -/
def insert (r : Rules) (word : String) : Parser Statement := do
  let w ← insertWords
  if ← keyword "DIRECTORY" then insertDirectory r w
  else
    let table ← keyword "TABLE"
    return .insert (← insertTable r (w.head word table))

/-- What follows `UPDATE`. -/
def update (r : Rules) : Parser Update := do
  let conflict ← conflictClause
  let table ← tableAndJoins r
  expectKeyword "SET"
  let assignments ← commaSeparated (assignment r)
  let joined ← keyword "FROM"
  let source ← if joined && !(← dialect).isMySql then some <$> tableAndJoins r else pure none
  let filter ← after "WHERE" r.whole
  return { conflict := if conflict.isEmpty then "" else conflict ++ " ", table, assignments, source,
           filter, returning := ← returning r }

/-- What follows `DELETE`. -/
def delete (r : Rules) : Parser Delete := do
  if !(← keyword "FROM") && !(← dialect).isGeneric then
    let _ ← commaSeparated objectName
    expectKeyword "FROM"
  let froms ← commaSeparated (tableAndJoins r)
  let usings ← after "USING" (commaSeparated (tableAndJoins r))
  let filter ← after "WHERE" r.whole
  let returning ← returning r
  if ← keywords ["ORDER", "BY"] then
    let _ ← orderList r
  if ← keyword "LIMIT" then
    if !(← keyword "ALL") then
      let _ ← r.whole
  return { froms, usings := usings.getD [], filter, returning }

/-! ### Merging -/

/-- Which rows a clause of a merge is about. -/
def mergeKind : Parser String := do
  expectKeyword "WHEN"
  if ← keyword "NOT" then
    expectKeyword "MATCHED"
    match ← choice [["BY", "SOURCE"], ["BY", "TARGET"]] with
    | some side => return "NOT MATCHED " ++ side
    | none => return "NOT MATCHED"
  else
    expectKeyword "MATCHED"
    return "MATCHED"

/-- The row that a merge inserts. -/
def mergedRow (r : Rules) : Parser Unit := do
  let d ← dialect
  discard (optionalColumns d.isMySql)
  if !(← keywordIf d.isGeneric "ROW") then
    expectKeyword "VALUES"
    discard (rowsOf r)

/-- One clause of a merge. Rows that are missing from the target can be inserted and nothing else,
and the others everything but that. -/
def mergeClause (r : Rules) : Parser Unit := do
  let kind ← mergeKind
  if ← keyword "AND" then discard r.whole
  expectKeyword "THEN"
  let missing := kind = "NOT MATCHED" || kind = "NOT MATCHED BY TARGET"
  match ← oneOf ["UPDATE", "INSERT", "DELETE"] with
  | none => failWith "expected UPDATE, DELETE or INSERT in merge clause" none
  | some action =>
    if missing != (action == "INSERT") then
      failWith (action ++ " is not allowed in a " ++ kind ++ " merge clause") none
    else if action = "INSERT" then mergedRow r
    else if action = "UPDATE" then
      expectKeyword "SET"
      discard (commaSeparated (assignment r))

/-- What follows `MERGE`. -/
def merge (r : Rules) : Parser Statement := do
  let into ← keyword "INTO"
  let target ← factor r
  expectKeyword "USING"
  discard (factor r)
  expectKeyword "ON"
  discard r.whole
  discard (repeated do
    if (← peekToken) == .eof || (← peekSymbol ";") then return none
    else some <$> mergeClause r)
  return .other (if into then "MERGE INTO" else "MERGE " ++ Print.factor target)

end SqlLoom.Grammar.Parser
