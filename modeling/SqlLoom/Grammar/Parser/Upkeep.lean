import SqlLoom.Grammar.Parser.Objects

/-! Statements that look after tables, databases and the server. Of each only the beginning of its
text is kept. -/
namespace SqlLoom.Grammar.Parser

/-! ### Tables -/

/-- What follows `ANALYZE`. -/
def analyzing (r : Rules) : Parser Statement := do
  expectKeyword "TABLE"
  let name ← objectName
  discard (repeated do
    match ← oneOf ["PARTITION", "FOR", "CACHE", "NOSCAN", "COMPUTE"] with
    | some "PARTITION" => some <$> discard (parenthesized (commaSeparated r.whole))
    | some "FOR" =>
      expectKeyword "COLUMNS"
      some <$> discard (maybe (commaSeparated ident))
    | some "CACHE" => some <$> expectKeyword "METADATA"
    | some "COMPUTE" => some <$> expectKeyword "STATISTICS"
    | some _ => return some ()
    | none => return none)
  return .other ("ANALYZE TABLE " ++ Ident.dotted name)

/-- What follows `TRUNCATE`. -/
def truncate (r : Rules) : Parser Statement := do
  let table ← flag "TABLE"
  let only ← flag "ONLY"
  let names ← commaSeparated objectName
  if ← keyword "PARTITION" then discard (parenthesized (commaSeparated r.whole))
  if ← dialectIn [.postgres, .generic] then
    discard (choice [["RESTART", "IDENTITY"], ["CONTINUE", "IDENTITY"]])
    dropBehavior
  onCluster
  return .other ("TRUNCATE" ++ table ++ only ++ " " ++ Text.commaList (names.map Ident.dotted))

/-- What follows `OPTIMIZE`. -/
def optimizing (r : Rules) : Parser Statement := do
  expectKeyword "TABLE"
  discard objectName
  onCluster
  if ← keyword "PARTITION" then
    if ← keyword "ID" then discard ident else discard r.whole
  discard (keyword "FINAL")
  if ← keyword "DEDUPLICATE" then
    if ← keyword "BY" then discard r.whole
  return .other "OPTIMIZE TABLE"

/-- What follows `MSCK`. -/
def checking : Parser Statement := do
  let repair ← flag "REPAIR"
  expectKeyword "TABLE"
  discard objectName
  discard (maybe do
    discard (oneOf ["ADD", "DROP", "SYNC"])
    expectKeyword "PARTITIONS")
  return .other ("MSCK" ++ repair ++ " TABLE")

/-- The query whose rows are kept at hand, behind options. -/
def cachedQuery (r : Rules) : Parser Unit := do
  if (← peekToken) != .eof then
    discard (optionsBehind r "OPTIONS")
    if (← peekToken) != .eof then
      if (wordIdent? (← peek)).isNone then expectedHere "a QUERY statement"
      else
        discard (keyword "AS")
        discard r.query

/-- What follows `CACHE`. A message at the end of the text is about the last token. -/
def caching (r : Rules) : Parser Statement := do
  let mark ← if ← peekKeyword "TABLE" then pure ""
    else do
      let taken ← get
      let name ← objectName
      if ← peekKeyword "TABLE" then pure (" " ++ Ident.dotted name)
      else
        let t ← peek
        expected ("a " ++ marked "TABLE" ++ " keyword")
          (if t.token == .eof then (taken.getLast?).getD t else t)
  skip
  discard objectName
  cachedQuery r
  return .other ("CACHE" ++ mark ++ " TABLE")

def uncaching : Parser Statement := do
  expectKeyword "TABLE"
  discard ifExists
  discard objectName
  return .other "UNCACHE TABLE"

/-- One table that is locked, with the way it is. -/
def lockedTable : Parser Unit := do
  discard ident
  discard (optionalAlias ["READ", "WRITE", "LOW_PRIORITY"])
  match ← choice [["READ", "LOCAL"], ["READ"], ["WRITE"], ["LOW_PRIORITY", "WRITE"]] with
  | some _ => return ()
  | none => expectedHere "an lock type in LOCK TABLES"

/-- `LOCK TABLES` and its contrary, in the grammar that has them. -/
def locking? : Parser (Option Statement) := do
  if !(← dialect).isMySql then return none
  else if ← keywords ["LOCK", "TABLES"] then
    discard (commaSeparated lockedTable)
    return some (.other "LOCK TABLES")
  else if ← keywords ["UNLOCK", "TABLES"] then return some (.other "UNLOCK TABLES")
  else return none

/-! ### Databases -/

/-- What follows `ATTACH`. -/
def attaching (r : Rules) : Parser Statement := do
  let word ← flag "DATABASE"
  let file ← exprText r
  expectKeyword "AS"
  discard ident
  return .other ("ATTACH" ++ word ++ " " ++ file)

def detaching : Parser Statement := do
  let word ← flag "DATABASE"
  let guarded ← flags ["IF", "EXISTS"]
  return .other ("DETACH" ++ word ++ guarded ++ " " ++ (← ident).text)

/-- What follows `PRAGMA`. -/
def pragma : Parser Statement := do
  let head := "PRAGMA " ++ Ident.dotted (← objectName)
  let argument : Parser String := do
    let t ← peek
    match ← value with
    | .number s long => return Value.text (.number s long)
    | .string .single s => return Value.text (.string .single s)
    | .string .double s => return Value.text (.string .double s)
    | .placeholder s => return s
    | _ => expected "number or string or ? placeholder" t
  if ← symbol "(" then
    let v ← argument
    expectSymbol ")"
    return .other (head ++ "(" ++ v ++ ")")
  else if ← symbol "=" then return .other (head ++ " = " ++ (← argument))
  else return .other head

def commentable : List String :=
  ["COLUMN", "TABLE", "EXTENSION", "SCHEMA", "DATABASE", "USER", "ROLE"]

/-- What follows `COMMENT`. -/
def commenting : Parser Statement := do
  let guarded ← flags ["IF", "EXISTS"]
  expectKeyword "ON"
  let t ← next
  if !(t.token.keyword?.any commentable.contains) then expected "comment object_type" t
  discard objectName
  expectKeyword "IS"
  if !(← keyword "NULL") then discard literalString
  return .other ("COMMENT" ++ guarded ++ " ON")

/-! ### The server -/

/-- What follows `KILL`. -/
def killing : Parser Statement := do
  let kind ← oneOf ["CONNECTION", "QUERY", "MUTATION"]
  let id ← literalUnsigned
  if kind = some "MUTATION" && !(← dialect).isGeneric then
    expectedHere "Unsupported type for KILL, allowed: CONNECTION | QUERY"
  else return .other (Print.words ["KILL", kind.getD "", toString id])

/-- What is flushed besides tables. -/
def flushable : List (List String) :=
  [["BINARY", "LOGS"], ["ENGINE", "LOGS"], ["ERROR", "LOGS"], ["GENERAL", "LOGS"], ["HOSTS"],
    ["PRIVILEGES"], ["OPTIMIZER_COSTS"], ["RELAY", "LOGS"], ["SLOW", "LOGS"], ["STATUS"],
    ["USER_RESOURCES"], ["LOGS"]]

/-- Tables that are flushed and what is done with them. The first token that is no word ends the list
and is taken. -/
def flushedTables : Parser Unit :=
  discard (repeated do
    let t ← peek
    match t.token with
    | .word _ _ =>
      if t.token.isPlainWord then some <$> discard (commaSeparated objectName)
      else
        skip
        match t.token.keyword? with
        | some "WITH" => some <$> discard (keywords ["READ", "LOCK"])
        | some "FOR" => some <$> discard (keyword "EXPORT")
        | _ => return some ()
    | _ =>
      skip
      return none)

/-- What follows `FLUSH`. -/
def flushing : Parser Statement := do
  if !(← dialectIn [.mySql, .generic]) then
    failWith "Unsupported statement FLUSH" (← peek).position
  else
    let place := (← oneOf ["NO_WRITE_TO_BINLOG", "LOCAL"]).getD ""
    match ← choice flushable with
    | some kind =>
      if kind = "RELAY LOGS" then
        if ← keywords ["FOR", "CHANNEL"] then discard objectName
      return .other (Print.words ["FLUSH", place, kind])
    | none =>
      if ← keyword "TABLES" then
        flushedTables
        return .other (Print.words ["FLUSH", place, "TABLES"])
      else
        expectedHere ("BINARY LOGS, ENGINE LOGS, ERROR LOGS, GENERAL LOGS, HOSTS, LOGS, " ++
          "PRIVILEGES, OPTIMIZER_COSTS,RELAY LOGS [FOR CHANNEL channel], SLOW LOGS, STATUS, " ++
          "USER_RESOURCES")

/-- What follows `DISCARD`. -/
def discarding : Parser Statement := do
  match ← oneOf ["ALL", "PLANS", "SEQUENCES", "TEMP", "TEMPORARY"] with
  | some "TEMPORARY" => return .other "DISCARD TEMP"
  | some k => return .other ("DISCARD " ++ k)
  | none => expectedHere "ALL, PLANS, SEQUENCES, TEMP or TEMPORARY after DISCARD"

/-- What follows `UNLISTEN`. -/
def unlistening : Parser Statement := do
  if ← symbol "*" then return .other "UNLISTEN *"
  else
    match ← maybe ident with
    | some channel => return .other ("UNLISTEN " ++ channel.text)
    | none => expectedHere "wildcard or identifier"

/-- What follows `NOTIFY`. -/
def notifying : Parser Statement := do
  let channel ← ident
  if ← symbol "," then return .other ("NOTIFY " ++ channel.text ++ ", '" ++ (← literalString) ++ "'")
  else return .other ("NOTIFY " ++ channel.text)

end SqlLoom.Grammar.Parser
