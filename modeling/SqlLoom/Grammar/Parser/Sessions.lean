import SqlLoom.Grammar.Parser.Definitions

/-! Statements about a session: its settings, what it is shown, its rights and its transactions. Of
each only the beginning of its text is kept. -/
namespace SqlLoom.Grammar.Parser

/-! ### Transactions -/

/-- How far a transaction is kept apart from others. -/
def isolationLevel : Parser String := do
  match ← choice [["READ", "UNCOMMITTED"], ["READ", "COMMITTED"], ["REPEATABLE", "READ"],
      ["SERIALIZABLE"]] with
  | some level => return "ISOLATION LEVEL " ++ level
  | none => expectedHere "isolation level"

def transactionMode? : Parser (Option String) := do
  if ← keywords ["ISOLATION", "LEVEL"] then some <$> isolationLevel
  else choice [["READ", "ONLY"], ["READ", "WRITE"]]

/-- Properties of a transaction. The commas between them may be left out, but none may end the
list. -/
def transactionModesWithin : Nat → Bool → Parser (List String)
  | 0, _ => return []
  | n + 1, required => do
    match ← transactionMode? with
    | some mode => return mode :: (← transactionModesWithin n (← symbol ","))
    | none => if required then expectedHere "transaction mode" else return []

def transactionModes : Parser (List String) := do
  transactionModesWithin ((← read).steps + 1) false

def begin : Parser Statement := do
  let modifier ← if ← dialectIn [.sqlite, .generic] then
      oneOf ["DEFERRED", "IMMEDIATE", "EXCLUSIVE"]
    else pure none
  let word ← oneOf ["TRANSACTION", "WORK"]
  let modes ← transactionModes
  return .other (Print.words
    ["BEGIN", modifier.getD "", word.getD "", Text.commaList modes])

def startTransaction : Parser Statement := do
  expectKeyword "TRANSACTION"
  discard transactionModes
  return .other "START TRANSACTION"

/-- `AND CHAIN` behind the end of a transaction. -/
def chained : Parser Bool := do
  discard (oneOf ["TRANSACTION", "WORK"])
  if ← keyword "AND" then
    let no ← keyword "NO"
    expectKeyword "CHAIN"
    return !no
  else return false

def commit : Parser Statement := do
  return .other (if ← chained then "COMMIT AND CHAIN" else "COMMIT")

def rollback : Parser Statement := do
  let chain ← chained
  let savepoint ← if ← keyword "TO" then do
      discard (keyword "SAVEPOINT")
      pure (" TO SAVEPOINT " ++ (← ident).text)
    else pure ""
  return .other ("ROLLBACK" ++ (if chain then " AND CHAIN" else savepoint))

def release : Parser Statement := do
  discard (keyword "SAVEPOINT")
  return .other ("RELEASE SAVEPOINT " ++ (← ident).text)

/-! ### Settings -/

/-- What follows `ROLE`, for the role that a session takes. -/
def sessionRole (modifier : Option String) : Parser Statement := do
  expectKeyword "ROLE"
  let role ← if ← keyword "NONE" then pure "NONE" else do pure (← ident).text
  return .other (Print.words ["SET", modifier.getD "", "ROLE", role])

/-- The names that are set: one, or several in parentheses. -/
structure Settable where
  text : String
  several : Bool := false

def settable : Parser Settable := do
  if ← keywords ["TIME", "ZONE"] then return ⟨"TIMEZONE", false⟩
  else if ← symbolIf (← dialect).isGeneric "(" then
    let names ← commaSeparated ident
    expectSymbol ")"
    return ⟨"(" ++ Ident.list names ++ ")", true⟩
  else return ⟨Ident.dotted (← objectName), false⟩

/-- The encoding of a connection. -/
def connectionNames : Parser Statement := do
  if !(← keyword "DEFAULT") then
    discard literalString
    if ← keyword "COLLATE" then discard literalString
  return .other "SET NAMES"

def settingValue (r : Rules) : Parser Unit := do
  if ← peekQuery then discard r.query
  else if (← lenient r.whole).isNone then expectedHere "variable value"

/-- What follows a name that no value is assigned to by a sign. -/
def specialSetting (r : Rules) (modifier : Option String) (head : String) (target : Settable) :
    Parser Statement := do
  if target.several then expectedHere "set variable"
  else if Text.sameName target.text "TIMEZONE" then
    if (← lenient r.whole).isSome then return .other (head ++ " TIME ZONE")
    else expectedHere "timezone value"
  else if target.text = "CHARACTERISTICS" then
    expectKeywords ["AS", "TRANSACTION"]
    discard transactionModes
    return .other "SET SESSION CHARACTERISTICS"
  else if target.text = "TRANSACTION" && modifier.isNone then
    if ← keyword "SNAPSHOT" then discard value else discard transactionModes
    return .other "SET TRANSACTION"
  else expectedHere "equals sign or TO"

/-- What follows `SET` and the words in front of the names. -/
def assignSetting (r : Rules) (modifier : Option String) : Parser Statement := do
  let head := if modifier = some "LOCAL" then "SET LOCAL" else "SET"
  let target ← settable
  let encoded ← dialectIn [.mySql, .generic]
  if encoded && !target.several && Text.sameName target.text "NAMES" then connectionNames
  else
    let assigned ← if ← symbol "=" then pure true else keyword "TO"
    if assigned then
      if target.several then expectSymbol "("
      discard (commaSeparated (settingValue r))
      if target.several then expectSymbol ")"
      return .other (head ++ " " ++ (if modifier = some "HIVEVAR" then "HIVEVAR:" else "") ++
        target.text ++ " =")
    else specialSetting r modifier head target

/-- What follows `SET`. -/
def setting (r : Rules) : Parser Statement := do
  let modifier ← oneOf ["SESSION", "LOCAL", "HIVEVAR"]
  if modifier = some "HIVEVAR" then
    expectSymbol ":"
    assignSetting r modifier
  else
    match ← maybe (sessionRole modifier) with
    | some s => return s
    | none => assignSetting r modifier

/-! ### Inspection -/

/-- Where the shown objects are. A kind of place may stand without a name. -/
def shownIn : Parser Unit := do
  if (← oneOf ["FROM", "IN"]).isSome then
    match ← oneOf ["ACCOUNT", "DATABASE", "SCHEMA", "TABLE", "VIEW"] with
    | some k =>
      let ended := (← peekKeywords ["STARTS", "WITH"]) || (← peekKeyword "LIMIT")
      if !(ended && (k = "DATABASE" || k = "SCHEMA")) then discard (maybe objectName)
    | none =>
      discard objectName
      if (← oneOf ["FROM", "IN"]).isSome then discard ident

/-- Which of the objects are shown. -/
def shownFilter (r : Rules) : Parser Unit := do
  if (← oneOf ["LIKE", "ILIKE"]).isSome then discard literalString
  else if ← keyword "WHERE" then discard r.whole
  else discard (maybe literalString)

/-- Where the shown objects are, which of them are shown and how many. -/
def shownPart (r : Rules) : Parser Unit := do
  shownIn
  shownFilter r
  if ← keywords ["STARTS", "WITH"] then discard value
  if ← keyword "LIMIT" then
    if !(← keyword "ALL") then discard r.whole
  if ← keyword "FROM" then discard value

/-- The names up to an equality sign or the end of the text, whatever else stands between. -/
def remainingNames : Parser (List Ident) := do
  let (taken, rest) := (← get).span (·.token != .symbol "=")
  set rest
  return taken.filterMap wordIdent?

/-- What follows `SHOW`, besides lists of objects. -/
def showOther (r : Rules) (terse global session : String) : Parser Statement := do
  let ranged ← dialectIn [.mySql, .generic]
  if ← keyword "CREATE" then
    discard (expectOneOf ["TABLE", "TRIGGER", "FUNCTION", "PROCEDURE", "EVENT", "VIEW"])
    discard objectName
    return .other "SHOW CREATE"
  else if ← keyword "COLLATION" then
    shownFilter r
    return .other "SHOW COLLATION"
  else if (← keyword "VARIABLES") && ranged then
    shownFilter r
    return .other (Print.words ["SHOW", global, session, "VARIABLES"])
  else if (← keyword "STATUS") && ranged then
    shownFilter r
    return .other (Print.words ["SHOW", global, session, "STATUS"])
  else
    match ← oneOf ["DATABASES", "SCHEMAS"] with
    | some kind =>
      discard (keyword "HISTORY")
      shownPart r
      return .other (Print.words ["SHOW", terse, kind])
    | none => return .other (Print.words ("SHOW" :: (← remainingNames).map (·.text)))

/-- What follows `SHOW`. -/
def showing (r : Rules) : Parser Statement := do
  let word (k : String) : Parser String := return if ← keyword k then k else ""
  let terse ← word "TERSE"
  let extended ← word "EXTENDED"
  let full ← word "FULL"
  let session ← word "SESSION"
  let global ← word "GLOBAL"
  let external ← word "EXTERNAL"
  if (← oneOf ["COLUMNS", "FIELDS"]).isSome then
    shownPart r
    return .other (Print.words ["SHOW", extended, full, "COLUMNS"])
  else if ← keyword "TABLES" then
    if external.isEmpty then discard (keyword "HISTORY")
    shownPart r
    return .other (Print.words ["SHOW", terse, extended, full, external, "TABLES"])
  else
    match ← choice [["MATERIALIZED", "VIEWS"], ["VIEWS"]] with
    | some kind =>
      shownPart r
      return .other (Print.words ["SHOW", terse, kind])
    | none =>
      if ← keyword "FUNCTIONS" then
        shownFilter r
        return .other "SHOW FUNCTIONS"
      else if !extended.isEmpty || !full.isEmpty then
        failWith "EXTENDED/FULL are not supported with this type of SHOW query" none
      else showOther r terse global session

/-- Options in parentheses behind `EXPLAIN`. -/
def utilityOptions (r : Rules) : Parser String := do
  let options ← parenthesized (commaSeparated do
    let name ← ident
    if (← peekSymbol ",") || (← peekSymbol ")") then return name.text
    else return name.text ++ " " ++ (← exprText r))
  return "(" ++ Text.commaList options ++ ")"

/-- The words between `EXPLAIN` and the statement. -/
def explainFlags (r : Rules) (word : String) : Parser String := do
  let optional := word = "EXPLAIN" && (← dialectIn [.postgres, .generic])
  if optional && (← peekSymbol "(") then utilityOptions r
  else if ← keywords ["QUERY", "PLAN"] then return "QUERY PLAN"
  else
    let analyze ← keyword "ANALYZE"
    let verbose ← keyword "VERBOSE"
    let format ← if ← keyword "FORMAT" then do
        let t ← next
        match t.token.keyword? with
        | some "TEXT" => pure "FORMAT TEXT"
        | some "GRAPHVIZ" => pure "FORMAT GRAPHVIZ"
        | some "JSON" => pure "FORMAT JSON"
        | _ => expected "fileformat" t
      else pure ""
    return Print.words
      [if analyze then "ANALYZE" else "", if verbose then "VERBOSE" else "", format]

def isExplanation : Statement → Bool
  | .other t => ["EXPLAIN", "DESCRIBE", "DESC"].contains (Text.leadingWords 1 t)
  | _ => false

/-- What follows `EXPLAIN` or one of its other names: a statement or a table. -/
def explain (r : Rules) (word : String) : Parser Statement := do
  let flags ← explainFlags r word
  match ← maybe r.statement with
  | some s =>
    if isExplanation s then failWith "Explain must be root of the plan" none
    else return .other (Print.words [word, flags, Print.heading s])
  | none =>
    let format := (← oneOf ["EXTENDED", "FORMATTED"]).getD ""
    return .other (Print.words [word, format, Ident.dotted (← objectName)])

/-! ### Rights -/

def privileges : List String :=
  ["CONNECT", "CREATE", "DELETE", "EXECUTE", "INSERT", "REFERENCES", "SELECT", "TEMPORARY",
    "TRIGGER", "TRUNCATE", "UPDATE", "USAGE"]

/-- A right, perhaps on certain columns. -/
def privilege : Parser String := do
  match ← oneOf privileges with
  | some k =>
    if ["INSERT", "REFERENCES", "SELECT", "UPDATE"].contains k then
      let columns ← optionalColumns false
      return if columns.isEmpty then k else k ++ " (" ++ Ident.list columns ++ ")"
    else return k
  | none => expectedHere "a privilege keyword"

/-- Rights and the objects they are on. -/
def rights : Parser String := do
  let listed ← if ← keyword "ALL" then do pure ("ALL" ++ (← flag "PRIVILEGES"))
    else do pure (Text.commaList (← commaSeparated privilege))
  expectKeyword "ON"
  let everywhere ← choice [["ALL", "TABLES", "IN", "SCHEMA"], ["ALL", "SEQUENCES", "IN", "SCHEMA"]]
  if everywhere.isNone then discard (oneOf ["SEQUENCE", "SCHEMA", "TABLE"])
  discard (commaSeparated objectName)
  return listed

def grantedBy : Parser Unit := do
  if ← keywords ["GRANTED", "BY"] then discard ident

/-- What follows `GRANT`. -/
def grant : Parser Statement := do
  let listed ← rights
  expectKeyword "TO"
  discard (commaSeparated ident)
  discard (keywords ["WITH", "GRANT", "OPTION"])
  grantedBy
  return .other ("GRANT " ++ listed)

/-- What follows `REVOKE`. -/
def revoke : Parser Statement := do
  let listed ← rights
  expectKeyword "FROM"
  discard (commaSeparated ident)
  grantedBy
  let position := (← peek).position
  let cascade ← keyword "CASCADE"
  let restrict ← keyword "RESTRICT"
  if cascade && restrict then
    failWith "Cannot specify both CASCADE and RESTRICT in REVOKE" position
  else return .other ("REVOKE " ++ listed)

end SqlLoom.Grammar.Parser
