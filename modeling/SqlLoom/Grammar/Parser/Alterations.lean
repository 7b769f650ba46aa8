import SqlLoom.Grammar.Parser.Objects

/-! Statements that alter what exists. Of each only the beginning of its text is kept. -/
namespace SqlLoom.Grammar.Parser

/-! ### Roles -/

/-- One option of a role, in the grammar that lets several follow each other. -/
def alterRoleOption : Parser Unit := do
  let t ← peek
  let k := t.token.keyword?.getD ""
  if (roleSwitch? k).isSome then skip
  else
    match ← oneOf ["CONNECTION", "PASSWORD", "VALID"] with
    | some "CONNECTION" =>
      expectKeyword "LIMIT"
      discard numberValue
    | some "PASSWORD" => password
    | some _ =>
      expectKeyword "UNTIL"
      discard value
    | none => expectedHere "option"

/-- What follows `SET` and the name of a parameter of a role. -/
def roleParameter (r : Rules) : Parser Unit := do
  if ← keywords ["FROM", "CURRENT"] then return ()
  else
    let assigned ← if ← symbol "=" then pure true else keyword "TO"
    if !assigned then expectedHere "'TO' or '=' or 'FROM CURRENT'"
    else if ← keyword "DEFAULT" then return ()
    else if (← lenient r.whole).isNone then expectedHere "config value"

def renamedTo (name : Parser Unit) : Parser Unit := do
  if ← keyword "TO" then name else expectedHere "TO after RENAME"

/-- What is done to a role, in one grammar. -/
def alterRole (r : Rules) : Parser Unit := do
  discard ident
  if ← keywords ["IN", "DATABASE"] then discard (lenient objectName)
  if ← keyword "RENAME" then renamedTo (discard ident)
  else if ← keyword "SET" then
    discard objectName
    roleParameter r
  else if ← keyword "RESET" then
    if !(← keyword "ALL") then discard objectName
  else
    discard (keyword "WITH")
    let options ← repeated (maybe alterRoleOption)
    if options.isEmpty then expectedHere "option"

/-- What is done to a role and its members, in another. -/
def alterMembers : Parser Unit := do
  discard ident
  if (← choice [["ADD", "MEMBER"], ["DROP", "MEMBER"]]).isSome then discard ident
  else if ← keywords ["WITH", "NAME"] then
    if ← symbol "=" then discard ident else expectedHere "= after WITH NAME "
  else expectedHere "'ADD' or 'DROP' or 'WITH NAME' after 'ALTER ROLE'"

/-! ### Tables -/

def exprsInParentheses (r : Rules) : Parser Unit := discard (parenthesized (commaSeparated r.whole))

/-- Where a new column stands among the others. -/
def columnPosition : Parser Unit := do
  if ← dialectIn [.mySql, .generic] then
    if ← keyword "FIRST" then return ()
    else if ← keyword "AFTER" then discard ident

/-- A stored selection of columns. -/
def addProjection (r : Rules) : Parser Unit := do
  discard ifNotExists
  discard ident
  discard (parenthesized do
    expectKeyword "SELECT"
    discard (commaSeparated (selectItem r))
    discard (groupBy r)
    if ← keywords ["ORDER", "BY"] then
      discard (orderList r)
      discard (interpolationClause r))

def addPartitions (r : Rules) : Parser Bool := do
  let partitions ← repeated do
    if ← keyword "PARTITION" then some <$> exprsInParentheses r else return none
  return !partitions.isEmpty

/-- What follows `ADD`. -/
def addToTable (r : Rules) : Parser Unit := do
  if ← tableConstraint r then return ()
  else if ← keywordIf (← dialect).isGeneric "PROJECTION" then addProjection r
  else
    discard ifNotExists
    if ← addPartitions r then return ()
    else
      discard (keyword "COLUMN")
      if ← dialectIn [.postgres, .generic] then discard ifNotExists
      discard (column r)
      columnPosition

/-- What follows `RENAME`. -/
def renameInTable : Parser Unit := do
  let renamed : Parser Unit := do
    discard ident
    expectKeyword "TO"
    discard ident
  if ← keywordIf (← dialect).isPostgres "CONSTRAINT" then renamed
  else if ← keyword "TO" then discard objectName
  else
    discard (keyword "COLUMN")
    renamed

/-- What follows `DISABLE`. -/
def disableInTable : Parser Unit := do
  if ← keywords ["ROW", "LEVEL", "SECURITY"] then return ()
  else if (← oneOf ["RULE", "TRIGGER"]).isSome then discard ident
  else expectedHere "ROW LEVEL SECURITY, RULE, or TRIGGER after DISABLE"

/-- What follows `ENABLE`. -/
def enableInTable : Parser Unit := do
  if ← keywords ["ROW", "LEVEL", "SECURITY"] then return ()
  else if (← choice [["ALWAYS", "RULE"], ["ALWAYS", "TRIGGER"], ["REPLICA", "RULE"],
      ["REPLICA", "TRIGGER"], ["RULE"], ["TRIGGER"]]).isSome then discard ident
  else expectedHere "ALWAYS, REPLICA, ROW LEVEL SECURITY, RULE, or TRIGGER after ENABLE"

/-- What follows `CLEAR PROJECTION` and `MATERIALIZE PROJECTION`. -/
def projectionIn : Parser Unit := do
  discard ifExists
  discard ident
  if ← keywords ["IN", "PARTITION"] then discard ident

/-- What follows `DROP`. -/
def dropInTable (r : Rules) : Parser Unit := do
  let d ← dialect
  if (← choice [["IF", "EXISTS", "PARTITION"], ["PARTITION"]]).isSome then exprsInParentheses r
  else if ← keyword "CONSTRAINT" then
    discard ifExists
    discard ident
    discard (keyword "CASCADE")
  else if (← keywords ["PRIMARY", "KEY"]) && (d.isMySql || d.isGeneric) then return ()
  else if (← keyword "PROJECTION") && d.isGeneric then
    discard ifExists
    discard ident
  else if ← keywords ["CLUSTERING", "KEY"] then return ()
  else
    discard (keyword "COLUMN")
    discard ifExists
    discard ident
    discard (keyword "CASCADE")

/-- A column's new type, options and place. -/
def retypedColumn (r : Rules) : Parser Unit := do
  discard (dataType r)
  discard (repeated (columnOption r))
  columnPosition

/-- What follows `ALTER COLUMN` and its name. -/
def alterColumn (r : Rules) : Parser Unit := do
  let pg := (← dialect).isPostgres
  if (← choice [["SET", "NOT", "NULL"], ["DROP", "NOT", "NULL"], ["DROP", "DEFAULT"]]).isSome then
    return ()
  else if ← keywords ["SET", "DEFAULT"] then discard r.whole
  else
    let typed ← if ← keywords ["SET", "DATA", "TYPE"] then pure true else keywordIf pg "TYPE"
    if typed then
      discard (dataType r)
      if ← keywordIf pg "USING" then discard r.whole
    else if ← keywords ["ADD", "GENERATED"] then
      discard (choice [["ALWAYS"], ["BY", "DEFAULT"]])
      expectKeywords ["AS", "IDENTITY"]
      discard identityOptions
    else if pg then
      expectedHere
        "SET/DROP NOT NULL, SET DEFAULT, SET DATA TYPE, or ADD GENERATED after ALTER COLUMN"
    else expectedHere "SET/DROP NOT NULL, SET DEFAULT, or SET DATA TYPE after ALTER COLUMN"

/-- A part of a table that is attached to it or taken away from it. -/
def tablePart (r : Rules) : Parser Unit := do
  discard (expectOneOf ["PART", "PARTITION"])
  discard r.whole

def frozenPart (r : Rules) : Parser Unit := do
  tablePart r
  if ← keyword "WITH" then
    expectKeyword "NAME"
    discard ident

/-- What some grammars do to a table besides what all do. -/
def alterTableSpecially (r : Rules) : Parser Unit := do
  let d ← dialect
  if ← if d.isPostgres || d.isGeneric then keywords ["OWNER", "TO"] else pure false then owner
  else
    match ← if d.isGeneric then oneOf ["ATTACH", "DETACH", "FREEZE", "UNFREEZE"] else pure none with
    | some "ATTACH" | some "DETACH" => tablePart r
    | some _ => frozenPart r
    | none =>
      if ← keywords ["CLUSTER", "BY"] then exprsInParentheses r
      else if (← choice [["SUSPEND", "RECLUSTER"], ["RESUME", "RECLUSTER"]]).isSome then return ()
      else if ← keywords ["SET", "TBLPROPERTIES"] then
        discard (parenthesized (commaSeparated (namedOption r)))
      else
        expectedHere
          "ADD, RENAME, PARTITION, SWAP, DROP, or SET TBLPROPERTIES after ALTER TABLE"

/-- One thing done to a table. -/
def alterTableOperation (r : Rules) : Parser Unit := do
  let generic := (← dialect).isGeneric
  if ← keyword "ADD" then addToTable r
  else if ← keyword "RENAME" then renameInTable
  else if ← keyword "DISABLE" then disableInTable
  else if ← keyword "ENABLE" then enableInTable
  else if (← keywords ["CLEAR", "PROJECTION"]) && generic then projectionIn
  else if (← keywords ["MATERIALIZE", "PROJECTION"]) && generic then projectionIn
  else if ← keyword "DROP" then dropInTable r
  else if ← keyword "PARTITION" then
    exprsInParentheses r
    expectKeywords ["RENAME", "TO", "PARTITION"]
    exprsInParentheses r
  else if ← keyword "CHANGE" then
    discard (keyword "COLUMN")
    discard ident
    discard ident
    retypedColumn r
  else if ← keyword "MODIFY" then
    discard (keyword "COLUMN")
    discard ident
    retypedColumn r
  else if ← keyword "ALTER" then
    discard (keyword "COLUMN")
    discard ident
    alterColumn r
  else if ← keyword "SWAP" then
    expectKeyword "WITH"
    discard objectName
  else alterTableSpecially r

/-- What follows `ALTER TABLE`. -/
def alterTable (r : Rules) : Parser Unit := do
  discard ifExists
  discard (keyword "ONLY")
  discard objectName
  onCluster
  discard (commaSeparated (alterTableOperation r))
  if (← choice [["LOCATION"], ["SET", "LOCATION"]]).isSome then discard ident

/-! ### Other objects -/

def alterView (r : Rules) : Parser Unit := do
  discard objectName
  discard (optionalColumns false)
  discard (optionsBehind r "WITH")
  expectKeyword "AS"
  discard r.query

def alterIndex : Parser Unit := do
  discard objectName
  if ← keyword "RENAME" then renamedTo (discard objectName)
  else expectedHere "RENAME after ALTER INDEX"

def alterPolicy (r : Rules) : Parser Unit := do
  discard ident
  expectKeyword "ON"
  discard objectName
  if ← keyword "RENAME" then
    expectKeyword "TO"
    discard ident
  else policyBody r

/-- What follows `ALTER`. -/
def alter (r : Rules) : Parser Statement := do
  let kind ← expectOneOf ["VIEW", "TABLE", "INDEX", "ROLE", "POLICY"]
  match kind with
  | "VIEW" => alterView r
  | "TABLE" => alterTable r
  | "INDEX" => alterIndex
  | "POLICY" => alterPolicy r
  | _ =>
    match ← dialect with
    | .postgres => alterRole r
    | .sqlServer => alterMembers
    | _ => failWith "ALTER ROLE is only support for PostgreSqlDialect, MsSqlDialect" none
  return .other ("ALTER " ++ kind)

end SqlLoom.Grammar.Parser
