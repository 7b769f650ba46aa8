import SqlLoom.Grammar.Parser.Changes

/-! Definitions of tables: columns, constraints and how rows are stored. -/
namespace SqlLoom.Grammar.Parser

def quoteMark : String := String.singleton Dialect.backtick

/-- A text between two marks, as messages show what has to be written. -/
def marked (s : String) : String := quoteMark ++ s ++ quoteMark

/-! ### Constraints of a whole table -/

/-- The kind of an index behind `USING`, if it is given. -/
def indexType? : Parser Bool := do
  if ← keyword "USING" then
    if (← oneOf ["BTREE", "HASH"]).isSome then return true
    else expectedHere "index type \x7bBTREE | HASH\x7d"
  else return false

/-- The kind of an index and comments, in any number. -/
def indexOptions : Parser Unit :=
  discard (repeated do
    if ← indexType? then return some ()
    else if ← keyword "COMMENT" then
      let _ ← literalString
      return some ()
    else return none)

/-- `KEY` or `INDEX`, if one comes next. -/
def indexWord : Parser Bool := return (← oneOf ["KEY", "INDEX"]).isSome

def optionalIdent : Parser Unit := discard (maybe ident)

/-- Whether nulls differ from each other in a unique index. -/
def nullsDistinct : Parser Unit := do
  if ← keyword "NULLS" then
    let _ ← keyword "NOT"
    expectKeyword "DISTINCT"

/-- The columns of a key, with the name and the kind of its index around them. -/
def keyColumns : Parser Unit := do
  optionalIdent
  discard indexType?
  discard mandatoryColumns
  indexOptions
  discard constraintTiming

def uniqueKey : Parser Unit := do
  let named ← indexWord
  if named && !(← dialectIn [.mySql, .generic]) then
    expectedHere (marked "index_name" ++ " or " ++ marked "(column_name [, ...])")
  nullsDistinct
  keyColumns

def foreignKey : Parser Unit := do
  expectKeyword "KEY"
  discard mandatoryColumns
  expectKeyword "REFERENCES"
  discard objectName
  discard mandatoryColumns
  discard referenceTail

/-- A constraint of the whole table; whether there was one. -/
def tableConstraint (r : Rules) : Parser Bool := do
  let indexes ← dialectIn [.mySql, .generic]
  let name ← after "CONSTRAINT" ident
  let t ← peek
  let leads (p : Parser Unit) : Parser Bool := do
    skip
    p
    return true
  match t.token.keyword?.getD "" with
  | "UNIQUE" => leads uniqueKey
  | "PRIMARY" => leads do
      expectKeyword "KEY"
      keyColumns
  | "FOREIGN" => leads foreignKey
  | "CHECK" => leads (discard (parenthesized r.whole))
  | k =>
    if (k == "INDEX" || k == "KEY") && indexes && name.isNone then leads do
      if !(← peekKeyword "USING") then optionalIdent
      discard indexType?
      discard mandatoryColumns
    else if (k == "FULLTEXT" || k == "SPATIAL") && indexes then leads do
      match name with
      | some i =>
        failWith ("Expected: FULLTEXT or SPATIAL option without constraint name, found: " ++ i.text)
          t.position
      | none =>
        discard indexWord
        optionalIdent
        discard mandatoryColumns
    else if name.isSome then
      skip
      expected "PRIMARY, UNIQUE, FOREIGN, or CHECK" t
    else return false

/-! ### Columns -/

def column (r : Rules) : Parser ColumnDefinition := columnDefinition r (typeText r)

/-- The entries between the parentheses of a table definition, the closing one included. -/
def definitionsWithin (r : Rules) : Nat → Parser (List ColumnDefinition)
  | 0 => return []
  | n + 1 => do
    let columns ← if ← tableConstraint r then pure []
      else
        match (← peekToken) with
        | .word _ _ => do pure [← column r]
        | _ => expectedHere "column name or constraint definition"
    let comma ← symbol ","
    let closing ← peekSymbol ")"
    if !comma && !closing then expectedHere "',' or ')' after column definition"
    else if closing && !comma then
      skip
      return columns
    else return columns ++ (← definitionsWithin r n)

/-- The columns of a table, if they are listed. -/
def tableColumns (r : Rules) : Parser (List (Ident × String)) := do
  if ← symbol "(" then
    if ← symbol ")" then return []
    else
      let columns ← definitionsWithin r ((← read).steps + 1)
      return columns.map fun c => (c.name, c.type)
  else return []

/-! ### Storage -/

/-- `ON CLUSTER` with a name. -/
def onCluster : Parser Unit := do
  if ← keywords ["ON", "CLUSTER"] then discard ident

/-- The columns by which the rows are stored apart. -/
def partitionedBy (r : Rules) : Parser Unit := do
  if ← keywords ["PARTITIONED", "BY"] then discard (parenthesized (commaSeparated (column r)))

/-- The columns by which the rows are put into buckets, in the grammar that has them. -/
def clusteredBy (r : Rules) : Parser Unit := do
  if ← if (← dialect).isGeneric then keywords ["CLUSTERED", "BY"] else pure false then
    discard mandatoryColumns
    if ← keywords ["SORTED", "BY"] then discard (parenthesized (orderList r))
    expectKeyword "INTO"
    discard numberValue
    expectKeyword "BUCKETS"

/-- The word for a class that reads and writes rows. -/
def rowClass : String := "SER" ++ "DE"

/-- Words behind which a delimiter is given. -/
def delimiters : List (String × List String) :=
  [("FIELDS", ["TERMINATED", "BY"]), ("COLLECTION", ["ITEMS", "TERMINATED", "BY"]),
    ("MAP", ["KEYS", "TERMINATED", "BY"]), ("LINES", ["TERMINATED", "BY"]),
    ("NULL", ["DEFINED", "AS"])]

/-- One delimiter. The word that announces it is taken even if it is not given. -/
def delimiter? : Parser (Option Unit) := do
  match ← delimiters.findM? fun (k, _) => keyword k with
  | none => return none
  | some (k, ks) =>
    if ← keywords ks then
      discard ident
      if k = "FIELDS" then
        if ← keywords ["ESCAPED", "BY"] then discard ident
      return some ()
    else return none

/-- What follows `ROW`. -/
def rowFormat : Parser Unit := do
  expectKeyword "FORMAT"
  match ← oneOf [rowClass, "DELIMITED"] with
  | some k => if k = rowClass then discard literalString else discard (repeated delimiter?)
  | none => discard (repeated delimiter?)

/-- What follows `STORED`. -/
def storedAs (r : Rules) : Parser Unit := do
  expectKeyword "AS"
  if ← keyword "INPUTFORMAT" then
    discard r.whole
    expectKeyword "OUTPUTFORMAT"
    discard r.whole
  else discard fileFormat

/-- How and where the rows are stored, in any order. -/
def storage (r : Rules) : Parser Unit :=
  discard (repeated do
    if ← keyword "ROW" then some <$> rowFormat
    else if ← keyword "STORED" then some <$> storedAs r
    else if ← keyword "LOCATION" then some <$> discard literalString
    else if ← keywords ["WITH", rowClass ++ "PROPERTIES"] then
      some <$> discard (parenthesized (commaSeparated (namedOption r)))
    else return none)

/-- A word behind an equality sign. -/
def equalsWord : Parser Unit := do
  expectSymbol "="
  let t ← next
  if (wordIdent? t).isNone then expected "identifier" t

/-- The expressions by which the rows are ordered. -/
def storedOrder (r : Rules) : Parser Unit := do
  if ← keywords ["ORDER", "BY"] then
    if ← symbol "(" then
      discard (commaSeparatedOr ")" r.whole)
      expectSymbol ")"
    else discard r.whole

/-- How the rows are divided, and options, where the grammar has them. -/
def tableLayout (r : Rules) : Parser Unit := do
  let d ← dialect
  if ← if d.isPostgres || d.isGeneric then keywords ["PARTITION", "BY"] else pure false then
    discard r.whole
  if d.isGeneric then
    if ← keywords ["CLUSTER", "BY"] then discard (commaSeparated ident)
    discard (optionsBehind r "OPTIONS")

/-- What happens to the rows when a transaction ends. -/
def onCommit : Parser Unit := do
  if ← keywords ["ON", "COMMIT"] then
    if (← choice [["DELETE", "ROWS"], ["PRESERVE", "ROWS"], ["DROP"]]).isNone then
      failWith ("Expecting DELETE ROWS, PRESERVE ROWS or DROP" ++ (← peekToken).text) none

/-- What may stand between the columns of a table and its query. -/
def tableProperties (r : Rules) : Parser Unit := do
  let d ← dialect
  discard (keywords ["WITHOUT", "ROWID"])
  partitionedBy r
  clusteredBy r
  storage r
  discard (optionsBehind r "WITH")
  discard (optionsBehind r "TBLPROPERTIES")
  if ← keyword "ENGINE" then
    equalsWord
    if ← peekSymbol "(" then discard (columnList false)
  if ← keyword "AUTO_INCREMENT" then
    discard (symbol "=")
    discard (unsignedWithin 32)
  if ← if d.isGeneric then keywords ["PRIMARY", "KEY"] else pure false then discard r.whole
  storedOrder r
  tableLayout r
  if ← keywords ["DEFAULT", "CHARSET"] then equalsWord
  if ← keyword "COLLATE" then equalsWord
  onCommit
  discard (keyword "STRICT")
  if ← keyword "COMMENT" then
    discard (symbol "=")
    discard (commentString "comment")

/-! ### Tables -/

/-- What follows `CREATE ... TABLE`. -/
def createTable (r : Rules) (head : String) (temporary : Bool) : Parser CreateTable := do
  let ifNotExists ← keywords ["IF", "NOT", "EXISTS"]
  let name ← objectName
  onCluster
  if (← oneOf ["LIKE", "ILIKE"]).isSome then discard (lenient objectName)
  if ← keyword "CLONE" then discard (lenient objectName)
  let columns ← tableColumns r
  tableProperties r
  let bare := (← dialectIn [.mySql, .generic]) && (← peekKeyword "SELECT")
  let query ← if bare then some <$> r.query else after "AS" r.query
  return { head, name, temporary, ifNotExists, columns, query }

/-- What follows `CREATE EXTERNAL`. -/
def createExternalTable (r : Rules) (head : String) : Parser CreateTable := do
  expectKeyword "TABLE"
  let ifNotExists ← keywords ["IF", "NOT", "EXISTS"]
  let name ← objectName
  let columns ← tableColumns r
  partitionedBy r
  storage r
  discard (optionsBehind r "TBLPROPERTIES")
  return { head, name, temporary := false, ifNotExists, columns }

end SqlLoom.Grammar.Parser
