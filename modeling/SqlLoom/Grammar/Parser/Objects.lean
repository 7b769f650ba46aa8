import SqlLoom.Grammar.Parser.Definitions

/-! Statements that create and drop what is not a table. Of each only the beginning of its text is
kept. -/
namespace SqlLoom.Grammar.Parser

/-- Statements divided by semicolons. The word `END` behind a statement ends them. -/
def statementsWithin (p : Parser Statement) : Nat → Parser (List Statement)
  | 0 => return []
  | n + 1 => do
    discard (repeated do return if ← symbol ";" then some () else none)
    if (← peekToken) == .eof then return []
    else
      let s ← p
      let t ← peek
      if t.token == .symbol ";" then return s :: (← statementsWithin p n)
      else if t.token == .eof || isKeyword "END" t.token then return [s]
      else expected "end of statement" t

def ifNotExists : Parser Bool := keywords ["IF", "NOT", "EXISTS"]

def ifExists : Parser Bool := keywords ["IF", "EXISTS"]

/-- The objects that a kind of statement does not know of, in the grammar at hand. -/
def unknownObject {α : Type} (verb : String) (t : Located) : Parser α :=
  expected ("an object type after " ++ verb) t

/-! ### Views and indexes -/

def viewColumn (r : Rules) : Parser Unit := do
  discard ident
  if ← dialectIn [.generic] then
    if (← peekKeyword "OPTIONS") || (← peekKeyword "COMMENT") then discard (columnOption r)

/-- What follows `CREATE` and its flags, for a view. -/
def createView (r : Rules) (orReplace temporary : Bool) : Parser Statement := do
  let d ← dialect
  let materialized ← keyword "MATERIALIZED"
  expectKeyword "VIEW"
  if d == .sqlite || d.isGeneric then discard ifNotExists
  discard objectName
  if ← symbol "(" then
    discard (commaSeparatedOr ")" (viewColumn r))
    expectSymbol ")"
  discard (optionsBehind r "WITH")
  if ← keyword "CLUSTER" then
    expectKeyword "BY"
    discard (optionalColumns false)
  if d.isGeneric then
    discard (optionsBehind r "OPTIONS")
    if ← keyword "TO" then discard objectName
    if ← keyword "COMMENT" then
      expectSymbol "="
      discard (commentString "string literal")
  expectKeyword "AS"
  discard r.query
  if d.isGeneric then discard (keywords ["WITH", "NO", "SCHEMA", "BINDING"])
  return .other (Print.words ["CREATE", if orReplace then "OR REPLACE" else "",
    if materialized then "MATERIALIZED" else "", if temporary then "TEMPORARY" else "", "VIEW"])

/-- What follows `INDEX`. -/
def createIndex (r : Rules) (head : String) : Parser Statement := do
  discard (keyword "CONCURRENTLY")
  let guarded ← ifNotExists
  let unnamed ← keywordIf (!guarded) "ON"
  if !unnamed then
    discard objectName
    expectKeyword "ON"
  discard objectName
  if ← keyword "USING" then discard ident
  discard (parenthesized (orderList r))
  if ← keyword "INCLUDE" then discard (columnList false)
  nullsDistinct
  if ← keywordIf (← dialectIn [.postgres, .generic]) "WITH" then
    discard (parenthesized (commaSeparated r.whole))
  if ← keyword "WHERE" then discard r.whole
  return .other head

/-! ### Policies and roles -/

/-- Who owns something, or whom a policy is for. -/
def owner : Parser Unit := do
  if (← oneOf ["CURRENT_USER", "CURRENT_ROLE", "SESSION_USER"]).isNone then
    match ← outcome ident with
    | .ok _ => return ()
    | .error f =>
      failWith ("Expected: CURRENT_USER, CURRENT_ROLE, SESSION_USER or identifier after OWNER TO. " ++
        "sql parser error: " ++ f.text) none

/-- Whom a policy is for and which rows it shows and lets in. -/
def policyBody (r : Rules) : Parser Unit := do
  if ← keyword "TO" then discard (commaSeparated owner)
  if ← keyword "USING" then discard (parenthesized r.whole)
  if ← keywords ["WITH", "CHECK"] then discard (parenthesized r.whole)

def createPolicy (r : Rules) : Parser Statement := do
  discard ident
  expectKeyword "ON"
  discard objectName
  if ← keyword "AS" then discard (expectOneOf ["PERMISSIVE", "RESTRICTIVE"])
  if ← keyword "FOR" then discard (expectOneOf ["ALL", "SELECT", "INSERT", "UPDATE", "DELETE"])
  policyBody r
  return .other "CREATE POLICY"

/-- Options of a role that are switched on or off by one word of two. -/
def roleSwitches : List (String × String) :=
  [("LOGIN", "NOLOGIN"), ("INHERIT", "NOINHERIT"), ("BYPASSRLS", "NOBYPASSRLS"),
    ("CREATEDB", "NOCREATEDB"), ("CREATEROLE", "NOCREATEROLE"), ("SUPERUSER", "NOSUPERUSER"),
    ("REPLICATION", "NOREPLICATION")]

/-- The name of a switch by either of its words. -/
def roleSwitch? (k : String) : Option String :=
  (roleSwitches.find? fun (on, off) => k == on || k == off).map fun (on, off) => on ++ " or " ++ off

def password : Parser Unit := do
  if !(← keyword "NULL") then discard value

/-- One option of a new role, given those that came before it. Returns its name. -/
def roleOption (seen : List String) : Parser (Option String) := do
  let d ← dialect
  let t ← peek
  let k := t.token.keyword?.getD ""
  let once (name : String) (p : Parser Unit) : Parser (Option String) := do
    if seen.contains name then failWith ("Found multiple " ++ name) t.position
    else
      p
      return some name
  let names : Parser Unit := discard (commaSeparated ident)
  if d == .sqlServer && k == "AUTHORIZATION" then
    skip
    once k (discard objectName)
  else if !d.isPostgres then return none
  else
    match roleSwitch? k with
    | some name =>
      skip
      once name (pure ())
    | none =>
      match k with
      | "PASSWORD" =>
        skip
        once k password
      | "CONNECTION" =>
        skip
        expectKeyword "LIMIT"
        once "CONNECTION LIMIT" (discard numberValue)
      | "VALID" =>
        skip
        expectKeyword "UNTIL"
        once "VALID UNTIL" (discard value)
      | "IN" =>
        skip
        if ← keyword "ROLE" then once "IN ROLE" names
        else if ← keyword "GROUP" then once "IN GROUP" names
        else expectedHere "ROLE or GROUP after IN"
      | "ROLE" | "USER" | "ADMIN" =>
        skip
        once k names
      | _ => return none

def roleOptionsWithin : Nat → List String → Parser Unit
  | 0, _ => return ()
  | n + 1, seen => do
    match ← roleOption seen with
    | some name => roleOptionsWithin n (name :: seen)
    | none => return ()

def createRole : Parser Statement := do
  discard ifNotExists
  discard (commaSeparated objectName)
  discard (keyword "WITH")
  roleOptionsWithin ((← read).steps + 1) []
  return .other "CREATE ROLE"

/-! ### Functions, procedures and triggers -/

/-- A parameter of a function. A name that is no built-in type is the parameter's own. -/
def functionParameter (r : Rules) : Parser Unit := do
  discard (oneOf ["IN", "OUT", "INOUT"])
  if (← dataType r).kind == .custom then discard (dataType r)
  let given ← if ← keyword "DEFAULT" then pure true else symbol "="
  if given then discard r.whole

/-- A function by its name and, perhaps, its parameters. -/
def functionDescription (r : Rules) : Parser Unit := do
  discard objectName
  if ← symbol "(" then
    discard (commaSeparatedOr ")" (functionParameter r))
    expectSymbol ")"

/-- The text of a function. -/
def functionBody : Parser Unit := do
  match (← peekToken) with
  | .dollarString _ _ => skip
  | _ => discard literalString

/-- One property of a function, given those that came before it. Returns its kind. -/
def functionProperty (r : Rules) (seen : List String) : Parser (Option String) := do
  let once (kind name : String) (p : Parser Unit) : Parser (Option String) := do
    if seen.contains kind then failWith (name ++ " specified more than once") none
    else
      p
      return some kind
  let nulls := "CALLED ON NULL INPUT | RETURNS NULL ON NULL INPUT | STRICT"
  if ← keyword "AS" then once "body" "AS" functionBody
  else if ← keyword "LANGUAGE" then once "language" "LANGUAGE" (discard ident)
  else if (← oneOf ["IMMUTABLE", "STABLE", "VOLATILE"]).isSome then
    once "behavior" "IMMUTABLE | STABLE | VOLATILE" (pure ())
  else if (← choice [["CALLED", "ON", "NULL", "INPUT"], ["RETURNS", "NULL", "ON", "NULL", "INPUT"],
      ["STRICT"]]).isSome then once "nulls" nulls (pure ())
  else if ← keyword "PARALLEL" then
    once "parallel" "PARALLEL \x7b UNSAFE | RESTRICTED | SAFE \x7d" do
      if (← oneOf ["UNSAFE", "RESTRICTED", "SAFE"]).isNone then
        expectedHere "one of UNSAFE | RESTRICTED | SAFE"
  else if ← keyword "RETURN" then once "body" "RETURN" (discard r.whole)
  else return none

def functionPropertiesWithin (r : Rules) : Nat → List String → Parser Unit
  | 0, _ => return ()
  | n + 1, seen => do
    match ← functionProperty r seen with
    | some kind => functionPropertiesWithin r n (kind :: seen)
    | none => return ()

/-- What follows `FUNCTION`, in the grammars that have functions. -/
def createFunction (r : Rules) (head : String) (word : Located) : Parser Statement := do
  if !(← dialectIn [.postgres, .generic]) then unknownObject "CREATE" word
  else
    discard objectName
    expectSymbol "("
    discard (commaSeparatedOr ")" (functionParameter r))
    expectSymbol ")"
    if ← keyword "RETURNS" then discard (dataType r)
    functionPropertiesWithin r ((← read).steps + 1) []
    return .other head

def triggerEvent : Parser Unit := do
  if (← expectOneOf ["INSERT", "UPDATE", "DELETE", "TRUNCATE"]) = "UPDATE" then
    if ← keyword "OF" then discard (commaSeparated ident)

def triggerEventsWithin : Nat → Parser Unit
  | 0 => return ()
  | n + 1 => do
    triggerEvent
    if ← keyword "OR" then triggerEventsWithin n

/-- A name for the rows before or after the change. -/
def triggerReference? : Parser (Option Unit) := do
  match ← oneOf ["OLD", "NEW"] with
  | none => return none
  | some _ =>
    if ← keyword "TABLE" then
      discard (keyword "AS")
      some <$> discard objectName
    else return none

/-- What follows `TRIGGER`, in the grammars that have triggers. -/
def createTrigger (r : Rules) (head : String) (word : Located) : Parser Statement := do
  if !(← dialectIn [.postgres, .generic]) then unknownObject "CREATE" word
  else
    discard objectName
    if (← expectOneOf ["BEFORE", "AFTER", "INSTEAD"]) = "INSTEAD" then expectKeyword "OF"
    triggerEventsWithin ((← read).steps + 1)
    expectKeyword "ON"
    discard objectName
    if ← keyword "FROM" then discard (lenient objectName)
    discard constraintTiming
    if ← keyword "REFERENCING" then discard (repeated triggerReference?)
    expectKeyword "FOR"
    discard (keyword "EACH")
    discard (expectOneOf ["ROW", "STATEMENT"])
    if ← keyword "WHEN" then discard r.whole
    expectKeyword "EXECUTE"
    discard (expectOneOf ["FUNCTION", "PROCEDURE"])
    functionDescription r
    return .other head

/-- What follows `MACRO`, in the grammar that has macros. -/
def createMacro (r : Rules) (head : String) (word : Located) : Parser Statement := do
  if !(← dialect).isGeneric then unknownObject "CREATE" word
  else
    discard objectName
    expectSymbol "("
    discard (commaSeparatedOr ")" do
      discard ident
      let given ← if ← symbol ":=" then pure true else symbol "=>"
      if given then discard r.whole)
    expectSymbol ")"
    expectKeyword "AS"
    if ← keyword "TABLE" then discard r.query else discard r.whole
    return .other head

/-- The entries of a list behind its opening parenthesis; a comma may stand behind the last. -/
def trailingWithin (entry : Parser Unit) (what : String) : Nat → Parser Unit
  | 0 => return ()
  | n + 1 => do
    entry
    let comma ← symbol ","
    if ← symbol ")" then return ()
    else if comma then trailingWithin entry what n
    else expectedHere ("',' or ')' after " ++ what ++ " definition")

def enclosedTrailing (entry : Parser Unit) (what : String) : Parser Unit := do
  if ← symbol "(" then
    if !(← symbol ")") then trailingWithin entry what ((← read).steps + 1)

/-- What follows `PROCEDURE`. -/
def createProcedure (r : Rules) (head : String) : Parser Statement := do
  discard objectName
  enclosedTrailing (do
    if (wordIdent? (← peek)).isSome then
      discard ident
      discard (dataType r)) "parameter"
  expectKeywords ["AS", "BEGIN"]
  discard (statementsWithin r.statement ((← read).steps + 1))
  expectKeyword "END"
  return .other head

/-! ### Everything else -/

/-- What follows `SECRET`. -/
def createSecret (head : String) : Parser Statement := do
  discard ifNotExists
  if !(← peekSymbol "(") then
    let placed ← if ← keyword "IN" then do pure (← lenient ident).isSome
      else do
        discard (lenient ident)
        pure false
    if !placed && !(← peekSymbol "(") then
      if ← keyword "IN" then discard (lenient ident)
  expectSymbol "("
  expectKeyword "TYPE"
  discard ident
  if ← symbol "," then
    discard (commaSeparated do
      discard ident
      discard ident)
  expectSymbol ")"
  return .other head

def createExtension : Parser Statement := do
  discard ifNotExists
  discard ident
  if ← keyword "WITH" then
    if ← keyword "SCHEMA" then discard ident
    if ← keyword "VERSION" then discard ident
    discard (keyword "CASCADE")
  return .other "CREATE EXTENSION"

def createVirtualTable : Parser Statement := do
  expectKeyword "TABLE"
  discard ifNotExists
  discard objectName
  expectKeyword "USING"
  discard ident
  discard (optionalColumns false)
  return .other "CREATE VIRTUAL TABLE"

def createSchema : Parser Statement := do
  discard ifNotExists
  let unnamed ← keyword "AUTHORIZATION"
  if unnamed then discard ident
  else
    discard objectName
    if ← keyword "AUTHORIZATION" then discard ident
  return .other "CREATE SCHEMA"

def createDatabase : Parser Statement := do
  discard ifNotExists
  discard objectName
  discard (repeated do
    match ← oneOf ["LOCATION", "MANAGEDLOCATION"] with
    | some _ => some <$> literalString
    | none => return none)
  return .other "CREATE DATABASE"

def createSequence (r : Rules) (temporary : Bool) : Parser Statement := do
  discard ifNotExists
  discard objectName
  if ← keyword "AS" then discard (dataType r)
  discard sequenceOptions
  if ← keywords ["OWNED", "BY"] then
    if !(← keyword "NONE") then discard objectName
  return .other (if temporary then "CREATE TEMPORARY SEQUENCE" else "CREATE SEQUENCE")

/-- The labels of an enumeration. -/
def enumLabels : Parser Unit := do
  if !(← symbol "(") then expectedHere "'(' after CREATE TYPE AS ENUM"
  discard (commaSeparatedOr ")" ident)
  if !(← symbol ")") then expectedHere "')' after CREATE TYPE AS ENUM"

/-- What follows `TYPE`. One grammar has enumerations, if no flag stands in front. -/
def createType (r : Rules) (flagged : Bool) : Parser Statement := do
  discard objectName
  expectKeyword "AS"
  if ← keywordIf ((← dialect).isPostgres && !flagged) "ENUM" then enumLabels
  else
    enclosedTrailing (do
      discard ident
      discard (dataType r)
      if ← keyword "COLLATE" then discard objectName) "attribute"
  return .other "CREATE TYPE"

/-- The words in front of what is created. -/
structure CreateFlags where
  orReplace : Bool
  orAlter : Bool
  isLocal : Bool
  isGlobal : Bool
  transient : Bool
  temporary : Bool

def createFlags : Parser CreateFlags := do
  let orReplace ← keywords ["OR", "REPLACE"]
  let orAlter ← keywords ["OR", "ALTER"]
  let isLocal ← keyword "LOCAL"
  let isGlobal ← keyword "GLOBAL"
  let transient ← keyword "TRANSIENT"
  let temporary := (← oneOf ["TEMP", "TEMPORARY"]).isSome
  return { orReplace, orAlter, isLocal, isGlobal, transient, temporary }

namespace CreateFlags

/-- Whether there is any such word. -/
def any (f : CreateFlags) : Bool :=
  f.orReplace || f.orAlter || f.isLocal || f.isGlobal || f.transient || f.temporary

/-- The text up to the kind of the object, with the words that show for it. -/
def head (f : CreateFlags) (kind : String) : String :=
  Print.words ["CREATE", if f.orReplace then "OR REPLACE" else "",
    if f.temporary then "TEMPORARY" else "", kind]

def tableHead (f : CreateFlags) (external : Bool) : String :=
  Print.words ["CREATE", if f.orReplace then "OR REPLACE" else "",
    if external then "EXTERNAL" else "",
    if f.isGlobal && !external then "GLOBAL" else if f.isLocal && !external then "LOCAL" else "",
    if f.temporary && !external then "TEMPORARY" else "",
    if f.transient && !external then "TRANSIENT" else "", "TABLE"]

end CreateFlags

/-- What can be created only if nothing is replaced. -/
def createPlain (r : Rules) (f : CreateFlags) : Parser Statement := do
  if ← keyword "EXTENSION" then createExtension
  else if ← keyword "INDEX" then createIndex r "CREATE INDEX"
  else if ← keywords ["UNIQUE", "INDEX"] then createIndex r "CREATE UNIQUE INDEX"
  else if ← keyword "VIRTUAL" then createVirtualTable
  else if ← keyword "SCHEMA" then createSchema
  else if ← keyword "DATABASE" then createDatabase
  else if ← keyword "ROLE" then createRole
  else if ← keyword "SEQUENCE" then createSequence r f.temporary
  else if ← keyword "TYPE" then createType r f.any
  else if ← keyword "PROCEDURE" then
    createProcedure r (if f.orAlter then "CREATE OR ALTER PROCEDURE" else "CREATE PROCEDURE")
  else expectedHere "an object type after CREATE"

/-- What follows `CREATE`. -/
def create (r : Rules) : Parser Statement := do
  let f ← createFlags
  let replacing := if f.orReplace then "CREATE OR REPLACE " else "CREATE "
  let word ← peek
  if ← keyword "TABLE" then
    return .createTable (← createTable r (f.tableHead false) f.temporary)
  else if (← peekKeyword "MATERIALIZED") || (← peekKeyword "VIEW") then
    createView r f.orReplace f.temporary
  else if ← keyword "POLICY" then createPolicy r
  else if ← keyword "EXTERNAL" then
    return .createTable (← createExternalTable r (f.tableHead true))
  else if ← keyword "FUNCTION" then createFunction r (f.head "FUNCTION") word
  else if ← keyword "TRIGGER" then createTrigger r (replacing ++ "TRIGGER") word
  else if ← peekKeywords ["CONSTRAINT", "TRIGGER"] then
    skip
    let word ← next
    createTrigger r (replacing ++ "CONSTRAINT TRIGGER") word
  else if ← keyword "MACRO" then createMacro r (f.head "MACRO") word
  else if ← keyword "SECRET" then createSecret (f.head "SECRET")
  else if f.orReplace then
    expectedHere "[EXTERNAL] TABLE or [MATERIALIZED] VIEW or FUNCTION after CREATE OR REPLACE"
  else createPlain r f

/-! ### Dropping -/

def droppable : List String :=
  ["TABLE", "VIEW", "INDEX", "ROLE", "SCHEMA", "DATABASE", "SEQUENCE", "STAGE", "TYPE"]

def dropBehavior : Parser Unit := discard (oneOf ["CASCADE", "RESTRICT"])

/-- What follows `DROP` and a kind of object that has a name and no more. -/
def dropNamed (temporary : Bool) (kind : String) : Parser Statement := do
  discard ifExists
  discard (commaSeparated objectName)
  let position := (← peek).position
  let cascade ← keyword "CASCADE"
  let restrict ← keyword "RESTRICT"
  let purge ← keyword "PURGE"
  if cascade && restrict then
    failWith "Cannot specify both CASCADE and RESTRICT in DROP" position
  else if kind = "ROLE" && (cascade || restrict || purge) then
    failWith "Cannot specify CASCADE, RESTRICT, or PURGE in DROP ROLE" position
  else return .other ("DROP " ++ (if temporary then "TEMPORARY " else "") ++ kind)

/-- What follows `DROP FUNCTION` and `DROP PROCEDURE`. -/
def dropRoutine (r : Rules) : Parser Unit := do
  discard ifExists
  discard (commaSeparated (functionDescription r))
  dropBehavior

/-- What follows `DROP` and an object that stands on a table. -/
def dropOnTable (name : Parser Unit) : Parser Unit := do
  discard ifExists
  name
  expectKeyword "ON"
  discard objectName
  dropBehavior

/-- What follows `DROP`. -/
def drop (r : Rules) : Parser Statement := do
  let temporary ← keywordIf (← dialectIn [.mySql, .generic]) "TEMPORARY"
  match ← oneOf droppable with
  | some kind => dropNamed temporary kind
  | none =>
    let word ← peek
    match ← oneOf ["FUNCTION", "POLICY", "PROCEDURE", "SECRET", "TRIGGER"] with
    | some "SECRET" =>
      discard ifExists
      discard ident
      if ← keyword "FROM" then discard (lenient ident)
      return .other (Print.words ["DROP", if temporary then "TEMPORARY" else "", "SECRET"])
    | some "TRIGGER" =>
      if !(← dialectIn [.postgres, .generic]) then unknownObject "DROP" word
      else
        dropOnTable (discard objectName)
        return .other "DROP TRIGGER"
    | some "POLICY" =>
      dropOnTable (discard ident)
      return .other "DROP POLICY"
    | some kind =>
      dropRoutine r
      return .other ("DROP " ++ kind)
    | none =>
      expectedHere ("TABLE, VIEW, INDEX, ROLE, SCHEMA, DATABASE, FUNCTION, PROCEDURE, STAGE, " ++
        "TRIGGER, SECRET, SEQUENCE, or TYPE after DROP")

end SqlLoom.Grammar.Parser
