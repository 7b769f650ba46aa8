import SqlLoom.Grammar.Parser.Objects

/-! Statements about cursors, prepared statements and procedures. Of each only the beginning of its
text is kept. -/
namespace SqlLoom.Grammar.Parser

/-! ### Cursors and variables -/

/-- A variable of one grammar: a name with its mark, a type and a value. -/
def variableDeclaration (r : Rules) : Parser String := do
  let name ← ident
  if name.value.toList.head? != some '@' then failWith "Invalid MsSql variable declaration." none
  else
    if !(← keyword "CURSOR") then
      discard (keyword "AS")
      discard (dataType r)
    if ← symbol "=" then discard r.whole
    return name.text

def cursorDeclaration (r : Rules) : Parser String := do
  let name ← ident
  discard (keyword "BINARY")
  discard (oneOf ["INSENSITIVE", "ASENSITIVE"])
  discard (choice [["SCROLL"], ["NO", "SCROLL"]])
  expectKeyword "CURSOR"
  if (← oneOf ["WITH", "WITHOUT"]).isSome then expectKeyword "HOLD"
  expectKeyword "FOR"
  discard r.query
  return name.text

/-- What follows `DECLARE`. -/
def declaration (r : Rules) : Parser Statement := do
  let names ← if ← dialectIn [.sqlServer] then commaSeparated (variableDeclaration r)
    else do pure [← cursorDeclaration r]
  return .other ("DECLARE " ++ String.intercalate " " names)

/-- Which rows a cursor fetches. -/
def fetchDirection : Parser String := do
  match ← oneOf ["NEXT", "PRIOR", "FIRST", "LAST", "ABSOLUTE", "RELATIVE", "FORWARD", "BACKWARD",
      "ALL"] with
  | some k =>
    match k with
    | "ABSOLUTE" | "RELATIVE" => return k ++ " " ++ (← numberValue).text
    | "FORWARD" | "BACKWARD" =>
      if ← keyword "ALL" then return k ++ " ALL" else return k ++ " " ++ (← numberValue).text
    | k => return k
  | none => return (← numberValue).text

/-- What follows `FETCH`, for a cursor. -/
def fetching : Parser Statement := do
  let direction ← fetchDirection
  if !(← keyword "FROM") then expectKeyword "IN"
  let name ← ident
  if ← keyword "INTO" then discard objectName
  return .other ("FETCH " ++ direction ++ " IN " ++ name.text)

def closing : Parser Statement := do
  if ← keyword "ALL" then return .other "CLOSE ALL" else return .other ("CLOSE " ++ (← ident).text)

/-! ### Prepared statements and procedures -/

/-- What follows `PREPARE`. -/
def preparation (r : Rules) : Parser Statement := do
  let name ← ident
  if ← peekSymbol "(" then discard (parenthesized (commaSeparated (dataType r)))
  expectKeyword "AS"
  discard r.statement
  return .other ("PREPARE " ++ name.text)

/-- What follows `EXECUTE`. Arguments may stand without parentheses. -/
def execution (r : Rules) : Parser Statement := do
  let name ← objectName
  let arguments ← if ← symbol "(" then do
      let arguments ← commaSeparatedOr ")" r.whole
      expectSymbol ")"
      pure ("(" ++ textList arguments ++ ")")
    else
      let t ← peekToken
      if t == .eof || t == .symbol ";" || isKeyword "USING" t then pure ""
      else do pure (" " ++ (← exprListText r))
  if ← keyword "USING" then discard (commaSeparated r.whole)
  return .other ("EXECUTE " ++ Ident.dotted name ++ arguments)

def deallocation : Parser Statement := do
  let word ← flag "PREPARE"
  return .other ("DEALLOCATE" ++ word ++ " " ++ (← ident).text)

/-- What follows `CALL`. -/
def calling (r : Rules) : Parser Statement := do
  let name ← objectName
  if ← peekSymbol "(" then
    return .other ("CALL " ++ Print.call (← functionCall r (operand r) name))
  else return .other ("CALL " ++ Ident.dotted name)

def assertion (r : Rules) : Parser Statement := do
  let condition ← exprText r
  return .other ("ASSERT " ++ condition ++ (← clause "AS" (exprText r)))

end SqlLoom.Grammar.Parser
