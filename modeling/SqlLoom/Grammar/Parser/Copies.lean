import SqlLoom.Grammar.Parser.Definitions
import SqlLoom.Text.Printable

/-! Statements that move rows between tables and files. Of each only the beginning of its text is
kept. -/
namespace SqlLoom.Grammar.Parser

/-- A string of one byte. -/
def literalChar : Parser Unit := do
  let t ← peek
  let s ← literalString
  if s.utf8ByteSize ≠ 1 then failWith ("Expect a char, found " ++ Text.quoted s) t.position

/-- One option of a copy, in parentheses. -/
def copyOption : Parser Unit := do
  match ← oneOf ["FORMAT", "FREEZE", "DELIMITER", "NULL", "HEADER", "QUOTE", "ESCAPE", "FORCE_QUOTE",
      "FORCE_NOT_NULL", "FORCE_NULL", "ENCODING"] with
  | none => expectedHere "option"
  | some k =>
    match k with
    | "FORMAT" => discard ident
    | "FREEZE" | "HEADER" => discard (oneOf ["TRUE", "FALSE"])
    | "DELIMITER" | "QUOTE" | "ESCAPE" => literalChar
    | "NULL" | "ENCODING" => discard literalString
    | _ => discard mandatoryColumns

/-- An option behind `CSV`. -/
def csvOption : Parser Unit := do
  match ← oneOf ["HEADER", "QUOTE", "ESCAPE", "FORCE"] with
  | some "HEADER" => return ()
  | some "FORCE" =>
    if (← choice [["NOT", "NULL"], ["QUOTE"]]).isSome then discard (commaSeparated ident)
    else expectedHere "csv option"
  | some _ =>
    discard (keyword "AS")
    literalChar
  | none => expectedHere "csv option"

/-- One option of a copy in the older form, without parentheses. -/
def looseCopyOption : Parser Unit := do
  match ← oneOf ["BINARY", "DELIMITER", "NULL", "CSV"] with
  | some "BINARY" => return ()
  | some "DELIMITER" =>
    discard (keyword "AS")
    literalChar
  | some "NULL" =>
    discard (keyword "AS")
    discard literalString
  | some _ => discard (repeated (maybe csvOption))
  | none => expectedHere "option"

/-- The rows behind a copy, up to a backslash and a point. A token behind any other backslash is a
part of the rows. -/
def dataRest : List Located → List Located
  | [] => []
  | [_] => []
  | t :: u :: ts =>
    if t.token == .symbol "\\" then if u.token == .symbol "." then ts else dataRest ts
    else dataRest (u :: ts)

/-- The rows that are copied: those of a query, or of a table. -/
def copySource (r : Rules) : Parser (String × Bool) := do
  if ← peekSymbol "(" then return ("(" ++ Print.query (← parenthesized r.query) ++ ")", true)
  else
    let name ← objectName
    discard (optionalColumns false)
    return (Ident.dotted name, false)

/-- What follows `COPY`. Everything behind a copy from the input itself is data. -/
def copying (r : Rules) : Parser Statement := do
  let (source, fromQuery) ← copySource r
  match ← oneOf ["FROM", "TO"] with
  | none => expectedHere "FROM or TO"
  | some link =>
    if fromQuery && link = "FROM" then
      failWith "COPY ... FROM does not support query as a source" none
    else
      let place ← oneOf ["STDIN", "STDOUT", "PROGRAM"]
      if place.isNone || place = some "PROGRAM" then discard literalString
      discard (keyword "WITH")
      if ← peekSymbol "(" then discard (parenthesized (commaSeparated copyOption))
      discard (repeated (maybe looseCopyOption))
      if place = some "STDIN" then
        expectSymbol ";"
        modify dataRest
      return .other ("COPY " ++ source)

/-- What follows `UNLOAD`. -/
def unloading (r : Rules) : Parser Statement := do
  let source ← parenthesized r.query
  expectKeyword "TO"
  let target ← ident
  discard (optionsBehind r "WITH")
  return .other ("UNLOAD(" ++ Print.query source ++ ") TO " ++ target.text)

/-- What follows `LOAD`: an extension, in the grammars that have them. -/
def loading : Parser Statement := do
  if ← dialectIn [.postgres, .generic] then return .other ("LOAD " ++ (← ident).text)
  else
    discard (keyword "DATA")
    expectedHere (marked "DATA" ++ " or an extension name after " ++ marked "LOAD")

end SqlLoom.Grammar.Parser
