import SqlLoom.Grammar.Parser.Calls

/-! Operands that a keyword or a brace begins. -/
namespace SqlLoom.Grammar.Parser

def caseBranches (r : Rules) : Nat → Parser (List (Expr × Expr))
  | 0 => return []
  | n + 1 => do
    let condition ← r.whole
    expectKeyword "THEN"
    let result ← r.whole
    if ← keyword "WHEN" then return (condition, result) :: (← caseBranches r n)
    else return [(condition, result)]

def caseExpr (r : Rules) : Parser Expr := do
  let operand ← if ← keyword "WHEN" then pure none
    else do
      let e ← r.whole
      expectKeyword "WHEN"
      pure (some e)
  let branches ← caseBranches r ((← read).steps + 1)
  let otherwise ← after "ELSE" r.whole
  expectKeyword "END"
  return .case operand branches otherwise

/-- The name of the shape of a cast, by its word. -/
def castName : String → String
  | "TRY_CAST" => "TryCast"
  | "SAFE_CAST" => "SafeCast"
  | _ => "Cast"

/-- `CAST(x AS type)`, and its kin that are only kept as text. -/
def castExpr (r : Rules) (word : String) : Parser Expr :=
  parenthesized do
    let e ← r.whole
    expectKeyword "AS"
    let type ← dataType r
    let format : Option CastFormat ← if ← keyword "FORMAT" then do
        let format ← value
        if ← keywords ["AT", "TIME", "ZONE"] then pure (some ⟨format, some (← value)⟩)
        else pure (some ⟨format, none⟩)
      else pure none
    if word = "CAST" then return .cast e type.text type.shape false format
    else
      return .raw (word ++ "(" ++ text e ++ " AS " ++ type.text ++ CastFormat.text format ++ ")")
        (.cast (castName word) e type.shape format)

/-- A conversion: the value, its type or character set, and the styles of a type that stands in
front. -/
def conversionShape (word : String) (e : Expr) (type : Option DataType)
    (charset : Option (List Ident)) (styles : Option (List Expr)) : Shape :=
  .fields "Convert" [("is_try", .flag (word == "TRY_CONVERT")), ("expr", .expr e),
    ("data_type", .perhaps (type.map DataType.shape)),
    ("charset", .perhaps (charset.map Shape.objectName)),
    ("target_before_value", .flag styles.isSome), ("styles", .exprs (styles.getD []))]

def convertExpr (r : Rules) (word : String) : Parser Expr := do
  let inner : Piece ← parenthesized do
    if ← dialectIn [.sqlServer] then
      let type ← dataType r
      expectSymbol ","
      let e ← r.whole
      let styles ← if ← symbol "," then commaSeparated r.whole else pure []
      return ⟨type.text ++ ", " ++ textList (e :: styles),
        conversionShape word e (some type) none (some styles)⟩
    else
      let e ← r.whole
      if ← keyword "USING" then
        let charset ← objectName
        return ⟨text e ++ " USING " ++ Ident.dotted charset,
          conversionShape word e none (some charset) none⟩
      else
        expectSymbol ","
        let type ← dataType r
        let charset ← if ← keywords ["CHARACTER", "SET"] then some <$> objectName else pure none
        let charsetText := (charset.map fun n => " CHARACTER SET " ++ Ident.dotted n).getD ""
        return ⟨text e ++ ", " ++ type.text ++ charsetText,
          conversionShape word e (some type) charset none⟩
  return .raw (word ++ "(" ++ inner.text ++ ")") inner.shape

def extractExpr (r : Rules) : Parser Expr :=
  parenthesized do
    let field ← dateTimeField
    let extracted (link tag : String) : Parser Expr := do
      let e ← r.whole
      return .raw ("EXTRACT(" ++ field.text ++ link ++ text e ++ ")")
        (.fields "Extract" [("field", field.shape), ("syntax", .text tag), ("expr", .expr e)])
    if ← keyword "FROM" then extracted " FROM " "From"
    else if (← symbol ",") && (← dialectIn [.generic]) then extracted ", " "Comma"
    else failWith "Expected 'FROM' or ','" none

def roundingExpr (r : Rules) (word : String) : Parser Expr :=
  parenthesized do
    let e ← r.whole
    let rounded (tail : String) (field : Shape) : Expr :=
      .raw (word ++ "(" ++ text e ++ tail ++ ")")
        (.fields (Text.capitalized word) [("expr", .expr e), ("field", field)])
    if ← keyword "TO" then
      let field ← dateTimeField
      return rounded (" TO " ++ field.text) (.tagged "DateTimeField" [field.shape])
    else if ← symbol "," then
      match ← value with
      | .number n long =>
        let scale := Value.number n long
        return rounded (", " ++ scale.text) (.tagged "Scale" [.value scale])
      | _ => failWith "Scale field can only be of number type" none
    else return rounded "" (.tagged "DateTimeField" [.text "NoDateTime"])

def positionExpr (r : Rules) (operand : Parser Expr) (name : Ident) : Parser Expr := do
  let between := (← precedences).between
  let found ← maybe (parenthesized do
    let e ← r.expr between
    expectKeyword "IN"
    let whole ← r.whole
    return Expr.raw ("POSITION(" ++ text e ++ " IN " ++ text whole ++ ")")
      (.fields "Position" [("expr", .expr e), ("in", .expr whole)]))
  match found with
  | some e => return e
  | none => return .call (← functionCall r operand [name])

def substringExpr (r : Rules) : Parser Expr :=
  parenthesized do
    let e ← r.whole
    let commas ← symbol ","
    let start ← if commas then some <$> r.whole else after "FROM" r.whole
    let more ← if ← keyword "FOR" then pure true else symbol ","
    let length ← if more then some <$> r.whole else pure none
    let shown (word : String) (part : Option Expr) : String :=
      Print.optional (if commas then ", " else " " ++ word ++ " ") part
    return .raw ("SUBSTRING(" ++ text e ++ shown "FROM" start ++ shown "FOR" length ++ ")")
      (.fields "Substring" [("expr", .expr e), ("substring_from", .expr? start),
        ("substring_for", .expr? length), ("special", .flag commas)])

def overlayExpr (r : Rules) : Parser Expr :=
  parenthesized do
    let e ← r.whole
    expectKeyword "PLACING"
    let what ← r.whole
    expectKeyword "FROM"
    let start ← r.whole
    let length ← after "FOR" r.whole
    return .raw ("OVERLAY(" ++ text e ++ " PLACING " ++ text what ++ " FROM " ++ text start ++
        Print.optional " FOR " length ++ ")")
      (.fields "Overlay" [("expr", .expr e), ("overlay_what", .expr what),
        ("overlay_from", .expr start), ("overlay_for", .expr? length)])

/-- What is cut off a text: on which side, and by its own text or by a list of characters. -/
def trimExpr (r : Rules) : Parser Expr := do
  let trimmed (inner : String) (e : Expr) (side : Option String) (what : Option Expr)
      (characters : Option (List Expr)) : Expr :=
    .raw ("TRIM(" ++ inner ++ ")")
      (.fields "Trim" [("expr", .expr e),
        ("trim_where", .perhaps (side.map fun k => .text (Text.capitalized k))),
        ("trim_what", .expr? what), ("trim_characters", .perhaps (characters.map Shape.exprs))])
  parenthesized do
    let side ← oneOf ["BOTH", "LEADING", "TRAILING"]
    let head := (side.map (· ++ " ")).getD ""
    let e ← r.whole
    if ← keyword "FROM" then
      let whole ← r.whole
      return trimmed (head ++ text e ++ " FROM " ++ text whole) whole side (some e) none
    else if (← symbol ",") && (← dialectIn [.generic]) then
      let characters ← commaSeparated r.whole
      return trimmed (text e ++ ", " ++ textList characters) e none none (some characters)
    else return trimmed (head ++ text e) e side none none

/-- How a text is searched, with the names of the shapes. -/
def searchModes : List (List String × String) :=
  [(["IN", "NATURAL", "LANGUAGE", "MODE", "WITH", "QUERY", "EXPANSION"],
      "InNaturalLanguageModeWithQueryExpansion"),
    (["IN", "NATURAL", "LANGUAGE", "MODE"], "InNaturalLanguageMode"),
    (["IN", "BOOLEAN", "MODE"], "InBooleanMode"),
    (["WITH", "QUERY", "EXPANSION"], "WithQueryExpansion")]

def matchExpr : Parser Expr := do
  let columns ← mandatoryColumns
  expectKeyword "AGAINST"
  parenthesized do
    let v ← value
    let mode ← searchModes.findM? fun (words, _) => keywords words
    let modeText := (mode.map fun (words, _) => " " ++ String.intercalate " " words).getD ""
    return .raw ("MATCH (" ++ Ident.list columns ++ ") AGAINST (" ++ v.text ++ modeText ++ ")")
      (.fields "MatchAgainst" [("columns", .list (columns.map Shape.ident)),
        ("match_value", .value v),
        ("opt_search_modifier", .perhaps (mode.map fun (_, tag) => .text tag))])

def existsExpr (r : Rules) (negated : Bool) : Parser Expr :=
  parenthesized do return .exists (← r.query) negated

def notExpr (r : Rules) : Parser Expr := do
  if ← keyword "EXISTS" then existsExpr r true
  else return .unary .not (← r.expr (← precedences).not)

/-- What follows an opening bracket, the closing one included. -/
def arrayExpr (r : Rules) (named : Bool) : Parser Expr := do
  let items ← commaSeparatedOr "]" r.whole
  expectSymbol "]"
  return .array items named

/-- One `key: value` entry under the name of its shape. -/
def entry (r : Rules) (tag : String) (key : Parser Piece) : Parser Piece := do
  let k ← key
  expectSymbol ":"
  let e ← r.whole
  return ⟨k.text ++ ": " ++ text e, .fields tag [("key", k.shape), ("value", .expr e)]⟩

/-- Entries between braces, the opening one taken already. -/
def braceEntries (listed : Parser (List Piece)) : Parser Piece := do
  let entries ← listed
  expectSymbol "\x7d"
  return ⟨"\x7b" ++ Text.commaList (entries.map Piece.text) ++ "\x7d",
    .list (entries.map Piece.shape)⟩

/-- An entry whose key is a name. -/
def namedEntry (r : Rules) : Parser Piece :=
  entry r "DictionaryField" do
    let name ← ident
    return ⟨name.text, .ident name⟩

/-- An entry whose key is any expression. -/
def freeEntry (r : Rules) : Parser Piece :=
  entry r "MapEntry" do
    let e ← r.whole
    return ⟨text e, .expr e⟩

/-- What follows an opening brace: a call behind `fn`, or entries in the grammar that has them. -/
def braceOperand (r : Rules) (operand : Parser Expr) (opening : Located) : Parser Expr := do
  let call ← maybe do
    expectKeyword "FN"
    let name ← objectName
    return { ← functionCall r operand name with braced := true }
  match call with
  | some c =>
    expectSymbol "\x7d"
    return .call c
  | none =>
    if (← dialect).isGeneric then
      let entries ← braceEntries (commaSeparated (namedEntry r))
      return .raw entries.text (.tagged "Dictionary" [entries.shape])
    else expected "an expression" opening

/-- One value of a structure. Fields with a type have no name of their own. -/
def structValue (r : Rules) (typed : Bool) : Parser Expr := do
  let e ← r.whole
  let link ← peek
  if ← keyword "AS" then
    if typed then failWith "Typed syntax does not allow AS" link.position
    else
      let name ← ident
      return .raw (text e ++ " AS " ++ name.text)
        (.fields "Named" [("expr", .expr e), ("name", .ident name)])
  else return e

/-- What follows `STRUCT`. -/
def structExpr (r : Rules) (opening : Option Position) : Parser Expr := do
  let (fields, closed) ←
    structFields (structField (dataTypeWithin r ((← read).steps + 1))) opening
  if closed then failWith "unmatched > in STRUCT literal" (← peek).position
  else
    let values ← parenthesized (commaSeparated (structValue r !fields.isEmpty))
    return .raw (structText fields ++ "(" ++ textList values ++ ")")
      (.fields "Struct" [("values", .exprs values), ("fields", .list (fields.map Piece.shape))])

/-- Functions of the clock, which need no parentheses. -/
def clockFunctions : List String :=
  ["CURRENT_TIMESTAMP", "CURRENT_TIME", "CURRENT_DATE", "LOCALTIME", "LOCALTIMESTAMP"]

def sessionFunctions : List String := ["CURRENT_CATALOG", "CURRENT_USER", "SESSION_USER", "USER"]

/-- The construct that a word begins, if it begins one. The word has been taken. -/
def wordConstruct (r : Rules) (operand : Parser Expr) (name : Ident) (k : String) :
    Parser (Option Expr) := do
  let d ← dialect
  let bracket ← peekSymbol "["
  let parenthesis ← peekSymbol "("
  if clockFunctions.contains k then
    let args ← if ← symbol "(" then argumentList r else pure .none
    return some (.call { name := [name], parameters := .none, args })
  else if sessionFunctions.contains k && (d.isPostgres || d.isGeneric) then
    return some (.call { name := [name], parameters := .none, args := .none })
  else
    match k with
    | "TRUE" => return if d.hasBooleanLiterals then some (.value (.bool true)) else none
    | "FALSE" => return if d.hasBooleanLiterals then some (.value (.bool false)) else none
    | "NULL" => return some (.value .null)
    | "CASE" => some <$> caseExpr r
    | "CONVERT" => some <$> convertExpr r "CONVERT"
    | "TRY_CONVERT" =>
      if d == .sqlServer || d.isGeneric then some <$> convertExpr r "TRY_CONVERT" else return none
    | "CAST" | "TRY_CAST" | "SAFE_CAST" => some <$> castExpr r k
    | "EXISTS" => some <$> existsExpr r false
    | "EXTRACT" => some <$> extractExpr r
    | "CEIL" | "FLOOR" => some <$> roundingExpr r k
    | "POSITION" => if parenthesis then some <$> positionExpr r operand name else return none
    | "SUBSTRING" => some <$> substringExpr r
    | "OVERLAY" => some <$> overlayExpr r
    | "TRIM" => some <$> trimExpr r
    | "INTERVAL" => some <$> interval r operand
    | "ARRAY" =>
      if bracket then do
        skip
        some <$> arrayExpr r true
      else if parenthesis then
        parenthesized do
          let args := .query (← r.query)
          return some (.call { name := [name], parameters := .none, args })
      else return none
    | "NOT" => some <$> notExpr r
    | "MATCH" => if d.isMySql || d.isGeneric then some <$> matchExpr else return none
    | "STRUCT" => if d.isGeneric then some <$> structExpr r name.span.start else return none
    | "PRIOR" =>
      if (← read).linked then
        let e ← r.expr (← precedences).plus
        return some (.raw ("PRIOR " ++ text e) (.tagged "Prior" [.expr e]))
      else return none
    | "MAP" =>
      if d.isGeneric && (← peekSymbol "\x7b") then do
        skip
        let entries ← braceEntries (commaSeparatedOr "\x7d" (freeEntry r))
        return some (.raw ("MAP " ++ entries.text)
          (.tagged "Map" [.fields "Map" [("entries", entries.shape)]]))
      else return none
    | _ => return none

/-- The names behind a first one, up to a star in the grammar that has it here. -/
def namePartsWithin : Nat → List Ident → Parser (List Ident × Option Located)
  | 0, parts => return (parts.reverse, none)
  | n + 1, parts => do
    if ← symbol "." then
      let t ← next
      match partOf? t, t.token with
      | some i, _ => namePartsWithin n (i :: parts)
      | none, .symbol "*" =>
        if (← dialect).isPostgres then return (parts.reverse, some t)
        else expected "an identifier after '.'" t
      | none, _ => expected "an identifier or a '*' after '.'" t
    else return (parts.reverse, none)

/-- A column by its name and what qualifies it. -/
def columnExpr : List Ident → Expr
  | [i] => .ident i
  | parts => .compound parts

/-- A word that begins no construct: a column, a call or a string with an introducer. -/
def plainWord (r : Rules) (operand : Parser Expr) (name : Ident) : Parser Expr := do
  let introduced := name.value.startsWith "_"
  match (← peekToken) with
  | .symbol "(" | .symbol "." =>
    let (parts, star) ← namePartsWithin ((← read).steps + 1) [name]
    match star with
    | some t => return .qualifiedWildcard parts t
    | none =>
      if ← peekSymbol "(" then
        let outer ← if ← dialectIn [.sqlServer] then symbols ["(", "+", ")"] else pure false
        if outer then
          return .raw (Ident.dotted parts ++ " (+)")
            (.tagged "OuterJoin" [.expr (columnExpr parts)])
        else return .call (← functionCall r operand parts)
      else return .compound parts
  | .string .single _ | .string .double _ | .string .hex _ =>
    if introduced then
      let v ← value
      return .raw (name.value ++ " " ++ v.text)
        (.fields "IntroducedString" [("introducer", .string name.value), ("value", .value v)])
    else return .ident name
  | _ => return .ident name

end SqlLoom.Grammar.Parser
