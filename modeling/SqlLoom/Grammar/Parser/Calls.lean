import SqlLoom.Grammar.Parser.Types

/-! Calls with their arguments, the clauses behind these and windows, and the spans of time and orders
that stand in them. -/
namespace SqlLoom.Grammar.Parser

def temporalUnits : List String :=
  ["YEAR", "MONTH", "WEEK", "DAY", "HOUR", "MINUTE", "SECOND", "CENTURY", "DECADE", "DOW", "DOY",
    "EPOCH", "ISODOW", "ISOYEAR", "JULIAN", "MICROSECOND", "MICROSECONDS", "MILLENIUM",
    "MILLENNIUM", "MILLISECOND", "MILLISECONDS", "NANOSECOND", "NANOSECONDS", "QUARTER",
    "TIMEZONE", "TIMEZONE_HOUR", "TIMEZONE_MINUTE"]

def dateTimeFields : List String :=
  ["DAYOFWEEK", "DAYOFYEAR", "DATE", "DATETIME", "ISOWEEK", "TIME", "TIMEZONE_ABBR",
    "TIMEZONE_REGION"] ++ temporalUnits

/-- The names of parts of a date or time whose words run together. -/
def joinedFields : List (String × String) :=
  [("DAYOFWEEK", "DayOfWeek"), ("DAYOFYEAR", "DayOfYear"), ("ISOWEEK", "IsoWeek")]

/-- A part of a date or time. Two grammars take any name for one. -/
def dateTimeField : Parser Piece := do
  let t ← next
  let k := t.token.keyword?.getD ""
  if k = "WEEK" then
    if ← symbolIf (← dialect).isGeneric "(" then
      let day ← ident
      expectSymbol ")"
      return ⟨"WEEK(" ++ day.text ++ ")", .tagged "Week" [.tagged "Some" [.ident day]]⟩
    else return ⟨k, .tagged "Week" [.text "None"]⟩
  else if dateTimeFields.contains k then
    return ⟨k, .text ((joinedFields.lookup k).getD (Text.capitalized k))⟩
  else
    let custom ← if ← dialectIn [.postgres, .generic] then pure (identOf? t) else pure none
    match custom, t.token with
    | some i, .word _ _ | some i, .string .single _ =>
      return ⟨i.text, .tagged "Custom" [.ident i]⟩
    | _, _ => expected "date/time field" t

/-- A span of time: a value in a unit, up to another unit perhaps, and how precise each is. -/
structure Interval where
  value : Expr
  leading : Option Piece
  precision : Option Nat := none
  last : Option Piece := none
  fraction : Option Nat := none

namespace Interval

def text (i : Interval) : String :=
  let head := "INTERVAL " ++ Print.expr i.value ++ ((i.leading.map (" " ++ ·.text)).getD "")
  let enclosed (n : Option Nat) : String := (n.map fun n => " (" ++ toString n ++ ")").getD ""
  match i.last, i.precision, i.fraction with
  | none, some n, some m => head ++ " (" ++ toString n ++ ", " ++ toString m ++ ")"
  | last, n, m =>
    head ++ enclosed n ++ ((last.map (" TO " ++ ·.text)).getD "") ++ enclosed m

def shape (i : Interval) : Shape :=
  .tagged "Interval" [.fields "Interval" [("value", .expr i.value),
    ("leading_field", .perhaps (i.leading.map Piece.shape)),
    ("leading_precision", .number? i.precision),
    ("last_field", .perhaps (i.last.map Piece.shape)),
    ("fractional_seconds_precision", .number? i.fraction)]]

def expr (i : Interval) : Expr := .raw i.text i.shape

end Interval

/-- What follows `INTERVAL`. -/
def interval (r : Rules) (operand : Parser Expr) : Parser Expr := do
  let unitRequired ← dialectIn [.mySql]
  let value ← if unitRequired then r.whole else operand
  let hasUnit := (← peekToken).keyword?.any temporalUnits.contains
  if unitRequired && !hasUnit then
    failWith "INTERVAL requires a unit after the literal value" (← peek).position
  else
    let leading ← if hasUnit then some <$> dateTimeField else pure none
    if leading.any (·.text == "SECOND") then
      match ← optionalPrecisionScale with
      | some (n, m) => return Interval.expr { value, leading, precision := some n, fraction := m }
      | none => return Interval.expr { value, leading }
    else
      let precision ← optionalPrecision
      if ← keyword "TO" then
        let last ← dateTimeField
        let fraction ← if last.text = "SECOND" then optionalPrecision else pure none
        return Interval.expr { value, leading, precision, last := some last, fraction }
      else return Interval.expr { value, leading, precision }

/-- What follows `WITH FILL`: the values between which rows are added. -/
def filled (r : Rules) (item : OrderItem) : Parser OrderItem := do
  let first ← after "FROM" r.whole
  let last ← after "TO" r.whole
  return { item with filled := true, first, last, step := ← after "STEP" r.whole }

def orderItem (r : Rules) : Parser OrderItem := do
  let value ← r.whole
  let ascending := (← oneOf ["ASC", "DESC"]).map (· == "ASC")
  let nullsFirst ← if ← keywords ["NULLS", "FIRST"] then pure (some true)
    else if ← keywords ["NULLS", "LAST"] then pure (some false)
    else pure none
  let item : OrderItem := { value, ascending, nullsFirst }
  if !(← dialectIn [.generic]) then return item
  else if ← keywords ["WITH", "FILL"] then filled r item
  else return item

def orderList (r : Rules) : Parser (List OrderItem) := commaSeparated (orderItem r)

def frameBound (r : Rules) (operand : Parser Expr) : Parser Bound := do
  if ← keywords ["CURRENT", "ROW"] then return .currentRow
  else
    let offset ← if ← keyword "UNBOUNDED" then pure none
      else
        match (← peekToken) with
        | .string .single _ => some <$> interval r operand
        | _ => some <$> r.whole
    if ← keyword "PRECEDING" then return .preceding offset
    else if ← keyword "FOLLOWING" then return .following offset
    else expectedHere "PRECEDING or FOLLOWING"

def frameMode : Parser FrameMode := do
  let t ← next
  match t.token.keyword? with
  | some "ROWS" => return .rows
  | some "RANGE" => return .range
  | some "GROUPS" => return .groups
  | _ => expected "ROWS, RANGE, GROUPS" t

/-- What follows `OVER (`, the closing parenthesis included. -/
def windowSpec (r : Rules) (operand : Parser Expr) : Parser Window := do
  let base ← if (← peekToken).isPlainWord then some <$> ident else pure none
  let partitionBy ← if ← keywords ["PARTITION", "BY"] then commaSeparated r.whole else pure []
  let orderBy ← if ← keywords ["ORDER", "BY"] then orderList r else pure []
  if ← symbol ")" then return .spec base partitionBy orderBy none
  else
    let mode ← frameMode
    let frame ← if ← keyword "BETWEEN" then do
        let start ← frameBound r operand
        expectKeyword "AND"
        pure (⟨mode, start, some (← frameBound r operand)⟩ : Frame)
      else pure (⟨mode, ← frameBound r operand, none⟩ : Frame)
    expectSymbol ")"
    return .spec base partitionBy orderBy (some frame)

/-! ### Calls -/

/-- A word or a string between single quotes as a part of a name. -/
def partOf? (t : Located) : Option Ident :=
  match t.token with
  | .word _ _ | .string .single _ => identOf? t
  | _ => none

/-- Names with points between them up to a star, if that is what comes next. -/
def starredWithin : Nat → List Ident → Parser (Option Expr)
  | 0, _ => return none
  | n + 1, parts => do
    if ← symbol "." then
      let t ← next
      match partOf? t with
      | some i => starredWithin n (i :: parts)
      | none =>
        if t.token == .symbol "*" then return some (.qualifiedWildcard parts.reverse t)
        else expected "an identifier or a '*' after '.'" t
    else return none

/-- A star or a qualified star, if one comes next. -/
def star : Parser (Option Expr) := do
  let start ← get
  let t ← next
  if t.token == .symbol "*" then return some (.wildcard t)
  else
    let qualified ← match partOf? t with
      | some i => starredWithin ((← read).steps + 1) [i]
      | none => pure none
    if qualified.isNone then set start
    return qualified

/-- A star, a qualified star or an expression. -/
def starOrExpr (r : Rules) : Parser Expr := do
  match ← star with
  | some e => return e
  | none => r.whole

def argOfExpr : Expr → Arg
  | .wildcard _ => .wildcard
  | .qualifiedWildcard q _ => .qualified q
  | e => .expr e

/-- The shape of an argument without a name. -/
def argShape : Arg → Shape
  | .expr e => .tagged "Expr" [.expr e]
  | .wildcard => .text "Wildcard"
  | .qualified q => .tagged "QualifiedWildcard" [.objectName q]
  | .named _ shape => shape

/-- The operator between the name and the value of an argument. -/
def namedOperator : Parser Piece := do
  if ← keyword "VALUE" then return ⟨"VALUE", .text "Value"⟩
  else
    let t ← peek
    let d ← dialect
    match t.token with
    | .symbol "=>" =>
      if d != .sqlServer then do skip; return ⟨"=>", .text "RightArrow"⟩
      else expected "argument operator" t
    | .symbol ":=" =>
      if d.isGeneric then do skip; return ⟨":=", .text "Assignment"⟩
      else expected "argument operator" t
    | .symbol ":" =>
      if d == .postgres || d == .sqlServer then do skip; return ⟨":", .text "Colon"⟩
      else expected "argument operator" t
    | _ => expected "argument operator" t

/-- The operator and the value behind the name of an argument, which has a shape of its own. -/
def namedArg (r : Rules) (tag : String) (name : Piece) : Parser Arg := do
  let op ← namedOperator
  let value := argOfExpr (← starOrExpr r)
  return .named (name.text ++ " " ++ op.text ++ " " ++ Print.arg value)
    (.fields tag [("name", name.shape), ("arg", argShape value), ("operator", op.shape)])

/-- An argument. Some grammars take any expression for its name; it is read once, and stands for
itself when no operator follows. -/
def functionArg (r : Rules) : Parser Arg := do
  if ← dialectIn [.postgres, .sqlServer] then
    let start ← get
    match ← maybe r.whole with
    | none => return argOfExpr (← starOrExpr r)
    | some e =>
      match ← maybe (namedArg r "ExprNamed" ⟨text e, .expr e⟩) with
      | some a => return a
      | none =>
        let stop ← get
        set start
        match ← star with
        | some q => return argOfExpr q
        | none =>
          set stop
          return argOfExpr e
  else
    let named : Parser Arg := do
      let name ← ident
      namedArg r "Named" ⟨name.text, .ident name⟩
    match ← maybe named with
    | some a => return a
    | none => return argOfExpr (← starOrExpr r)

/-- Whether nulls are respected, if that is said. -/
def nullTreatment : Parser (Option Bool) := do
  match ← oneOf ["RESPECT", "IGNORE"] with
  | some k =>
    expectKeyword "NULLS"
    return some (k == "RESPECT")
  | none => return none

def documentNullClause : Parser (List ArgClause) := do
  if ← keywords ["ABSENT", "ON", "NULL"] then return [.documentNulls true]
  else if ← keywords ["NULL", "ON", "NULL"] then return [.documentNulls false]
  else return []

/-- `DISTINCT` is `true` and `ALL` is `false`. -/
def treatment : Parser (Option Bool) := do
  let position := (← peek).position
  let all ← keyword "ALL"
  let distinct ← keyword "DISTINCT"
  match all, distinct with
  | true, true => failWith "Cannot specify both ALL and DISTINCT" position
  | true, false => return some false
  | false, true => return some true
  | false, false => return none

def overflowClause (r : Rules) : Parser (List ArgClause) := do
  if ← keywords ["ON", "OVERFLOW"] then
    if ← keyword "ERROR" then return [.overflowError]
    else
      expectKeyword "TRUNCATE"
      let filler ← match (← peekToken) with
        | .string .single _ | .string .escaped _ | .string .unicode _ | .string .national _
        | .string .hex _ => some <$> r.whole
        | t =>
          if isKeyword "WITH" t || isKeyword "WITHOUT" t then pure none
          else expectedHere "either filler, WITH, or WITHOUT in LISTAGG"
      match ← oneOf ["WITH", "WITHOUT"] with
      | none => expectedHere "either WITH or WITHOUT in LISTAGG"
      | some k =>
        expectKeyword "COUNT"
        return [.overflowTruncate filler (k == "WITH")]
  else return []

/-- What follows the opening parenthesis of a call, the closing one included. -/
def argumentList (r : Rules) : Parser Args := do
  let leading ← documentNullClause
  if ← symbol ")" then return .list none [] leading
  else
    let t ← treatment
    let args ← commaSeparated (functionArg r)
    let d ← dialect
    let nulls ← if d.isGeneric then nullTreatment else pure none
    let order ← if ← keywords ["ORDER", "BY"] then do pure [.order (← orderList r)] else pure []
    let limit ← after "LIMIT" r.whole
    let having ← if ← keywordIf d.isGeneric "HAVING" then do
        let greatest := (← expectOneOf ["MIN", "MAX"]) == "MAX"
        pure [.having greatest (← r.whole)]
      else pure []
    let separator ← if ← keywordIf (d.isGeneric || d.isMySql) "SEPARATOR" then do
        pure [.separator (← value)]
      else pure []
    let overflow ← overflowClause r
    let trailing ← documentNullClause
    expectSymbol ")"
    return .list t args (leading ++ nulls.toList.map ArgClause.nulls ++ order ++
      limit.toList.map ArgClause.limit ++ having ++ separator ++ overflow ++ trailing)

def hasNullClause : Args → Bool
  | .list _ _ clauses => clauses.any fun c =>
    match c with
    | .nulls _ => true
    | _ => false
  | _ => false

/-- A call, from its opening parenthesis on. -/
def functionCall (r : Rules) (operand : Parser Expr) (name : List Ident) : Parser Call := do
  expectSymbol "("
  let d ← dialect
  let first ← argumentList r
  let (parameters, args) ← if ← symbolIf d.isGeneric "(" then do
      pure (first, ← argumentList r)
    else pure (.none, first)
  let grouping ← if ← keywords ["WITHIN", "GROUP"] then
      parenthesized (do expectKeywords ["ORDER", "BY"]; orderList r)
    else pure []
  let filter ← if ← keywordIf d.hasCallFilter "FILTER" then do
      if ← symbol "(" then
        if ← keyword "WHERE" then do
          let e ← r.whole
          expectSymbol ")"
          pure (some e)
        else pure none
      else pure none
    else pure none
  let nulls ← if hasNullClause args then pure none else nullTreatment
  let window ← if ← keyword "OVER" then do
      if ← symbol "(" then pure (some (← windowSpec r operand))
      else pure (some (Window.named (← ident)))
    else pure none
  return { name, parameters, args, grouping, filter, nulls, window }

end SqlLoom.Grammar.Parser
