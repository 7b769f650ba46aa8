import SqlLoom.Grammar.Parser.Constructs

/-! Operands: what stands in front of the first infix operator. -/
namespace SqlLoom.Grammar.Parser

/-- A call behind a point, if a point comes next. -/
def methodCall (r : Rules) (operand : Parser Expr) : Parser (Option Call) := do
  if ← symbol "." then
    let t ← next
    match wordIdent? t with
    | some name => some <$> functionCall r operand [name]
    | none => expected "identifier" t
  else return none

/-- Calls behind points, in the grammar that has methods. If one of them cannot be read, none is. -/
def methods (r : Rules) (operand : Parser Expr) (e : Expr) : Parser Expr := do
  if ← dialectIn [.sqlServer] then
    match ← maybe (repeated (methodCall r operand)) with
    | some [] | none => return e
    | some calls =>
      return .raw (text e ++ String.join (calls.map fun c => "." ++ Print.call c))
        (.tagged "Method" [.fields "Method" [("expr", .expr e),
          ("method_chain", .list (calls.map Shape.call))]])
  else return e

/-- What follows an opening parenthesis. -/
def parenthesisOperand (r : Rules) (operand : Parser Expr) : Parser Expr := do
  let e ← if ← peekQuery then Expr.subquery <$> r.query
    else do
      match ← commaSeparated r.whole with
      | [e] => pure (.nested e)
      | es => pure (.tuple es)
  expectSymbol ")"
  let e ← methods r operand e
  if ← symbol "." then
    let t ← next
    match wordIdent? t with
    | some i =>
      return .raw (text e ++ "." ++ i.text)
        (.fields "CompositeAccess" [("expr", .expr e), ("key", .ident i)])
    | none => failWith ("Expected identifier, found: " ++ t.token.text) t.position
  else return e

/-- A type in front of a string. -/
def typedString (r : Rules) (operand : Parser Expr) : Parser Expr := do
  let type ← dataType r
  match type.kind with
  | .interval => interval r operand
  | .custom => expectedHere "literal string"
  | .builtin =>
    let s ← literalString
    return .raw (type.text ++ " " ++ Quoting.literal .single s)
      (.fields "TypedString" [("data_type", type.shape), ("value", .string s)])

/-- Symbols that are operators in front of their operand in one grammar, with the names of their
shapes. -/
def leadingOperators : List (String × String) :=
  [("!!", "PGPrefixFactorial"), ("|/", "PGSquareRoot"), ("||/", "PGCubeRoot"), ("@", "PGAbs"),
    ("~", "PGBitwiseNot")]

/-- An operand with an operator that has no place in a statement tree. -/
def unaryShape (op : String) (e : Expr) : Shape :=
  .fields "UnaryOp" [("op", .text op), ("expr", .expr e)]

/-- An operand that starts with a word. When its construct fails the word may still be a name, and
then nothing is read behind it. -/
def wordOperand (r : Rules) (operand : Parser Expr) (name : Ident) (k : Option String) :
    Parser (Expr × Bool) := do
  match ← outcome (wordConstruct r operand name (k.getD "")) with
  | .ok (some e) => return (e, true)
  | .ok none => return (← plainWord r operand name, true)
  | .error f =>
    if k.any Keyword.identifierReserved.contains then throw f
    else
      match ← outcome (plainWord r operand name) with
      | .ok e => return (e, false)
      | .error _ => throw f

/-- An operand, and whether a collation may follow it. -/
def bareOperand (r : Rules) (operand : Parser Expr) : Parser (Expr × Bool) := do
  let d ← dialect
  let t ← peek
  match t.token with
  | .word w quote =>
    skip
    wordOperand r operand ((wordIdent? t).getD ⟨w, quote, {}⟩) t.token.keyword?
  | .symbol "\x7b" =>
    skip
    return (← braceOperand r operand t, true)
  | .symbol "[" =>
    skip
    return (← arrayExpr r false, true)
  | .symbol "-" =>
    skip
    return (.unary .minus (← r.expr (← precedences).times), true)
  | .symbol "+" =>
    skip
    return (.unary .plus (← r.expr (← precedences).times), true)
  | .symbol "(" =>
    skip
    return (← parenthesisOperand r operand, true)
  | .symbol s =>
    match if d.isPostgres then leadingOperators.lookup s else none with
    | some op =>
      skip
      let e ← r.expr (← precedences).plus
      return (.raw (s ++ text e) (unaryShape op e), true)
    | none =>
      if s = ":" ∨ s = "@" then return (.value (← value), true)
      else
        skip
        expected "an expression" t
  | .string .escaped _ =>
    if d.hasEscapeStrings then return (.value (← value), true)
    else
      skip
      expected "an expression" t
  | .number _ _ | .string _ _ | .dollarString _ _ | .placeholder _ =>
    return (.value (← value), true)
  | _ =>
    skip
    expected "an expression" t

/-- Everything in front of the first infix operator. -/
def operandWithin (r : Rules) : Nat → Parser Expr
  | 0 => throw .tooDeep
  | n + 1 => do
    let operand := operandWithin r n
    match ← maybe (typedString r operand) with
    | some e => return e
    | none =>
      let (e, open') ← bareOperand r operand
      if open' then
        let e ← methods r operand e
        if ← keyword "COLLATE" then
          let collation ← objectName
          return .raw (text e ++ " COLLATE " ++ Ident.dotted collation)
            (.fields "Collate" [("expr", .expr e), ("collation", .objectName collation)])
        else return e
      else return e

def operand (r : Rules) : Parser Expr := do operandWithin r ((← read).steps + 1)

end SqlLoom.Grammar.Parser
