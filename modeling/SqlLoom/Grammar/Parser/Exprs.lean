import SqlLoom.Grammar.Outline
import SqlLoom.Grammar.Parser.Operands

/-! Value expressions, by the precedence of their operators. -/
namespace SqlLoom.Grammar.Parser

/-- How tightly each symbol binds its operands; zero if it is no infix operator. -/
def symbolPrecedence (d : Dialect) (s : String) : Nat :=
  let p := d.precedences
  if ["=", "<", "<=", "<>", ">", ">=", "==", "~", "~*", "!~", "!~*", "~~", "~~*", "!~~", "!~~*",
      "<=>"].contains s then p.comparison
  else if ["->", "->>", "#>", "#>>", "@>", "<@", "#-", "@?", "@@", "?", "?&", "?|"].contains s then
    p.other
  else if ["!", "&&", "^@"].contains s then if d.isPostgres then p.other else p.cast
  else
    match s with
    | "||" => if d.isPostgres then p.other else p.times
    | "#" | "<<" | ">>" => if d.isPostgres then p.other else p.caret
    | "^" => p.caret
    | "|" => p.pipe
    | "&" => p.ampersand
    | "+" | "-" => p.plus
    | "*" | "/" | "//" | "%" => p.times
    | "::" => p.cast
    | "[" => p.bracket
    | _ => 0

/-- The precedence of what comes next; zero if it is no infix operator. -/
def nextPrecedence : Parser Nat := do
  let d ← dialect
  let p := d.precedences
  match (← peekToken) with
  | .symbol s => return symbolPrecedence d s
  | .custom _ => return p.other
  | t =>
    match t.keyword? with
    | some "OR" => return p.or
    | some "AND" => return p.and
    | some "XOR" => return p.xor
    | some "AT" =>
      return if (← keywordAt? 1) = some "TIME" ∧ (← keywordAt? 2) = some "ZONE" then p.timeZone
        else 0
    | some "NOT" =>
      match ← keywordAt? 1 with
      | some "IN" | some "BETWEEN" => return p.between
      | some "LIKE" | some "ILIKE" | some "RLIKE" | some "REGEXP" | some "SIMILAR" => return p.like
      | _ => return 0
    | some "IS" => return p.is
    | some "IN" | some "BETWEEN" | some "OPERATOR" => return p.between
    | some "LIKE" | some "ILIKE" | some "RLIKE" | some "REGEXP" | some "SIMILAR" => return p.like
    | some "DIV" => return p.times
    | some "COLLATE" => return p.collation
    | _ => return 0

/-- The operators that have a place in a statement tree. -/
def modelled? : String → Option BinaryOp
  | "=" | "==" => some .eq
  | "<>" => some .notEq
  | "<" => some .lt
  | "<=" => some .ltEq
  | ">" => some .gt
  | ">=" => some .gtEq
  | "AND" => some .and
  | "OR" => some .or
  | "+" => some .plus
  | "-" => some .minus
  | "*" => some .multiply
  | "/" => some .divide
  | "%" => some .modulo
  | "||" => some .concat
  | _ => none

/-- The names of the shapes of the other operators. -/
def operatorNames (d : Dialect) : List (String × String) :=
  [("<=>", "Spaceship"), ("XOR", "Xor"), ("|", "BitwiseOr"), ("&", "BitwiseAnd"),
    ("^", if d.isPostgres then "PGExp" else "BitwiseXor"), ("//", "DuckIntegerDivide"),
    ("#", "PGBitwiseXor"), ("<<", "PGBitwiseShiftLeft"), (">>", "PGBitwiseShiftRight"),
    ("&&", "PGOverlap"), ("^@", "PGStartsWith"), ("~", "PGRegexMatch"), ("~*", "PGRegexIMatch"),
    ("!~", "PGRegexNotMatch"), ("!~*", "PGRegexNotIMatch"), ("~~", "PGLikeMatch"),
    ("~~*", "PGILikeMatch"), ("!~~", "PGNotLikeMatch"), ("!~~*", "PGNotILikeMatch"),
    ("->", "Arrow"), ("->>", "LongArrow"), ("#>", "HashArrow"), ("#>>", "HashLongArrow"),
    ("@>", "AtArrow"), ("<@", "ArrowAt"), ("#-", "HashMinus"), ("@?", "AtQuestion"),
    ("@@", "AtAt"), ("?", "Question"), ("?&", "QuestionAnd"), ("?|", "QuestionPipe")]

/-- An operator by its symbol or word. -/
def operatorPiece (d : Dialect) (s : String) : Piece :=
  ⟨s, .text (((operatorNames d).lookup s).getD s)⟩

/-- Operators that can be followed by `ANY` and `ALL`. -/
def comparison : BinaryOp → Bool
  | .eq | .notEq | .lt | .ltEq | .gt | .gtEq => true
  | _ => false

/-- Symbols that are binary operators in a grammar. -/
def isBinary (d : Dialect) (s : String) : Bool :=
  ["<=>", "==", "=", "<>", ">", ">=", "<", "<=", "+", "-", "*", "%", "||", "|", "^", "&", "/", "~",
    "~*", "!~", "!~*", "~~", "~~*", "!~~", "!~~*", "->", "->>", "#>", "#>>", "@>", "<@", "#-", "@?",
    "@@", "?", "?&", "?|"].contains s ||
  (["<<", ">>", "&&", "^@"].contains s && (d.isPostgres || d.isGeneric)) ||
  (s == "#" && d.isPostgres) || (s == "//" && d.isGeneric)

def binaryExpr (left : Expr) (op : Piece) (right : Expr) : Expr :=
  match modelled? op.text with
  | some o => .binary left o right
  | none =>
    .raw (text left ++ " " ++ op.text ++ " " ++ text right)
      (.fields "BinaryOp" [("left", .expr left), ("op", op.shape), ("right", .expr right)])

/-- A comparison with any or all of the values on the right. -/
def quantified (left : Expr) (op : BinaryOp) (word : String) (right : Expr) : Expr :=
  let enclosed := match right with
    | .subquery _ => text right
    | e => "(" ++ text e ++ ")"
  let parts : List (String × Shape) :=
    [("left", .expr left), ("compare_op", .text (SqlLoom.Outline.binaryOp op)),
      ("right", .expr right)]
  .raw (text left ++ " " ++ Layout.opText op ++ " " ++ word ++ enclosed)
    (if word = "ALL" then .fields "AllOp" parts
      else .fields "AnyOp" (parts ++ [("is_some", .flag (word == "SOME"))]))

/-- What follows a binary operator. -/
def rightOperand (r : Rules) (precedence : Nat) (left : Expr) (place : Option Position)
    (op : Piece) : Parser Expr := do
  match ← oneOf ["ANY", "ALL", "SOME"] with
  | some k =>
    let parenthesis ← peek
    expectSymbol "("
    let isQuery ← peekQuery
    if isQuery then modify (parenthesis :: ·)
    let right ← r.expr precedence
    if !isQuery then expectSymbol ")"
    match (modelled? op.text).filter comparison with
    | some o => return quantified left o k right
    | none =>
      failWith ("Expected one of [=, >, <, =>, =<, !=] as comparison operator, found: " ++ op.text)
        place
  | none => return binaryExpr left op (← r.expr precedence)

def operatorNameWithin : Nat → Parser (List String)
  | 0 => return []
  | n + 1 => do
    let t ← next
    if ← symbol "." then return t.token.text :: (← operatorNameWithin n) else return [t.token.text]

/-- Two expressions that differ or not, where nulls are values. -/
def distinction (e other : Expr) (differ : Bool) : Expr :=
  .raw (text e ++ (if differ then " IS DISTINCT FROM " else " IS NOT DISTINCT FROM ") ++ text other)
    (.tagged (if differ then "IsDistinctFrom" else "IsNotDistinctFrom") [.expr e, .expr other])

/-- What follows `IS`. -/
def isExpr (r : Rules) (e : Expr) : Parser Expr := do
  let plain : List (List String) :=
    [["TRUE"], ["NOT", "TRUE"], ["FALSE"], ["NOT", "FALSE"], ["UNKNOWN"], ["NOT", "UNKNOWN"]]
  if ← keyword "NULL" then return .isNull e false
  else if ← keywords ["NOT", "NULL"] then return .isNull e true
  else
    match ← plain.findM? keywords with
    | some ks =>
      return .raw (text e ++ " IS " ++ String.intercalate " " ks)
        (.tagged ("Is" ++ String.join (ks.map Text.capitalized)) [.expr e])
    | none =>
      if ← keywords ["DISTINCT", "FROM"] then return distinction e (← r.whole) true
      else if ← keywords ["NOT", "DISTINCT", "FROM"] then return distinction e (← r.whole) false
      else expectedHere "[NOT] NULL or TRUE|FALSE or [NOT] DISTINCT FROM after IS"

def inExpr (r : Rules) (e : Expr) (negated : Bool) : Parser Expr := do
  if ← keyword "UNNEST" then
    let array ← parenthesized r.whole
    return .raw (text e ++ " " ++ Print.negation negated ++ "IN UNNEST(" ++ text array ++ ")")
      (.fields "InUnnest" [("expr", .expr e), ("array_expr", .expr array),
        ("negated", .flag negated)])
  else
    parenthesized do
      if ← peekQuery then return .inSubquery e (← r.query) negated
      else if ← dialectIn [.sqlite] then
        return .inList e (← commaSeparatedOr ")" r.whole) negated
      else return .inList e (← commaSeparated r.whole) negated

def betweenExpr (r : Rules) (e : Expr) (negated : Bool) : Parser Expr := do
  let p := (← precedences).between
  let low ← r.expr p
  expectKeyword "AND"
  return .between e low (← r.expr p) negated

def likeExpr (r : Rules) (e : Expr) (negated caseless : Bool) : Parser Expr := do
  let any ← keyword "ANY"
  let pattern ← r.expr (← precedences).like
  return .like e pattern negated caseless any (← after "ESCAPE" literalString)

/-- What follows a word for a regular expression, or for a pattern of the same strength. -/
def matchedExpr (r : Rules) (e : Expr) (negated : Bool) (word : String) : Parser Expr := do
  let pattern ← r.expr (← precedences).like
  let escape ← if word = "SIMILAR TO" then after "ESCAPE" literalString else pure none
  let parts : List (String × Shape) :=
    [("negated", .flag negated), ("expr", .expr e), ("pattern", .expr pattern)]
  return .raw (text e ++ " " ++ Print.negation negated ++ word ++ " " ++ text pattern ++
      Print.escapeText escape)
    (if word = "SIMILAR TO" then
      .fields "SimilarTo" (parts ++ [("escape_char", .perhaps (escape.map Shape.string))])
    else .fields "RLike" (parts ++ [("regexp", .flag (word == "REGEXP"))]))

/-- What follows an operand: a negatable predicate. -/
def predicate (r : Rules) (e : Expr) : Parser Expr := do
  let negated ← keyword "NOT"
  let regular ← keyword "REGEXP"
  let relaxed ← keyword "RLIKE"
  if regular || relaxed then matchedExpr r e negated (if regular then "REGEXP" else "RLIKE")
  else if ← keyword "IN" then inExpr r e negated
  else if ← keyword "BETWEEN" then betweenExpr r e negated
  else if ← keyword "LIKE" then likeExpr r e negated false
  else if ← keyword "ILIKE" then likeExpr r e negated true
  else if ← keywords ["SIMILAR", "TO"] then matchedExpr r e negated "SIMILAR TO"
  else expectedHere "IN or BETWEEN after NOT"

/-- What follows an opening bracket, the closing one included: a slice, or an index. -/
def subscriptPiece (r : Rules) : Parser Piece := do
  let slice (low high stride : Option Expr) : Piece :=
    ⟨Print.optional "" low ++ ":" ++ Print.optional "" high ++ Print.optional ":" stride,
      .fields "Slice" [("lower_bound", .expr? low), ("upper_bound", .expr? high),
        ("stride", .expr? stride)]⟩
  let low ← if ← symbol ":" then pure none else some <$> r.whole
  if ← symbol "]" then
    match low with
    | some e => return ⟨text e, .fields "Index" [("index", .expr e)]⟩
    | none => return slice none none none
  else
    if low.isSome then expectSymbol ":"
    if ← symbol "]" then return slice low none none
    else
      let high ← r.whole
      if ← symbol "]" then return slice low (some high) none
      else
        expectSymbol ":"
        if ← symbol "]" then return slice low (some high) none
        else
          let stride ← r.whole
          expectSymbol "]"
          return slice low (some high) (some stride)

/-- What follows an opening bracket behind an operand. Where there are no slices, further brackets
belong to the same access. -/
def subscript (r : Rules) (e : Expr) : Parser Expr := do
  if ← dialectIn [.postgres, .generic] then
    let s ← subscriptPiece r
    return .raw (text e ++ "[" ++ s.text ++ "]")
      (.fields "Subscript" [("expr", .expr e), ("subscript", s.shape)])
  else
    let key : Parser Expr := do
      let key ← r.whole
      expectSymbol "]"
      return key
    let first ← key
    let further ← repeated do if ← symbol "[" then some <$> key else return none
    let keys := first :: further
    let shape (key : Expr) : Shape :=
      .fields "MapAccessKey" [("key", .expr key), ("syntax", .text "Bracket")]
    return .raw (text e ++ String.join (keys.map fun key => "[" ++ text key ++ "]"))
      (.fields "MapAccess" [("column", .expr e), ("keys", .list (keys.map shape))])

/-- An infix operator with its right operand. -/
def continued (r : Rules) (precedence : Nat) (e : Expr) : Parser Expr := do
  let d ← dialect
  let t ← peek
  match t.token with
  | .custom s =>
    skip
    rightOperand r precedence e t.position ⟨s, .tagged "Custom" [.string s]⟩
  | .symbol s =>
    skip
    if isBinary d s then rightOperand r precedence e t.position (operatorPiece d s)
    else if s = "::" then
      let type ← dataType r
      return .cast e type.text type.shape true none
    else if s = "!" ∧ d.isPostgres then
      return .raw (text e ++ "!") (unaryShape "PGPostfixFactorial" e)
    else if s = "[" then subscript r e
    else failWith ("No infix parser for token " ++ Outline.token t.token) t.position
  | .word _ _ =>
    let k := t.token.keyword?.getD ""
    if k = "AND" ∨ k = "OR" ∨ k = "XOR" then
      skip
      rightOperand r precedence e t.position (operatorPiece d k)
    else if k = "DIV" ∧ d.isMySql then
      skip
      return binaryExpr e ⟨k, .text "MyIntegerDivide"⟩ (← r.whole)
    else if k = "OPERATOR" ∧ (d.isPostgres ∨ d.isGeneric) then
      skip
      let name ← parenthesized (operatorNameWithin ((← read).steps + 1))
      rightOperand r precedence e t.position ⟨"OPERATOR(" ++ String.intercalate "." name ++ ")",
        .tagged "PGCustomBinaryOperator" [.list (name.map Shape.string)]⟩
    else if k = "IS" then
      skip
      isExpr r e
    else if k = "AT" then
      skip
      expectKeywords ["TIME", "ZONE"]
      let zone ← r.expr precedence
      return .raw (text e ++ " AT TIME ZONE " ++ text zone)
        (.fields "AtTimeZone" [("timestamp", .expr e), ("time_zone", .expr zone)])
    else if ["NOT", "IN", "BETWEEN", "LIKE", "ILIKE", "SIMILAR", "REGEXP", "RLIKE"].contains k then
      predicate r e
    else failWith ("No infix parser for token " ++ Outline.token t.token) t.position
  | t' => failWith ("No infix parser for token " ++ Outline.token t') t.position

/-- Takes infix operators as long as they bind tighter than a precedence. -/
def extended (r : Rules) (precedence : Nat) : Nat → Expr → Parser Expr
  | 0, e => return e
  | n + 1, e => do
    let upcoming ← nextPrecedence
    if upcoming ≤ precedence then return e
    else extended r precedence n (← continued r upcoming e)

/-- An expression whose operators bind tighter than a precedence. -/
def expression (r : Rules) (precedence : Nat) : Parser Expr := do
  let e ← operand r
  extended r precedence ((← read).steps + 1) e

end SqlLoom.Grammar.Parser
