import SqlLoom.Grammar.Lexer
import SqlLoom.Grammar.Printer

/-! Parsers over the tokens that are left. A parser that fails leaves behind what it has not taken;
alternatives that start over put back what the failed one took. -/
namespace SqlLoom.Grammar

inductive Failure where
  | malformed (message : String) (position : Option Position)
  /-- The text nests deeper than is read. -/
  | tooDeep
  deriving DecidableEq, Repr

namespace Failure

/-- The mark in front of a line number in the text of a failure. -/
def lineMark : String := "Line: "

def columnMark : String := "Column: "

/-- A failure with its place, as one text. -/
def text : Failure → String
  | .malformed message (some p) =>
    message ++ " at " ++ lineMark ++ toString p.line ++ ", " ++ columnMark ++ toString p.column
  | .malformed message none => message
  | .tooDeep => "recursion limit exceeded"

end Failure

structure Setting where
  dialect : Dialect
  /-- No loop takes more steps than this. -/
  steps : Nat
  /-- Whether a row is linked to those above it, so that `PRIOR` has a meaning. -/
  linked : Bool := false

abbrev Parser (α : Type) := ReaderT Setting (EStateM Failure (List Located)) α

namespace Parser

variable {α : Type}

def failWith (message : String) (position : Option Position) : Parser α :=
  throw (.malformed message position)

def dialect : Parser Dialect := return (← read).dialect

/-- Whether the grammar is one of those listed. -/
def dialectIn (ds : List Dialect) : Parser Bool := return ds.contains (← dialect)

def precedences : Parser Dialect.Precedences := return (← dialect).precedences

def endOfText : Located := { token := .eof, position := none }

/-- The token `n` places ahead. -/
def peekAt (n : Nat) : Parser Located := do
  return ((← get)[n]?).getD endOfText

def peek : Parser Located := peekAt 0

def peekToken : Parser Token := return (← peek).token

/-- Takes one token, if there is one. -/
def next : Parser Located := do
  let t ← peek
  modify (·.drop 1)
  return t

/-- Goes on behind the next token. -/
def skip : Parser Unit := modify (·.drop 1)

def expected (what : String) (found : Located) : Parser α :=
  failWith ("Expected: " ++ what ++ ", found: " ++ found.token.text) found.position

def expectedHere (what : String) : Parser α := do expected what (← peek)

def isKeyword (k : String) (t : Token) : Bool := t.keyword? == some k

/-- The keyword `n` places ahead. -/
def keywordAt? (n : Nat) : Parser (Option String) := return (← peekAt n).token.keyword?

/-- Takes the keyword if it comes next. -/
def keyword (k : String) : Parser Bool := do
  if isKeyword k (← peekToken) then
    skip
    return true
  else return false

/-- As `keyword`, where the condition holds. -/
def keywordIf (condition : Bool) (k : String) : Parser Bool :=
  if condition then keyword k else return false

def peekKeyword (k : String) : Parser Bool := return isKeyword k (← peekToken)

/-- Whether the keywords come next, in order. -/
def peekKeywords (ks : List String) : Parser Bool := do
  return (ks.zip ((← get).map (some ·) ++ List.replicate ks.length none)).all fun (k, t) =>
    t.any fun t => isKeyword k t.token

/-- Takes all the keywords if they come next, and else none. -/
def keywords (ks : List String) : Parser Bool := do
  if ← peekKeywords ks then
    modify (·.drop ks.length)
    return true
  else return false

def oneOf (ks : List String) : Parser (Option String) := do
  match ks.find? (isKeyword · (← peekToken)) with
  | some k =>
    skip
    return some k
  | none => return none

def expectKeyword (k : String) : Parser Unit := do
  if !(← keyword k) then expectedHere k

def expectKeywords (ks : List String) : Parser Unit := ks.forM expectKeyword

def expectOneOf (ks : List String) : Parser String := do
  match ← oneOf ks with
  | some k => return k
  | none => expectedHere ("one of " ++ String.intercalate " or " ks)

def peekSymbol (s : String) : Parser Bool := return (← peekToken) == .symbol s

/-- Takes the symbol if it comes next. -/
def symbol (s : String) : Parser Bool := do
  if ← peekSymbol s then
    skip
    return true
  else return false

/-- As `symbol`, where the condition holds. -/
def symbolIf (condition : Bool) (s : String) : Parser Bool :=
  if condition then symbol s else return false

/-- Takes all the symbols if they come next, and else none. -/
def symbols (ss : List String) : Parser Bool := do
  if ss.map Token.symbol == ((← get).take ss.length).map (·.token) then
    modify (·.drop ss.length)
    return true
  else return false

/-- Takes the keyword if it comes next and the symbol follows it. -/
def keywordBefore (k s : String) : Parser Bool := do
  if (← peekKeyword k) && (← peekAt 1).token == .symbol s then
    skip
    return true
  else return false

def expectSymbol (s : String) : Parser Unit := do
  if !(← symbol s) then expectedHere s

/-- The outcome of a parser. If it fails, nothing has been taken. -/
def outcome (p : Parser α) : Parser (Except Failure α) := fun c ts =>
  match p c ts with
  | .ok a rest => .ok (.ok a) rest
  | .error e _ => .ok (.error e) ts

/-- The result of a parser, or nothing if it fails; what it took until then is gone. -/
def lenient (p : Parser α) : Parser (Option α) := fun c ts =>
  match p c ts with
  | .ok a rest => .ok (some a) rest
  | .error _ rest => .ok none rest

/-- The result of a parser, or nothing if it fails for any reason but depth. -/
def maybe (p : Parser α) : Parser (Option α) := do
  match ← outcome p with
  | .ok a => return some a
  | .error .tooDeep => throw .tooDeep
  | .error _ => return none

def commaListWithin (p : Parser α) : Nat → Parser (List α)
  | 0 => return []
  | n + 1 => do
    let a ← p
    if ← symbol "," then return a :: (← commaListWithin p n) else return [a]

/-- One or more, divided by commas. -/
def commaSeparated (p : Parser α) : Parser (List α) := do
  commaListWithin p ((← read).steps + 1)

/-- As `commaSeparated`, or nothing in front of a closing symbol. -/
def commaSeparatedOr (closing : String) (p : Parser α) : Parser (List α) := do
  if ← peekSymbol closing then return [] else commaSeparated p

def repeatWithin (p : Parser (Option α)) : Nat → Parser (List α)
  | 0 => return []
  | n + 1 => do
    match ← p with
    | some a => return a :: (← repeatWithin p n)
    | none => return []

/-- As often as there is a result. -/
def repeated (p : Parser (Option α)) : Parser (List α) := do repeatWithin p ((← read).steps + 1)

def parenthesized (p : Parser α) : Parser α := do
  expectSymbol "("
  let a ← p
  expectSymbol ")"
  return a

/-- The result of a parser behind a keyword. -/
def after (k : String) (p : Parser α) : Parser (Option α) := do
  if ← keyword k then return some (← p) else return none

/-- A word as a name. -/
def wordIdent? (t : Located) : Option Ident :=
  match t.token with
  | .word value quote => some ⟨value, quote, ⟨t.position.getD ⟨0, 0⟩, t.stop⟩⟩
  | _ => none

/-- A word or a plain string as a name. -/
def identOf? (t : Located) : Option Ident :=
  match t.token with
  | .string .single s => some ⟨s, some '\'', {}⟩
  | .string .double s => some ⟨s, some '"', {}⟩
  | _ => wordIdent? t

def ident : Parser Ident := do
  let t ← next
  match identOf? t with
  | some i => return i
  | none => expected "identifier" t

def objectNameWithin : Nat → Parser (List Ident)
  | 0 => return []
  | n + 1 => do
    let i ← ident
    if ← symbol "." then return i :: (← objectNameWithin n) else return [i]

/-- A name with its qualifiers. -/
def objectName : Parser (List Ident) := do objectNameWithin ((← read).steps + 1)

def columnList (allowEmpty : Bool) : Parser (List Ident) := do
  expectSymbol "("
  if allowEmpty && (← peekSymbol ")") then
    skip
    return []
  else
    let is ← commaSeparated ident
    expectSymbol ")"
    return is

def mandatoryColumns : Parser (List Ident) := do
  if ← peekSymbol "(" then columnList false
  else expectedHere "a list of columns in parentheses"

def optionalColumns (allowEmpty : Bool) : Parser (List Ident) := do
  if ← peekSymbol "(" then columnList allowEmpty else return []

/-- An alias, which may be any word behind `AS` and else none of those reserved. -/
def optionalAlias (reserved : List String) : Parser (Option Ident) := do
  let explicit ← keyword "AS"
  let t ← peek
  let barred := !explicit && t.token.keyword?.any reserved.contains
  match if barred then none else identOf? t with
  | some i =>
    skip
    return some i
  | none =>
    if explicit then
      skip
      expected "an identifier after AS" t
    else return none

/-- The digits of an unsigned number of some width in bits. -/
def unsignedOf (bits : Nat) (text : String) (position : Option Position) : Parser Nat :=
  let digits := text.toList
  let value := digits.foldl (fun n c => 10 * n + (c.toNat - '0'.toNat)) 0
  let refuse (reason : String) : Parser Nat :=
    failWith ("Could not parse '" ++ text ++ "' as u" ++ toString bits ++ ": " ++ reason) position
  if digits.isEmpty then refuse "cannot parse integer from empty string"
  else if !digits.all (·.isDigit) then refuse "invalid digit found in string"
  else if value ≥ Nat.pow 2 bits then refuse "number too large to fit in target type"
  else return value

/-- A literal number without a sign that fits a width in bits. -/
def unsignedWithin (bits : Nat) : Parser Nat := do
  let t ← next
  match t.token with
  | .number text _ => unsignedOf bits text t.position
  | _ => expected "literal int" t

def literalUnsigned : Parser Nat := unsignedWithin 64

/-- A string, for which a word that is no keyword may stand. -/
def literalString : Parser String := do
  let t ← next
  match t.token with
  | .word value _ => if t.token.isPlainWord then return value else expected "literal string" t
  | .string .single s | .string .double s | .string .unicode s => return s
  | .string .escaped s =>
    if (← dialect).hasEscapeStrings then return s else expected "literal string" t
  | _ => expected "literal string" t

/-- A literal or a placeholder. -/
def value : Parser Value := do
  let t ← next
  match t.token with
  | .word w quote =>
    let booleans := (← dialect).hasBooleanLiterals
    match t.token.keyword? with
    | some "TRUE" => if booleans then return .bool true else expected "a concrete value" t
    | some "FALSE" => if booleans then return .bool false else expected "a concrete value" t
    | some "NULL" => return .null
    | some _ => expected "a concrete value" t
    | none =>
      if quote = some '"' then return .string .double w else expected "A value?" t
  | .number text long => return .number text long
  | .string kind s => return .string kind s
  | .dollarString tag s => return .dollarString tag s
  | .placeholder s => return .placeholder s
  | .symbol s =>
    if s = ":" ∨ s = "@" then
      let name ← next
      match name.token with
      | .word w _ => return .placeholder (s ++ w)
      | .number digits false => return .placeholder (s ++ digits)
      | _ => expected "placeholder" name
    else expected "a value" t
  | _ => expected "a value" t

/-- A number without a sign, or a placeholder. -/
def numberValue : Parser Value := do
  let start ← peek
  match ← value with
  | .number text long => return .number text long
  | .placeholder s => return .placeholder s
  | _ => expected "literal number" start

/-- A number with an optional sign. -/
def signedNumber : Parser Expr := do
  if ← symbol "+" then return .unary .plus (.value (← numberValue))
  else if ← symbol "-" then return .unary .minus (.value (← numberValue))
  else return .value (← numberValue)

end Parser

end SqlLoom.Grammar
