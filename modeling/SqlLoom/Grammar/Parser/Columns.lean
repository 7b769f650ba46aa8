import SqlLoom.Grammar.Parser.Rules

/-! Columns as tables and nested types define them: a name, a type and options. -/
namespace SqlLoom.Grammar.Parser

/-! ### Named options -/

/-- A column with the order in which an index keeps it. -/
def indexedColumn : Parser String := do
  let name ← ident
  let order := match ← oneOf ["ASC", "DESC"] with
    | some k => " " ++ k
    | none => ""
  return name.text ++ order

/-- What follows `CLUSTERED` in a list of options. -/
def clusteredOption : Parser String := do
  if ← keywords ["CLUSTERED", "COLUMNSTORE", "INDEX", "ORDER"] then
    return "CLUSTERED COLUMNSTORE INDEX ORDER (" ++ Ident.list (← mandatoryColumns) ++ ")"
  else if ← keywords ["CLUSTERED", "COLUMNSTORE", "INDEX"] then
    return "CLUSTERED COLUMNSTORE INDEX"
  else if ← keywords ["CLUSTERED", "INDEX"] then
    let columns ← parenthesized (commaSeparated indexedColumn)
    return "CLUSTERED INDEX (" ++ Text.commaList columns ++ ")"
  else failWith "invalid CLUSTERED sequence" none

/-- How the rows of a table are divided by ranges of a column. -/
def partitionOption (r : Rules) : Parser String := do
  expectKeyword "PARTITION"
  let inner ← parenthesized do
    let column ← ident
    expectKeyword "RANGE"
    let direction := match ← oneOf ["LEFT", "RIGHT"] with
      | some k => " " ++ k
      | none => ""
    expectKeywords ["FOR", "VALUES"]
    let values ← parenthesized (exprListText r)
    return column.text ++ " RANGE" ++ direction ++ " FOR VALUES (" ++ values ++ ")"
  return "PARTITION (" ++ inner ++ ")"

/-- One option of a list in parentheses. -/
def namedOption (r : Rules) : Parser String := do
  let words ← dialectIn [.sqlServer, .generic]
  if words && (← peekKeyword "HEAP") then return (← ident).text
  else if words && (← peekKeyword "PARTITION") then partitionOption r
  else if words && (← peekKeyword "CLUSTERED") then clusteredOption
  else
    let name ← ident
    expectSymbol "="
    return name.text ++ " = " ++ (← exprText r)

/-- Options in parentheses behind a word, if the word comes next. -/
def optionsBehind (r : Rules) (k : String) : Parser (Option String) := do
  if ← keyword k then
    return some (Text.commaList (← parenthesized (commaSeparatedOr ")" (namedOption r))))
  else return none

/-! ### Constraints -/

/-- When a constraint is checked, and whether it is. -/
structure Timing where
  deferrable : Option Bool := none
  initially : Option String := none
  enforced : Option Bool := none

namespace Timing

def text (t : Timing) : String :=
  let named (word : String) : Option Bool → String
    | some true => " " ++ word
    | some false => " NOT " ++ word
    | none => ""
  named "DEFERRABLE" t.deferrable ++
    (match t.initially with
      | some k => " INITIALLY " ++ k
      | none => "") ++
    named "ENFORCED" t.enforced

end Timing

def timingWithin : Nat → Timing → Parser Timing
  | 0, t => return t
  | n + 1, t => do
    let deferring := t.deferrable.isNone
    let enforcing := t.enforced.isNone
    if deferring && (← peekKeywords ["NOT", "DEFERRABLE"]) then
      let _ ← keywords ["NOT", "DEFERRABLE"]
      timingWithin n { t with deferrable := some false }
    else if ← keywordIf deferring "DEFERRABLE" then
      timingWithin n { t with deferrable := some true }
    else if ← keywordIf t.initially.isNone "INITIALLY" then
      match ← oneOf ["DEFERRED", "IMMEDIATE"] with
      | some k => timingWithin n { t with initially := some k }
      | none => expectedHere "one of DEFERRED or IMMEDIATE"
    else if ← keywordIf enforcing "ENFORCED" then timingWithin n { t with enforced := some true }
    else if enforcing && (← peekKeywords ["NOT", "ENFORCED"]) then
      let _ ← keywords ["NOT", "ENFORCED"]
      timingWithin n { t with enforced := some false }
    else return t

/-- `DEFERRABLE` and its kin behind a constraint, each at most once. -/
def constraintTiming : Parser String := return (← timingWithin 4 {}).text

def referentialAction : Parser String := do
  match ← choice [["RESTRICT"], ["CASCADE"], ["SET", "NULL"], ["NO", "ACTION"],
      ["SET", "DEFAULT"]] with
  | some action => return action
  | none => expectedHere "one of RESTRICT, CASCADE, SET NULL, NO ACTION or SET DEFAULT"

/-- What is done to the rows that refer to a row when it is deleted or updated, each once. -/
def referenceActionsWithin : Nat → Option String → Option String → Parser String
  | 0, onDelete, onUpdate => return onDelete.getD "" ++ onUpdate.getD ""
  | n + 1, onDelete, onUpdate => do
    if onDelete.isNone && (← peekKeywords ["ON", "DELETE"]) then
      let _ ← keywords ["ON", "DELETE"]
      referenceActionsWithin n (some (" ON DELETE " ++ (← referentialAction))) onUpdate
    else if onUpdate.isNone && (← peekKeywords ["ON", "UPDATE"]) then
      let _ ← keywords ["ON", "UPDATE"]
      referenceActionsWithin n onDelete (some (" ON UPDATE " ++ (← referentialAction)))
    else return onDelete.getD "" ++ onUpdate.getD ""

/-- Everything that may follow the columns of a reference. -/
def referenceTail : Parser String := do
  let actions ← referenceActionsWithin 2 none none
  return actions ++ (← constraintTiming)

/-! ### Column options -/

/-- How a sequence counts. The parts have a fixed order. -/
def sequenceOptions : Parser String := do
  let numbered (k link : String) : Parser String := do
    if ← keyword k then
      let word ← flag link
      return " " ++ k ++ word ++ " " ++ text (← signedNumber)
    else return ""
  let limit (k : String) : Parser String := do
    if ← keyword k then return " " ++ k ++ " " ++ text (← signedNumber)
    else flags ["NO", k]
  let increment ← numbered "INCREMENT" "BY"
  let least ← limit "MINVALUE"
  let greatest ← limit "MAXVALUE"
  let start ← numbered "START" "WITH"
  let cache ← clause "CACHE" (return text (← signedNumber))
  let cycle := ((← choice [["NO", "CYCLE"], ["CYCLE"]]).map (" " ++ ·)).getD ""
  return increment ++ least ++ greatest ++ start ++ cache ++ cycle

/-- The options of an identity column in parentheses. -/
def identityOptions : Parser String := do
  if ← symbol "(" then
    let options ← sequenceOptions
    expectSymbol ")"
    return if options.isEmpty then "" else " (" ++ options ++ " )"
  else return ""

/-- What follows `GENERATED`; nothing if it is not a way of generating values. -/
def generatedColumn (r : Rules) : Parser (Option String) := do
  match ← choice [["ALWAYS", "AS", "IDENTITY"], ["BY", "DEFAULT", "AS", "IDENTITY"]] with
  | some how => return some ("GENERATED " ++ how ++ (← identityOptions))
  | none =>
    if !(← keywords ["ALWAYS", "AS"]) then return none
    else if ← symbol "(" then
      let e ← exprText r
      expectSymbol ")"
      let mode ← if ← keyword "STORED" then pure " STORED"
        else if ← dialectIn [.postgres] then expectedHere "STORED"
        else flag "VIRTUAL"
      return some ("GENERATED ALWAYS AS (" ++ e ++ ")" ++ mode)
    else return none

/-- A string behind `COMMENT`, named in messages. -/
def commentString (what : String) : Parser String := do
  let t ← next
  match t.token with
  | .string .single s => return s
  | _ => expected what t

/-- Options that every grammar has. -/
def plainColumnOption (r : Rules) : Parser (Option String) := do
  let computed ← dialectIn [.generic]
  if ← keywords ["CHARACTER", "SET"] then
    return some ("CHARACTER SET " ++ Ident.dotted (← objectName))
  else if ← keywords ["NOT", "NULL"] then return some "NOT NULL"
  else if ← keyword "COMMENT" then
    return some ("COMMENT " ++ Quoting.literal .single (← commentString "string"))
  else if ← keyword "NULL" then return some "NULL"
  else if ← keyword "DEFAULT" then return some ("DEFAULT " ++ (← exprText r))
  else if ← keywordIf computed "MATERIALIZED" then return some ("MATERIALIZED " ++ (← exprText r))
  else if ← keywordIf computed "ALIAS" then return some ("ALIAS " ++ (← exprText r))
  else if ← keywordIf computed "EPHEMERAL" then
    if (← peekSymbol ",") || (← peekSymbol ")") then return some "EPHEMERAL"
    else return some ("EPHEMERAL " ++ (← exprText r))
  else if ← keywords ["PRIMARY", "KEY"] then return some ("PRIMARY KEY" ++ (← constraintTiming))
  else if ← keyword "UNIQUE" then return some ("UNIQUE" ++ (← constraintTiming))
  else if ← keyword "REFERENCES" then
    let table ← objectName
    let columns ← optionalColumns false
    let listed := if columns.isEmpty then "" else " (" ++ Ident.list columns ++ ")"
    return some ("REFERENCES " ++ Ident.dotted table ++ listed ++ (← referenceTail))
  else if ← keyword "CHECK" then
    return some ("CHECK (" ++ (← parenthesized (exprText r)) ++ ")")
  else return none

/-- Words that are options in some grammars, and are passed over in the others. -/
def countingOptions (d : Dialect) : List (String × Bool) :=
  [("AUTO_INCREMENT", d.isMySql || d.isGeneric), ("AUTOINCREMENT", d == .sqlite || d.isGeneric),
    ("ASC", d == .sqlite || d.isGeneric), ("DESC", d == .sqlite || d.isGeneric)]

/-- The value of a column that is worked out from others, behind `AS`. -/
def derivedColumn (r : Rules) : Parser String := do
  let e ← parenthesized (exprText r)
  let mode := ((← oneOf ["STORED", "VIRTUAL"]).map (" " ++ ·)).getD ""
  return "AS (" ++ e ++ ")" ++ mode

def identityColumn : Parser String := do
  if ← symbol "(" then
    let seed ← signedNumber
    expectSymbol ","
    let increment ← signedNumber
    expectSymbol ")"
    return "IDENTITY(" ++ textList [seed, increment] ++ ")"
  else return "IDENTITY"

/-- Options that some grammars have. A word that the grammar gives no meaning is taken all the same,
and the search goes on behind it. -/
def specialColumnOption (r : Rules) : Parser (Option String) := do
  let d ← dialect
  let counting ← (countingOptions d).findM? fun (k, valid) => return (← keyword k) && valid
  match counting with
  | some (k, _) => return some k
  | none =>
    if (← keywords ["ON", "UPDATE"]) && (d.isMySql || d.isGeneric) then
      return some ("ON UPDATE " ++ (← exprText r))
    else if ← keyword "GENERATED" then generatedColumn r
    else
      match ← if d.isGeneric then optionsBehind r "OPTIONS" else pure none with
      | some options => return some ("OPTIONS(" ++ options ++ ")")
      | none =>
        if (← keyword "AS") && (d.isMySql || d == .sqlite || d.isGeneric) then
          some <$> derivedColumn r
        else if (← keyword "IDENTITY") && (d == .sqlServer || d.isGeneric) then
          some <$> identityColumn
        else if (d == .sqlite || d.isGeneric) && (← peekKeywords ["ON", "CONFLICT"]) then
          let _ ← keywords ["ON", "CONFLICT"]
          return some ("ON CONFLICT " ++
            (← expectOneOf ["ROLLBACK", "ABORT", "FAIL", "IGNORE", "REPLACE"]))
        else return none

/-- A constraint or another property of a column, if one comes next. -/
def columnOption (r : Rules) : Parser (Option String) := do
  match ← plainColumnOption r with
  | some option => return some option
  | none => specialColumnOption r

/-! ### Columns -/

/-- Words behind which a column has no type in the grammar that lets it have none. -/
def untypedMarks : List String :=
  ["CONSTRAINT", "PRIMARY", "NOT", "UNIQUE", "CHECK", "DEFAULT", "COLLATE", "REFERENCES",
    "GENERATED", "AS"]

def untyped : Parser Bool := do
  if ← dialectIn [.sqlite] then
    match (← peekToken) with
    | .word w quote => return (Token.word w quote).keyword?.any untypedMarks.contains
    | _ => return true
  else return false

structure ColumnDefinition where
  name : Ident
  type : String
  collation : String := ""
  options : List String := []

namespace ColumnDefinition

def text (c : ColumnDefinition) : String :=
  c.name.text ++ (if c.type.isEmpty then "" else " " ++ c.type) ++ c.collation ++
    String.join (c.options.map (" " ++ ·))

end ColumnDefinition

def collation : Parser String := return " COLLATE " ++ Ident.dotted (← objectName)

/-- The options behind the type of a column, in any order. -/
def columnOptionsWithin (r : Rules) : Nat → ColumnDefinition → Parser ColumnDefinition
  | 0, c => return c
  | n + 1, c => do
    if ← keyword "CONSTRAINT" then
      let name ← ident
      match ← columnOption r with
      | some option =>
        let named := "CONSTRAINT " ++ name.text ++ " " ++ option
        columnOptionsWithin r n { c with options := c.options ++ [named] }
      | none => expectedHere "constraint details after CONSTRAINT <name>"
    else
      match ← columnOption r with
      | some option => columnOptionsWithin r n { c with options := c.options ++ [option] }
      | none =>
        if ← keywordIf (← dialectIn [.mySql, .generic]) "COLLATE" then
          columnOptionsWithin r n { c with collation := ← collation }
        else return c

/-- A column, with its type read by `type`. -/
def columnDefinition (r : Rules) (type : Parser String) : Parser ColumnDefinition := do
  let name ← ident
  let type ← if ← untyped then pure "" else type
  let collation ← if ← keyword "COLLATE" then collation else pure ""
  columnOptionsWithin r ((← read).steps + 1) { name, type, collation }

end SqlLoom.Grammar.Parser
