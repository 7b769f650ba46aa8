import SqlLoom.Grammar.Parser

/-! What the parsers of all families share: the parsers that nest, and the text of what they read. -/
namespace SqlLoom.Grammar

/-- The parsers that nest, for what is left of the depth that is read. -/
structure Rules where
  /-- An expression whose operators bind tighter than a precedence. -/
  expr : Nat → Parser Expr
  query : Parser Query
  statement : Parser Statement

namespace Rules

/-- An expression with any operators. -/
def whole (r : Rules) : Parser Expr := r.expr 0

end Rules

namespace Parser

def text (e : Expr) : String := Print.expr e

def textList (es : List Expr) : String := Text.commaList (es.map text)

/-- The text of one expression. -/
def exprText (r : Rules) : Parser String := return text (← r.whole)

/-- The text of one or more expressions, divided by commas. -/
def exprListText (r : Rules) : Parser String := return textList (← commaSeparated r.whole)

/-- The text of a parser's result behind a word, if the word comes next; both follow a blank. -/
def clause (k : String) (p : Parser String) : Parser String := do
  if ← keyword k then return " " ++ k ++ " " ++ (← p) else return ""

/-- A word with a blank in front of it, if it comes next. -/
def flag (k : String) : Parser String := return if ← keyword k then " " ++ k else ""

/-- As `flag`, for words that all have to come. -/
def flags (ks : List String) : Parser String :=
  return if ← keywords ks then " " ++ String.intercalate " " ks else ""

/-- The first of some lists of words that comes next, as a text. -/
def choice (kss : List (List String)) : Parser (Option String) := do
  return (← kss.findM? keywords).map (String.intercalate " ")

/-- Whether a query in parentheses comes next, behind the opening one. -/
def peekQuery : Parser Bool := return (← peekKeyword "SELECT") || (← peekKeyword "WITH")

end Parser

end SqlLoom.Grammar
