import SqlLoom.Grammar.Dialect
import SqlLoom.Grammar.Keyword

/-! Tokens of SQL text, and how they are written. -/
namespace SqlLoom.Grammar

/-- The ways of writing a string literal. -/
inductive Quotation where
  /-- `'...'` -/
  | single
  /-- `"..."` -/
  | double
  /-- `N'...'` -/
  | national
  /-- `E'...'` -/
  | escaped
  /-- `U&'...'` -/
  | unicode
  /-- `X'...'` -/
  | hex
  /-- `B'...'` -/
  | byte
  /-- `B"..."` -/
  | byteDouble
  /-- `R'...'` -/
  | verbatim
  /-- `R"..."` -/
  | verbatimDouble
  /-- `R'''...'''` -/
  | verbatimTriple
  /-- A verbatim string between three double quotes on either side. -/
  | verbatimTripleDouble
  deriving DecidableEq, Repr

inductive Token where
  /-- A name or a keyword, with the opening quote if it is quoted. -/
  | word (value : String) (quote : Option Char)
  | number (text : String) (long : Bool)
  | string (kind : Quotation) (value : String)
  /-- `$tag$...$tag$` -/
  | dollarString (tag : Option String) (value : String)
  | placeholder (text : String)
  /-- Punctuation and operators, by their text. -/
  | symbol (text : String)
  /-- An operator put together from operator characters. -/
  | custom (text : String)
  /-- A character that begins no token. -/
  | stray (c : Char)
  /-- What is found behind the last token. -/
  | eof
  deriving DecidableEq, Repr

/-- A token with the place where it starts, which the end of the text has not, and the place behind
it. -/
structure Located where
  token : Token
  position : Option Position
  stop : Position := ⟨0, 0⟩
  deriving DecidableEq, Repr

namespace Quotation

def opening : Quotation → String
  | .single => "'"
  | .double => "\""
  | .national => "N'"
  | .escaped => "E'"
  | .unicode => "U&'"
  | .hex => "X'"
  | .byte => "B'"
  | .byteDouble => "B\""
  | .verbatim => "R'"
  | .verbatimDouble => "R\""
  | .verbatimTriple => "R'''"
  | .verbatimTripleDouble => "R\"\"\""

def closing : Quotation → String
  | .double | .byteDouble | .verbatimDouble => "\""
  | .verbatimTriple => "'''"
  | .verbatimTripleDouble => "\"\"\""
  | _ => "'"

/-- The text between the quotes of this kind. -/
def enclose (k : Quotation) (inner : String) : String := k.opening ++ inner ++ k.closing

end Quotation

/-- The quote that closes a quoted name. -/
def closingQuote (opening : Char) : Char := if opening = '[' then ']' else opening

/-- `$tag$...$tag$`. -/
def dollarText (tag : Option String) (value : String) : String :=
  let fence := "$" ++ tag.getD "" ++ "$"
  fence ++ value ++ fence

namespace Token

/-- A token as it is shown in messages. -/
def text : Token → String
  | .word value none => value
  | .word value (some q) => (String.singleton q) ++ value ++ String.singleton (closingQuote q)
  | .number text long => if long then text ++ "L" else text
  | .string kind value => kind.enclose value
  | .dollarString tag value => dollarText tag value
  | .placeholder text => text
  | .symbol text => text
  | .custom text => text
  | .stray c => String.singleton c
  | .eof => "EOF"

end Token

namespace Token

/-- The keyword a word may stand for; quoted words stand for none. -/
def keyword? : Token → Option String
  | .word value none => some (Keyword.ofName value)
  | _ => none

/-- Whether a word is none of the keywords. -/
def isPlainWord (t : Token) : Bool :=
  match t with
  | .word _ (some _) => true
  | .word value none => !Keyword.listed.contains (Keyword.ofName value)
  | _ => false

end Token

end SqlLoom.Grammar
