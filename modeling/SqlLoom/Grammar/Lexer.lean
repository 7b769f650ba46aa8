import SqlLoom.Grammar.Token
import SqlLoom.Text.Numeric

/-! SQL text as tokens. A reader takes the text from some place on and returns one token and what
follows it; positions are those of the text that has been passed. -/
namespace SqlLoom.Grammar.Lexer

/-- A text that is no token, and what is left from the place of the fault on. -/
structure Fault where
  message : String
  rest : List Char

abbrev Reading (α : Type) := Except Fault (α × List Char)

def str (cs : List Char) : String := String.ofList cs

def takeWhile (p : Char → Bool) (cs : List Char) : String × List Char :=
  (str (cs.takeWhile p), cs.dropWhile p)

def isDigitOrPoint (c : Char) : Bool := c.isDigit || c = '.'

/-- A word that may turn out to be a number. -/
def wordOrNumber (d : Dialect) (head : String) (cs : List Char) : Token × List Char :=
  let (tail, rest) := takeWhile d.continuesName cs
  let word := head ++ tail
  if word.toList.all isDigitOrPoint then
    let (more, rest) := takeWhile isDigitOrPoint rest
    (.number (word ++ more) false, rest)
  else (.word word none, rest)

/-- The character that a backslash and `c` stand for. -/
def unescape (c : Char) : Char :=
  match c with
  | '0' => Char.ofNat 0
  | 'a' => Char.ofNat 7
  | 'b' => Char.ofNat 8
  | 'f' => Char.ofNat 12
  | 'n' => '\n'
  | 'r' => '\r'
  | 't' => '\t'
  | 'Z' => Char.ofNat 26
  | c => c

/-- Reads up to the closing quote, where a backslash may escape. -/
def readBackslashed (quote : Char) : List Char → Option (List Char × List Char)
  | [] => none
  | [c] => if c = quote then some ([], []) else none
  | c :: e :: rest =>
    if c = quote then
      if e = quote then (readBackslashed quote rest).map fun (a, b) => (c :: a, b)
      else some ([], e :: rest)
    else if c = '\\' then (readBackslashed quote rest).map fun (a, b) => (unescape e :: a, b)
    else (readBackslashed quote (e :: rest)).map fun (a, b) => (c :: a, b)

/-- A string whose opening quote comes next. -/
def quoted (backslash : Bool) (kind : Quotation) (quote : Char) (cs : List Char) : Reading Token :=
  let inner := if backslash then readBackslashed quote cs.tail else Text.readEnclosed quote cs.tail
  match inner with
  | some (text, rest) => .ok (.string kind (str text), rest)
  | none => .error ⟨"Unterminated string literal", cs⟩

/-- Reads up to the first three quotes in a row. -/
def readTripled (quote : Char) : List Char → Option (List Char × List Char)
  | a :: b :: c :: rest =>
    if a = quote ∧ b = quote ∧ c = quote then some ([], rest)
    else (readTripled quote (b :: c :: rest)).map fun (text, after) => (a :: text, after)
  | _ => none

/-- A verbatim string whose opening quote comes next. Three quotes open a string that only three
close; two are an empty one. A fault is placed behind the opening quotes. -/
def verbatim (one three : Quotation) (quote : Char) (cs : List Char) : Reading Token :=
  let opening := (cs.take 3).takeWhile (· = quote)
  let inner := cs.drop opening.length
  let (kind, content) := match opening with
    | [_] => (one, Text.readEnclosed quote inner)
    | [_, _] => (one, some ([], inner))
    | _ => (three, readTripled quote inner)
  match content with
  | some (text, rest) => .ok (.string kind (str text), rest)
  | none => .error ⟨"Unterminated string literal", inner⟩

/-- A quoted name whose opening quote comes next. -/
def quotedName (cs : List Char) : Reading Token :=
  match cs with
  | [] => .error ⟨"Expected a quoted name", cs⟩
  | opening :: inner =>
    match Text.readEnclosed (closingQuote opening) inner with
    | some (text, rest) => .ok (.word (str text) (some opening), rest)
    | none =>
      .error ⟨"Expected close delimiter '" ++ String.singleton (closingQuote opening) ++
        "' before EOF.", cs⟩

def hexValue (cs : List Char) : Nat := cs.foldl (fun n c => 16 * n + hexDigitValue c) 0
where
  hexDigitValue (c : Char) : Nat :=
    if c.isDigit then c.toNat - '0'.toNat
    else if 'a' ≤ c ∧ c ≤ 'f' then c.toNat - 'a'.toNat + 10
    else c.toNat - 'A'.toNat + 10

def isHexDigit (c : Char) : Bool := c.isDigit || ('a' ≤ c && c ≤ 'f') || ('A' ≤ c && c ≤ 'F')
def isOctalDigit (c : Char) : Bool := '0' ≤ c && c ≤ '7'

/-- The character of a code point, if there is one. -/
def charOfCode (n : Nat) : Option Char := if n.isValidChar then some (Char.ofNat n) else none

def asciiOfByte (n : Nat) : Option Char :=
  if n % 256 ≤ 127 then some (Char.ofNat (n % 256)) else none

/-- The digits of a number that may have a plus sign. -/
def unsigned : List Char → List Char
  | '+' :: digits => digits
  | digits => digits

/-- The character whose code is a hexadecimal number of `n` characters, a plus sign in front
included. -/
def readHexChar (n : Nat) (cs : List Char) : Option (Char × List Char) :=
  let digits := unsigned (cs.take n)
  if (cs.take n).length = n ∧ digits.all isHexDigit then
    (charOfCode (hexValue digits)).map (·, cs.drop n)
  else none

/-- What follows a backslash in an `E'...'` string. -/
def readEscape : List Char → Option (Char × List Char)
  | [] => none
  | 'b' :: rest => some (Char.ofNat 8, rest)
  | 'f' :: rest => some (Char.ofNat 12, rest)
  | 'n' :: rest => some ('\n', rest)
  | 'r' :: rest => some ('\r', rest)
  | 't' :: rest => some ('\t', rest)
  | 'u' :: rest => readHexChar 4 rest
  | 'U' :: rest => readHexChar 8 rest
  | 'x' :: rest =>
    let digits := (rest.take 2).takeWhile isHexDigit
    if digits.isEmpty then some ('x', rest)
    else (asciiOfByte (hexValue digits)).map (·, rest.drop digits.length)
  | c :: rest =>
    if isOctalDigit c then
      let digits := c :: (rest.take 2).takeWhile isOctalDigit
      let n := digits.foldl (fun n c => 8 * n + (c.toNat - '0'.toNat)) 0
      (asciiOfByte n).map (·, rest.drop (digits.length - 1))
    else some (c, rest)

/-- The inside of an `E'...'` string; a NUL is no character of it. -/
def readEscaped : Nat → List Char → Option (List Char × List Char)
  | 0, _ => none
  | _ + 1, [] => none
  | n + 1, '\'' :: '\'' :: rest => (readEscaped n rest).map fun (a, b) => ('\'' :: a, b)
  | _ + 1, '\'' :: rest => some ([], rest)
  | n + 1, '\\' :: rest => do
    let (c, rest) ← readEscape rest
    if c.toNat = 0 then none
    else (readEscaped n rest).map fun (a, b) => (c :: a, b)
  | n + 1, c :: rest => (readEscaped n rest).map fun (a, b) => (c :: a, b)

/-- An `E'...'` string, from its letter on. -/
def escapedString (cs : List Char) : Reading Token :=
  match readEscaped cs.length (cs.drop 2) with
  | some (text, rest) => .ok (.string .escaped (str text), rest)
  | none => .error ⟨"Unterminated encoded string literal", cs⟩

def hexText (n : Nat) : String := str ((Nat.toDigits 16 n))

/-- `n` hexadecimal digits of a `U&'...'` string. -/
def readUnicode (digits : Nat) (value : Nat) (cs : List Char) : Reading Char :=
  match digits, cs with
  | 0, cs =>
    match charOfCode value with
    | some c => .ok (c, cs)
    | none => .error ⟨"Invalid unicode character: " ++ hexText value, cs⟩
  | _ + 1, [] => .error ⟨"Unexpected EOF while parsing hex digit in escaped unicode string.", []⟩
  | n + 1, c :: rest =>
    if isHexDigit c then readUnicode n (16 * value + hexValue [c]) rest
    else
      .error ⟨"Invalid hex digit in escaped unicode string: " ++ String.singleton c, rest⟩

/-- The inside of a `U&'...'` string. -/
def readUnicodeString : Nat → List Char → List Char → Reading String
  | 0, _, cs => .error ⟨"Unterminated unicode encoded string literal", cs⟩
  | _ + 1, _, [] => .error ⟨"Unterminated unicode encoded string literal", []⟩
  | n + 1, acc, '\'' :: '\'' :: rest => readUnicodeString n ('\'' :: acc) rest
  | _ + 1, acc, '\'' :: rest => .ok (str acc.reverse, rest)
  | n + 1, acc, '\\' :: '\\' :: rest => readUnicodeString n ('\\' :: acc) rest
  | n + 1, acc, '\\' :: '+' :: rest =>
    match readUnicode 6 0 rest with
    | .ok (c, rest) => readUnicodeString n (c :: acc) rest
    | .error f => .error f
  | n + 1, acc, '\\' :: rest =>
    match readUnicode 4 0 rest with
    | .ok (c, rest) => readUnicodeString n (c :: acc) rest
    | .error f => .error f
  | n + 1, acc, c :: rest => readUnicodeString n (c :: acc) rest

/-- The digits of an exponent, with its mark and sign, if there is one. -/
def exponent (cs : List Char) : String × List Char :=
  match cs with
  | e :: rest =>
    if e = 'e' ∨ e = 'E' then
      let (sign, rest) := match rest with
        | '+' :: rest => ("+", rest)
        | '-' :: rest => ("-", rest)
        | rest => ("", rest)
      let (digits, rest) := takeWhile (·.isDigit) rest
      if digits.isEmpty then ("", cs) else (String.singleton e ++ sign ++ digits, rest)
    else ("", cs)
  | [] => ("", cs)

/-- Whether what follows starts like an exponent, be it one or not. -/
def startsExponent : List Char → Bool
  | e :: _ => e = 'e' || e = 'E'
  | [] => false

/-- A number, a lone point, or a name that starts with digits. -/
def number (d : Dialect) (cs : List Char) : Token × List Char :=
  let (whole, rest) := takeWhile (·.isDigit) cs
  match whole, rest with
  | "0", 'x' :: rest =>
    let (digits, rest) := takeWhile isHexDigit rest
    (.string .hex digits, rest)
  | _, _ =>
    let (point, rest) := match rest with
      | '.' :: rest => (".", rest)
      | rest => ("", rest)
    let (fraction, rest) := takeWhile (·.isDigit) rest
    let text := whole ++ point ++ fraction
    if text = "." then (.symbol ".", rest)
    else
      let (power, after) := exponent rest
      let (tail, afterName) := takeWhile d.continuesName after
      if d.isMySql ∧ !startsExponent rest ∧ !tail.isEmpty then (.word (text ++ tail) none, afterName)
      else
        match after with
        | 'L' :: rest => (.number (text ++ power) true, rest)
        | rest => (.number (text ++ power) false, rest)

/-- An operator, which operator characters right behind it turn into another one. -/
def operator (d : Dialect) (text : String) (cs : List Char) : Token × List Char :=
  let (more, rest) := takeWhile d.extendsOperator cs
  if more.isEmpty then (.symbol text, rest) else (.custom (text ++ more), rest)

/-- What follows the opening of a comment; comments nest. -/
def comment : Nat → Char → List Char → Reading Unit
  | _, _, [] => .error ⟨"Unexpected EOF while in a multi-line comment", []⟩
  | depth, last, c :: rest =>
    if last = '/' ∧ c = '*' then comment (depth + 1) c rest
    else if last = '*' ∧ c = '/' then
      if depth ≤ 1 then .ok ((), rest) else comment (depth - 1) c rest
    else comment depth c rest

/-- What follows the mark of a comment that ends with its line. -/
def lineComment (cs : List Char) : List Char := (cs.dropWhile (· ≠ '\n')).drop 1

/-- A string between two pairs of dollar signs. -/
def dollarPair : Option Char → List Char → List Char → Reading Token
  | _, _, [] => .error ⟨"Unterminated dollar-quoted string", []⟩
  | last, acc, c :: rest =>
    if last = some '$' then
      if c = '$' then .ok (.dollarString none (str acc.reverse), rest)
      else dollarPair (some c) (c :: '$' :: acc) rest
    else if c = '$' then dollarPair (some c) acc rest
    else dollarPair (some c) (c :: acc) rest

/-- Compares the text with a tag. Returns what was read, and the rest if all of it agreed. -/
def matchTag : List Char → List Char → List Char → Option (List Char × List Char × Bool)
  | read, [], rest => some (read.reverse, rest, true)
  | _, _ :: _, [] => none
  | read, t :: ts, c :: rest =>
    if c = t then matchTag (c :: read) ts rest else some ((c :: read).reverse, rest, false)

/-- A string between two copies of `$tag$`. -/
def dollarTagged (tag : List Char) : Nat → List Char → List Char → Reading Token
  | 0, _, cs => .error ⟨"Unterminated dollar-quoted, expected $", cs⟩
  | n + 1, acc, cs =>
    let text := acc ++ cs.takeWhile (· ≠ '$')
    match cs.dropWhile (· ≠ '$') with
    | [] => .error ⟨"Unterminated dollar-quoted, expected $", []⟩
    | _ :: rest =>
      match matchTag [] tag rest with
      | none => .error ⟨"Unterminated dollar-quoted, expected $", []⟩
      | some (read, rest, agreed) =>
        match agreed, rest with
        | true, '$' :: rest => .ok (.dollarString (some (str tag)) (str text), rest)
        | _, rest => dollarTagged tag n (text ++ '$' :: read) rest

/-- What follows a dollar sign: a placeholder or a string. -/
def dollar (cs : List Char) : Reading Token :=
  match cs with
  | '$' :: rest => dollarPair none [] rest
  | cs =>
    let (name, rest) := takeWhile (fun c => Text.isAlphanumeric c || c = '_') cs
    match rest with
    | '$' :: rest => dollarTagged name.toList (rest.length + 1) [] rest
    | rest => .ok (.placeholder ("$" ++ name), rest)

/-- What follows an at sign. Where names may start with one, the character behind it belongs to the
name, whatever it is. -/
def atSign (d : Dialect) (cs : List Char) : Token × List Char :=
  match cs with
  | '>' :: rest => (.symbol "@>", rest)
  | '?' :: rest => (.symbol "@?", rest)
  | '@' :: rest =>
    match rest with
    | c :: after =>
      if c ≠ ' ' ∧ d.startsName '@' then wordOrNumber d ("@@" ++ String.singleton c) after
      else (.symbol "@@", rest)
    | [] => (.symbol "@@", rest)
  | c :: after =>
    if c ≠ ' ' ∧ d.startsName '@' then wordOrNumber d ("@" ++ String.singleton c) after
    else (.symbol "@", cs)
  | [] => (.symbol "@", [])

/-- What follows a number sign. -/
def sharp (d : Dialect) (cs : List Char) : Token × List Char :=
  match cs with
  | '-' :: rest => operator d "#-" rest
  | '>' :: '>' :: rest => operator d "#>>" rest
  | '>' :: rest => operator d "#>" rest
  | ' ' :: _ => (.symbol "#", cs)
  | c :: rest =>
    if d.startsName '#' then wordOrNumber d ("#" ++ String.singleton c) rest else operator d "#" cs
  | [] => operator d "#" cs

/-- Operators, the longest first among those with one beginning. Those that may be continued by
operator characters are marked. -/
def operators : List (String × Bool) :=
  [("->>", true), ("->", true), ("-", true), ("||/", true), ("||", true), ("|/", true),
    ("|", true), ("=>", false), ("==", false), ("=", false), ("!~~*", false), ("!~~", false),
    ("!~*", false), ("!~", false), ("!=", false), ("!!", false), ("!", false), ("<=>", true),
    ("<=", true), ("<>", true), ("<<", true), ("<@", true), ("<", true), (">=", true),
    (">>", true), (">", true), ("::", false), (":=", false), (":", false), ("&&", true),
    ("&", true), ("^@", false), ("^", false), ("~~*", true), ("~~", true), ("~*", true),
    ("~", true), ("%", true), ("+", false), ("*", false), ("/", false), ("(", false), (")", false),
    (",", false), (";", false), ("\\", false), ("[", false), ("]", false), ("\x7b", false),
    ("\x7d", false)]

/-- Both spellings of inequality are one operator. -/
def spelling (text : String) : String := if text = "!=" then "<>" else text

def startsWith (text : String) (cs : List Char) : Bool := text.toList.isPrefixOf cs

def findOperator (d : Dialect) (cs : List Char) : Option (Token × List Char) :=
  match operators.find? fun (text, _) => startsWith text cs with
  | some (text, extensible) =>
    let rest := cs.drop text.length
    some (if extensible then operator d text rest else (.symbol (spelling text), rest))
  | none => none

/-- Whether a comment to the end of the line starts here. -/
def startsLineComment (d : Dialect) (cs : List Char) : Bool :=
  startsWith "--" cs || (d.isMySql && startsWith "#" cs)

/-- A letter that may open a string. -/
def stringOpening (d : Dialect) (c : Char) (cs : List Char) : Option (Reading Token) :=
  match c, cs with
  | 'b', '\'' :: _ | 'B', '\'' :: _ =>
    if d.hasByteStrings then some (quoted false .byte '\'' cs) else none
  | 'b', '"' :: _ | 'B', '"' :: _ =>
    if d.hasByteStrings then some (quoted false .byteDouble '"' cs) else none
  | 'r', '\'' :: _ | 'R', '\'' :: _ =>
    if d.isGeneric then some (verbatim .verbatim .verbatimTriple '\'' cs) else none
  | 'r', '"' :: _ | 'R', '"' :: _ =>
    if d.isGeneric then some (verbatim .verbatimDouble .verbatimTripleDouble '"' cs) else none
  | 'n', '\'' :: _ | 'N', '\'' :: _ => some (quoted true .national '\'' cs)
  | 'x', '\'' :: _ | 'X', '\'' :: _ => some (quoted true .hex '\'' cs)
  | 'e', '\'' :: _ | 'E', '\'' :: _ => some (escapedString (c :: cs))
  | 'u', '&' :: '\'' :: rest | 'U', '&' :: '\'' :: rest =>
    if d.hasEscapeStrings then
      some ((readUnicodeString (rest.length + 1) [] rest).map fun (s, r) => (.string .unicode s, r))
    else none
  | _, _ => none

/-- One token, or none for blanks and comments. -/
def next (d : Dialect) (cs : List Char) : Reading (Option Token) :=
  let found (r : Reading Token) : Reading (Option Token) := r.map fun (t, rest) => (some t, rest)
  match cs with
  | [] => .ok (none, [])
  | c :: rest =>
    if c = ' ' ∨ c = '\t' ∨ c = '\n' ∨ c = '\r' then .ok (none, rest)
    else
      match stringOpening d c rest with
      | some reading => found reading
      | none =>
        if c = '\'' then found (quoted d.isMySql .single '\'' cs)
        else if d.opensName c then found (quotedName cs)
        else if c = '"' then found (quoted d.isMySql .double '"' cs)
        else if c.isDigit ∨ c = '.' then found (.ok (number d cs))
        else if startsLineComment d cs then .ok (none, lineComment cs)
        else if startsWith "/*" cs then (comment 1 ' ' (cs.drop 2)).map fun (_, rest) => (none, rest)
        else if d.isGeneric ∧ startsWith "//" cs then found (.ok (.symbol "//", cs.drop 2))
        else
          match findOperator d cs with
          | some reading => found (.ok reading)
          | none =>
            if c = '#' then found (.ok (sharp d rest))
            else if c = '@' then found (.ok (atSign d rest))
            else if c = '?' then
              if d.isPostgres then
                found (.ok (match rest with
                  | '|' :: after => (.symbol "?|", after)
                  | '&' :: after => (.symbol "?&", after)
                  | after => (.symbol "?", after.drop 1)))
              else
                let (digits, after) := takeWhile Text.isNumeric rest
                found (.ok (.placeholder ("?" ++ digits), after))
            else if d.startsName c then found (.ok (wordOrNumber d (String.singleton c) rest))
            else if c = '$' then found (dollar rest)
            else if Text.isBlank c then .ok (none, rest)
            else found (.ok (.stray c, rest))

/-- The position behind a text that starts at `p`. -/
def after (p : Position) (cs : List Char) : Position :=
  cs.foldl (fun p c => if c = '\n' then ⟨p.line + 1, 1⟩ else ⟨p.line, p.column + 1⟩) p

/-- The position of a suffix of the text that starts at `p`. -/
def positionOf (p : Position) (cs rest : List Char) : Position :=
  after p (cs.take (cs.length - rest.length))

/-- The tokens of a text, in at most `n` steps. -/
def tokensWithin (d : Dialect) : Nat → Position → List Char → List Located →
    Except (String × Position) (List Located)
  | 0, _, _, acc => .ok acc.reverse
  | _ + 1, _, [], acc => .ok acc.reverse
  | n + 1, p, cs, acc =>
    match next d cs with
    | .error f => .error (f.message, positionOf p cs f.rest)
    | .ok (t, rest) =>
      let stop := positionOf p cs rest
      let acc := match t with
        | some token => ⟨token, some p, stop⟩ :: acc
        | none => acc
      tokensWithin d n stop rest acc

/-- Every token with its position, or the fault that ends the reading. -/
def tokens (d : Dialect) (sql : String) : Except (String × Position) (List Located) :=
  tokensWithin d (sql.length + 1) ⟨1, 1⟩ sql.toList []

end SqlLoom.Grammar.Lexer
