import SqlLoom.Binary64.Reader
import SqlLoom.Calendar

/-! The documents of settings: tables of keys and values, read line by line. Numbers, dates and times
have to be well formed, but their values are not kept, since no setting takes one. -/
namespace SqlLoom

/-- How a table came about, which decides what may be added to it. -/
inductive TableOrigin where
  /-- A parent named by a longer header. -/
  | implied
  | header
  | dotted
  | inline
  deriving DecidableEq, Repr

inductive Toml where
  | text (s : String)
  | bool (b : Bool)
  | number
  /-- A date, a time of day or both. -/
  | moment
  | array (items : List Toml)
  | table (origin : TableOrigin) (members : List (String × Toml))
  /-- An array whose tables have headers of their own. -/
  | tables (items : List (List (String × Toml)))

namespace Toml

abbrev Members := List (String × Toml)

def lookup (key : String) : Members → Option Toml
  | [] => none
  | (k, v) :: rest => if k = key then some v else lookup key rest

def put (key : String) (value : Toml) : Members → Members
  | [] => [(key, value)]
  | (k, v) :: rest => if k = key then (k, value) :: rest else (k, v) :: put key value rest

/-! ### Text -/

def isGap (c : Char) : Bool := c = ' ' || c = '\t'

def skipGaps (cs : List Char) : List Char := cs.dropWhile isGap

def isControl (c : Char) : Bool := (c.toNat < 32 && c ≠ '\t') || c.toNat = 127

/-- What follows a line break, or a comment up to and with it; nothing else may stand there. -/
def endLine? (cs : List Char) : Option (List Char) :=
  let broken : List Char → Option (List Char)
    | [] => some []
    | '\n' :: cs => some cs
    | '\r' :: '\n' :: cs => some cs
    | _ => none
  match skipGaps cs with
  | '#' :: cs => broken (cs.dropWhile fun c => !isControl c)
  | cs => broken cs

/-- Goes on behind blanks, comments and line breaks. -/
def skipLines : Nat → List Char → List Char
  | 0, cs => cs
  | n + 1, cs =>
    match skipGaps cs with
    | [] => []
    | c :: rest =>
      match endLine? (c :: rest) with
      | some rest => skipLines n rest
      | none => c :: rest

def hexValue? (cs : List Char) : Option Nat :=
  cs.foldlM (fun n c =>
    if c.isDigit then some (16 * n + (c.toNat - '0'.toNat))
    else if 'a' ≤ c ∧ c ≤ 'f' then some (16 * n + (c.toNat - 'a'.toNat + 10))
    else if 'A' ≤ c ∧ c ≤ 'F' then some (16 * n + (c.toNat - 'A'.toNat + 10))
    else none) 0

def charOfHex? (width : Nat) (cs : List Char) : Option (Char × List Char) := do
  let digits := cs.take width
  if digits.length < width then none
  else
    let n ← hexValue? digits
    if n.isValidChar then some (Char.ofNat n, cs.drop width) else none

/-- The character behind a backslash. -/
def escaped? : List Char → Option (Char × List Char)
  | 'b' :: cs => some (Char.ofNat 8, cs)
  | 't' :: cs => some ('\t', cs)
  | 'n' :: cs => some ('\n', cs)
  | 'f' :: cs => some (Char.ofNat 12, cs)
  | 'r' :: cs => some ('\r', cs)
  | '"' :: cs => some ('"', cs)
  | '\\' :: cs => some ('\\', cs)
  | 'u' :: cs => charOfHex? 4 cs
  | 'U' :: cs => charOfHex? 8 cs
  | _ => none

/-- The inside of a string on one line, up to its closing quote. -/
def stringOf? (quote : Char) : Nat → List Char → List Char → Option (String × List Char)
  | 0, _, _ => none
  | _, _, [] => none
  | n + 1, taken, c :: cs =>
    if c = quote then some (String.ofList taken.reverse, cs)
    else if c = '\\' ∧ quote = '"' then
      match escaped? cs with
      | some (d, rest) => stringOf? quote n (d :: taken) rest
      | none => none
    else if isControl c then none
    else stringOf? quote n (c :: taken) cs

/-- Blanks and line breaks behind a backslash at the end of a line. -/
def skipFold (cs : List Char) : Option (List Char) :=
  match skipGaps cs with
  | '\n' :: rest => some (rest.dropWhile fun c => isGap c || c = '\n' || c = '\r')
  | '\r' :: '\n' :: rest => some (rest.dropWhile fun c => isGap c || c = '\n' || c = '\r')
  | _ => none

/-- The inside of a string between three quotes, two of which may stand before the closing ones. -/
def blockOf? (quote : Char) : Nat → List Char → List Char → Option (String × List Char)
  | 0, _, _ => none
  | _, _, [] => none
  | n + 1, taken, c :: cs =>
    let fence := [quote, quote, quote]
    if fence.isPrefixOf (c :: cs) then
      let run := (c :: cs).takeWhile (· = quote)
      if run.length ≤ 5 then
        some (String.ofList (taken.reverse ++ run.drop 3), (c :: cs).drop run.length)
      else none
    else if c = '\\' ∧ quote = '"' then
      match skipFold cs with
      | some rest => blockOf? quote n taken rest
      | none =>
        match escaped? cs with
        | some (d, rest) => blockOf? quote n (d :: taken) rest
        | none => none
    else if c = '\r' then
      match cs with
      | '\n' :: rest => blockOf? quote n ('\n' :: taken) rest
      | _ => none
    else if isControl c ∧ c ≠ '\n' then none
    else blockOf? quote n (c :: taken) cs

def quotedText? (quote : Char) (cs : List Char) : Option (String × List Char) :=
  let fence := [quote, quote]
  if fence.isPrefixOf cs then
    match cs.drop 2 with
    | c :: rest =>
      if c = quote then
        let rest := match rest with
          | '\n' :: rest => rest
          | '\r' :: '\n' :: rest => rest
          | rest => rest
        blockOf? quote (rest.length + 1) [] rest
      else some ("", c :: rest)
    | [] => some ("", [])
  else stringOf? quote (cs.length + 1) [] cs

/-! ### Numbers and dates -/

/-- Digits in which an underscore stands between two digits only. -/
def areDigits (isDigit : Char → Bool) : List Char → Bool
  | [] => false
  | [c] => isDigit c
  | c :: '_' :: d :: cs => isDigit c && areDigits isDigit (d :: cs)
  | c :: cs => isDigit c && areDigits isDigit cs

def withoutSign : List Char → List Char
  | '+' :: cs | '-' :: cs => cs
  | cs => cs

def isWholePart (cs : List Char) : Bool :=
  areDigits Char.isDigit cs &&
    match cs with
    | '0' :: _ :: _ => false
    | _ => true

/-- The digits without the underscores between them. -/
def plainDigits (cs : List Char) : List Char := cs.filter (· ≠ '_')

/-- The value of a digit up to `f`. -/
def digitValue (c : Char) : Nat := (hexValue? [c]).getD 16

/-- Whether digits of a base write a number of at most 63 bits. -/
def isNatural (base : Nat) (cs : List Char) : Bool :=
  areDigits (fun c => digitValue c < base) cs &&
    (plainDigits cs).foldl (fun n c => base * n + digitValue c) 0 < Nat.pow 2 63

def isInteger (cs : List Char) : Bool :=
  match cs with
  | '0' :: 'x' :: ds => isNatural 16 ds
  | '0' :: 'o' :: ds => isNatural 8 ds
  | '0' :: 'b' :: ds => isNatural 2 ds
  | cs =>
    let n := Binary64.digitsValue 0 (plainDigits (withoutSign cs))
    isWholePart (withoutSign cs) && (if cs.head? = some '-' then n ≤ Nat.pow 2 63 else n < Nat.pow 2 63)

/-- Whether a text has a point or an exponent behind its digits. -/
def isFractional (cs : List Char) : Bool :=
  let cs := withoutSign cs
  let whole := cs.takeWhile fun c => c.isDigit || c = '_'
  let isExponent : List Char → Bool
    | c :: ds => (c = 'e' || c = 'E') && areDigits Char.isDigit (withoutSign ds)
    | [] => false
  isWholePart whole &&
    match cs.drop whole.length with
    | '.' :: ds =>
      let fraction := ds.takeWhile fun c => c.isDigit || c = '_'
      let rest := ds.drop fraction.length
      areDigits Char.isDigit fraction && (rest.isEmpty || isExponent rest)
    | rest => isExponent rest

/-- A number with a point or an exponent, or a name of infinity or NaN. Digits for a number above all
others are refused, though not for one below all others. -/
def isFloat (cs : List Char) : Bool :=
  ["inf".toList, "nan".toList].contains (withoutSign cs) ||
    (isFractional cs &&
      Binary64.parse? (String.ofList (plainDigits cs)) != some (Binary64.infinity false))

/-- Whether a text has the shape of a pattern, in which `0` stands for any digit. -/
def hasShape : List Char → List Char → Bool
  | [], [] => true
  | p :: ps, c :: cs => (if p = '0' then c.isDigit else p = c) && hasShape ps cs
  | _, _ => false

def numeral (cs : List Char) : Nat := Binary64.digitsValue 0 cs

/-- A day that the calendar has. -/
def isDay (cs : List Char) : Bool :=
  hasShape "0000-00-00".toList cs &&
    Date.valid ⟨numeral (cs.take 4), numeral ((cs.drop 5).take 2), numeral (cs.drop 8)⟩

/-- A time of day, with its fraction. -/
def isClock (cs : List Char) : Bool :=
  let clock := cs.take 8
  hasShape "00:00:00".toList clock && numeral (clock.take 2) ≤ 23 &&
    numeral ((clock.drop 3).take 2) ≤ 59 && numeral (clock.drop 6) ≤ 60 &&
    match cs.drop 8 with
    | [] => true
    | '.' :: ds => !ds.isEmpty && ds.all Char.isDigit
    | _ => false

def isZone : List Char → Bool
  | ['Z'] | ['z'] | [] => true
  | c :: cs =>
    (c = '+' || c = '-') && hasShape "00:00".toList cs && numeral (cs.take 2) ≤ 23 &&
      numeral (cs.drop 3) ≤ 59

def isMoment (cs : List Char) : Bool :=
  let mark := (cs.drop 10).head?
  let clock := (cs.drop 11).takeWhile fun c => c.isDigit || c = ':' || c = '.'
  isDay (cs.take 10) && (mark = some 'T' || mark = some 't' || mark = some ' ') && isClock clock &&
    isZone ((cs.drop 11).drop clock.length)

def isWordChar (c : Char) : Bool :=
  c.isAlphanum || c = '_' || c = '-' || c = '+' || c = '.' || c = ':'

/-- A word; behind a date the time may follow a blank. -/
def wordOf (cs : List Char) : List Char × List Char :=
  let word := cs.takeWhile isWordChar
  let rest := cs.drop word.length
  match rest with
  | ' ' :: more =>
    let clock := more.takeWhile isWordChar
    if isDay word && clock.head?.any Char.isDigit then
      (word ++ ' ' :: clock, more.drop clock.length)
    else (word, rest)
  | _ => (word, rest)

def atom? (word : List Char) : Option Toml :=
  if word == "true".toList then some (.bool true)
  else if word == "false".toList then some (.bool false)
  else if isInteger word || isFloat word then some .number
  else if isDay word || isClock word || isMoment word then some .moment
  else none

/-! ### Keys -/

def isBareKey (c : Char) : Bool := c.isAlphanum || c = '_' || c = '-'

def simpleKey? (cs : List Char) : Option (String × List Char) :=
  match cs with
  | '"' :: rest => stringOf? '"' (rest.length + 1) [] rest
  | '\'' :: rest => stringOf? '\'' (rest.length + 1) [] rest
  | cs =>
    let key := cs.takeWhile isBareKey
    if key.isEmpty then none else some (String.ofList key, cs.drop key.length)

def keyPathWithin : Nat → List Char → Option (List String × List Char)
  | 0, _ => none
  | n + 1, cs =>
    match simpleKey? (skipGaps cs) with
    | none => none
    | some (k, rest) =>
      match skipGaps rest with
      | '.' :: rest => (keyPathWithin n rest).map fun (ks, rest) => (k :: ks, rest)
      | rest => some ([k], rest)

/-- A key, perhaps of several parts divided by points, but of no more than 80. -/
def keyPath? (cs : List Char) : Option (List String × List Char) := keyPathWithin 80 cs

/-! ### Tables -/

/-- Adds a value under a key of several parts. A table met on the way must itself have come from
such keys, and a table reached by such a key takes no other. -/
def insert? (value : Toml) : List String → Members → Option Members
  | [], _ => none
  | [k], ms => if (lookup k ms).isSome then none else some (ms ++ [(k, value)])
  | k :: ks, ms =>
    match lookup k ms with
    | none => (insert? value ks []).map fun inner => ms ++ [(k, .table .dotted inner)]
    | some (.table .dotted inner) =>
      (insert? value ks inner).map fun inner => put k (.table .dotted inner) ms
    | some (.table .implied inner) =>
      if ks.length = 1 then none
      else (insert? value ks inner).map fun inner => put k (.table .implied inner) ms
    | some _ => none

/-- Changes the members of the table at a path; a missing table is made on the way, and of an array
of tables the last is meant. -/
def alterAt? (change : Members → Option Members) : List String → Members → Option Members
  | [], ms => change ms
  | k :: ks, ms =>
    match lookup k ms with
    | none => (alterAt? change ks []).map fun inner => ms ++ [(k, .table .implied inner)]
    | some (.table .inline _) => none
    | some (.table origin inner) =>
      (alterAt? change ks inner).map fun inner => put k (.table origin inner) ms
    | some (.tables items) =>
      match items.getLast? with
      | some last =>
        (alterAt? change ks last).map fun last => put k (.tables (items.dropLast ++ [last])) ms
      | none => none
    | some _ => none

/-- The table that a header opens. -/
def openTable? (k : String) (ms : Members) : Option Members :=
  match lookup k ms with
  | none => some (ms ++ [(k, .table .header [])])
  | some (.table .implied inner) => some (put k (.table .header inner) ms)
  | some _ => none

/-- The table that a header adds to an array. -/
def openElement? (k : String) (ms : Members) : Option Members :=
  match lookup k ms with
  | none => some (ms ++ [(k, .tables [[]])])
  | some (.tables items) => some (put k (.tables (items ++ [[]])) ms)
  | some _ => none

/-! ### Values -/

/-- How deep arrays and inline tables nest in a value. -/
def depthLimit : Nat := 79

mutual
/-- A value, in at most as many steps as the first number says, with room for as many levels as the
second. -/
def value? : Nat → Nat → List Char → Option (Toml × List Char)
  | 0, _, _ => none
  | n + 1, room, cs =>
    match cs with
    | '"' :: rest => (quotedText? '"' rest).map fun (s, rest) => (.text s, rest)
    | '\'' :: rest => (quotedText? '\'' rest).map fun (s, rest) => (.text s, rest)
    | '[' :: rest =>
      if room = 0 then none
      else (items? n (room - 1) rest).map fun (vs, rest) => (.array vs, rest)
    | c :: rest =>
      if c.toNat = 0x7B then
        if room = 0 then none
        else
          match skipGaps rest with
          | d :: rest =>
            if d.toNat = 0x7D then some (.table .inline [], rest)
            else (entries? n (room - 1) [] (d :: rest)).map fun (ms, rest) =>
              (.table .inline ms, rest)
          | [] => none
      else
        let (word, rest) := wordOf (c :: rest)
        (atom? word).map (·, rest)
    | [] => none
def items? : Nat → Nat → List Char → Option (List Toml × List Char)
  | 0, _, _ => none
  | n + 1, room, cs =>
    match skipLines (cs.length + 1) cs with
    | ']' :: rest => some ([], rest)
    | cs =>
      match value? n room cs with
      | none => none
      | some (v, rest) =>
        match skipLines (rest.length + 1) rest with
        | ',' :: rest => (items? n room rest).map fun (vs, rest) => (v :: vs, rest)
        | ']' :: rest => some ([v], rest)
        | _ => none
def entries? : Nat → Nat → Members → List Char → Option (Members × List Char)
  | 0, _, _, _ => none
  | n + 1, room, ms, cs =>
    match keyPath? cs with
    | some (path, '=' :: rest) =>
      match value? n room (skipGaps rest) with
      | none => none
      | some (v, rest) =>
        match insert? v path ms with
        | none => none
        | some ms =>
          match skipGaps rest with
          | ',' :: rest => entries? n room ms (skipGaps rest)
          | c :: rest => if c.toNat = 0x7D then some (ms, rest) else none
          | [] => none
    | _ => none
end

/-! ### Documents -/

/-- One line: where the following keys go, and the members so far. -/
def line? (here : List String) (ms : Members) (cs : List Char) :
    Option (List String × Members × List Char) :=
  match cs with
  | '[' :: '[' :: rest =>
    match keyPath? rest with
    | some (path, ']' :: ']' :: rest) => do
      let ms ← alterAt? (openElement? (path.getLast?.getD "")) path.dropLast ms
      some (path, ms, ← endLine? rest)
    | _ => none
  | '[' :: rest =>
    match keyPath? rest with
    | some (path, ']' :: rest) => do
      let ms ← alterAt? (openTable? (path.getLast?.getD "")) path.dropLast ms
      some (path, ms, ← endLine? rest)
    | _ => none
  | cs =>
    match keyPath? cs with
    | some (path, '=' :: rest) => do
      let (v, rest) ← value? (rest.length + 1) depthLimit (skipGaps rest)
      let ms ← alterAt? (insert? v path) here ms
      some (here, ms, ← endLine? rest)
    | _ => none

def lines? : Nat → List String → Members → List Char → Option Members
  | 0, _, _, _ => none
  | n + 1, here, ms, cs =>
    match skipLines (cs.length + 1) cs with
    | [] => some ms
    | cs =>
      match line? here ms cs with
      | some (here, ms, rest) => lines? n here ms rest
      | none => none

/-- The members of a document. -/
def parse? (s : String) : Option Members :=
  let cs := s.toList
  let cs := if cs.head? = some (Char.ofNat 0xFEFF) then cs.drop 1 else cs
  lines? (cs.length + 1) [] [] cs

end Toml

end SqlLoom
