import SqlLoom.Json

/-! Reading JSON text. Integers that fit 64 bits stay integers, and every other number becomes a
double by scaling its leading digits, in one rounding for exponents up to 308. -/
namespace SqlLoom.Json

def isGap (c : Char) : Bool := c = ' ' || c = '\n' || c = '\t' || c = '\r'

def skipGaps (cs : List Char) : List Char := cs.dropWhile isGap

def hexValue (c : Char) : Option Nat :=
  if '0' ≤ c ∧ c ≤ '9' then some (c.toNat - '0'.toNat)
  else if 'a' ≤ c ∧ c ≤ 'f' then some (c.toNat - 'a'.toNat + 10)
  else if 'A' ≤ c ∧ c ≤ 'F' then some (c.toNat - 'A'.toNat + 10)
  else none

def readHex4 : List Char → Option (Nat × List Char)
  | a :: b :: c :: d :: rest => do
    let a ← hexValue a
    let b ← hexValue b
    let c ← hexValue c
    let d ← hexValue d
    some (((a * 16 + b) * 16 + c) * 16 + d, rest)
  | _ => none

/-- The character after `\u`; a surrogate stands only as half of a pair. -/
def readUnicode (cs : List Char) : Option (Char × List Char) := do
  let (high, rest) ← readHex4 cs
  if 0xDC00 ≤ high ∧ high ≤ 0xDFFF then none
  else if 0xD800 ≤ high ∧ high ≤ 0xDBFF then
    match rest with
    | '\\' :: 'u' :: rest =>
      let (low, rest) ← readHex4 rest
      if 0xDC00 ≤ low ∧ low ≤ 0xDFFF then
        some (Char.ofNat (0x10000 + (high - 0xD800) * 0x400 + (low - 0xDC00)), rest)
      else none
    | _ => none
  else some (Char.ofNat high, rest)

/-- Reads up to the closing quote, in at most as many steps as there are characters. -/
def readString : Nat → List Char → List Char → Option (String × List Char)
  | 0, _, _ => none
  | _ + 1, _, [] => none
  | n + 1, acc, c :: cs =>
    if c = '"' then some (String.ofList acc.reverse, cs)
    else if c = '\\' then
      match cs with
      | '"' :: cs => readString n ('"' :: acc) cs
      | '\\' :: cs => readString n ('\\' :: acc) cs
      | '/' :: cs => readString n ('/' :: acc) cs
      | 'b' :: cs => readString n (Char.ofNat 8 :: acc) cs
      | 'f' :: cs => readString n (Char.ofNat 12 :: acc) cs
      | 'n' :: cs => readString n ('\n' :: acc) cs
      | 'r' :: cs => readString n ('\r' :: acc) cs
      | 't' :: cs => readString n ('\t' :: acc) cs
      | 'u' :: cs =>
        match readUnicode cs with
        | some (u, cs) => readString n (u :: acc) cs
        | none => none
      | _ => none
    else if c.toNat < 32 then none
    else readString n (c :: acc) cs

def digitOf (c : Char) : Nat := c.toNat - '0'.toNat

/-- Digits taken into a 64-bit significand until it is full, with how many were taken and what
is left. -/
def takeDigits (significand taken : Nat) : List Char → Nat × Nat × List Char
  | [] => (significand, taken, [])
  | c :: cs =>
    if c.isDigit ∧ significand * 10 + digitOf c < Nat.pow 2 64 then
      takeDigits (significand * 10 + digitOf c) (taken + 1) cs
    else (significand, taken, c :: cs)

/-- Scales by a power of ten, in steps of 308 for small numbers. Fails beyond the largest
double. -/
def scaleFloat : Nat → Float → Int → Option Float
  | 0, f, _ => some f
  | n + 1, f, e =>
    if e.natAbs ≤ 308 then
      let power : Float := OfScientific.ofScientific 1 false e.natAbs
      if 0 ≤ e then
        if (f * power).isInf then none else some (f * power)
      else some (f / power)
    else if f == 0 then some f
    else if 0 ≤ e then none
    else scaleFloat n (f / 1e308) (e + 308)

def floatOf (minus : Bool) (significand : Nat) (e : Int) : Option JsonNumber :=
  (scaleFloat 8 significand.toUInt64.toFloat (max e (-2000))).map fun f =>
    .float (Binary64.ofFloat (if minus then -f else f))

/-- What follows a significand: an exponent part or nothing. -/
def readExponent (minus : Bool) (significand : Nat) (e : Int) :
    List Char → Option (JsonNumber × List Char)
  | c :: cs =>
    if c = 'e' ∨ c = 'E' then
      let (down, cs) := match cs with
        | '+' :: cs => (false, cs)
        | '-' :: cs => (true, cs)
        | cs => (false, cs)
      let digits := cs.takeWhile Char.isDigit
      if digits.isEmpty then none
      else
        let power : Int := digits.foldl (fun n d => 10 * n + digitOf d) 0
        let rest := cs.drop digits.length
        if significand = 0 then (floatOf minus 0 0).map (·, rest)
        else (floatOf minus significand (if down then e - power else e + power)).map (·, rest)
    else (floatOf minus significand e).map (·, c :: cs)
  | [] => (floatOf minus significand e).map (·, [])

/-- What follows the integer digits, `e` of which found no room in the significand. -/
def readFraction (minus : Bool) (significand : Nat) (e : Int) :
    List Char → Option (JsonNumber × List Char)
  | '.' :: cs =>
    let (full, taken, rest) := takeDigits significand 0 cs
    let unused := rest.takeWhile Char.isDigit
    if taken = 0 ∧ unused.isEmpty then none
    else readExponent minus full (e - taken) (rest.drop unused.length)
  | cs => readExponent minus significand e cs

def startsFraction : List Char → Bool
  | c :: _ => c = '.' || c = 'e' || c = 'E'
  | [] => false

def readNumber (minus : Bool) (cs : List Char) : Option (JsonNumber × List Char) :=
  let whole := cs.takeWhile Char.isDigit
  match whole with
  | [] => none
  | '0' :: _ :: _ => none
  | _ =>
    let rest := cs.drop whole.length
    let (significand, taken, _) := takeDigits 0 0 whole
    let left := whole.length - taken
    if startsFraction rest then readFraction minus significand left rest
    else if 0 < left then (floatOf minus significand left).map (·, rest)
    else if minus then
      if significand = 0 ∨ Nat.pow 2 63 < significand then (floatOf true significand 0).map (·, rest)
      else some (.int (-significand), rest)
    else some (.int significand, rest)

def expect (word : List Char) (cs : List Char) : Option (List Char) :=
  if word.isPrefixOf cs then some (cs.drop word.length) else none

mutual
/-- A value nested in at most `depth - 1` containers, in at most `n` steps. -/
def readValue (depth : Nat) : Nat → List Char → Option (Json × List Char)
  | 0, _ => none
  | n + 1, cs =>
    match skipGaps cs with
    | 'n' :: cs => (expect ['u', 'l', 'l'] cs).map (.null, ·)
    | 't' :: cs => (expect ['r', 'u', 'e'] cs).map (.bool true, ·)
    | 'f' :: cs => (expect ['a', 'l', 's', 'e'] cs).map (.bool false, ·)
    | '"' :: cs => (readString (cs.length + 1) [] cs).map fun (s, rest) => (.str s, rest)
    | '-' :: cs => (readNumber true cs).map fun (x, rest) => (.num x, rest)
    | '[' :: cs =>
      if depth ≤ 1 then none
      else
        match skipGaps cs with
        | ']' :: rest => some (.arr [], rest)
        | cs => (readItems (depth - 1) n cs).map fun (js, rest) => (.arr js, rest)
    | c :: cs =>
      if c.toNat = 0x7B then
        if depth ≤ 1 then none
        else
          match skipGaps cs with
          | d :: rest =>
            if d.toNat = 0x7D then some (.obj [], rest)
            else (readMembers (depth - 1) n (d :: rest)).map fun (ms, rest) => (.obj ms, rest)
          | [] => none
      else (readNumber false (c :: cs)).map fun (x, rest) => (.num x, rest)
    | [] => none
def readItems (depth : Nat) : Nat → List Char → Option (List Json × List Char)
  | 0, _ => none
  | n + 1, cs =>
    match readValue depth n cs with
    | none => none
    | some (j, rest) =>
      match skipGaps rest with
      | ',' :: rest => (readItems depth n rest).map fun (js, rest) => (j :: js, rest)
      | ']' :: rest => some ([j], rest)
      | _ => none
def readMembers (depth : Nat) : Nat → List Char → Option (List (String × Json) × List Char)
  | 0, _ => none
  | n + 1, cs =>
    match skipGaps cs with
    | '"' :: cs =>
      match readString (cs.length + 1) [] cs with
      | none => none
      | some (key, rest) =>
        match skipGaps rest with
        | ':' :: rest =>
          match readValue depth n rest with
          | none => none
          | some (j, rest) =>
            match skipGaps rest with
            | ',' :: rest =>
              (readMembers depth n rest).map fun (ms, rest) => ((key, j) :: ms, rest)
            | c :: rest => if c.toNat = 0x7D then some ([(key, j)], rest) else none
            | [] => none
        | _ => none
    | _ => none
end

/-- One value with nothing but blanks around it, at most `depth - 1` containers deep. -/
def parseWithin (depth : Nat) (s : String) : Option Json :=
  let cs := s.toList
  match readValue depth (cs.length + 1) cs with
  | some (j, rest) => if (skipGaps rest).isEmpty then some j else none
  | none => none

/-- Documents nest at most 127 containers deep. -/
def parse? (s : String) : Option Json := parseWithin 128 s

end SqlLoom.Json
