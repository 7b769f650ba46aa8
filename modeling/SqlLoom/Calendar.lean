import SqlLoom.Text.Blank

/-! Calendar dates and moments in universal time, with their ISO texts. -/
namespace SqlLoom

/-- A date of the proleptic Gregorian calendar. -/
structure Date where
  year : Int
  month : Nat
  day : Nat
  deriving DecidableEq, Repr

/-- A moment in universal time. A leap second is the last second of its minute with a billion
nanoseconds or more. -/
structure Timestamp where
  date : Date
  second : Nat
  nanosecond : Nat
  deriving DecidableEq, Repr

namespace Calendar

def isLeap (year : Int) : Bool := year % 4 = 0 && (year % 100 ≠ 0 || year % 400 = 0)

def monthLength (year : Int) : Nat → Nat
  | 2 => if isLeap year then 29 else 28
  | 4 | 6 | 9 | 11 => 30
  | _ => 31

/-- Days since the first of March of year 0. -/
def dayNumber (d : Date) : Int :=
  let y := if d.month ≤ 2 then d.year - 1 else d.year
  let era := y / 400
  let yearOfEra := y - era * 400
  let shifted : Int := if 2 < d.month then (d.month : Int) - 3 else (d.month : Int) + 9
  let dayOfYear := (153 * shifted + 2) / 5 + d.day - 1
  era * 146097 + yearOfEra * 365 + yearOfEra / 4 - yearOfEra / 100 + dayOfYear

def ofDayNumber (n : Int) : Date :=
  let era := n / 146097
  let dayOfEra := n - era * 146097
  let yearOfEra := (dayOfEra - dayOfEra / 1460 + dayOfEra / 36524 - dayOfEra / 146096) / 365
  let dayOfYear := dayOfEra - (365 * yearOfEra + yearOfEra / 4 - yearOfEra / 100)
  let shifted := (5 * dayOfYear + 2) / 153
  let month := if shifted < 10 then shifted + 3 else shifted - 9
  let year := yearOfEra + era * 400 + (if month ≤ 2 then 1 else 0)
  ⟨year, month.toNat, (dayOfYear - (153 * shifted + 2) / 5 + 1).toNat⟩

/-- Decimal digits padded with zeros on the left. -/
def padded (width n : Nat) : String :=
  let digits := toString n
  String.ofList (List.replicate (width - digits.length) '0') ++ digits

def digitValue (c : Char) : Option Nat :=
  if '0' ≤ c ∧ c ≤ '9' then some (c.toNat - '0'.toNat) else none

/-- The number written by a list of digits. -/
def digitsValue (cs : List Char) : Nat :=
  cs.foldl (fun n c => 10 * n + (c.toNat - '0'.toNat)) 0

/-- Reads between `least` and `most` digits. -/
def readNumber (least most : Nat) (cs : List Char) : Option (Nat × List Char) :=
  let digits := (cs.takeWhile fun c => (digitValue c).isSome).take most
  if digits.length < least then none
  else some (digitsValue digits, cs.drop digits.length)

def readChar (c : Char) : List Char → Option (List Char)
  | x :: xs => if x = c then some xs else none
  | [] => none

end Calendar

open Calendar

namespace Date

def valid (d : Date) : Bool :=
  -262143 ≤ d.year && d.year ≤ 262142 && 1 ≤ d.month && d.month ≤ 12 && 1 ≤ d.day &&
    d.day ≤ monthLength d.year d.month

/-- Years of more or fewer than four digits carry a sign. -/
def yearText (year : Int) : String :=
  if 0 ≤ year ∧ year ≤ 9999 then padded 4 year.toNat
  else (if year < 0 then "-" else "+") ++ padded 4 year.natAbs

def text (d : Date) : String :=
  yearText d.year ++ "-" ++ padded 2 d.month ++ "-" ++ padded 2 d.day

def skipBlanks (cs : List Char) : List Char := cs.dropWhile Text.isBlank

/-- A year, which takes more than four digits only after a sign. -/
def readYear : List Char → Option (Int × List Char)
  | '-' :: cs => (readNumber 1 cs.length cs).map fun (n, rest) => (-(n : Int), rest)
  | '+' :: cs => (readNumber 1 cs.length cs).map fun (n, rest) => ((n : Int), rest)
  | cs => (readNumber 1 4 cs).map fun (n, rest) => ((n : Int), rest)

/-- Reads `year-month-day`; blanks may stand before each number and at the end. -/
def parse? (s : String) : Option Date := do
  let (year, cs) ← readYear (skipBlanks s.toList)
  let cs ← readChar '-' (skipBlanks cs)
  let (month, cs) ← readNumber 1 2 (skipBlanks cs)
  let cs ← readChar '-' (skipBlanks cs)
  let (day, cs) ← readNumber 1 2 (skipBlanks cs)
  let d : Date := ⟨year, month, day⟩
  if (skipBlanks cs).isEmpty && d.valid then some d else none

end Date

namespace Timestamp

/-- A fraction with as few of 0, 3, 6 or 9 digits as hold it exactly. -/
def fractionText (nanosecond : Nat) : String :=
  if nanosecond = 0 then ""
  else if nanosecond % 1000000 = 0 then "." ++ padded 3 (nanosecond / 1000000)
  else if nanosecond % 1000 = 0 then "." ++ padded 6 (nanosecond / 1000)
  else "." ++ padded 9 nanosecond

def clockText (t : Timestamp) : String :=
  let leap := if t.nanosecond < 1000000000 then 0 else 1
  padded 2 (t.second / 3600) ++ ":" ++ padded 2 (t.second / 60 % 60) ++ ":" ++
    padded 2 (t.second % 60 + leap)

def baseText (t : Timestamp) : String := t.date.text ++ "T" ++ t.clockText

/-- With the offset written as numbers. -/
def offsetText (t : Timestamp) : String :=
  t.baseText ++ fractionText (t.nanosecond % 1000000000) ++ "+00:00"

/-- With the offset written as `Z`. -/
def zuluText (t : Timestamp) : String :=
  t.baseText ++ fractionText (t.nanosecond % 1000000000) ++ "Z"

/-- With exactly three digits of fraction. -/
def millisecondText (t : Timestamp) : String :=
  t.baseText ++ "." ++ padded 3 (t.nanosecond % 1000000000 / 1000000) ++ "Z"

/-- Nanoseconds after a point; digits beyond the ninth are dropped. -/
def readFraction : List Char → Option (Nat × List Char)
  | '.' :: cs =>
    let digits := cs.takeWhile fun c => (digitValue c).isSome
    if digits.isEmpty then none
    else
      let kept := digits.take 9
      some (digitsValue kept * Nat.pow 10 (9 - kept.length), cs.drop digits.length)
  | cs => some (0, cs)

def readOffsetClock (cs : List Char) : Option (Nat × List Char) := do
  let (hours, cs) ← readNumber 2 2 cs
  let cs ← readChar ':' cs
  let (minutes, cs) ← readNumber 2 2 cs
  if minutes < 60 ∧ hours < 24 then some (hours * 3600 + minutes * 60, cs) else none

/-- Seconds east of Greenwich. -/
def readOffset : List Char → Option (Int × List Char)
  | 'Z' :: cs | 'z' :: cs => some (0, cs)
  | '+' :: cs => (readOffsetClock cs).map fun (n, rest) => ((n : Int), rest)
  | '-' :: cs | '\u2212' :: cs => (readOffsetClock cs).map fun (n, rest) => (-(n : Int), rest)
  | _ => none

/-- Reads a date, a time of day and an offset, and moves the moment to universal time. -/
def parse? (s : String) : Option Timestamp := do
  let (year, cs) ← readNumber 4 4 s.toList
  let cs ← readChar '-' cs
  let (month, cs) ← readNumber 2 2 cs
  let cs ← readChar '-' cs
  let (day, cs) ← readNumber 2 2 cs
  let cs ← match cs with
    | 'T' :: cs | 't' :: cs | ' ' :: cs => some cs
    | _ => none
  let (hour, cs) ← readNumber 2 2 cs
  let cs ← readChar ':' cs
  let (minute, cs) ← readNumber 2 2 cs
  let cs ← readChar ':' cs
  let (second, cs) ← readNumber 2 2 cs
  let (fraction, cs) ← readFraction cs
  let (offset, cs) ← readOffset cs
  let date : Date := ⟨year, month, day⟩
  if cs.isEmpty && date.valid && hour < 24 && minute < 60 && second ≤ 60 then
    let leap := second = 60
    let local' : Int := hour * 3600 + minute * 60 + (if leap then 59 else second) - offset
    let days := dayNumber date + local' / 86400
    some ⟨ofDayNumber days, (local' % 86400).toNat, fraction + if leap then 1000000000 else 0⟩
  else none

end Timestamp

end SqlLoom
