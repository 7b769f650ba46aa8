import SqlLoom.Binary64

/-! Decimal text of double precision numbers: the fewest digits that read back as the number,
and two ways of writing them. -/
namespace SqlLoom.Decimal

/-- `digits * 10 ^ exponent`. -/
structure Scaled where
  digits : Nat
  exponent : Int
  deriving DecidableEq, Repr

/-- A number and the ends of the interval of reals that round to it, as numerators over one
denominator. -/
structure Interval where
  low : Nat
  value : Nat
  high : Nat
  denominator : Nat
  closed : Bool

/-- The reals that round to `m * 2 ^ q`. Below a power of two the neighbour is half as far. -/
def Interval.of (m : Nat) (q : Int) : Interval :=
  let low := if m = Nat.pow 2 52 ∧ -1074 < q then 4 * m - 1 else 4 * m - 2
  let scale := Nat.pow 2 q.natAbs
  if 0 ≤ q then ⟨low * scale, 4 * m * scale, (4 * m + 2) * scale, 4, m % 2 = 0⟩
  else ⟨low, 4 * m, 4 * m + 2, 4 * scale, m % 2 = 0⟩

/-- Whether `d * 10 ^ e` lies in the interval. -/
def Interval.holds (i : Interval) (d : Nat) (e : Int) : Bool :=
  let up := Nat.pow 10 e.toNat
  let down := Nat.pow 10 (-e).toNat
  let point := d * up * i.denominator
  let low := i.low * down
  let high := i.high * down
  if i.closed then low ≤ point && point ≤ high else low < point && point < high

/-- How far `d * 10 ^ e` is from the number, up to a factor that depends on `e` only. -/
def Interval.distance (i : Interval) (d : Nat) (e : Int) : Nat :=
  let point := d * Nat.pow 10 e.toNat * i.denominator
  let value := i.value * Nat.pow 10 (-e).toNat
  ((point : Int) - value).natAbs

/-- The exponent of the number's leading decimal digit. -/
def Interval.magnitude (i : Interval) : Int :=
  let whole := i.value / i.denominator
  if 0 < whole then ((Nat.toDigits 10 whole).length : Int) - 1
  else
    let inverse := i.denominator / i.value
    let e := (Nat.toDigits 10 inverse).length
    if i.value * Nat.pow 10 (e - 1) ≥ i.denominator then -((e : Int) - 1) else -(e : Int)

/-- The grid point with exponent `e` nearest to the number, if the interval holds one. -/
def Interval.onGrid (i : Interval) (e : Int) : Option Nat :=
  let below := i.value * Nat.pow 10 (-e).toNat / (i.denominator * Nat.pow 10 e.toNat)
  let above := below + 1
  match i.holds below e, i.holds above e with
  | true, true =>
    let near := i.distance below e
    let far := i.distance above e
    if near < far || (near = far && below % 2 = 0) then some below else some above
  | true, false => some below
  | false, true => some above
  | false, false => none

/-- Refines the grid, one digit at a time, until it has a point in the interval. -/
def Interval.search (i : Interval) : Nat → Int → Scaled
  | 0, e => ⟨i.value * Nat.pow 10 (-e).toNat / (i.denominator * Nat.pow 10 e.toNat), e⟩
  | n + 1, e =>
    match i.onGrid e with
    | some d => ⟨d, e⟩
    | none => search i n (e - 1)

def Scaled.trim (s : Scaled) : Nat → Scaled
  | 0 => s
  | n + 1 =>
    if s.digits ≠ 0 ∧ s.digits % 10 = 0 then trim ⟨s.digits / 10, s.exponent + 1⟩ n else s

/-- The fewest decimal digits that read back as `m * 2 ^ q`, and of those the nearest. -/
def shortest (m : Nat) (q : Int) : Scaled :=
  if m = 0 then ⟨0, 0⟩
  else
    let i := Interval.of m q
    (i.search 18 i.magnitude).trim 20

def zeros (n : Nat) : String := String.ofList (List.replicate n '0')

/-- Positional notation at every size, without a trailing point. -/
def positional (s : Scaled) : String :=
  let digits := toString s.digits
  if 0 ≤ s.exponent then
    if s.digits = 0 then "0" else digits ++ zeros s.exponent.toNat
  else
    let places := s.exponent.natAbs
    let width := digits.length
    if places < width then
      String.ofList (digits.toList.take (width - places)) ++ "." ++
        String.ofList (digits.toList.drop (width - places))
    else "0." ++ zeros (places - width) ++ digits

/-- Positional from `1e-5` up to below `1e16`, always with a point; beyond that one digit, the
others after a point, and a signed exponent. -/
def withExponent (s : Scaled) : String :=
  let digits := toString s.digits
  let scientific : Int := s.exponent + digits.length - 1
  if s.digits = 0 then "0.0"
  else if -5 ≤ scientific ∧ scientific < 16 then
    let text := positional s
    if 0 ≤ s.exponent then text ++ ".0" else text
  else
    let head := String.ofList (digits.toList.take 1)
    let tail := String.ofList (digits.toList.drop 1)
    let mantissa := if tail.isEmpty then head else head ++ "." ++ tail
    let sign := if scientific < 0 then "-" else "+"
    mantissa ++ "e" ++ sign ++ toString scientific.natAbs

end SqlLoom.Decimal

namespace SqlLoom.Binary64

/-- The magnitude of a finite number in its fewest digits. -/
def shortest (x : Binary64) : Decimal.Scaled := Decimal.shortest x.parts.1 x.parts.2

def signed (x : Binary64) (text : String) : String := if x.negative then "-" ++ text else text

/-- Positional text; `NaN`, `inf` and `-inf` for what has none. -/
def plainText (x : Binary64) : String :=
  if x.isNaN then "NaN"
  else if x.isFinite then x.signed (Decimal.positional x.shortest)
  else x.signed "inf"

/-- Text of a number inside a JSON document, where what is not finite has no number. -/
def jsonText (x : Binary64) : String :=
  if x.isFinite then x.signed (Decimal.withExponent x.shortest) else "null"

end SqlLoom.Binary64
