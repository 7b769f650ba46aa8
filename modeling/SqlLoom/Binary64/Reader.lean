import SqlLoom.Binary64
import SqlLoom.Text

/-! Decimal text of double precision numbers: an optional sign, digits with at most one point among
or around them, an optional exponent, or a name of infinity or NaN in any case. -/
namespace SqlLoom.Binary64

def digitsValue (n : Nat) (cs : List Char) : Nat :=
  cs.foldl (fun n c => 10 * n + (c.toNat - '0'.toNat)) n

def signOf : List Char → Bool × List Char
  | '-' :: cs => (true, cs)
  | '+' :: cs => (false, cs)
  | cs => (false, cs)

/-- The exponent that ends a number. -/
def exponentOf? : List Char → Option Int
  | [] => some 0
  | c :: cs =>
    let (minus, digits) := signOf cs
    if (c = 'e' || c = 'E') && !digits.isEmpty && digits.all Char.isDigit then
      let n : Int := digitsValue 0 digits
      some (if minus then -n else n)
    else none

def magnitudeOf? (minus : Bool) (cs : List Char) : Option Binary64 :=
  let whole := cs.takeWhile Char.isDigit
  let rest := cs.drop whole.length
  let (fraction, rest) := match rest with
    | '.' :: rest => (rest.takeWhile Char.isDigit, rest.dropWhile Char.isDigit)
    | rest => ([], rest)
  if whole.isEmpty && fraction.isEmpty then none
  else
    (exponentOf? rest).map fun e =>
      ofDecimal minus (digitsValue (digitsValue 0 whole) fraction) (e - fraction.length)

def parse? (s : String) : Option Binary64 :=
  let (minus, cs) := signOf s.toList
  match Text.foldCase (String.ofList cs) with
  | "inf" | "infinity" => some (infinity minus)
  | "nan" => some (nan minus)
  | _ => magnitudeOf? minus cs

end SqlLoom.Binary64
