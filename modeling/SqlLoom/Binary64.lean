/-! Double precision numbers as bit patterns, so that two numbers are equal exactly when their
patterns are; comparison by value is `Binary64.equals`. -/
namespace SqlLoom

structure Binary64 where
  bits : UInt64
  deriving DecidableEq, Repr

namespace Binary64

def ofFloat (x : Float) : Binary64 := ⟨x.toBits⟩
def toFloat (x : Binary64) : Float := Float.ofBits x.bits

def infinity (minus : Bool) : Binary64 := ⟨if minus then 0xFFF0000000000000 else 0x7FF0000000000000⟩

/-- The quiet NaN without payload. -/
def nan (minus : Bool) : Binary64 := ⟨if minus then 0xFFF8000000000000 else 0x7FF8000000000000⟩

def negative (x : Binary64) : Bool := x.bits >>> 63 == 1
def exponentBits (x : Binary64) : Nat := ((x.bits >>> 52) &&& 0x7FF).toNat
def fractionBits (x : Binary64) : Nat := (x.bits &&& 0xFFFFFFFFFFFFF).toNat

def isFinite (x : Binary64) : Bool := x.exponentBits != 0x7FF
def isNaN (x : Binary64) : Bool := x.exponentBits == 0x7FF && x.fractionBits != 0
def isZero (x : Binary64) : Bool := x.exponentBits == 0 && x.fractionBits == 0

/-- Equality by value: no NaN equals anything, and the two zeros are equal. -/
def equals (x y : Binary64) : Bool :=
  !x.isNaN && !y.isNaN && (x.bits == y.bits || (x.isZero && y.isZero))

/-- The magnitude of a finite number as `m * 2 ^ q`. -/
def parts (x : Binary64) : Nat × Int :=
  if x.exponentBits = 0 then (x.fractionBits, -1074)
  else (x.fractionBits + Nat.pow 2 52, (x.exponentBits : Int) - 1075)

/-- The number nearest to `m * 10 ^ e`, with the sign put in front. Exponents beyond the range
of the format end in zero or infinity. -/
def ofDecimal (minus : Bool) (m : Nat) (e : Int) : Binary64 :=
  let top : Int := (Nat.toDigits 10 m).length + e
  let magnitude : Float :=
    if m = 0 || top < -400 then 0
    else if 400 < top then 1 / 0
    else OfScientific.ofScientific m (e < 0) e.natAbs
  ofFloat (if minus then -magnitude else magnitude)

end Binary64

end SqlLoom
