import SqlLoom.Calendar
import SqlLoom.Json.Writer

/-! Scalars supplied from outside the SQL text: parameter bindings and fixture cells. -/
namespace SqlLoom

inductive Scalar where
  | null
  | bool (b : Bool)
  | int (n : Int)
  | float (x : Binary64)
  | text (s : String)
  | date (d : Date)
  | timestamp (t : Timestamp)
  | json (j : Json)

inductive Literal where
  | null
  | bool (b : Bool)
  /-- Numeric text kept as written. -/
  | number (text : String)
  | string (text : String)
  deriving DecidableEq, Repr

namespace Scalar

def isNull : Scalar → Bool
  | .null => true
  | _ => false

/-- Equality by value, in which no NaN equals itself. -/
def equals : Scalar → Scalar → Bool
  | .null, .null => true
  | .bool a, .bool b => a == b
  | .int m, .int n => m == n
  | .float x, .float y => x.equals y
  | .text a, .text b => a == b
  | .date a, .date b => a == b
  | .timestamp a, .timestamp b => a == b
  | .json a, .json b => a.equals b
  | _, _ => false

/-- Equality for merging bindings: floats agree when their bit patterns do. -/
def sameBinding : Scalar → Scalar → Bool
  | .float x, .float y => x == y
  | a, b => a.equals b

/-- Dates become quoted ISO texts, structured values quoted JSON, and a number that is not finite
becomes `NULL`. -/
def toLiteral : Scalar → Literal
  | .null => .null
  | .bool b => .bool b
  | .int n => .number (toString n)
  | .float x => if x.isFinite then .number x.plainText else .null
  | .text s => .string s
  | .date d => .string d.text
  | .timestamp t => .string t.millisecondText
  | .json j => .string j.compact

/-- How a scalar is named in messages. -/
def display : Scalar → String
  | .null => "NULL"
  | .bool b => if b then "true" else "false"
  | .int n => toString n
  | .float x => x.plainText
  | .text s => "'" ++ s ++ "'"
  | .date d => d.text
  | .timestamp t => t.offsetText
  | .json j => j.compact

/-- The scalar in a JSON document; a number that is not finite has no JSON form. -/
def toJson : Scalar → Json
  | .null => .null
  | .bool b => .bool b
  | .int n => .num (.int n)
  | .float x => if x.isFinite then .num (.float x) else .null
  | .text s => .str s
  | .date d => .str d.text
  | .timestamp t => .str t.zuluText
  | .json j => j

/-- The nearest double to an integer of at most 64 bits. -/
def floatOfInt (n : Int) : Binary64 :=
  Binary64.ofFloat (if n < 0 then -n.natAbs.toUInt64.toFloat else n.natAbs.toUInt64.toFloat)

def ofJsonNumber : JsonNumber → Scalar
  | .int n => if n < (Nat.pow 2 63 : Nat) then .int n else .float (floatOfInt n)
  | .float x => .float x

/-- Arrays and objects stay JSON; an integer beyond the signed 64-bit range becomes a float. -/
def ofJson : Json → Scalar
  | .null => .null
  | .bool b => .bool b
  | .num n => ofJsonNumber n
  | .str s => .text s
  | j => .json j

end Scalar

end SqlLoom
