import SqlLoom.Error
import SqlLoom.Text

/-! Declarative conditions: for each key, the values to filter on. -/
namespace SqlLoom

inductive Comparison where
  | eq | ne | lt | le | gt | ge
  /-- Inclusive bounds. -/
  | min | max
  | like | ilike
  deriving DecidableEq, Repr

inductive Operator where
  | compare (c : Comparison) (value : Scalar)
  | member (values : List Scalar)

inductive Condition where
  /-- Equality with the column named by the key. -/
  | value (v : Scalar)
  /-- Comparisons with a column, which is the one named by the key if none is given. -/
  | operators (column : Option String) (ops : List Operator)

/-- Conditions by key, each key once, in the order they were given. -/
structure ConditionMap where
  entries : List (String × Condition) := []

namespace Comparison

/-- The place of a comparison among those of its key. -/
def rank : Comparison → Nat
  | .eq => 0
  | .ne => 1
  | .min => 2
  | .max => 3
  | .gt => 4
  | .ge => 5
  | .lt => 6
  | .le => 7
  | .like => 8
  | .ilike => 9

def parse? : String → Option Comparison
  | "=" | "eq" => some .eq
  | "!=" | "<>" | "ne" => some .ne
  | "<" | "lt" => some .lt
  | "<=" | "le" | "lte" => some .le
  | ">" | "gt" => some .gt
  | ">=" | "ge" | "gte" => some .ge
  | "min" => some .min
  | "max" => some .max
  | "like" => some .like
  | "ilike" => some .ilike
  | _ => none

end Comparison

namespace Operator

def rank : Operator → Nat
  | .compare c _ => c.rank
  | .member _ => 10

def parse (key op : String) (value : Json) : Result Operator :=
  if op = "in" then
    match value with
    | .arr items => .ok (.member (items.map Scalar.ofJson))
    | _ => .error (.invalidCondition key "operator 'in' takes an array")
  else
    match Comparison.parse? op with
    | some c =>
      match value with
      | .arr _ | .obj _ =>
        .error (.invalidCondition key ("operator '" ++ op ++ "' takes a scalar"))
      | scalar => .ok (.compare c (.ofJson scalar))
    | none => .error (.invalidCondition key ("unknown operator '" ++ op ++ "'"))

end Operator

namespace Condition

/-- The column and the operators of a condition object, in the order of the document. -/
def readMembers (key : String) :
    Option String → List Operator → List (String × Json) → Result (Option String × List Operator)
  | column, ops, [] => .ok (column, ops)
  | column, ops, (op, operand) :: rest =>
    if op = "column" then
      match operand with
      | .str c => readMembers key (some c) ops rest
      | _ => .error (.invalidCondition key "'column' must be a string")
    else
      match Operator.parse key (Text.foldCase op) operand with
      | .ok o => readMembers key column (ops ++ [o]) rest
      | .error e => .error e

/-- Operators are ordered by rank, those of one rank as in the document. -/
def ofJson (key : String) : Json → Result Condition
  | .obj members =>
    match readMembers key none [] members with
    | .error e => .error e
    | .ok (_, []) => .error (.invalidCondition key "no operator given")
    | .ok (column, ops) => .ok (.operators column (ops.mergeSort fun a b => a.rank ≤ b.rank))
  | .arr items => .ok (.operators none [.member (items.map Scalar.ofJson)])
  | scalar => .ok (.value (.ofJson scalar))

end Condition

namespace ConditionMap

/-- Replaces the condition of a key where it stands, or adds it at the end. -/
def insert (m : ConditionMap) (key : String) (c : Condition) : ConditionMap :=
  ⟨Json.put key c m.entries⟩

def ofMembers : List (String × Json) → ConditionMap → Result ConditionMap
  | [], m => .ok m
  | (key, value) :: rest, m =>
    match Condition.ofJson key value with
    | .ok c => ofMembers rest (m.insert key c)
    | .error e => .error e

def ofJson : Json → Result ConditionMap
  | .obj members => ofMembers members {}
  | _ => .error (.invalidCondition "" "conditions must be a JSON object")

end ConditionMap

end SqlLoom
