import SqlLoom.Preset

/-! Parameters met while a statement is written out. One name has one value: an occurrence without
a value takes the one bound elsewhere, and two different values are a conflict. -/
namespace SqlLoom

/-- An occurrence of a placeholder, with its value if it is bound there. -/
structure Occurrence where
  name : String
  value : Option Scalar

/-- The reconciled values, in the shape the engine takes them. -/
inductive Params where
  | named (bindings : List (String × Scalar))
  | positional (values : List Scalar)

structure Registry where
  slots : List Occurrence := []
  /-- The slot of every occurrence, in order. -/
  order : List Nat := []
  conflict : Option Error := none

namespace Params

def length : Params → Nat
  | .named bindings => bindings.length
  | .positional values => values.length

def get? (name : String) : Params → Option Scalar
  | .named bindings => Json.lookup name bindings
  | .positional _ => none

/-- Named parameters are an object in order of first appearance, others an array. -/
def toJson : Params → Json
  | .named bindings => .obj (bindings.map fun (name, value) => (name, value.toJson))
  | .positional values => .arr (values.map Scalar.toJson)

end Params

namespace Registry

/-- The slot of a name, counted from `index`. -/
def slotOf (name : String) (index : Nat) : List Occurrence → Option Nat
  | [] => none
  | s :: ss => if s.name = name then some index else slotOf name (index + 1) ss

/-- The conflict of a further occurrence with what the slot holds. -/
def clash (slot further : Occurrence) : Option Error :=
  match slot.value, further.value with
  | some first, some second =>
    if first.sameBinding second then none
    else some (.conflictingParameter further.name first second)
  | _, _ => none

/-- The slot once a further occurrence is merged into it. -/
def merge (slot further : Occurrence) : Occurrence :=
  { slot with value := slot.value <|> further.value }

def register (o : Occurrence) (r : Registry) : Registry :=
  match slotOf o.name 0 r.slots with
  | some i =>
    { slots := r.slots.modify i (merge · o)
      order := r.order ++ [i]
      conflict := r.conflict <|> (r.slots[i]?).bind (clash · o) }
  | none => { r with slots := r.slots ++ [o], order := r.order ++ [r.slots.length] }

/-- The slot that the next occurrence of a name takes. -/
def nextSlot (name : String) (r : Registry) : Nat := (slotOf name 0 r.slots).getD r.slots.length

def values (r : Registry) : List Scalar := r.slots.map fun s => s.value.getD .null

/-- The reconciled parameters, or the first conflict. -/
def finish (p : Preset) (r : Registry) : Result Params :=
  match r.conflict with
  | some e => .error e
  | none =>
    match p.style with
    | .dollar => .ok (.positional r.values)
    | .question => .ok (.positional (r.order.filterMap (r.values[·]?)))
    | _ => .ok (.named (r.slots.map fun s => (s.name, s.value.getD .null)))

/-- The registry after a sequence of occurrences. -/
def ofOccurrences (os : List Occurrence) : Registry := os.foldl (fun r o => r.register o) {}

end Registry

end SqlLoom
