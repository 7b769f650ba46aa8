import SqlLoom.Condition
import SqlLoom.Normalize
import SqlLoom.Report.Selectable

/-! Conditions as predicates of the WHERE clause, bound through parameters named after their keys.
A target is looked up as `qualifier.column`, then as the alias of a select item, and then as a
column of exactly one FROM entry. -/
namespace SqlLoom

namespace Comparison

/-- What the parameter name adds to the key. -/
def suffix : Comparison → String
  | .eq => ""
  | .ne => "_ne"
  | .lt => "_lt"
  | .le => "_le"
  | .gt => "_gt"
  | .ge => "_ge"
  | .min => "_min"
  | .max => "_max"
  | .like => "_like"
  | .ilike => "_ilike"

def operator : Comparison → BinaryOp
  | .eq => .eq
  | .ne => .notEq
  | .lt => .lt
  | .le | .max => .ltEq
  | .gt => .gt
  | .ge | .min => .gtEq
  | .like => .like
  | .ilike => .ilike

end Comparison

namespace Operator

/-- The members that are not null, each with its place in the list, counted from 1. -/
def memberParameters (key : String) (values : List Scalar) : List Expr :=
  (values.zipIdx 1).filterMap fun (v, i) =>
    if v.isNull then none else some (.bound (key ++ "_in_" ++ toString i) v)

/-- The predicate on a target; a null value gives none. -/
def predicate? (key : String) (target : Expr) : Operator → Option Expr
  | .compare c v =>
    if v.isNull then none
    else some (.binary target c.operator (.bound (key ++ c.suffix) v))
  | .member values =>
    match memberParameters key values with
    | [] => none
    | list => some (.inList target list false)

end Operator

namespace Injection

def notVisible (name : String) : Error :=
  .columnResolution name "no visible source exposes this column"

/-- The expression behind an alias, in parentheses unless it is a unit already. -/
def behindAlias : Expr → Expr
  | .column q n => .column q n
  | .literal v => .literal v
  | .parameter n v => .parameter n v
  | .call n args d f w => .call n args d f w
  | .nested e => .nested e
  | e => .nested e

def resolveTarget (items : List SelectItem) (selectable : List SelectableColumn) (name : String) :
    Result Expr :=
  match Text.cutFirst '.' name with
  | some (qualifier, column) =>
    match selectable.find? fun c =>
        Text.sameName c.qualifier qualifier && Text.sameName c.name column with
    | some c => .ok c.toExpr
    | none => .error (notVisible name)
  | none =>
    match items.find? fun i => i.aliasName.any (Text.sameName · name) with
    | some i => .ok (behindAlias i.value)
    | none =>
      match selectable.filter fun c => Text.sameName c.name name with
      | [c] => .ok c.toExpr
      | [] => .error (notVisible name)
      | cs =>
        .error (.columnResolution name
          ("ambiguous between " ++ Text.commaList (cs.map fun c => c.qualifier ++ "." ++ c.name)))

/-- The predicates of one key. A null scalar does not even look its target up. -/
def predicates (resolve : String → Result Expr) (key : String) : Condition → Result (List Expr)
  | .value v =>
    if v.isNull then .ok []
    else do
      let target ← resolve key
      return [.binary target .eq (.bound key v)]
  | .operators column ops => do
    let target ← resolve (column.getD key)
    return ops.filterMap (Operator.predicate? key target)

/-- Several predicates of one key stand in parentheses. -/
def grouped (ps : List Expr) : Option Expr :=
  match ps with
  | [p] => some p
  | ps => (Expr.all ps).map .nested

end Injection

open Injection in
/-- Adds the conditions to the WHERE clause. When every value is null this fails unless
`allowAllNull` is set. -/
def ConditionMap.inject (m : ConditionMap) (resolver : Option ColumnResolver)
    (allowAllNull : Bool) (s : Statement) : Result Statement :=
  match m.entries with
  | [] => .ok s
  | (firstKey, _) :: _ => do
    let select ← match s with
      | .select s => .ok s
      | .setOp b => (Statement.setOp b).normalize
      | .values v => (Statement.values v).normalize
      | _ => .error (.unsupported "parameters can only be injected into queries")
    let selectable ← Report.selectable resolver (.select select)
    let groups ← m.entries.mapM fun (key, c) =>
      predicates (resolveTarget select.items selectable) key c
    let conditions := groups.filterMap grouped
    if conditions.isEmpty && !allowAllNull then
      .error (.invalidCondition firstKey "every condition value is null")
    else .ok (.select (conditions.foldl (fun s p => s.appendWhere p) select))

end SqlLoom
