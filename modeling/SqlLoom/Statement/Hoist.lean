import SqlLoom.Statement.Edit
import SqlLoom.Statement.Equality

/-! One WITH clause from those of the operands of a set operation. A repeated table counts once,
and two different tables of one name clash. -/
namespace SqlLoom

/-- Tables kept so far, and the names of those that clash with a kept one. -/
structure Hoisted (α : Type) where
  kept : List α := []
  clashes : List String := []

namespace Hoisted

variable {α : Type} (table : α → CommonTable)

def add (h : Hoisted α) (x : α) : Hoisted α :=
  match h.kept.find? fun y => Text.sameName (table y).name (table x).name with
  | some y =>
    if (table y).equals (table x) then h
    else { h with clashes := h.clashes ++ [(table x).name] }
  | none => { h with kept := h.kept ++ [x] }

def ofTables (xs : List α) : Hoisted α := xs.foldl (add table) {}

end Hoisted

namespace WithClause

/-- The clauses merged in order, recursive if one of them is; `none` if there are none. -/
def merge (ws : List WithClause) : Result (Option WithClause) :=
  if ws.isEmpty then .ok none
  else
    let h := Hoisted.ofTables id (ws.flatMap (·.tables))
    match h.clashes with
    | name :: _ => .error (.duplicateTable name)
    | [] => .ok (some { recursive := ws.any (·.recursive), tables := h.kept })

end WithClause

namespace Statement

/-- Takes away the WITH clauses that `operandWiths` lists. -/
def clearOperandWiths : Statement → Statement
  | .select s => .select { s with withClause := none }
  | .setOp ⟨left, op, all, right, orderBy, limit, offset⟩ =>
    .setOp ⟨left.clearOperandWiths, op, all, right.clearOperandWiths, orderBy, limit, offset⟩
  | s => s

end Statement

end SqlLoom
