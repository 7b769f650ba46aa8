import SqlLoom.Statement

/-! Small changes to statements: tables of a WITH clause, a further WHERE condition, the
expression behind an output name. An `EStateM` action says what it leaves behind when it fails. -/
namespace SqlLoom

namespace WithClause

def get? (w : WithClause) (name : String) : Option CommonTable :=
  w.tables.find? fun t => Text.sameName t.name name

def names (w : WithClause) : List String := w.tables.map (·.name)

/-- Adds a table after the others. -/
def push (t : CommonTable) : EStateM Error WithClause Unit := fun w =>
  if (w.get? t.name).isSome then .error (.duplicateTable t.name) w
  else .ok () { w with tables := w.tables ++ [t] }

/-- Adds tables in order, up to the first whose name is taken. -/
def pushAll : List CommonTable → EStateM Error WithClause Unit
  | [] => pure ()
  | t :: ts => do push t; pushAll ts

def ofTables (ts : List CommonTable) : Result WithClause :=
  match pushAll ts {} with
  | .ok _ w => .ok w
  | .error e _ => .error e

/-- Puts tables before the others, all of them or none. -/
def prepend (ts : List CommonTable) : EStateM Error WithClause Unit := fun w =>
  match pushAll (ts ++ w.tables) { recursive := w.recursive } with
  | .ok _ combined => .ok () combined
  | .error e _ => .error e w

end WithClause

namespace Expr

/-- Parentheses around a disjunction. -/
def nestIfOr : Expr → Expr
  | .binary l .or r => .nested (.binary l .or r)
  | e => e

end Expr

namespace Select

/-- Works on the WITH clause, which is created first if there is none. -/
def editWith (edit : EStateM Error WithClause Unit) : EStateM Error Select Unit := fun s =>
  match edit (s.withClause.getD {}) with
  | .ok _ w => .ok () { s with withClause := some w }
  | .error e w => .error e { s with withClause := some w }

def appendTable (t : CommonTable) : EStateM Error Select Unit := editWith (WithClause.push t)

def prependTables (ts : List CommonTable) : EStateM Error Select Unit :=
  editWith (WithClause.prepend ts)

/-- A further condition. A disjunction on either side is put in parentheses. -/
def appendWhere (condition : Expr) (s : Select) : Select :=
  { s with filter := some (match s.filter with
      | some existing => .conj existing.nestIfOr condition.nestIfOr
      | none => condition) }

/-- The item with another expression, still exposed under the same name. -/
def overrideItem (name : String) (change : Expr → Expr) (i : SelectItem) : SelectItem :=
  let changed : SelectItem := { i with value := change i.value }
  if i.aliasName.isNone && changed.outputName != some name then
    { changed with aliasName := some name }
  else changed

def overrideIn (name : String) (change : Expr → Expr) : List SelectItem → Option (List SelectItem)
  | [] => none
  | i :: is =>
    if i.outputName = some name then some (overrideItem name change i :: is)
    else (overrideIn name change is).map (i :: ·)

/-- Changes the expression of the first item exposed as `name`. -/
def override (name : String) (change : Expr → Expr) (s : Select) : Result Select :=
  match overrideIn name change s.items with
  | some items => .ok { s with items }
  | none => .error (.columnResolution name "no select item exposes this name")

end Select

namespace Insert

/-- An insertion of either rows or the result of a query. -/
def build (table : QualifiedName) (columns : List String) (rows : List (List Expr))
    (query : Option Statement) : Result Insert :=
  match query, rows with
  | some q, [] => .ok { table, columns, source := .query q }
  | none, r :: rs => .ok { table, columns, source := .rows (r :: rs) }
  | some _, _ :: _ =>
    .error (.missingOperand ("INSERT INTO " ++ table.name ++ " takes rows or a query, not both"))
  | none, [] =>
    .error (.missingOperand
      ("INSERT INTO " ++ table.name ++ " has neither rows nor a source query"))

end Insert

namespace Statement

/-- The WITH clause that is in front of the whole statement: `none` when the statement has no
place for one. -/
def withSlot? : Statement → Option (Option WithClause)
  | .select s => some s.withClause
  | .setOp ⟨left, _, _, _, _, _, _⟩ => left.withSlot?
  | .values _ => none
  | .insert ⟨_, _, .query q, _⟩ => q.withSlot?
  | .insert ⟨_, _, .rows _, _⟩ => none
  | .createTable ⟨_, _, _, _, some q⟩ => q.withSlot?
  | .createTable ⟨_, _, _, _, none⟩ => none
  | .update u => some u.withClause
  | .delete d => some d.withClause

/-- Puts a WITH clause into the place that `withSlot?` reads. -/
def setWith (w : WithClause) : Statement → Statement
  | .select s => .select { s with withClause := some w }
  | .setOp ⟨left, op, all, right, order, limit, offset⟩ =>
    .setOp ⟨left.setWith w, op, all, right, order, limit, offset⟩
  | .values v => .values v
  | .insert ⟨table, columns, .query q, returning⟩ =>
    .insert ⟨table, columns, .query (q.setWith w), returning⟩
  | .insert ⟨table, columns, .rows rows, returning⟩ =>
    .insert ⟨table, columns, .rows rows, returning⟩
  | .createTable ⟨name, temporary, ifNotExists, columns, some q⟩ =>
    .createTable ⟨name, temporary, ifNotExists, columns, some (q.setWith w)⟩
  | .createTable ⟨name, temporary, ifNotExists, columns, none⟩ =>
    .createTable ⟨name, temporary, ifNotExists, columns, none⟩
  | .update u => .update { u with withClause := some w }
  | .delete d => .delete { d with withClause := some w }

end Statement

end SqlLoom
