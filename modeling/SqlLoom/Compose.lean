import SqlLoom.Render
import SqlLoom.Statement.Edit

/-! Statements made of queries: set operations, `INSERT ... SELECT` and `CREATE TABLE ... AS`. -/
namespace SqlLoom.Statement

/-- Queries chained from the left. A single query stays as it is. -/
def combine (op : SetOperator) (all : Bool) : List Statement → Result Statement
  | [] => .error (.missingOperand "a set operation needs at least one query")
  | q :: qs => .ok (qs.foldl (fun left right => .setOp { left, op, all, right }) q)

def namesOfItems (n : Nat) : List SelectItem → Result (List String)
  | [] => .ok []
  | i :: is =>
    match i.outputName with
    | some name => (namesOfItems (n + 1) is).map (name :: ·)
    | none => .error (.unnamedOutput n (i.value.format {}))

/-- The output names of a query, all of which must have one. -/
def outputNames : Statement → Result (List String)
  | .select s => namesOfItems 1 s.items
  | .setOp ⟨left, _, _, _, _, _, _⟩ => left.outputNames
  | .values v => if v.aliases.isEmpty then .error (.unnamedOutput 1 "VALUES") else .ok v.aliases
  | _ => .error (.unsupported "INSERT ... SELECT needs a query")

/-- Inserts the result of a query into the columns of its output names. -/
def toInsert (table : String) (query : Statement) : Result Statement := do
  let columns ← query.outputNames
  let insert ← Insert.build (.parse table) columns [] (some query)
  return .insert insert

def isQuery : Statement → Bool
  | .select _ | .setOp _ | .values _ => true
  | _ => false

/-- Creates a table from the result of a query. -/
def toCreateTable (name : String) (temporary : Bool) (query : Statement) : Result Statement :=
  if query.isQuery then .ok (.createTable { name := .parse name, temporary, query := some query })
  else .error (.unsupported "CREATE TABLE ... AS needs a query")

end SqlLoom.Statement
