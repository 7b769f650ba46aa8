import SqlLoom.Report.Outputs
import SqlLoom.Statement.Hoist

/-! Every query as a single select. A set operation or a list of rows becomes a derived table, and
the WITH clauses of the operands move to the front. -/
namespace SqlLoom.Statement

def label : Statement → String
  | .select _ => "SELECT"
  | .setOp _ => "set operation"
  | .values _ => "VALUES"
  | .insert _ => "INSERT"
  | .createTable _ => "CREATE TABLE"
  | .update _ => "UPDATE"
  | .delete _ => "DELETE"

/-- Everything from a derived table. -/
def wrap (query : Statement) (aliasName : String) (columns : List String)
    (withClause : Option WithClause) : Select :=
  { withClause
    items := [{ value := .wildcard none }]
    froms := [.subquery query aliasName columns false] }

def normalize : Statement → Result Select
  | .select s => .ok s
  | .setOp b => do
    let withClause ← WithClause.merge (Statement.setOp b).operandWiths
    return wrap (Statement.setOp b).clearOperandWiths "bq" [] withClause
  | .values v => .ok (wrap (.values { rows := v.rows }) "vq" (Outlook.valuesNames v) none)
  | s => .error (.unsupported ("cannot normalize " ++ s.label ++ " into a select"))

end SqlLoom.Statement
