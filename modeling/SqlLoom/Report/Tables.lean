import SqlLoom.Walk

/-! The tables a statement touches. -/
namespace SqlLoom

/-- A named FROM entry. -/
structure TableReference where
  schema : Option String
  name : String
  aliasName : Option String
  deriving DecidableEq, Repr

namespace TableReference

def referenceName (t : TableReference) : String := t.aliasName.getD t.name

def toJson (t : TableReference) : Json :=
  let text : Option String → Json := fun
    | some s => .str s
    | none => .null
  .obj [("schema", text t.schema), ("name", .str t.name), ("alias", text t.aliasName)]

end TableReference

namespace Report

/-- An entry of the root query by its own name. -/
def rootReference : Event → Option TableReference
  | .source (.table schema name a) sc => if sc.atRootQuery then some ⟨schema, name, a⟩ else none
  | .source (.function name _ a) sc => if sc.atRootQuery then some ⟨none, name, a⟩ else none
  | _ => none

/-- An entry that is a physical table or a table function. -/
def physicalReference : Event → Option TableReference
  | .source s sc =>
    match sc.relation s, s with
    | .physical schema name, s => some ⟨schema, name, s.aliasName?⟩
    | .function, .function name _ a => some ⟨none, name, a⟩
    | _, _ => none
  | _ => none

/-- Keeps the walk out of common tables and FROM entries. -/
def rootOnly : Trace → Bool
  | .table _ _ _ :: _ => true
  | .source _ _ :: _ => true
  | _ => false

/-- The entries of the root query, or every physical table and table function anywhere. -/
def tables (selectableOnly : Bool) (s : Statement) : List TableReference :=
  if selectableOnly then Text.distinct ((s.walk rootOnly).reverse.filterMap rootReference)
  else Text.distinct (s.trace.reverse.filterMap physicalReference)

end Report

end SqlLoom
