import SqlLoom.Report.Outputs
import SqlLoom.Walk

/-! The outputs of the root query, with wildcards expanded into columns of its own FROM entries. -/
namespace SqlLoom

structure SelectValue where
  name : Option String
  value : Expr

namespace Report

def expandSource (x : Outlook) (r : ResolvedSource) : Result (List SelectValue) := do
  let columns ← x.ofRelation r.source r.relation
  return columns.map fun c => ⟨some c, .column (some r.source.referenceName) c⟩

def coveredSources (qualifier : Option String) (rs : List ResolvedSource) :
    List ResolvedSource :=
  match qualifier with
  | some q => rs.filter (·.source.answersTo q)
  | none => rs

def expandItem (x : Outlook) (i : SelectItem) : Result (List SelectValue) :=
  match i.value with
  | .wildcard qualifier => do
    let parts ← (coveredSources qualifier x.scopes.currentSources).mapM (expandSource x)
    return parts.flatten
  | value => .ok [⟨i.outputName, value⟩]

/-- The first select that is walked as the root query. -/
def rootSelect (s : Statement) : Option (Select × Scopes) :=
  s.trace.reverse.findSome? fun
    | .select sel sc => if sc.atRootQuery then some (sel, sc) else none
    | _ => none

def selectValues (resolver : Option ColumnResolver) (s : Statement) : Result (List SelectValue) :=
  match rootSelect s with
  | none => .ok []
  | some (sel, sc) => do
    let parts ← sel.items.mapM (expandItem { resolver, scopes := sc })
    return parts.flatten

end Report

end SqlLoom
