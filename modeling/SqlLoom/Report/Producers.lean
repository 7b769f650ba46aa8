import SqlLoom.Report.Outputs

/-! The selects that define a set of output columns, found through common tables, derived tables
and the operands of set operations. -/
namespace SqlLoom

/-- A part of a statement together with the steps that lead to it, the last first. -/
structure Located (α : Type) where
  path : List Nat
  node : α

namespace Report

/-- The tables of a clause of the select at `path`, the nearest first. -/
def locatedTables (path : List Nat) : Option WithClause → List (Located CommonTable)
  | none => []
  | some w => ((w.tables.zipIdx).map fun (t, i) => ⟨i :: 0 :: path, t⟩).reverse

/-- The tables of the clause in front of an operand. -/
def leadingTables (path : List Nat) : Statement → List (Located CommonTable)
  | .select s => locatedTables path s.withClause
  | .setOp ⟨left, _, _, _, _, _, _⟩ => leadingTables (2 :: path) left
  | _ => []

/-- Finds the table of a name, with the tables declared before it. -/
def findLocated (name : String) :
    List (Located CommonTable) → Option (Located CommonTable × List (Located CommonTable))
  | [] => none
  | t :: ts => if Text.sameName t.node.name name then some (t, ts) else findLocated name ts

/-- Whether a select exposes every column. One with a wildcard that cannot be expanded is taken to
do so. -/
def definesAll (resolver : Option ColumnResolver) (columns : List String)
    (env : List (Located CommonTable)) (s : Select) : Bool :=
  match ({ resolver } : Outlook).ofSelect s (env.map (·.node)) with
  | .ok names => columns.all fun c => names.any fun n => Text.sameName n c
  | .error _ => s.items.any fun i =>
    match i.value with
    | .wildcard _ => true
    | _ => false

/-- Searches at most `n` levels down. A body sees the tables declared before it and never
itself. -/
def producersWithin (resolver : Option ColumnResolver) (columns : List String) :
    Nat → List (Located CommonTable) → List Nat → Statement → List (Located Select)
  | 0, _, _, _ => []
  | n + 1, env, path, .select s =>
    let env := locatedTables path s.withClause ++ env
    let inner := s.sources.zipIdx.flatMap fun
      | (.table none name _, _) =>
        match findLocated name env with
        | some (t, before) =>
          producersWithin resolver columns n before t.path t.node.body
        | none => []
      | (.subquery q _ _ _, i) => producersWithin resolver columns n env (i :: 1 :: path) q
      | _ => []
    if inner.isEmpty && definesAll resolver columns env s then [⟨path, s⟩] else inner
  | n + 1, env, path, .setOp b =>
    let env := leadingTables (3 :: path) b.right ++ leadingTables (2 :: path) b.left ++ env
    producersWithin resolver columns n env (2 :: path) b.left ++
      producersWithin resolver columns n env (3 :: path) b.right
  | n + 1, env, path, .insert i =>
    match i.source with
    | .query q => producersWithin resolver columns n env (4 :: path) q
    | .rows _ => []
  | n + 1, env, path, .createTable c =>
    match c.query with
    | some q => producersWithin resolver columns n env (5 :: path) q
    | none => []
  | _ + 1, _, _, _ => []

def searchLimit : Nat := 65

/-- One entry for each place. -/
def uniquePlaces (found : List (Located Select)) : List (Located Select) :=
  found.foldl (fun kept l => if kept.any (·.path == l.path) then kept else kept ++ [l]) []

/-- The selects that define all the columns. Operands that miss one are left out. -/
def producers (resolver : Option ColumnResolver) (columns : List String) (s : Statement) :
    List Select :=
  (uniquePlaces (producersWithin resolver columns searchLimit [] [] s)).map (·.node)

end Report

end SqlLoom
