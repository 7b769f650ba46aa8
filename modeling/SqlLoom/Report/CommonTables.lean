import SqlLoom.Walk

/-! Common tables of a statement, which of them each one reads, and an order in which they can be
computed. -/
namespace SqlLoom

/-- The common tables that one of them reads, in the order of first reference. -/
structure TableDependency where
  name : String
  dependsOn : List String
  deriving DecidableEq, Repr

namespace Report

/-- Every common table, after all those declared in its own body. -/
def commonTables (s : Statement) : List CommonTable :=
  s.trace.reverse.filterMap fun
    | .endTable t _ => some t
    | _ => none

def commonTableNames (s : Statement) : List String := (commonTables s).map (·.name)

/-- A common table whose body is being walked: its place, and its entry in the result. -/
structure OpenTable where
  depth : Nat
  index : Nat
  slot : Nat

structure DependencyState where
  opened : List OpenTable := []
  result : List TableDependency := []

namespace DependencyState

def addName (name : String) (d : TableDependency) : TableDependency :=
  if d.dependsOn.contains name then d else { d with dependsOn := d.dependsOn ++ [name] }

/-- Moves an entry behind those of the tables in its body. -/
def moveToEnd (slot : Nat) (ds : List TableDependency) : List TableDependency :=
  match ds[slot]? with
  | some d => ds.eraseIdx slot ++ [d]
  | none => ds

def step (st : DependencyState) : Event → DependencyState
  | .table index t sc =>
    { opened := ⟨sc.length - 1, index, st.result.length⟩ :: st.opened
      result := st.result ++ [⟨t.name, []⟩] }
  | .endTable _ _ =>
    match st.opened with
    | o :: rest => { opened := rest, result := moveToEnd o.slot st.result }
    | [] => st
  | .source (.table none name _) sc =>
    match st.opened, sc.findTable name with
    | o :: _, some p =>
      if p.depth = o.depth ∧ p.index = o.index then st
      else { st with result := st.result.modify o.slot (addName p.table.name) }
    | _, _ => st
  | _ => st

end DependencyState

/-- One entry for each common table, in the order of `commonTables`. -/
def dependencies (s : Statement) : List TableDependency :=
  (s.trace.reverse.foldl DependencyState.step {}).result

/-- Whether everything an entry reads has been put out. -/
def ready (ordered : List String) (d : TableDependency) : Bool :=
  d.dependsOn.all fun name => ordered.any fun o => Text.sameName o name

/-- Puts out the first entry that is ready, or the first of all when none is. -/
def orderFrom : Nat → List TableDependency → List String → List String
  | 0, _, ordered => ordered
  | _ + 1, [], ordered => ordered
  | n + 1, d :: ds, ordered =>
    let i := ((d :: ds).findIdx? (ready ordered)).getD 0
    orderFrom n ((d :: ds).eraseIdx i) (ordered ++ [((d :: ds).getD i d).name])

/-- The names in an order in which a table follows those it reads, where there is one. -/
def materializationOrder (s : Statement) : List String :=
  let ds := dependencies s
  orderFrom ds.length ds []

end Report

end SqlLoom
