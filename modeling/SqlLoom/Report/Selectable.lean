import SqlLoom.Report.Outputs
import SqlLoom.Walk

/-! The columns that can be referenced from the root query, grouped by FROM entry. -/
namespace SqlLoom

structure SelectableColumn where
  qualifier : String
  name : String
  deriving DecidableEq, Repr

def SelectableColumn.toExpr (c : SelectableColumn) : Expr := .column (some c.qualifier) c.name

namespace Report

/-- The columns of one entry. References add to an open group; a derived entry is closed, since it
exposes exactly its outputs. -/
structure ColumnGroup where
  reference : String
  isOpen : Bool
  columns : List String

namespace ColumnGroup

def add (column : String) (g : ColumnGroup) : ColumnGroup :=
  if g.columns.contains column then g else { g with columns := g.columns ++ [column] }

def ofSource (x : Outlook) (r : ResolvedSource) : Result ColumnGroup :=
  let reference := r.source.referenceName
  match r.relation with
  | .physical schema name =>
    .ok ⟨reference, true, (x.resolver.bind fun res => res.table schema name).getD []⟩
  | .function => .ok ⟨reference, true, []⟩
  | relation => do return ⟨reference, false, ← x.ofRelation r.source relation⟩

/-- Adds a column to the first open group of a reference name. -/
def addTo (reference column : String) : List ColumnGroup → List ColumnGroup
  | [] => []
  | g :: gs =>
    if g.isOpen && g.reference == reference then g.add column :: gs
    else g :: addTo reference column gs

end ColumnGroup

structure SelectableState where
  groups : List ColumnGroup := []
  aliases : List String := []
  /-- Whether the walk is inside the root query. -/
  active : Bool := false
  finished : Bool := false
  failure : Option Error := none

namespace SelectableState

/-- A wildcard over a physical table needs a resolver. -/
def blockedWildcard (x : Outlook) (i : SelectItem) : Option Error :=
  match i.value with
  | .wildcard qualifier =>
    x.scopes.currentSources.findSome? fun r =>
      let covers := match qualifier with
        | some q => r.source.answersTo q
        | none => true
      match r.relation with
      | .physical _ _ =>
        if covers && x.resolver.isNone then some (.unresolvedWildcard (some r.source.referenceName))
        else none
      | _ => none
  | _ => none

def openRoot (x : Outlook) (s : Select) (st : SelectableState) : SelectableState :=
  let aliases := s.items.filterMap SelectItem.aliasName
  let st : SelectableState := { st with finished := true, aliases }
  match x.scopes.currentSources.mapM (ColumnGroup.ofSource x) with
  | .error e => { st with failure := some e }
  | .ok groups =>
    match s.items.findSome? (blockedWildcard x) with
    | some e => { st with failure := some e }
    | none => { st with groups, active := true }

def reference (role : Role) (qualifier : Option String) (name : String) (sc : Scopes)
    (st : SelectableState) : SelectableState :=
  match qualifier with
  | some q =>
    match sc.resolveQualifier q 0 with
    | some r =>
      if r.distance = 0 then
        { st with groups := ColumnGroup.addTo r.source.referenceName name st.groups }
      else st
    | none => st
  | none =>
    if role == .ordering && st.aliases.any (fun a => Text.sameName a name) then st
    else
      match st.groups with
      | [g] => { st with groups := ColumnGroup.addTo g.reference name [g] }
      | _ => st

def step (resolver : Option ColumnResolver) (st : SelectableState) : Event → SelectableState
  | .leave .query sc => if sc.atRootQuery then { st with active := false } else st
  | .select s sc =>
    if st.finished || !sc.atRootQuery then st else openRoot { resolver, scopes := sc } s st
  | .value role (.column qualifier name) sc =>
    if st.active && sc.atRootQuery then st.reference role qualifier name sc else st
  | _ => st

end SelectableState

/-- Tables show what the resolver knows and what the query references; derived entries show their
outputs. For a set operation this is the leftmost operand. -/
def selectable (resolver : Option ColumnResolver) (s : Statement) :
    Result (List SelectableColumn) :=
  let st := s.trace.reverse.foldl (SelectableState.step resolver) {}
  match st.failure with
  | some e => .error e
  | none => .ok (st.groups.flatMap fun g => g.columns.map fun c => ⟨g.reference, c⟩)

end Report

end SqlLoom
