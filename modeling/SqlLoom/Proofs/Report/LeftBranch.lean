import SqlLoom.Compose
import SqlLoom.Proofs.Report.Producers
import SqlLoom.Proofs.Report.Selectable
import SqlLoom.Proofs.Result
import SqlLoom.Report.SelectValues

/-! The first operand names the outputs of a set operation. What a wildcard over the operation
stands for is looked up operand by operand, down to a depth; the outputs of the operation itself are
those of the first select that the walk comes to. -/
namespace SqlLoom

namespace Statement

/-- The first operand of a chain of set operations. -/
def leftLeaf : Statement → Statement
  | .setOp ⟨left, _, _, _, _, _, _⟩ => left.leftLeaf
  | s => s

/-- How many set operations the first operand stands in. -/
def leftDepth : Statement → Nat
  | .setOp ⟨left, _, _, _, _, _, _⟩ => left.leftDepth + 1
  | _ => 0

/-- Rows, or a select without clauses of its own all of whose outputs are written out. -/
inductive SelfNamed : Statement → Prop
  | select {s : Select} : s.withClause = none → (∀ i ∈ s.items, i.Explicit) → SelfNamed (.select s)
  | values (v : ValuesList) : SelfNamed (.values v)

/-- The names of such outputs. -/
def ownNames : Statement → List String
  | .select s => Outlook.itemNames s.items
  | .values v => Outlook.valuesNames v
  | _ => []

/-- `SELECT * FROM (query) AS aliasName`. -/
def starOver (query : Statement) (aliasName : String) : Select :=
  { items := [{ value := .wildcard none }], froms := [.derived query aliasName] }

lemma leftLeaf_setOp (b : SetOperation) : (setOp b).leftLeaf = b.left.leftLeaf := by
  cases b
  rfl

lemma leftDepth_setOp (b : SetOperation) : (setOp b).leftDepth = b.left.leftDepth + 1 := by
  cases b
  rfl

/-- A chain has the first operand of its first query, one set operation further in for each of the
others. -/
lemma left_combine {op : SetOperator} {all : Bool} {first q : Statement} {rest : List Statement}
    (h : combine op all (first :: rest) = .ok q) :
    q.leftLeaf = first.leftLeaf ∧ q.leftDepth = first.leftDepth + rest.length := by
  cases h
  induction rest generalizing first with
  | nil => exact ⟨rfl, rfl⟩
  | cons r rest ih =>
    obtain ⟨hleaf, hdepth⟩ := @ih (.setOp { left := first, op, all, right := r })
    rw [leftLeaf_setOp] at hleaf
    rw [leftDepth_setOp] at hdepth
    refine ⟨hleaf, hdepth.trans ?_⟩
    rw [List.length_cons, Nat.add_assoc, Nat.add_comm 1]

end Statement

namespace Outlook

lemma select_of_explicit (x : Outlook) (query body : Descent) (env : List CommonTable) {s : Select}
    (h : ∀ i ∈ s.items, i.Explicit) : x.select query body env s = .ok (itemNames s.items) := by
  have hitems : s.items.mapM (x.item query body env s.sources) =
      .ok (s.items.map (·.outputName.toList)) :=
    Result.mapM_of_ok fun i hi => x.item_of_explicit query body env s.sources (h i hi)
  have hnames : (s.items.map (·.outputName.toList)).flatten = itemNames s.items := by
    rw [itemNames, List.filterMap_eq_flatMap_toList, List.flatMap]
  rw [select, hitems, ← hnames]
  rfl

lemma statement_setOp (x : Outlook) (m : Nat) (env : List CommonTable) (b : SetOperation) :
    x.statement (m + 1) env (.setOp b) = x.statement m env b.left := by
  cases m <;> rfl

lemma statement_selfNamed (x : Outlook) (m : Nat) (env : List CommonTable) {s : Statement}
    (h : s.SelfNamed) : x.statement (m + 1) env s = .ok s.ownNames := by
  cases h with
  | select _ hitems => cases m <;> exact x.select_of_explicit _ _ _ hitems
  | values v => cases m <;> rfl

/-- A set operation has the names of its first operand, unless it lies too deep. -/
lemma statement_leftLeaf (x : Outlook) (m : Nat) (env : List CommonTable) {q : Statement}
    (h : q.leftLeaf.SelfNamed) :
    x.statement m env q =
      if q.leftDepth < m then .ok q.leftLeaf.ownNames else .error tooDeep := by
  fun_induction Statement.leftLeaf q generalizing m with
  | case1 left op all right order limit offset ih =>
    rw [Statement.leftDepth]
    cases m with
    | zero => rfl
    | succ m =>
      rw [statement_setOp, ih m h]
      simp
  | case2 s hs =>
    have hdepth : s.leftDepth = 0 := by
      cases s with
      | setOp b =>
        cases b
        exact absurd rfl (hs _ _ _ _ _ _ _)
      | _ => rfl
    rw [hdepth]
    cases m with
    | zero => rfl
    | succ m => rw [x.statement_selfNamed m env h, if_pos (Nat.succ_pos m)]

end Outlook

namespace Scopes

lemma filter_operandScopes (s : Statement) (sc : Scopes) :
    (Walk.operandScopes s sc).filter (fun f => !f.isTables) = sc.filter fun f => !f.isTables := by
  rw [Walk.operandScopes]
  generalize s.operandWiths = ws
  induction ws generalizing sc with
  | nil => rfl
  | cons w ws ih =>
    rw [List.foldl_cons, ih]
    rfl

end Scopes

namespace Report

open Statement

lemma atRootQuery_operandWiths : (s : Statement) → (sc : Scopes) →
    ∀ e ∈ Tour.operandWiths s sc, e.scopes.atRootQuery = false
  | .select ⟨w, _, _, _, _, _, _, _, _, _, _⟩, sc => Tour.atRootQuery_withClause w sc
  | .setOp ⟨l, _, _, r, _, _, _⟩, sc => by
    rw [Tour.operandWiths, List.forall_mem_append]
    exact ⟨atRootQuery_operandWiths l sc, atRootQuery_operandWiths r _⟩
  | .values _, _ | .insert _, _ | .createTable _, _ | .update _, _ | .delete _, _ => nofun

/-- The walk of an operand comes to its first select before any other. -/
lemma findSome?_operand {q : Statement} {s : Select} (h : q.leftLeaf = .select s) {sc : Scopes}
    (hsc : sc.filter (fun f => !f.isTables) = []) :
    (Tour.statement true q sc).findSome? rootOf = some (s, .query s.sources :: sc) := by
  fun_induction Statement.leftLeaf q with
  | case1 left op all right order limit offset ih =>
    rw [Tour.statement, if_pos rfl, List.findSome?_cons]
    simp only [rootOf, List.findSome?_append, ih h, Option.some_or]
  | case2 q hq =>
    subst h
    have hroot : Scopes.atRootQuery (.query s.sources :: sc) = true :=
      Scopes.atRootQuery_iff.mpr ⟨_, _, rfl, hsc⟩
    obtain ⟨w, d, is, fs, js, f, g, h, o, l, k⟩ := s
    rw [Select.sources] at hroot
    simp [Tour.statement, Tour.inside, Walk.withScopes, List.findSome?_cons, rootOf, Select.sources,
      hroot]

/-- The root query of a set operation is its first operand, if that is a select. -/
lemma rootSelect_leftLeaf {q : Statement} {s : Select} (h : q.leftLeaf = .select s) :
    ∃ sc, rootSelect q = some (s, sc) := by
  cases q with
  | select s' =>
    cases h
    exact ⟨_, rootSelect_select s⟩
  | setOp b =>
    obtain ⟨l, op, a, r, o, m, k⟩ := b
    have hsc : (Walk.operandScopes r (Walk.operandScopes l [])).filter (fun f => !f.isTables) =
        [] := by
      rw [Scopes.filter_operandScopes, Scopes.filter_operandScopes]
      rfl
    have hl := findSome?_rootOf (atRootQuery_operandWiths l [])
    have hr := findSome?_rootOf (atRootQuery_operandWiths r (Walk.operandScopes l []))
    have hopen := findSome?_operand (q := l) h hsc
    refine ⟨.query s.sources :: Walk.operandScopes r (Walk.operandScopes l []), ?_⟩
    rw [rootSelect_eq, Tour.statement, if_neg Bool.false_ne_true, List.findSome?_cons]
    simp only [rootOf, List.findSome?_append, hl, hr, hopen, Option.none_or, Option.some_or]
  | _ => cases h

/-- The outputs of a set operation are those of its first operand, as they are written. -/
lemma selectValues_leftLeaf (resolver : Option ColumnResolver) {q : Statement} {s : Select}
    (h : q.leftLeaf = .select s) (hs : ∀ i ∈ s.items, i.Explicit) :
    selectValues resolver q = .ok (s.items.map fun i => ⟨i.outputName, i.value⟩) := by
  obtain ⟨sc, hroot⟩ := rootSelect_leftLeaf h
  have hitem : ∀ i ∈ s.items, expandItem { resolver, scopes := sc } i =
      .ok [⟨i.outputName, i.value⟩] := by
    intro i hi
    have hx := hs i hi
    obtain ⟨value, aliasName⟩ := i
    cases value with
    | wildcard qualifier => exact absurd rfl (hx qualifier)
    | _ => rfl
  have hparts := Result.mapM_of_ok hitem
  have hflat : (s.items.map fun i => [(⟨i.outputName, i.value⟩ : SelectValue)]).flatten =
      s.items.map fun i => ⟨i.outputName, i.value⟩ := by
    rw [← List.flatMap_def, List.map_eq_flatMap]
  rw [selectValues, hroot]
  dsimp only
  rw [hparts, ← hflat]
  rfl

/-- What the entries of `SELECT * FROM (query) AS aliasName` are looked up in. -/
def starOutlook (resolver : Option ColumnResolver) (q : Statement) (a : String) : Outlook :=
  { resolver, scopes := rootScopes (starOver q a) }

lemma currentSources_starOver (resolver : Option ColumnResolver) (q : Statement) (a : String) :
    (starOutlook resolver q a).scopes.currentSources = [⟨.derived q a, .subquery q [], 0⟩] := rfl

lemma ofRelation_starOver (resolver : Option ColumnResolver) (q : Statement) (a : String) :
    (starOutlook resolver q a).ofRelation (.derived q a) (.subquery q []) =
      (starOutlook resolver q a).statement Outlook.depthLimit [] q := rfl

lemma selectValues_starOver (resolver : Option ColumnResolver) (q : Statement) (a : String) :
    selectValues resolver (.select (starOver q a)) =
      ((starOutlook resolver q a).statement Outlook.depthLimit [] q).map
        fun names => names.map fun n => ⟨some n, .column (some a) n⟩ := by
  have hrun : selectValues resolver (.select (starOver q a)) = (do
      let parts ← [(⟨.wildcard none, none⟩ : SelectItem)].mapM
        (expandItem (starOutlook resolver q a))
      return parts.flatten) := by
    rw [selectValues, rootSelect_select]
    rfl
  rw [hrun, List.mapM_cons, List.mapM_nil]
  simp only [expandItem, coveredSources, currentSources_starOver, List.mapM_cons, List.mapM_nil,
    expandSource, ofRelation_starOver]
  cases (starOutlook resolver q a).statement Outlook.depthLimit [] q with
  | error e => rfl
  | ok names => exact congrArg Except.ok (by simp [Source.derived, Source.referenceName])

lemma opened_starOver (resolver : Option ColumnResolver) (q : Statement) (a : String) :
    opened resolver (starOver q a) =
      ((starOutlook resolver q a).statement Outlook.depthLimit [] q).map
        fun names => [⟨a, false, names⟩] := by
  have hrun : opened resolver (starOver q a) =
      (starOutlook resolver q a).scopes.currentSources.mapM
        (ColumnGroup.ofSource (starOutlook resolver q a)) >>= .ok := rfl
  rw [hrun, currentSources_starOver, List.mapM_cons, List.mapM_nil]
  simp only [ColumnGroup.ofSource, ofRelation_starOver]
  cases (starOutlook resolver q a).statement Outlook.depthLimit [] q <;> rfl

/-- A closed group takes up nothing. -/
lemma addAll_closed (cs : List SelectableColumn) (reference : String) (names : List String) :
    ColumnGroup.addAll cs [⟨reference, false, names⟩] = [⟨reference, false, names⟩] := by
  have hnone : cs.filter (ColumnGroup.takes ⟨reference, false, names⟩) = [] :=
    List.filter_eq_nil_iff.mpr fun _ _ => Bool.false_ne_true
  rw [ColumnGroup.addAll_cons, hnone, ColumnGroup.addAll_nil]
  rfl

lemma selectable_starOver (resolver : Option ColumnResolver) (q : Statement) (a : String) :
    selectable resolver (.select (starOver q a)) =
      ((starOutlook resolver q a).statement Outlook.depthLimit [] q).map
        fun names => names.map fun n => ⟨a, n⟩ := by
  have hlisted : ∀ names, ColumnGroup.listed (filled (starOver q a) [⟨a, false, names⟩]) =
      names.map fun n => ⟨a, n⟩ := by
    intro names
    rw [filled, filledIn, addAll_closed, ColumnGroup.listed, List.flatMap_singleton]
  rw [selectable_select, opened_starOver]
  cases (starOutlook resolver q a).statement Outlook.depthLimit [] q with
  | error e => rfl
  | ok names => exact congrArg Except.ok (hlisted names)

/-- **The first operand names a set operation.** A wildcard over the operation shows its outputs as
long as it does not lie too deep, and the operation itself shows them if it is a select. A chain of
queries has the first operand of the first. -/
theorem names_leftLeaf (resolver : Option ColumnResolver) (a : String) {q : Statement}
    (h : q.leftLeaf.SelfNamed) :
    selectValues resolver (.select (starOver q a)) =
        (if q.leftDepth < Outlook.depthLimit then
          selectValues resolver (.select (starOver q.leftLeaf a))
        else .error Outlook.tooDeep) ∧
      selectable resolver (.select (starOver q a)) =
        (if q.leftDepth < Outlook.depthLimit then
          selectable resolver (.select (starOver q.leftLeaf a))
        else .error Outlook.tooDeep) ∧
      selectValues resolver (.select (starOver q.leftLeaf a)) =
        .ok (q.leftLeaf.ownNames.map fun n => ⟨some n, .column (some a) n⟩) ∧
      selectable resolver (.select (starOver q.leftLeaf a)) =
        .ok (q.leftLeaf.ownNames.map fun n => ⟨a, n⟩) ∧
      (∀ s, q.leftLeaf = .select s → ∃ vs, selectValues resolver q = .ok vs ∧
        vs.filterMap (·.name) = q.leftLeaf.ownNames) ∧
      ∀ op all first rest, combine op all (first :: rest) = .ok q →
        q.leftLeaf = first.leftLeaf ∧ q.leftDepth = first.leftDepth + rest.length := by
  have hleaf : ∀ x : Outlook, x.statement Outlook.depthLimit [] q.leftLeaf =
      .ok q.leftLeaf.ownNames := fun x => x.statement_selfNamed 64 [] h
  have hvalues : selectValues resolver (.select (starOver q.leftLeaf a)) =
      .ok (q.leftLeaf.ownNames.map fun n => ⟨some n, .column (some a) n⟩) := by
    rw [selectValues_starOver, hleaf]
    rfl
  have hcolumns : selectable resolver (.select (starOver q.leftLeaf a)) =
      .ok (q.leftLeaf.ownNames.map fun n => ⟨a, n⟩) := by
    rw [selectable_starOver, hleaf]
    rfl
  refine ⟨?_, ?_, hvalues, hcolumns, ?_, fun _ _ _ _ => left_combine⟩
  · rw [selectValues_starOver, Outlook.statement_leftLeaf _ _ _ h, hvalues]
    split <;> rfl
  · rw [selectable_starOver, Outlook.statement_leftLeaf _ _ _ h, hcolumns]
    split <;> rfl
  · intro s hs
    rw [hs] at h ⊢
    cases h with
    | select _ hitems =>
      refine ⟨_, selectValues_leftLeaf resolver hs hitems, ?_⟩
      rw [List.filterMap_map]
      rfl

/-- A wildcard over the union of rows and a select, and over that of a select and rows. -/
theorem names_leftLeaf_values :
    let rows : Statement := .values { rows := [[.literal (.number "1"), .literal (.number "2")]] }
    let one : Statement :=
      .select { items := [{ value := .literal (.number "1"), aliasName := some "a" }] }
    let front : Statement := .setOp { left := rows, op := .union, right := one }
    let back : Statement := .setOp { left := one, op := .except, right := rows }
    (front.leftLeaf.SelfNamed ∧ front.leftDepth < Outlook.depthLimit ∧
      selectable none (.select (starOver front "s")) = .ok [⟨"s", "column1"⟩, ⟨"s", "column2"⟩]) ∧
    back.leftLeaf.SelfNamed ∧ back.leftLeaf = one ∧
      ∃ vs, selectValues none back = .ok vs ∧ vs.filterMap (·.name) = ["a"] := by
  intro rows one front back
  have hfront : front.leftLeaf.SelfNamed := .values _
  have hone : one.SelfNamed := .select rfl (by simp [SelectItem.Explicit])
  have hback : back.leftLeaf.SelfNamed := hone
  obtain ⟨-, hcolumns, -, hrows, -, -⟩ := names_leftLeaf none "s" hfront
  obtain ⟨-, -, -, -, hvalues, -⟩ := names_leftLeaf none "s" hback
  refine ⟨⟨hfront, by decide, ?_⟩, hback, rfl, hvalues _ rfl⟩
  rw [hcolumns, if_pos (by decide), hrows]
  rfl

/-- A wildcard over a union of 66 selects fails although one over the first of them does not. A
union of rows and a select shows the output of the select. -/
theorem names_leftLeaf_limits :
    let one : Statement :=
      .select { items := [{ value := .literal (.number "2"), aliasName := some "a" }] }
    let rows : Statement := .values { rows := [[.literal (.number "1")]] }
    let mixed : Statement := .setOp { left := rows, op := .union, right := one }
    (∃ q, combine .union false (List.replicate 66 one) = .ok q ∧ q.leftLeaf = one ∧
      one.SelfNamed ∧
      selectValues none (.select (starOver q "s")) = .error Outlook.tooDeep ∧
      selectValues none (.select (starOver one "s")) = .ok [⟨some "a", .column (some "s") "a"⟩]) ∧
    mixed.leftLeaf.SelfNamed ∧ mixed.leftLeaf.ownNames = ["column1"] ∧
      selectValues none mixed = .ok [⟨some "a", .literal (.number "2")⟩] := by
  intro one rows mixed
  have hone : one.SelfNamed := .select rfl (by simp [SelectItem.Explicit])
  obtain ⟨q, hq⟩ : ∃ q, combine .union false (one :: List.replicate 65 one) = .ok q := ⟨_, rfl⟩
  obtain ⟨hleaf, hdepth⟩ := left_combine hq
  have hfirst : q.leftLeaf.SelfNamed := hleaf ▸ hone
  have hdeep : ¬ q.leftDepth < Outlook.depthLimit := by
    rw [hdepth, List.length_replicate]
    decide
  refine ⟨⟨q, hq, hleaf, hone, ?_, rfl⟩, .values _, rfl, rfl⟩
  rw [selectValues_starOver, Outlook.statement_leftLeaf _ _ _ hfirst, if_neg hdeep]
  rfl

end Report

end SqlLoom
