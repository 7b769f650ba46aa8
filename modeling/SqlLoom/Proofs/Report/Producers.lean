import SqlLoom.Proofs.Report.Places
import SqlLoom.Proofs.Report.Visits
import SqlLoom.Proofs.Scope
import SqlLoom.Proofs.Walk.Entries

/-! Which selects the search for the producers of columns comes to, and which common tables it
knows there. It comes to every operand of a set operation down to a depth. Of the clauses hoisted
in front of the operation it knows that of the operand itself and those of the first selects of the
sides around it, so it takes no name for a table that is not in scope, and follows each name whose
table it has met. -/
namespace SqlLoom

/-- An item whose output does not depend on tables. -/
def SelectItem.Explicit (i : SelectItem) : Prop := ∀ q, i.value ≠ .wildcard q

/-- The clause in front of an operand is that of its first select. -/
def Statement.leadingClause (s : Statement) : Option WithClause := s.leftmost?.bind (·.withClause)

namespace Outlook

variable {is : List SelectItem} {f : SelectItem → Result (List String)}

/-- The outputs of items hold those of the explicit ones; only a wildcard can fail. -/
lemma mapM_items_cases (hf : ∀ i, i.Explicit → f i = .ok i.outputName.toList) :
    (∃ parts, is.mapM f = .ok parts ∧
      ∀ i ∈ is, i.Explicit → ∀ n ∈ i.outputName, n ∈ parts.flatten) ∨
    (∃ e, is.mapM f = .error e) ∧ ∃ i ∈ is, ∃ q, i.value = .wildcard q := by
  induction is with
  | nil => exact .inl ⟨[], rfl, nofun⟩
  | cons i is ih =>
    rw [List.mapM_cons]
    cases hi : f i with
    | error e =>
      have hwild : ∃ q, i.value = .wildcard q := by
        by_contra hno
        rw [hf i (not_exists.mp hno)] at hi
        cases hi
      exact .inr ⟨⟨e, rfl⟩, i, List.mem_cons_self, hwild⟩
    | ok part =>
      rcases ih with ⟨parts, hparts, hmem⟩ | ⟨⟨e, he⟩, j, hj, hwild⟩
      · refine .inl ⟨part :: parts, by simp only [hparts]; rfl, ?_⟩
        rw [List.forall_mem_cons]
        refine ⟨fun hx n hn => ?_, fun j hj hx n hn => ?_⟩
        · rw [hf i hx] at hi
          cases hi
          simp [Option.mem_def.mp hn]
        · exact List.mem_append_right _ (hmem j hj hx n hn)
      · exact .inr ⟨⟨e, by simp only [he]; rfl⟩, j, List.mem_cons_of_mem _ hj, hwild⟩

lemma item_of_explicit (x : Outlook) (query body : Descent) (env : List CommonTable)
    (ss : List Source) {i : SelectItem} (h : i.Explicit) :
    x.item query body env ss i = .ok i.outputName.toList := by
  obtain ⟨value, aliasName⟩ := i
  cases value with
  | wildcard q => exact absurd rfl (h q)
  | _ => rfl

lemma select_cases (x : Outlook) (query body : Descent) (env : List CommonTable) (s : Select) :
    (∃ names, x.select query body env s = .ok names ∧
      ∀ i ∈ s.items, i.Explicit → ∀ n ∈ i.outputName, n ∈ names) ∨
    (∃ e, x.select query body env s = .error e) ∧ ∃ i ∈ s.items, ∃ q, i.value = .wildcard q := by
  have hitems : ∀ i : SelectItem, i.Explicit →
      x.item query body env s.sources i = .ok i.outputName.toList :=
    fun _ hi => x.item_of_explicit query body env s.sources hi
  rcases @mapM_items_cases s.items _ hitems with ⟨parts, hparts, hmem⟩ | ⟨⟨e, he⟩, hwild⟩
  · exact .inl ⟨parts.flatten, by rw [select, hparts]; rfl, hmem⟩
  · exact .inr ⟨⟨e, by rw [select, he]; rfl⟩, hwild⟩

end Outlook

namespace Tour

/-- The walk of a set operation goes through its sides. -/
lemma sides_subset_statement (asOperand : Bool) (b : SetOperation) (sc : Scopes) {inside : Scopes}
    (h : inside = if asOperand then sc else Walk.operandScopes (.setOp b) sc) :
    statement true b.left inside ++ statement true b.right inside ⊆
      statement asOperand (.setOp b) sc := by
  subst h
  obtain ⟨l, op, a, r, o, m, k⟩ := b
  intro e he
  cases asOperand with
  | true => rcases List.mem_append.mp he with he | he <;> simp_all [statement]
  | false =>
    rw [Walk.operandScopes_setOp] at he
    rcases List.mem_append.mp he with he | he <;> simp_all [statement]

end Tour

namespace Report

/-- A select whose explicit outputs are all that is asked for defines it. -/
lemma definesAll_of_explicit (resolver : Option ColumnResolver) {columns : List String}
    (env : List (Located CommonTable)) {s : Select}
    (h : ∀ c ∈ columns, ∃ i ∈ s.items, i.Explicit ∧ ∃ n ∈ i.outputName,
      Text.sameName n c = true) :
    definesAll resolver columns env s = true := by
  rw [definesAll, Outlook.ofSelect]
  rcases Outlook.select_cases { resolver } _ _ _ s with
    ⟨names, hnames, hmem⟩ | ⟨⟨e, he⟩, i, hi, q, hq⟩
  · rw [hnames]
    refine List.all_eq_true.mpr fun c hc => ?_
    obtain ⟨i, hi, hx, n, hn, hnc⟩ := h c hc
    exact List.any_eq_true.mpr ⟨n, hmem i hi hx n hn, hnc⟩
  · rw [he]
    exact List.any_eq_true.mpr ⟨i, hi, by rw [hq]⟩

/-- A place that the search comes to outside of the bodies of common tables. -/
structure Stop where
  depth : Nat := 0
  /-- The tables that the search knows there, the nearest first. -/
  known : List (Located CommonTable) := []
  path : List Nat := []
  /-- The clauses that those tables are of. -/
  met : List WithClause := []
  /-- Where the walk comes by. -/
  scopes : Scopes := []
  asOperand : Bool := false

namespace Stop

/-- The scopes behind the clauses in front of a statement. Those of an operand are in front of the
whole operation. -/
def inside (p : Stop) (s : Statement) : Scopes :=
  if p.asOperand then p.scopes else Walk.operandScopes s p.scopes

/-- A side of a set operation, given its step. -/
def side (p : Stop) (b : SetOperation) (step : Nat) : Stop where
  depth := p.depth + 1
  known := leadingTables (3 :: p.path) b.right ++ leadingTables (2 :: p.path) b.left ++ p.known
  path := step :: p.path
  met := b.left.leadingClause.toList ++ b.right.leadingClause.toList ++ p.met
  scopes := p.inside (.setOp b)
  asOperand := true

/-- What the search knows among the entries of a select. -/
def tables (p : Stop) (s : Select) : List (Located CommonTable) :=
  locatedTables p.path s.withClause ++ p.known

/-- The scopes in which the walk reports the entries of a select. -/
def entries (p : Stop) (s : Select) : Scopes := .query s.sources :: p.inside (.select s)

/-- A derived table, given its index among the entries. -/
def derived (p : Stop) (s : Select) (i : Nat) (aliasName : String) : Stop where
  depth := p.depth + 1
  known := p.tables s
  path := i :: 1 :: p.path
  met := s.withClause.toList ++ p.met
  scopes := .subquery (some aliasName) :: p.entries s

/-- What is found from here on. -/
def found (p : Stop) (resolver : Option ColumnResolver) (columns : List String) (s : Statement) :
    List (Located Select) :=
  producersWithin resolver columns (searchLimit - p.depth) p.known p.path s

end Stop

/-- The search comes to the operands of set operations and to derived tables. -/
inductive Reaches (root : Statement) : Stop → Statement → Prop
  | start : Reaches root {} root
  | left {p b} : Reaches root p (.setOp b) → Reaches root (p.side b 2) b.left
  | right {p b} : Reaches root p (.setOp b) → Reaches root (p.side b 3) b.right
  | derived {p s i q a columns lateral} : Reaches root p (.select s) →
    s.sources[i]? = some (.subquery q a columns lateral) → Reaches root (p.derived s i a) q

/-- What holds of every place that the search comes to. -/
structure Settled (root : Statement) (p : Stop) (s : Statement) : Prop where
  walked : Tour.statement p.asOperand s p.scopes ⊆ Tour.statement false root []
  visible : ∀ t ∈ p.known, t.node ∈ p.scopes.visible
  met : ∀ t, (∃ u ∈ p.known, u.node = t) ↔ ∃ w ∈ p.met, t ∈ w.tables
  hoisted : p.asOperand → ∀ w ∈ s.operandWiths, w.tables ⊆ p.scopes.visible

lemma exists_mem_locatedTables {path : List Nat} {w : Option WithClause} {t : CommonTable} :
    (∃ u ∈ locatedTables path w, u.node = t) ↔ ∃ c ∈ w, t ∈ c.tables := by
  constructor
  · rintro ⟨u, hu, rfl⟩
    obtain ⟨c, i, hc, hi, -⟩ := mem_locatedTables.mp hu
    exact ⟨c, hc, List.mem_of_getElem? hi⟩
  · rintro ⟨c, hc, ht⟩
    obtain ⟨i, hi⟩ := List.getElem?_of_mem ht
    exact ⟨⟨i :: 0 :: path, t⟩, mem_locatedTables.mpr ⟨c, i, hc, hi, rfl⟩, rfl⟩

/-- The leading tables are those of the clause of the first select. -/
lemma exists_mem_leadingTables {path : List Nat} {s : Statement} {t : CommonTable} :
    (∃ u ∈ leadingTables path s, u.node = t) ↔ ∃ c ∈ s.leadingClause, t ∈ c.tables := by
  fun_induction leadingTables path s with
  | case1 path s => exact exists_mem_locatedTables
  | case2 path left op all right order limit offset ih => exact ih
  | case3 s _ hs hb =>
    cases s with
    | select s => exact absurd rfl (hs s)
    | setOp b =>
      cases b
      exact absurd rfl (hb _ _ _ _ _ _ _)
    | _ => simp [Statement.leadingClause, Statement.leftmost?]

/-- The leading tables are of clauses of operands. -/
lemma exists_operandWith {s : Statement} {path : List Nat} {t : Located CommonTable}
    (h : t ∈ leadingTables path s) : ∃ w ∈ s.operandWiths, t.node ∈ w.tables := by
  fun_induction leadingTables path s with
  | case1 path s =>
    obtain ⟨w, i, hw, hi, -⟩ := mem_locatedTables.mp h
    exact ⟨w, by simp [Statement.operandWiths, hw], List.mem_of_getElem? hi⟩
  | case2 path left op all right order limit offset ih =>
    obtain ⟨w, hw, ht⟩ := ih h
    exact ⟨w, by simp [Statement.operandWiths, hw], ht⟩
  | case3 => exact absurd h List.not_mem_nil

lemma operandWiths_setOp (b : SetOperation) :
    (Statement.setOp b).operandWiths = b.left.operandWiths ++ b.right.operandWiths := by
  cases b
  rfl

lemma mem_visible_operandScopes {s : Statement} {sc : Scopes} {t : CommonTable} :
    t ∈ (Walk.operandScopes s sc).visible ↔
      (∃ w ∈ s.operandWiths, t ∈ w.tables) ∨ t ∈ sc.visible := by
  rw [Walk.operandScopes]
  generalize s.operandWiths = ws
  induction ws generalizing sc with
  | nil => simp
  | cons w ws ih =>
    rw [List.foldl_cons, ih, Walk.withScopes, Scopes.visible_tables, List.take_length,
      List.mem_append]
    simp only [List.mem_cons, exists_eq_or_imp]
    rw [or_left_comm, or_assoc]

namespace Settled

variable {root : Statement} {p : Stop}

lemma start : Settled root {} root where
  walked := List.Subset.refl _
  visible := nofun
  met := by simp
  hoisted := nofun

/-- Once the clauses in front of a statement have been entered, all of them are in scope. -/
lemma mem_visible_inside {s : Statement} (h : Settled root p s) {t : CommonTable} :
    (∃ w ∈ s.operandWiths, t ∈ w.tables) ∨ t ∈ p.scopes.visible → t ∈ (p.inside s).visible := by
  unfold Stop.inside
  split
  · next ho => exact fun ht => ht.elim (fun ⟨w, hw, ht⟩ => h.hoisted ho w hw ht) id
  · exact mem_visible_operandScopes.mpr

lemma side {b : SetOperation} (h : Settled root p (.setOp b)) {step : Nat} {s : Statement}
    (hs : s.operandWiths ⊆ (Statement.setOp b).operandWiths)
    (hwalked : Tour.statement true s (p.inside (.setOp b)) ⊆
      Tour.statement p.asOperand (.setOp b) p.scopes) :
    Settled root (p.side b step) s where
  walked := List.Subset.trans hwalked h.walked
  visible t ht := by
    refine h.mem_visible_inside ?_
    rcases List.mem_append.mp ht with ht | ht
    · refine .inl ?_
      rw [operandWiths_setOp]
      rcases List.mem_append.mp ht with ht | ht
      · obtain ⟨w, hw, ht⟩ := exists_operandWith ht
        exact ⟨w, List.mem_append_right _ hw, ht⟩
      · obtain ⟨w, hw, ht⟩ := exists_operandWith ht
        exact ⟨w, List.mem_append_left _ hw, ht⟩
    · exact .inr (h.visible t ht)
  met t := by
    simp only [Stop.side, List.mem_append, Option.mem_toList, or_and_right, exists_or,
      exists_mem_leadingTables, h.met, Option.mem_def]
    rw [or_comm (b := ∃ c, b.right.leadingClause = some c ∧ t ∈ c.tables)]
  hoisted _ w hw t ht := h.mem_visible_inside (.inl ⟨w, hs hw, ht⟩)

/-- The tables known among the entries of a select are in scope there. -/
lemma visible_tables {s : Select} (h : Settled root p (.select s)) {t : Located CommonTable}
    (ht : t ∈ p.tables s) : t.node ∈ (p.entries s).visible := by
  refine h.mem_visible_inside ?_
  rcases List.mem_append.mp ht with ht | ht
  · obtain ⟨w, i, hw, hi, -⟩ := mem_locatedTables.mp ht
    exact .inl ⟨w, by simp [Statement.operandWiths, hw], List.mem_of_getElem? hi⟩
  · exact .inr (h.visible t ht)

lemma met_tables {s : Select} (h : Settled root p (.select s)) (t : CommonTable) :
    (∃ u ∈ p.tables s, u.node = t) ↔ ∃ w ∈ s.withClause.toList ++ p.met, t ∈ w.tables := by
  simp only [Stop.tables, List.mem_append, or_and_right, exists_or, exists_mem_locatedTables,
    h.met, Option.mem_toList, Option.mem_def]

/-- The walk reports every entry of a select. -/
lemma source_subset {s : Select} (h : Settled root p (.select s)) {x : Source}
    (hx : x ∈ s.sources) :
    Tour.source x (p.entries s) ⊆ Tour.statement false root [] := by
  have hinside : p.inside (.select s) =
      Walk.withScopes (if p.asOperand then none else s.withClause) p.scopes := by
    unfold Stop.inside
    split
    · rfl
    · exact Walk.operandScopes_select s p.scopes
  rw [Stop.entries, hinside]
  exact List.Subset.trans (Tour.source_subset_statement p.asOperand s p.scopes hx) h.walked

lemma derived {s : Select} (h : Settled root p (.select s)) {i : Nat} {q : Statement}
    {a : String} {columns : List String} {lateral : Bool}
    (hi : s.sources[i]? = some (.subquery q a columns lateral)) :
    Settled root (p.derived s i a) q where
  walked := by
    refine List.Subset.trans ?_ (h.source_subset (List.mem_of_getElem? hi))
    intro e he
    exact List.mem_cons_of_mem _ (List.mem_append_left _ (List.mem_cons_of_mem _ he))
  visible t ht := h.visible_tables ht
  met := h.met_tables
  hoisted := nofun

end Settled

lemma Reaches.settled {root : Statement} {p : Stop} {s : Statement} (h : Reaches root p s) :
    Settled root p s := by
  induction h with
  | start => exact .start
  | @left p b _ ih =>
    refine ih.side ?_ ?_
    · rw [operandWiths_setOp]
      exact List.subset_append_left _ _
    · exact List.Subset.trans (List.subset_append_left _ _)
        (Tour.sides_subset_statement _ b _ rfl)
  | @right p b _ ih =>
    refine ih.side ?_ ?_
    · rw [operandWiths_setOp]
      exact List.subset_append_right _ _
    · exact List.Subset.trans (List.subset_append_right _ _)
        (Tour.sides_subset_statement _ b _ rfl)
  | derived _ hi ih => exact ih.derived hi

section
variable {resolver : Option ColumnResolver} {columns : List String}

/-- What is found through an entry of a select is found from the select on. -/
lemma through_subset {n : Nat} {env : List (Located CommonTable)} {path : List Nat} {s : Select}
    {x : Source} {i : Nat} (hi : s.sources[i]? = some x) :
    through resolver columns n (locatedTables path s.withClause ++ env) path (x, i) ⊆
      producersWithin resolver columns (n + 1) env path (.select s) := by
  intro l hl
  have hinner : l ∈ s.sources.zipIdx.flatMap
      (through resolver columns n (locatedTables path s.withClause ++ env) path) :=
    List.mem_flatMap.mpr ⟨(x, i), List.mem_zipIdx_iff_getElem?.mpr hi, hl⟩
  rw [producersWithin_select]
  dsimp only
  rw [List.isEmpty_eq_false_iff_exists_mem.mpr ⟨l, hinner⟩]
  exact hinner

namespace Stop

variable {p : Stop}

lemma found_side (b : SetOperation) :
    (p.side b 2).found resolver columns b.left ++ (p.side b 3).found resolver columns b.right ⊆
      p.found resolver columns (.setOp b) := by
  simp only [found, side, Nat.sub_add_eq]
  cases searchLimit - p.depth with
  | zero => simp [producersWithin]
  | succ n => exact List.Subset.refl _

lemma found_derived {s : Select} {i : Nat} {q : Statement} {a : String} {cs : List String}
    {lateral : Bool} (hi : s.sources[i]? = some (.subquery q a cs lateral)) :
    (p.derived s i a).found resolver columns q ⊆ p.found resolver columns (.select s) := by
  simp only [found, derived, Nat.sub_add_eq]
  cases searchLimit - p.depth with
  | zero => simp [producersWithin]
  | succ n => exact through_subset hi

/-- The body of a table that is followed is searched on the next level. -/
lemma found_table {s : Select} {name : String} {a : Option String}
    (hx : .table none name a ∈ s.sources) {t : Located CommonTable}
    {before : List (Located CommonTable)}
    (hfind : findLocated name (p.tables s) = some (t, before)) :
    producersWithin resolver columns (searchLimit - (p.depth + 1)) before t.path t.node.body ⊆
      p.found resolver columns (.select s) := by
  obtain ⟨i, hi⟩ := List.getElem?_of_mem hx
  rw [found, Nat.sub_add_eq]
  cases searchLimit - p.depth with
  | zero => simp [producersWithin]
  | succ n =>
    rw [Nat.add_sub_cancel]
    have h := @through_subset resolver columns n p.known p.path s _ i hi
    rw [tables] at hfind
    simpa only [through, hfind] using h

/-- A select of physical tables is found itself if it has the outputs. -/
lemma mem_found {s : Select} (hd : p.depth < searchLimit)
    (hx : ∀ x ∈ s.sources, ∃ schema name a, x = .table schema name a ∧
      (schema = none → findLocated name (p.tables s) = none))
    (hdef : definesAll resolver columns (p.tables s) s = true) :
    ⟨p.path, s⟩ ∈ p.found resolver columns (.select s) := by
  obtain ⟨n, hn⟩ := Nat.exists_eq_succ_of_ne_zero (Nat.sub_ne_zero_of_lt hd)
  rw [found, hn, producersWithin_select]
  have hinner : s.sources.zipIdx.flatMap
      (through resolver columns n (locatedTables p.path s.withClause ++ p.known) p.path) = [] := by
    rw [List.flatMap_eq_nil_iff]
    rintro ⟨x, i⟩ hm
    obtain ⟨schema, name, a, rfl, hnone⟩ :=
      hx x (List.mem_of_getElem? (List.mem_zipIdx_iff_getElem?.mp hm))
    cases schema with
    | some schema => rfl
    | none =>
      have hfind := hnone rfl
      rw [tables] at hfind
      simp only [through, hfind]
  rw [tables] at hdef
  simp [hinner, hdef]

end Stop

lemma Reaches.found_subset {root : Statement} {p : Stop} {s : Statement} (h : Reaches root p s) :
    p.found resolver columns s ⊆ ({} : Stop).found resolver columns root := by
  induction h with
  | start => exact List.Subset.refl _
  | @left p b _ ih =>
    exact List.Subset.trans (List.subset_append_left _ _)
      (List.Subset.trans (Stop.found_side b) ih)
  | @right p b _ ih =>
    exact List.Subset.trans (List.subset_append_right _ _)
      (List.Subset.trans (Stop.found_side b) ih)
  | derived _ hi ih => exact List.Subset.trans (Stop.found_derived hi) ih

/-- What is found from somewhere is in the result, at its place. -/
lemma Reaches.mem_uniquePlaces {root : Statement} {p : Stop} {s : Statement}
    (h : Reaches root p s) {l : Located Select} (hl : l ∈ p.found resolver columns s) :
    l ∈ uniquePlaces (producersWithin resolver columns searchLimit [] [] root) := by
  have hstand := @standsAt_of_mem_producersWithin root resolver columns searchLimit [] [] root
    nofun .start
  exact (Report.mem_uniquePlaces hstand l).mpr (h.found_subset hl)

lemma Reaches.mem_producers {root : Statement} {p : Stop} {s : Statement} (h : Reaches root p s)
    {l : Located Select} (hl : l ∈ p.found resolver columns s) :
    l.node ∈ producers resolver columns root :=
  List.mem_map_of_mem (h.mem_uniquePlaces hl)

end

/-- **The search sees the operands.** Of every operand of a set operation, and of every derived
table in it, down to the limit of the search: if it reads physical tables only, or nothing, and its
explicit outputs are all that is asked for, it is in the result. A name among its entries is
followed to a common table only if the scopes of the walk resolve it to one, and then to a table in
scope of that name. It is followed exactly if a table of its own clause, or of the clause of the
first select of a side around it, has the name, and so it is if the scopes resolve it to one of
those. -/
theorem producers_of_reaches (resolver : Option ColumnResolver) (columns : List String)
    {root : Statement} {p : Stop} {s : Select} (h : Reaches root p (.select s))
    (hd : p.depth < searchLimit) :
    (∀ x ∈ s.sources, .source x (p.entries s) ∈ root.trace) ∧
    ((∀ x ∈ s.sources, ∃ schema name, (p.entries s).relation x = .physical schema name) →
      (∀ c ∈ columns, ∃ i ∈ s.items, i.Explicit ∧ ∃ n ∈ i.outputName, Text.sameName n c = true) →
      ⟨p.path, s⟩ ∈ uniquePlaces (producersWithin resolver columns searchLimit [] [] root) ∧
      s ∈ producers resolver columns root) ∧
    ∀ name a, .table none name a ∈ s.sources →
      (∀ t before, findLocated name (p.tables s) = some (t, before) →
        ((p.entries s).resolveTable name).isSome ∧
        t.node ∈ (p.entries s).visible ∧ Text.sameName t.node.name name = true ∧
        ∀ l ∈ producersWithin resolver columns (searchLimit - (p.depth + 1)) before t.path
          t.node.body, l.node ∈ producers resolver columns root) ∧
      ((findLocated name (p.tables s)).isSome ↔
        ∃ w ∈ s.withClause.toList ++ p.met, ∃ t ∈ w.tables, Text.sameName t.name name = true) ∧
      ∀ t, (p.entries s).resolveTable name = some t →
        (∃ w ∈ s.withClause.toList ++ p.met, t ∈ w.tables) →
        (findLocated name (p.tables s)).isSome := by
  have hs := h.settled
  -- What the search takes a name for is in scope, so the walk resolves the name as well.
  have htaken : ∀ name t before, findLocated name (p.tables s) = some (t, before) →
      ((p.entries s).resolveTable name).isSome ∧ t.node ∈ (p.entries s).visible ∧
        Text.sameName t.node.name name = true := by
    intro name t before hfind
    obtain ⟨nearer, heq, hname, -⟩ := findLocated_eq_some hfind
    have hvisible : t.node ∈ (p.entries s).visible := hs.visible_tables (by simp [heq])
    refine ⟨?_, hvisible, hname⟩
    by_contra hno
    rw [Option.not_isSome_iff_eq_none, Scopes.resolveTable_eq_none] at hno
    simp [hno t.node hvisible] at hname
  have hfollowed : ∀ name, (findLocated name (p.tables s)).isSome ↔
      ∃ w ∈ s.withClause.toList ++ p.met, ∃ t ∈ w.tables, Text.sameName t.name name = true := by
    intro name
    rw [isSome_findLocated]
    constructor
    · rintro ⟨u, hu, hname⟩
      obtain ⟨w, hw, hm⟩ := (hs.met_tables u.node).mp ⟨u, hu, rfl⟩
      exact ⟨w, hw, u.node, hm, hname⟩
    · rintro ⟨w, hw, t, hm, hname⟩
      obtain ⟨u, hu, rfl⟩ := (hs.met_tables t).mpr ⟨w, hw, hm⟩
      exact ⟨u, hu, hname⟩
  refine ⟨fun x hx => ?_, fun hphysical hdef => ?_,
    fun name a hx => ⟨fun t before hfind => ?_, hfollowed name, ?_⟩⟩
  · exact Tour.mem_trace.mpr (hs.source_subset hx (Tour.source_mem_source x _))
  · have htables : ∀ x ∈ s.sources, ∃ schema name a, x = .table schema name a ∧
        (schema = none → findLocated name (p.tables s) = none) := by
      intro x hx
      obtain ⟨schema, name, hrel⟩ := hphysical x hx
      cases x with
      | table own name' a =>
        refine ⟨own, name', a, rfl, ?_⟩
        rintro rfl
        cases hfind : findLocated name' (p.tables s) with
        | none => rfl
        | some found =>
          obtain ⟨t, ht⟩ := Option.isSome_iff_exists.mp (htaken name' _ _ hfind).1
          simp [Scopes.relation, ht] at hrel
      | subquery _ _ _ _ | function _ _ _ => simp [Scopes.relation] at hrel
    have hfound :=
      Stop.mem_found hd htables (definesAll_of_explicit resolver (p.tables s) hdef)
    exact ⟨h.mem_uniquePlaces hfound, h.mem_producers hfound⟩
  · obtain ⟨hsome, hvisible, hname⟩ := htaken name t before hfind
    refine ⟨hsome, hvisible, hname, fun l hl => ?_⟩
    exact h.mem_producers (Stop.found_table hx hfind hl)
  · rintro t ht ⟨w, hw, hm⟩
    rw [Scopes.resolveTable_eq] at ht
    obtain ⟨d, hd, heq⟩ := Option.map_eq_some_iff.mp ht
    have hname := List.find?_some hd
    rw [Declared.named, heq] at hname
    exact (hfollowed name).mpr ⟨w, hw, t, hm, hname⟩

/-- An operand that owns a clause and reads a physical table, and one that reads a table of that
clause. -/
theorem producers_of_reaches_union :
    let pick (froms : List Source) : Select := { items := [{ value := .column none "id" }], froms }
    let t : CommonTable := ⟨"b", [], .select (pick [.table none "t" none])⟩
    let l : Select := { pick [.table none "u" none] with withClause := some { tables := [t] } }
    let r : Select := pick [.table none "b" none]
    let b : SetOperation := { left := .select l, op := .union, right := .select r }
    let first : Stop := Stop.side {} b 2
    let second : Stop := Stop.side {} b 3
    Reaches (.setOp b) first (.select l) ∧ Reaches (.setOp b) second (.select r) ∧
      first.depth < searchLimit ∧ second.depth < searchLimit ∧
      l ∈ producers none ["ID"] (.setOp b) ∧ (findLocated "b" (second.tables r)).isSome := by
  intro pick t l r b first second
  have hl : Reaches (.setOp b) first (.select l) := .left .start
  have hr : Reaches (.setOp b) second (.select r) := .right .start
  have hid : Text.sameName "id" "ID" = true := by decide
  have hname : Text.sameName "b" "u" = false ∧ Text.sameName "b" "b" = true := by decide
  have hd : ∀ p : Stop, p.depth = 1 → p.depth < searchLimit := by
    intro p hp
    simp [hp, searchLimit]
  refine ⟨hl, hr, hd first rfl, hd second rfl, ?_, ?_⟩
  · refine ((producers_of_reaches none ["ID"] hl (hd first rfl)).2.1 ?_ ?_).2
    · have hu : (first.entries l).resolveTable "u" = none := by
        simp [first, b, l, r, t, pick, Stop.side, Stop.entries, Stop.inside, Walk.operandScopes,
          Statement.operandWiths, Walk.withScopes, Select.sources, Scopes.resolveTable,
          Scopes.findTable, Scopes.findIn, hname]
      simp [l, pick, Select.sources, Scopes.relation, hu]
    · simp [l, pick, SelectItem.Explicit, SelectItem.outputName, hid]
  · refine ((producers_of_reaches none ["ID"] hr (hd second rfl)).2.2 "b" none ?_).2.2 t ?_ ?_
    · simp [r, pick, Select.sources]
    · simp [second, b, l, r, t, pick, Stop.side, Stop.entries, Stop.inside, Walk.operandScopes,
        Statement.operandWiths, Walk.withScopes, Select.sources, Scopes.resolveTable,
        Scopes.findTable, Scopes.findIn, hname]
    · simp [second, b, l, r, t, pick, Stop.side, Statement.leadingClause, Statement.leftmost?]

/-- A select with `n` more operands behind it, one after the other. -/
def chain (first other : Select) : Nat → Statement
  | 0 => .select first
  | n + 1 => .setOp { left := chain first other n, op := .union, right := .select other }

/-- The first operand of a chain lies as deep as the chain is long. -/
lemma Reaches.chain {root : Statement} {p : Stop} {first other : Select} {n : Nat}
    (h : Reaches root p (chain first other n)) :
    ∃ q, Reaches root q (.select first) ∧ q.depth = p.depth + n := by
  induction n generalizing p with
  | zero => exact ⟨p, h, rfl⟩
  | succ n ih =>
    obtain ⟨q, hq, hd⟩ := ih h.left
    exact ⟨q, hq, by rw [hd, Stop.side, Nat.add_right_comm, Nat.add_assoc]⟩

/-- A search of no more levels than the chain is long does not come to its first operand. -/
lemma producersWithin_chain {resolver : Option ColumnResolver} {columns : List String}
    {first other : Select}
    (hother : ∀ n env path, producersWithin resolver columns n env path (.select other) = [])
    {n k : Nat} (h : n ≤ k) (env : List (Located CommonTable)) (path : List Nat) :
    producersWithin resolver columns n env path (chain first other k) = [] := by
  induction n generalizing k env path with
  | zero => rw [producersWithin]
  | succ n ih =>
    obtain ⟨k, rfl⟩ := Nat.exists_eq_succ_of_ne_zero (Nat.ne_zero_of_lt h)
    rw [chain, producersWithin, ih (Nat.le_of_succ_le_succ h), hother, List.append_nil]

/-- The first of 66 operands has the output and is not found: it lies one level too deep. The third
of three operands reads a table of the clause of the second and is found itself, as if the table
were physical. -/
theorem producers_of_reaches_limits :
    let first : Select := { items := [{ value := .literal (.number "1"), aliasName := some "a" }] }
    let other : Select := { items := [{ value := .literal (.number "2") }] }
    let pick (table : String) : Select :=
      { items := [{ value := .column none "id" }], froms := [.table none table none] }
    let t : CommonTable := ⟨"b", [], .select (pick "t")⟩
    let sides : SetOperation :=
      { left := .select other
        op := .union
        right := .select { pick "b" with withClause := some { tables := [t] } } }
    let root : SetOperation := { left := .setOp sides, op := .union, right := .select (pick "b") }
    (∃ p, Reaches (chain first other 65) p (.select first) ∧ p.depth = searchLimit ∧
      first.sources = [] ∧
      (∃ i ∈ first.items, i.Explicit ∧ ∃ n ∈ i.outputName, Text.sameName n "a" = true) ∧
      producers none ["a"] (chain first other 65) = []) ∧
    ∃ p, Reaches (.setOp root) p (.select (pick "b")) ∧
      .source (.table none "b" none) (p.entries (pick "b")) ∈ (Statement.setOp root).trace ∧
      (p.entries (pick "b")).resolveTable "b" = some t ∧
      findLocated "b" (p.tables (pick "b")) = none ∧
      pick "b" ∈ producers none ["id"] (.setOp root) := by
  intro first other pick t sides root
  have hnames : Text.sameName "a" "a" = true ∧ Text.sameName "b" "b" = true ∧
      Text.sameName "id" "id" = true := by decide
  refine ⟨?_, ?_⟩
  · have hstart : Reaches (chain first other 65) {} (chain first other 65) := .start
    obtain ⟨p, hp, hd⟩ := hstart.chain
    have hother : ∀ n env path, producersWithin none ["a"] n env path (.select other) = [] := by
      intro n env path
      cases n with
      | zero => rw [producersWithin]
      | succ n =>
        simp [producersWithin_select, other, Select.sources, definesAll, Outlook.ofSelect,
          Outlook.select, Outlook.item, SelectItem.outputName, pure, Except.pure, bind, Except.bind]
    have hlimit : searchLimit ≤ 65 := Nat.le_refl _
    have hsources : first.sources = [] := by simp [first, Select.sources]
    have hdepth : p.depth = searchLimit := by simpa [searchLimit] using hd
    refine ⟨p, hp, hdepth, hsources, ?_, ?_⟩
    · simp [first, SelectItem.Explicit, SelectItem.outputName, hnames]
    · rw [producers, producersWithin_chain hother hlimit]
      rfl
  · have hp : Reaches (.setOp root) (Stop.side {} root 3) (.select (pick "b")) := .right .start
    have hfind : findLocated "b" ((Stop.side {} root 3).tables (pick "b")) = none := by
      simp [root, sides, other, pick, Stop.tables, Stop.side, leadingTables, locatedTables,
        findLocated]
    have hx : .table none "b" none ∈ (pick "b").sources := by simp [pick, Select.sources]
    refine ⟨_, hp, ?_, ?_, hfind, ?_⟩
    · exact Tour.mem_trace.mpr (hp.settled.source_subset hx (Tour.source_mem_source _ _))
    · simp [root, sides, other, pick, t, Stop.side, Stop.entries, Stop.inside, Walk.operandScopes,
        Statement.operandWiths, Walk.withScopes, Scopes.resolveTable, Scopes.findTable,
        Scopes.findIn, hnames]
    · have hdef : definesAll none ["id"] ((Stop.side {} root 3).tables (pick "b")) (pick "b") =
          true := by
        refine definesAll_of_explicit none _ ?_
        simp [pick, SelectItem.Explicit, SelectItem.outputName, hnames]
      have htables : ∀ x ∈ (pick "b").sources, ∃ schema name a, x = .table schema name a ∧
          (schema = none → findLocated name ((Stop.side {} root 3).tables (pick "b")) = none) := by
        simpa [pick, Select.sources] using hfind
      have hd : (Stop.side {} root 3).depth < searchLimit := by simp [Stop.side, searchLimit]
      exact hp.mem_producers (Stop.mem_found hd htables hdef)

end Report

end SqlLoom
