import SqlLoom.Proofs.Layout.Slots
import SqlLoom.Proofs.Statement.Equality

/-! The walk and the layout meet parameters in one order. Each part of a statement reports the
placeholders that its pieces hold, and the one clause made of the WITH clauses of a set operation
holds those of every table up to repeats of a whole table, which add no name. -/
namespace SqlLoom

namespace Event

/-- A window with a name has neither partitions nor an order of its own. -/
def PlainWindow : Event → Prop
  | .value _ (.call _ _ _ _ (some w)) _ => w.name = none ∨ (w.partitionBy = [] ∧ w.orderBy = [])
  | _ => True

/-- No two tables that are hoisted for one set operation share a name. -/
def DistinctHoists : Event → Prop
  | .statement (.setOp b) _ =>
    ((b.left.operandWiths ++ b.right.operandWiths).flatMap (·.tables)).Pairwise fun t u =>
      Text.sameName t.name u.name = false
  | _ => True

end Event

namespace Statement

def PlainWindows (s : Statement) : Prop := ∀ e ∈ s.trace, e.PlainWindow

def DistinctHoists (s : Statement) : Prop := ∀ e ∈ s.trace, e.DistinctHoists

end Statement

/-- Whether a statement is walked as an operand. -/
@[simp] def Placement.isOperand : Placement → Bool
  | .whole => false
  | .operand _ _ => true

namespace Layout

/-- Reports and pieces without a clash hold the same names in the same order, and the same
occurrences when nothing is hoisted twice. -/
def Agrees (es : List Event) (ps : List Piece) : Prop :=
  (∀ e ∈ es, e.PlainWindow) → clash? ps = none →
    Text.distinct (placeholderNames es) = Registry.names (occurrences ps) ∧
    ((∀ e ∈ es, e.DistinctHoists) → placeholders es = occurrences ps)

namespace Agrees

variable {e : Event} {es es' : List Event} {ps ps' : List Piece}

lemma nil : Agrees [] [] := fun _ _ => ⟨rfl, fun _ => rfl⟩

lemma append (h : Agrees es ps) (h' : Agrees es' ps') : Agrees (es ++ es') (ps ++ ps') := by
  intro hw hc
  simp only [List.mem_append] at hw
  obtain ⟨hc, hc'⟩ := clash?_append_eq_none.mp hc
  obtain ⟨hn, ho⟩ := h (fun e he => hw e (.inl he)) hc
  obtain ⟨hn', ho'⟩ := h' (fun e he => hw e (.inr he)) hc'
  constructor
  · simp only [placeholderNames_append, occurrences_append, Registry.names, List.map_append]
    exact Text.distinct_append_congr hn hn'
  · intro hd
    simp only [List.mem_append] at hd
    rw [placeholders_append, occurrences_append, ho fun e he => hd e (.inl he),
      ho' fun e he => hd e (.inr he)]

/-- A report that is no placeholder adds nothing. -/
lemma skip_of (hp : Report.placeholder e = none) (h : e.PlainWindow → Agrees es ps) :
    Agrees (e :: es) ps := by
  intro hw hc
  simp only [List.mem_cons, forall_eq_or_imp] at hw
  obtain ⟨hn, ho⟩ := h hw.1 hw.2 hc
  constructor
  · simpa [hp] using hn
  · intro hd
    simp only [List.mem_cons, forall_eq_or_imp] at hd
    simpa [hp] using ho hd.2

lemma skip (hp : Report.placeholder e = none) (h : Agrees es ps) : Agrees (e :: es) ps :=
  skip_of hp fun _ => h

lemma of_silent (h : placeholders es = []) : Agrees es [] :=
  fun _ _ => ⟨by simp [placeholderNames, h, Registry.names, occurrences], fun _ => h⟩

end Agrees

/-- What is reported of a part of a statement, and the pieces in which the part is written. -/
structure Written (es : List Event) (ps : List Piece) : Prop where
  agrees : Agrees es ps
  covered : Covered es ps

namespace Written

variable {e : Event} {es es' : List Event} {ps ps' : List Piece}

lemma nil : Written [] [] := ⟨.nil, .nil _⟩

lemma append (h : Written es ps) (h' : Written es' ps') : Written (es ++ es') (ps ++ ps') :=
  ⟨h.agrees.append h'.agrees, h.covered.append h'.covered⟩

lemma skip (hp : Report.placeholder e = none) (h : Written es ps) : Written (e :: es) ps :=
  ⟨h.agrees.skip hp, h.covered.skip e⟩

lemma inside {f : Frame} {sc : Scopes} {body : Scopes → List Event}
    (h : Written (body (f :: sc)) ps) : Written (Tour.inside f sc body) ps := by
  have := (h.append (nil.skip (e := .leave f.kind (f :: sc)) rfl)).skip
    (e := .enter f.kind (f :: sc)) rfl
  simpa [Tour.inside] using this

lemma leaves (n : Nat) (sc : Scopes) : Written (Tour.leaves n sc) [] :=
  ⟨.of_silent (placeholders_leaves n sc), .nil _⟩

lemma again (asOperand : Bool) (s : Statement) (sc : Scopes) :
    Written (Tour.again asOperand (.statement s sc)) [] :=
  ⟨.of_silent (placeholders_again asOperand s sc), .nil _⟩

end Written

/-- The reports of the bodies of common tables, table by table, beside the pieces of the tables. -/
inductive Carried : List Event → List (CommonTable × List Piece) → Prop
  | nil : Carried [] []
  | skip (e : Event) {es ts} : Report.placeholder e = none → Carried es ts → Carried (e :: es) ts
  | table (t : CommonTable) (sc : Scopes) {ps es ts} :
    Written (Tour.statement false t.body sc) (marks ps) → Carried es ts →
    Carried (Tour.statement false t.body sc ++ es) ((t, ps) :: ts)

namespace Carried

variable {es es' : List Event} {ts ts' : List (CommonTable × List Piece)}

lemma append (h : Carried es ts) (h' : Carried es' ts') : Carried (es ++ es') (ts ++ ts') := by
  induction h with
  | nil => exact h'
  | skip e hp _ ih => exact .skip e hp ih
  | table t sc hb _ ih =>
    rw [List.append_assoc]
    exact .table t sc hb ih

/-- Written out whole, the tables hold what their bodies report. -/
lemma written (h : Carried es ts) : Written es (marks (ts.map (·.2)).flatten) := by
  induction h with
  | nil => exact .nil
  | skip e hp _ ih => exact .skip hp ih
  | table t sc hb _ ih => simpa using hb.append ih

lemma covered (h : Carried es ts) : ∀ x ∈ ts, Covered es x.2 := by
  induction h with
  | nil => simp
  | skip e hp _ ih => exact fun x hx => (ih x hx).skip e
  | @table t sc ps es ts hb _ ih =>
    rw [List.forall_mem_cons]
    constructor
    · refine .before _ ?_
      rw [Covered, ← occurrences_marks]
      exact hb.covered
    · exact fun x hx => (ih x hx).after _

/-- One step of merging after another: a table that is not kept has the names of one that is. -/
lemma names_kept (h : Carried es ts) (hw : ∀ e ∈ es, e.PlainWindow)
    (merged : Hoisted (CommonTable × List Piece)) (before : List Event)
    (hm : ∀ x ∈ merged.kept, ∃ sc,
      placeholderNames (Tour.statement false x.1.body sc) ⊆ placeholderNames before)
    (hb : Text.distinct (placeholderNames before) =
      Registry.names (occurrences (merged.kept.map (·.2)).flatten))
    (hn : (ts.foldl (Hoisted.add Prod.fst) merged).clashes = [])
    (hc : clash? ((ts.foldl (Hoisted.add Prod.fst) merged).kept.map (·.2)).flatten = none) :
    Text.distinct (placeholderNames (before ++ es)) = Registry.names
      (occurrences ((ts.foldl (Hoisted.add Prod.fst) merged).kept.map (·.2)).flatten) := by
  induction h generalizing merged before with
  | nil => simpa using hb
  | skip e hp _ ih =>
    simp only [List.mem_cons, forall_eq_or_imp] at hw
    simpa [hp] using ih hw.2 merged before hm hb hn hc
  | @table t sc ps es ts hbody _ ih =>
    simp only [List.mem_append] at hw
    rw [List.foldl_cons] at hn hc ⊢
    rw [← List.append_assoc]
    rcases Hoisted.add_cases Prod.fst merged (t, ps) with hk | ⟨y, hy, he, hk⟩ | hk
    · rw [hk] at hn hc ⊢
      have hps : clash? (marks ps) = none := by
        obtain ⟨more, hpre⟩ := Hoisted.kept_prefix Prod.fst
          { merged with kept := merged.kept ++ [(t, ps)] } ts
        rw [← hpre] at hc
        simp only [List.map_append, List.flatten_append, clash?_append_eq_none] at hc
        simpa using hc.1.2
      apply ih (fun e he => hw e (.inr he)) _ _ _ _ hn hc
      · intro x hx
        rcases List.mem_append.mp hx with hx | hx
        · obtain ⟨scx, hs⟩ := hm x hx
          exact ⟨scx, fun n hn => by simp [hs hn]⟩
        · rw [List.mem_singleton] at hx
          exact ⟨sc, fun n hn => by rw [hx] at hn; simp [hn]⟩
      · have := (hbody.agrees (fun e he => hw e (.inl he)) hps).1
        rw [occurrences_marks] at this
        simp only [placeholderNames_append, List.map_append, List.flatten_append,
          occurrences_append, Registry.names]
        exact Text.distinct_append_congr hb (by simpa [Registry.names] using this)
    · -- An equal table is kept already, so the names of this one have all occurred.
      rw [hk] at hn hc ⊢
      have hsame : ∀ n ∈ placeholderNames (Tour.statement false t.body sc),
          n ∈ placeholderNames before := by
        obtain ⟨scy, hs⟩ := hm y hy
        rw [← Tour.names_statement false scy sc y.1.body (CommonTable.body_equals he)]
        exact hs
      apply ih (fun e he => hw e (.inr he)) _ _ _ _ hn hc
      · intro x hx
        obtain ⟨scx, hs⟩ := hm x hx
        exact ⟨scx, fun n hn => by simp [hs hn]⟩
      · rw [placeholderNames_append, Text.distinct_append_of_subset hsame, hb]
    · obtain ⟨more, hpre⟩ := Hoisted.clashes_prefix Prod.fst
        (Hoisted.add Prod.fst merged (t, ps)) ts
      rw [hn] at hpre
      exact absurd (List.append_eq_nil_iff.mp hpre).1 hk

/-- What the clause in front of a set operation holds. -/
lemma agrees_hoisted (h : Carried es ts) (hw : ∀ e ∈ es, e.PlainWindow)
    (hn : (Hoisted.ofTables Prod.fst ts).clashes = [])
    (hc : clash? ((Hoisted.ofTables Prod.fst ts).kept.map (·.2)).flatten = none) :
    Text.distinct (placeholderNames es) = Registry.names
      (occurrences ((Hoisted.ofTables Prod.fst ts).kept.map (·.2)).flatten) :=
  h.names_kept hw {} [] (by simp) rfl hn hc

/-- The front of a set operation, of which the operation itself says whether names repeat. -/
lemma agrees_hoistedWith (b : SetOperation) (sc : Scopes) (d : Nat)
    (clauses : List (Bool × List (CommonTable × List Piece)))
    (h : Carried es (clauses.flatMap (·.2)))
    (ht : (clauses.flatMap (·.2)).map (·.1) =
      (b.left.operandWiths ++ b.right.operandWiths).flatMap (·.tables)) :
    Agrees (.statement (.setOp b) sc :: es)
      (marks (hoistedWith d clauses).1 ++ marks (hoistedWith d clauses).2.flatten) := by
  intro hw hc
  simp only [List.mem_cons, forall_eq_or_imp] at hw
  rw [clash?_append_eq_none, marks_hoistedWith] at hc
  have hnone : (Hoisted.ofTables Prod.fst (clauses.flatMap (·.2))).clashes = [] := by
    rw [clash?_marks] at hc
    exact clash?_clashes.mp hc.1
  have hfirst : (hoistedWith d clauses).1 = [] := by simp [hoistedWith, hnone]
  rw [marks_hoistedWith, hfirst, marks_nil, List.nil_append, occurrences_marks]
  constructor
  · simpa [Report.placeholder] using h.agrees_hoisted hw.2 hnone (by simpa using hc.2)
  · intro hd
    simp only [List.mem_cons, forall_eq_or_imp] at hd
    have hkept : (Hoisted.ofTables Prod.fst (clauses.flatMap (·.2))).kept =
        clauses.flatMap (·.2) := by
      apply Hoisted.kept_ofTables_of_pairwise
      have hp := hd.1
      simp only [Event.DistinctHoists, ← ht, List.pairwise_map] at hp
      exact hp
    rw [hkept] at hc ⊢
    simpa [Report.placeholder] using (h.written.agrees hw.2 hc.2).2 hd.2

lemma written_hoistedWith (b : SetOperation) (sc : Scopes) (d : Nat)
    (clauses : List (Bool × List (CommonTable × List Piece)))
    (h : Carried es (clauses.flatMap (·.2)))
    (ht : (clauses.flatMap (·.2)).map (·.1) =
      (b.left.operandWiths ++ b.right.operandWiths).flatMap (·.tables)) :
    Written (.statement (.setOp b) sc :: es)
      (marks (hoistedWith d clauses).1 ++ marks (hoistedWith d clauses).2.flatten) :=
  ⟨h.agrees_hoistedWith b sc d clauses ht, (Covered.hoistedWith d h.covered).skip _⟩

end Carried

lemma operandWiths_tables (d : Nat) (s : Statement) :
    ((operandWiths d s).flatMap (·.2)).map (·.1) = s.operandWiths.flatMap (·.tables) := by
  have hfst : ∀ ts, (tables d ts).map (·.1) = ts := fun ts => by
    simp [tables_eq, Function.comp_def]
  simp [operandWiths_eq, List.flatMap_map, List.map_flatMap, hfst]

mutual
lemma written_expr (d : Nat) (role : Role) (sc : Scopes) : (e : Expr) →
    Written (Tour.expr role e sc) (marks (expr d e))
  | .call n args isDistinct f w => by
    rw [Tour.expr]
    have front := (written_exprs d sc args).append (written_filter d sc f)
    constructor
    · refine .skip_of rfl fun hw => ?_
      have hwindow : ∀ x ∈ w, x.name = none ∨ (x.partitionBy = [] ∧ x.orderBy = []) := by
        rintro x rfl
        exact hw
      simpa [expr] using front.agrees.append ((written_window d sc w).1 hwindow)
    · refine .skip _ ?_
      simpa [expr] using front.covered.append (written_window d sc w).2
  | .binary l op r => by
    rw [Tour.expr]
    refine .skip rfl ?_
    simpa [expr] using (written_expr d .plain sc l).append (written_expr d .plain sc r)
  | .unary op e => by
    rw [Tour.expr]
    refine .skip rfl ?_
    cases op <;> simpa [expr] using written_expr d .plain sc e
  | .tuple es => by
    rw [Tour.expr]
    refine .skip rfl ?_
    simpa [expr] using written_exprs d sc es
  | .array es => by
    rw [Tour.expr]
    refine .skip rfl ?_
    simpa [expr] using written_exprs d sc es
  | .inList e es neg => by
    rw [Tour.expr]
    refine .skip rfl ?_
    simpa [expr] using (written_expr d .plain sc e).append (written_exprs d sc es)
  | .case o bs e => by
    rw [Tour.expr]
    refine .skip rfl ?_
    simpa [expr] using ((written_after d " " sc o).append (written_branches d sc bs)).append
      (written_after d " ELSE " sc e)
  | .subquery q => by
    rw [Tour.expr]
    refine .skip rfl ?_
    simpa [expr] using (written_statement (d + 1) .whole (.subquery none :: sc) q).inside
  | .exists q => by
    rw [Tour.expr]
    refine .skip rfl ?_
    simpa [expr] using (written_statement (d + 1) .whole (.subquery none :: sc) q).inside
  | .inSubquery e q neg => by
    rw [Tour.expr]
    refine .skip rfl ?_
    simpa [expr] using (written_expr d .plain sc e).append
      (written_statement (d + 1) .whole (.subquery none :: sc) q).inside
  | .between e l h neg => by
    rw [Tour.expr]
    refine .skip rfl ?_
    simpa [expr] using ((written_expr d .plain sc e).append (written_expr d .plain sc l)).append
      (written_expr d .plain sc h)
  | .isNull e neg => by
    rw [Tour.expr]
    refine .skip rfl ?_
    simpa [expr] using written_expr d .plain sc e
  | .cast e ty short => by
    rw [Tour.expr]
    refine .skip rfl ?_
    cases short <;> simpa [expr] using written_expr d .plain sc e
  | .nested e => by
    rw [Tour.expr]
    refine .skip rfl ?_
    simpa [expr] using written_expr d .plain sc e
  | .column q n => by cases q <;> simpa [Tour.expr, expr] using .skip rfl .nil
  | .literal v => by simpa [Tour.expr, expr] using .skip rfl .nil
  | .parameter n v => by
    constructor
    · intro _ _
      simp [Tour.expr, expr, placeholderNames, Report.placeholder, Registry.names, occurrences]
    · simp [Covered, Tour.expr, expr, Report.placeholder, occurrences]
  | .wildcard q => by cases q <;> simpa [Tour.expr, expr] using .skip rfl .nil
  | .raw s => by simpa [Tour.expr, expr] using .skip rfl .nil
lemma written_exprs (d : Nat) (sc : Scopes) : (es : List Expr) →
    Written (Tour.exprs es sc) (marks (exprs d es).flatten)
  | [] => by simpa [Tour.exprs, exprs] using .nil
  | e :: es => by
    simpa [Tour.exprs, exprs] using (written_expr d .plain sc e).append (written_exprs d sc es)
lemma written_after (d : Nat) (keyword : String) (sc : Scopes) : (e : Option Expr) →
    Written (Tour.option e sc) (marks (after d keyword e))
  | none => by simpa [Tour.option, after] using .nil
  | some e => by simpa [Tour.option, after] using written_expr d .plain sc e
lemma written_clause (d : Nat) (keyword : String) (sc : Scopes) : (e : Option Expr) →
    Written (Tour.option e sc) (marks (clause d keyword e).flatten)
  | none => by simpa [Tour.option, clause] using .nil
  | some e => by simpa [Tour.option, clause] using written_expr d .plain sc e
lemma written_filter (d : Nat) (sc : Scopes) : (e : Option Expr) →
    Written (Tour.option e sc) (marks (filterPieces d e))
  | none => by simpa [Tour.option, filterPieces] using .nil
  | some e => by simpa [Tour.option, filterPieces] using written_expr d .plain sc e
lemma written_branches (d : Nat) (sc : Scopes) : (bs : List (Expr × Expr)) →
    Written (Tour.branches bs sc) (marks (branches d bs))
  | [] => by simpa [Tour.branches, branches] using .nil
  | (c, r) :: bs => by
    simpa [Tour.branches, branches] using
      ((written_expr d .plain sc c).append (written_expr d .plain sc r)).append
        (written_branches d sc bs)
lemma written_window (d : Nat) (sc : Scopes) : (w : Option Window) →
    ((∀ x ∈ w, x.name = none ∨ (x.partitionBy = [] ∧ x.orderBy = [])) →
      Agrees (Tour.window w sc) (marks (window d w))) ∧
    Covered (Tour.window w sc) (marks (window d w))
  | none => ⟨fun _ => by simpa [Tour.window, window] using .nil, by simpa [window] using .nil _⟩
  | some ⟨none, p, o, f⟩ => by
    have hf : marks (f.toList.map fun f => [.word (frameText f)]).flatten = [] := by
      cases f <;> rfl
    have h : Written (Tour.window (some ⟨none, p, o, f⟩) sc)
        (marks (window d (some ⟨none, p, o, f⟩))) := by
      simpa [Tour.window, window, marks_intercalate (show marks [.word " "] = [] from rfl), hf]
        using (written_exprs d sc p).append (written_order d .plain sc o)
    exact ⟨fun _ => h.agrees, h.covered⟩
  | some ⟨some n, p, o, f⟩ => by
    refine ⟨fun hw => ?_, by simpa [window] using .nil _⟩
    obtain ⟨rfl, rfl⟩ : p = [] ∧ o = [] := by simpa using hw _ rfl
    simpa [Tour.window, Tour.exprs, Tour.order, window] using .nil
lemma written_order (d : Nat) (role : Role) (sc : Scopes) : (os : List OrderItem) →
    Written (Tour.order role os sc) (marks (order d os).flatten)
  | [] => by simpa [Tour.order, order] using .nil
  | ⟨v, a, n⟩ :: os => by
    simpa [Tour.order, order] using (written_expr d role sc v).append (written_order d role sc os)
lemma written_items (d : Nat) (sc : Scopes) : (is : List SelectItem) →
    Written (Tour.items is sc) (marks (items d is).flatten)
  | [] => by simpa [Tour.items, items] using .nil
  | ⟨v, a⟩ :: is => by
    simpa [Tour.items, items] using (written_expr d .plain sc v).append (written_items d sc is)
lemma written_source (d : Nat) (sc : Scopes) : (x : Source) →
    Written (Tour.source x sc) (marks (source d x))
  | .table s n a => by simpa [Tour.source, source] using .skip rfl .nil
  | .subquery q a cs l => by
    rw [Tour.source]
    refine .skip rfl ?_
    simpa [source] using (written_statement (d + 1) .whole (.subquery (some a) :: sc) q).inside
  | .function n args a => by
    rw [Tour.source]
    refine .skip rfl ?_
    simpa [source] using written_exprs d sc args
lemma written_sources (d : Nat) (sc : Scopes) : (xs : List Source) →
    Written (Tour.sources xs sc) (marks (sources d xs).flatten)
  | [] => by simpa [Tour.sources, sources] using .nil
  | x :: xs => by
    simpa [Tour.sources, sources] using (written_source d sc x).append (written_sources d sc xs)
lemma written_condition (d : Nat) (sc : Scopes) : (c : Option JoinCondition) →
    Written (Tour.condition c sc) (marks (condition d c))
  | some (.predicate e) => by simpa [Tour.condition, condition] using written_expr d .plain sc e
  | some (.shared _) => by simpa [Tour.condition, condition] using .nil
  | some .natural => by simpa [Tour.condition, condition] using .nil
  | none => by simpa [Tour.condition, condition] using .nil
lemma written_joins (d : Nat) (sc : Scopes) : (js : List Join) →
    Written (Tour.joins js sc) (marks (joins d js).flatten)
  | [] => by simpa [Tour.joins, joins] using .nil
  | ⟨t, x, c⟩ :: js => by
    simpa [Tour.joins, joins] using
      ((written_source d sc x).append (written_condition d sc c)).append (written_joins d sc js)
lemma written_rows (d : Nat) (sc : Scopes) : (rs : List (List Expr)) →
    Written (Tour.rows rs sc) (marks (rows d rs).flatten)
  | [] => by simpa [Tour.rows, rows] using .nil
  | r :: rs => by
    simpa [Tour.rows, rows] using (written_exprs d sc r).append (written_rows d sc rs)
lemma written_assignments (d : Nat) (sc : Scopes) : (as : List Assignment) →
    Written (Tour.assignments as sc) (marks (assignments d as).flatten)
  | [] => by simpa [Tour.assignments, assignments] using .nil
  | ⟨c, v⟩ :: as => by
    simpa [Tour.assignments, assignments] using
      (written_expr d .plain sc v).append (written_assignments d sc as)
lemma carried_tables (d : Nat) (frame : Nat → Frame) (total : Option Nat) (index : Nat)
    (sc : Scopes) : (ts : List CommonTable) →
    Carried (Tour.tables frame total index ts sc) (tables d ts)
  | [] => by simpa [Tour.tables, tables] using .nil
  | ⟨n, cs, b⟩ :: ts => by
    have hbody : Written (Tour.statement false b (.body n :: frame (total.getD index) :: sc))
        (marks (tablePieces d n cs (statement (d + 1) .whole b))) := by
      simpa using written_statement (d + 1) .whole (.body n :: frame (total.getD index) :: sc) b
    have hrest := carried_tables d frame total (index + 1) sc ts
    have := Carried.table ⟨n, cs, b⟩ _ hbody
      (.skip (.leave .commonTable (.body n :: frame (total.getD index) :: sc)) rfl
        (.skip (.endTable ⟨n, cs, b⟩ (frame (total.getD index) :: sc)) rfl hrest))
    simpa [Tour.tables, Tour.inside, Frame.kind, tables] using
      Carried.skip (.table index ⟨n, cs, b⟩ (frame (total.getD index) :: sc)) rfl
        (.skip (.enter .commonTable (.body n :: frame (total.getD index) :: sc)) rfl this)
lemma carried_operandWiths (d : Nat) (sc : Scopes) : (s : Statement) →
    Carried (Tour.operandWiths s sc) ((operandWiths d s).flatMap (·.2))
  | .select ⟨none, _, _, _, _, _, _, _, _, _, _⟩ => .nil
  | .select ⟨some ⟨r, ts⟩, _, _, _, _, _, _, _, _, _, _⟩ => by
    refine .skip _ rfl ?_
    simpa [operandWiths] using
      carried_tables d (.tables ts) (if r then some ts.length else none) 0 sc ts
  | .setOp ⟨l, _, _, r, _, _, _⟩ => by
    simpa [Tour.operandWiths_setOp, operandWiths_setOp] using
      (carried_operandWiths d sc l).append (carried_operandWiths d (Walk.operandScopes l sc) r)
  | .values ⟨_, _⟩ => .nil
  | .insert ⟨_, _, _, _⟩ => .nil
  | .createTable ⟨_, _, _, _, _⟩ => .nil
  | .update ⟨_, _, _, _, _, _⟩ => .nil
  | .delete ⟨_, _, _, _, _⟩ => .nil
lemma written_withClause (d : Nat) (sc : Scopes) : (w : Option WithClause) →
    Written (Tour.withClause w sc) (marks (withClause d w).flatten)
  | none => by simpa [Tour.withClause, withClause] using .nil
  | some ⟨r, ts⟩ => by
    rw [Tour.withClause]
    refine .skip rfl ?_
    simpa [withClause] using
      (carried_tables d (.tables ts) (if r then some ts.length else none) 0 sc ts).written
lemma written_statement (d : Nat) (p : Placement) (sc : Scopes) : (s : Statement) →
    Written (Tour.statement p.isOperand s sc) (marks (statement d p s))
  | .select ⟨w, isDistinct, is, fs, js, f, g, h, o, l, k⟩ => by
    have clauses : ∀ sc, Written
        (Tour.items is sc ++ Tour.sources fs sc ++ Tour.joins js sc ++ Tour.option f sc ++
          Tour.exprs g sc ++ Tour.option h sc ++ Tour.order .ordering o sc ++ Tour.option l sc ++
          Tour.option k sc)
        (marks (items d is).flatten ++ marks (sources d fs).flatten ++ marks (joins d js).flatten ++
          marks (clause d "WHERE " f).flatten ++ marks (exprs d g).flatten ++
          marks (clause d "HAVING " h).flatten ++ marks (order d o).flatten ++
          marks (clause d "LIMIT " l).flatten ++ marks (clause d "OFFSET " k).flatten) :=
      fun sc => ((((((((written_items d sc is).append (written_sources d sc fs)).append
        (written_joins d sc js)).append (written_clause d "WHERE " sc f)).append
        (written_exprs d sc g)).append (written_clause d "HAVING " sc h)).append
        (written_order d .ordering sc o)).append (written_clause d "LIMIT " sc l)).append
        (written_clause d "OFFSET " sc k)
    have body : ∀ own, Written
        (Tour.inside (.query (Select.sources ⟨w, isDistinct, is, fs, js, f, g, h, o, l, k⟩))
          (Walk.withScopes own sc) (fun sc =>
            .select ⟨w, isDistinct, is, fs, js, f, g, h, o, l, k⟩ sc ::
              (Tour.items is sc ++ Tour.sources fs sc ++ Tour.joins js sc ++ Tour.option f sc ++
                Tour.exprs g sc ++ Tour.option h sc ++ Tour.order .ordering o sc ++
                Tour.option l sc ++ Tour.option k sc)) ++
          Tour.leaves own.toList.length (Walk.withScopes own sc)) _ :=
      fun own => (Written.inside (.skip rfl (clauses _))).append (.leaves _ _)
    rw [Tour.statement]
    refine .skip rfl ?_
    cases p with
    | whole => simpa [statement] using (written_withClause d sc w).append (body w)
    | operand parent right => simpa [statement] using body none
  | .setOp ⟨l, op, a, r, o, m, k⟩ => by
    have tail : ∀ sc, Written
        (Tour.statement true l sc ++ Tour.statement true r sc ++ Tour.order .plain o sc ++
          Tour.option m sc ++ Tour.option k sc)
        (marks (statement d (.operand op false) l) ++ marks (statement d (.operand op true) r) ++
          marks (order d o).flatten ++ marks (clause d "LIMIT " m).flatten ++
          marks (clause d "OFFSET " k).flatten) :=
      fun sc => ((((written_statement d (.operand op false) sc l).append
        (written_statement d (.operand op true) sc r)).append (written_order d .plain sc o)).append
        (written_clause d "LIMIT " sc m)).append (written_clause d "OFFSET " sc k)
    have hsilent := Written.leaves ((Walk.operandScopes r (Walk.operandScopes l sc)).length -
      sc.length) (Walk.operandScopes r (Walk.operandScopes l sc))
    rw [Tour.statement]
    cases p with
    | whole =>
      have front := Carried.written_hoistedWith ⟨l, op, a, r, o, m, k⟩ sc d
        (operandWiths d l ++ operandWiths d r)
        (by simpa using
          (carried_operandWiths d sc l).append (carried_operandWiths d (Walk.operandScopes l sc) r))
        (by simp [operandWiths_tables])
      simpa [statement] using (front.append (tail _)).append hsilent
    | operand parent right =>
      refine .skip rfl ?_
      simp only [statement, marks_operandNests]
      simpa using tail sc
  | .values ⟨rs, as⟩ => by
    rw [Tour.statement]
    refine .skip rfl ?_
    cases p <;> simpa [statement] using written_rows d sc rs
  | .insert ⟨tb, cs, .rows rs, is⟩ => by
    have body : ∀ d, Written (Tour.rows rs sc ++ Tour.items is sc)
        (marks (rows d rs).flatten ++ marks (items d is).flatten) :=
      fun d => (written_rows d sc rs).append (written_items d sc is)
    cases p with
    | whole =>
      simpa [Tour.statement, statement] using (Written.again false _ sc).append (body d)
    | operand parent right =>
      simpa [Tour.statement, statement] using (Written.again true _ sc).append (body (d + 1))
  | .insert ⟨tb, cs, .query q, is⟩ => by
    have body : ∀ d, Written (Tour.statement false q sc ++ Tour.items is sc)
        (marks (statement d .whole q) ++ marks (items d is).flatten) :=
      fun d => (written_statement d .whole sc q).append (written_items d sc is)
    cases p with
    | whole =>
      simpa [Tour.statement, statement] using (Written.again false _ sc).append (body d)
    | operand parent right =>
      simpa [Tour.statement, statement] using (Written.again true _ sc).append (body (d + 1))
  | .createTable ⟨n, tm, e, cs, some q⟩ => by
    cases p with
    | whole =>
      simpa [Tour.statement, statement, asQuery] using
        (Written.again false _ sc).append (written_statement d .whole sc q)
    | operand parent right =>
      simpa [Tour.statement, statement, asQuery] using
        (Written.again true _ sc).append (written_statement (d + 1) .whole sc q)
  | .createTable ⟨n, tm, e, cs, none⟩ => by
    cases p with
    | whole => simpa [Tour.statement, statement, asQuery] using Written.again false _ sc
    | operand parent right =>
      simpa [Tour.statement, statement, asQuery] using Written.again true _ sc
  | .update ⟨w, tg, as, fs, f, is⟩ => by
    have body : ∀ d, Written
        (Tour.withClause w sc ++
          Tour.inside (.query (tg :: fs)) (Walk.withScopes w sc) (fun sc =>
            Tour.source tg sc ++ Tour.assignments as sc ++ Tour.sources fs sc ++
              Tour.option f sc ++ Tour.items is sc) ++
          Tour.leaves w.toList.length (Walk.withScopes w sc)) _ :=
      fun d => ((written_withClause d sc w).append (.inside
        (((((written_source d _ tg).append (written_assignments d _ as)).append
          (written_sources d _ fs)).append (written_clause d "WHERE " _ f)).append
          (written_items d _ is)))).append (.leaves _ _)
    cases p with
    | whole =>
      simpa [Tour.statement, statement] using (Written.again false _ sc).append (body d)
    | operand parent right =>
      simpa [Tour.statement, statement] using (Written.again true _ sc).append (body (d + 1))
  | .delete ⟨w, tg, us, f, is⟩ => by
    have body : ∀ d, Written
        (Tour.withClause w sc ++
          Tour.inside (.query (tg :: us)) (Walk.withScopes w sc) (fun sc =>
            Tour.source tg sc ++ Tour.sources us sc ++ Tour.option f sc ++ Tour.items is sc) ++
          Tour.leaves w.toList.length (Walk.withScopes w sc)) _ :=
      fun d => ((written_withClause d sc w).append (.inside
        ((((written_source d _ tg).append (written_sources d _ us)).append
          (written_clause d "WHERE " _ f)).append (written_items d _ is)))).append (.leaves _ _)
    cases p with
    | whole =>
      simpa [Tour.statement, statement] using (Written.again false _ sc).append (body d)
    | operand parent right =>
      simpa [Tour.statement, statement] using (Written.again true _ sc).append (body (d + 1))
end

end Layout

end SqlLoom
