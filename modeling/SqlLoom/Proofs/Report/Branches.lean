import SqlLoom.Compose
import SqlLoom.Proofs.Report.Dependencies
import SqlLoom.Proofs.Report.Omissions
import SqlLoom.Proofs.Walk.Parts
import SqlLoom.Statement.Sources

/-! The report of schemas over the operands of a set operation. The walk of an operand leaves no
query open, so the next operand is walked as if it stood alone: it gives the same columns to the
same tables, and fails with the same error unless there has been one before. -/
namespace SqlLoom

/-- Every report is of a value expression, from the same scopes. -/
def OnlyValues (sc : Scopes) (es : List Event) : Prop := ∀ e ∈ es, ∃ role x, e = .value role x sc

namespace OnlyValues

variable {sc : Scopes} {es es' : List Event}

lemma nil : OnlyValues sc [] := nofun

lemma cons {role : Role} {x : Expr} (h : OnlyValues sc es) :
    OnlyValues sc (.value role x sc :: es) :=
  List.forall_mem_cons.mpr ⟨⟨role, x, rfl⟩, h⟩

lemma append (h : OnlyValues sc es) (h' : OnlyValues sc es') : OnlyValues sc (es ++ es') :=
  List.forall_mem_append.mpr ⟨h, h'⟩

end OnlyValues

/-- No expression holds a query. -/
def NoSubquery (es : List Expr) : Prop := ∀ e ∈ es, e.query? = none

@[simp] lemma noSubquery_cons {e : Expr} {es : List Expr} :
    NoSubquery (e :: es) ↔ e.query? = none ∧ NoSubquery es := List.forall_mem_cons

@[simp] lemma noSubquery_append {es es' : List Expr} :
    NoSubquery (es ++ es') ↔ NoSubquery es ∧ NoSubquery es' := List.forall_mem_append

namespace Tour

mutual
lemma onlyValues_expr (role : Role) (sc : Scopes) : (e : Expr) → NoSubquery e.exprs →
    OnlyValues sc (expr role e sc)
  | .call _ args _ f w, h => by
    simp only [Expr.exprs, noSubquery_cons, noSubquery_append] at h
    exact .cons (((onlyValues_exprs sc args h.2.1.1).append (onlyValues_option sc f h.2.1.2)).append
      (onlyValues_window sc w h.2.2))
  | .binary l _ r, h => by
    simp only [Expr.exprs, noSubquery_cons, noSubquery_append] at h
    exact .cons ((onlyValues_expr .plain sc l h.2.1).append (onlyValues_expr .plain sc r h.2.2))
  | .inList e es _, h => by
    simp only [Expr.exprs, noSubquery_cons, noSubquery_append] at h
    exact .cons ((onlyValues_expr .plain sc e h.2.1).append (onlyValues_exprs sc es h.2.2))
  | .case o bs e, h => by
    simp only [Expr.exprs, noSubquery_cons, noSubquery_append] at h
    exact .cons (((onlyValues_option sc o h.2.1.1).append
      (onlyValues_branches sc bs h.2.1.2)).append (onlyValues_option sc e h.2.2))
  | .between e l u _, h => by
    simp only [Expr.exprs, noSubquery_cons, noSubquery_append] at h
    exact .cons (((onlyValues_expr .plain sc e h.2.1.1).append
      (onlyValues_expr .plain sc l h.2.1.2)).append (onlyValues_expr .plain sc u h.2.2))
  | .subquery q, h | .exists q, h | .inSubquery _ q _, h =>
    absurd (List.forall_mem_cons.mp h).1 (Option.some_ne_none q)
  | .tuple es, h | .array es, h => .cons (onlyValues_exprs sc es (List.forall_mem_cons.mp h).2)
  | .unary _ e, h | .isNull e _, h | .cast e _ _, h | .nested e, h =>
    .cons (onlyValues_expr .plain sc e (List.forall_mem_cons.mp h).2)
  | .column _ _, _ | .literal _, _ | .parameter _ _, _ | .wildcard _, _ | .raw _, _ => .cons .nil
lemma onlyValues_exprs (sc : Scopes) : (es : List Expr) → NoSubquery (listExprs es) →
    OnlyValues sc (exprs es sc)
  | [], _ => .nil
  | e :: es, h =>
    have h := noSubquery_append.mp h
    (onlyValues_expr .plain sc e h.1).append (onlyValues_exprs sc es h.2)
lemma onlyValues_option (sc : Scopes) : (e : Option Expr) → NoSubquery (optionExprs e) →
    OnlyValues sc (option e sc)
  | none, _ => .nil
  | some e, h => onlyValues_expr .plain sc e h
lemma onlyValues_branches (sc : Scopes) : (bs : List (Expr × Expr)) →
    NoSubquery (branchExprs bs) → OnlyValues sc (branches bs sc)
  | [], _ => .nil
  | (c, r) :: bs, h => by
    simp only [branchExprs, noSubquery_append] at h
    exact ((onlyValues_expr .plain sc c h.1.1).append (onlyValues_expr .plain sc r h.1.2)).append
      (onlyValues_branches sc bs h.2)
lemma onlyValues_window (sc : Scopes) : (w : Option Window) → NoSubquery (windowExprs w) →
    OnlyValues sc (window w sc)
  | none, _ => .nil
  | some ⟨_, p, o, _⟩, h =>
    have h := noSubquery_append.mp h
    (onlyValues_exprs sc p h.1).append (onlyValues_order .plain sc o h.2)
lemma onlyValues_order (role : Role) (sc : Scopes) : (os : List OrderItem) →
    NoSubquery (orderExprs os) → OnlyValues sc (order role os sc)
  | [], _ => .nil
  | ⟨v, _, _⟩ :: os, h =>
    have h := noSubquery_append.mp h
    (onlyValues_expr role sc v h.1).append (onlyValues_order role sc os h.2)
end

lemma operandScopes_of_nil {s : Statement} (hw : s.operandWiths = []) (sc : Scopes) :
    Walk.operandScopes s sc = sc := by
  simp [Walk.operandScopes, hw]

lemma operandWiths_of_nil (sc : Scopes) : (s : Statement) → s.operandWiths = [] →
    operandWiths s sc = []
  | .select ⟨w, _, _, _, _, _, _, _, _, _, _⟩, hw => by
    obtain rfl : w = none := by simpa [Statement.operandWiths] using hw
    simp [operandWiths, withClause]
  | .setOp ⟨l, _, _, r, _, _, _⟩, hw => by
    obtain ⟨hl, hr⟩ := List.append_eq_nil_iff.mp (by simpa [Statement.operandWiths] using hw)
    simp [operandWiths, operandWiths_of_nil _ l hl, operandWiths_of_nil _ r hr]
  | .values _, _ | .insert _, _ | .createTable _, _ | .update _, _ | .delete _, _ => by
    simp [operandWiths]

/-- A set operation without hoisted clauses: its operands are walked one after the other from where
it stands. -/
lemma statement_setOp {b : SetOperation} (hw : (Statement.setOp b).operandWiths = [])
    (asOperand : Bool) (sc : Scopes) :
    statement asOperand (.setOp b) sc = .statement (.setOp b) sc ::
      (statement true b.left sc ++ statement true b.right sc ++ order .plain b.orderBy sc ++
        option b.limit sc ++ option b.offset sc) := by
  obtain ⟨l, op, a, r, o, m, k⟩ := b
  obtain ⟨hl, hr⟩ := List.append_eq_nil_iff.mp (by simpa [Statement.operandWiths] using hw)
  cases asOperand <;>
    simp [statement, operandWiths_of_nil _ _ hl, operandWiths_of_nil _ _ hr,
      operandScopes_of_nil hl, operandScopes_of_nil hr, leaves]

/-- A query without hoisted clauses is walked as an operand just as it is on its own. -/
lemma statement_operand {s : Statement} (hq : s.isQuery) (hw : s.operandWiths = []) (sc : Scopes) :
    statement true s sc = statement false s sc := by
  cases s with
  | select s =>
    obtain ⟨w, d, is, fs, js, f, g, h, o, l, k⟩ := s
    obtain rfl : w = none := by simpa [Statement.operandWiths] using hw
    simp [statement, withClause]
  | setOp b => rw [statement_setOp hw, statement_setOp hw]
  | values v =>
    cases v
    rfl
  | insert _ | createTable _ | update _ | delete _ => simp [Statement.isQuery] at hq

end Tour

namespace Report

open SchemaState

/-- Frames of queries. -/
def openQueries (frames : List Frame) : Nat := frames.countP (·.kind == .query)

/-- No query is open after reports that nest, so there are no aliases left. -/
lemma foldl_openAliases {es : List Event} {frames : List Frame} {aliases : List (List String)}
    (hn : Nests frames es)
    (hs : ∀ s sc, .select s sc ∈ es → ∃ below, sc = .query s.sources :: below)
    (hlen : aliases.length = openQueries frames) :
    es.foldl Event.openAliases aliases = [] := by
  induction es generalizing frames aliases with
  | nil =>
    obtain rfl : frames = [] := hn
    exact List.length_eq_zero_iff.mp hlen
  | cons e es ih =>
    have hrest : ∀ s sc, .select s sc ∈ es → ∃ below, sc = .query s.sources :: below :=
      fun s sc h => hs s sc (List.mem_cons_of_mem _ h)
    rw [List.foldl_cons]
    cases e with
    | enter kind sc =>
      obtain ⟨f, rfl, -, hn⟩ := hn
      refine ih hn hrest ?_
      cases f <;> simp [Event.openAliases, openQueries, Frame.kind, hlen]
    | leave kind sc =>
      obtain ⟨f, below, rfl, rfl, -, hn⟩ := hn
      refine ih hn hrest ?_
      cases f <;> simp_all [Event.openAliases, openQueries, Frame.kind]
    | select s sc =>
      obtain ⟨below, rfl⟩ := hs s sc List.mem_cons_self
      obtain ⟨rfl, hn⟩ := hn
      refine ih hn hrest ?_
      simp_all [Event.openAliases, openQueries, Frame.kind, Event.scopes, Frame.base]
    | statement _ _ | table _ _ _ | endTable _ _ | source _ _ | value _ _ _ =>
      exact ih hn.2 hrest hlen

lemma aliases_collected (resolver : Option ColumnResolver) (s : Statement) :
    (collected resolver s).aliases = [] := by
  rw [collected, (becomes_run resolver s.trace.reverse {}).aliases]
  have hnests : Nests [] s.trace.reverse := (s.threads_walk _).nests
  exact foldl_openAliases hnests
    (fun sel sc h => Tour.followed_of_mem_trace (List.mem_reverse.mp h)) rfl

/-- Two states in the middle of walks that go on alike: the first has met the failure `f` before,
if there was one, and their entries are in a relation. -/
structure Tracks (T : List (String × List String) → List (String × List String) → Prop)
    (f : Option Error) (st st' : SchemaState) : Prop where
  aliases : st.aliases = st'.aliases
  failure : st.failure = (f <|> st'.failure)
  tables : T st.tables st'.tables

namespace Tracks

variable {T : List (String × List String) → List (String × List String) → Prop}
  {f : Option Error} {st st' : SchemaState}

lemma fail (h : Tracks T f st st') (e : Error) : Tracks T f (st.fail e) (st'.fail e) where
  aliases := h.aliases
  failure := by
    simp only [SchemaState.fail, h.failure]
    cases f <;> cases st'.failure <;> rfl
  tables := h.tables

variable (hT : ∀ key columns ts ts', T ts ts' → T (touch key columns ts) (touch key columns ts'))
include hT

lemma record (h : Tracks T f st st') (schema : Option String) (name : String)
    (columns : List String) :
    Tracks T f (st.record schema name columns) (st'.record schema name columns) :=
  ⟨h.aliases, h.failure, hT _ _ _ _ h.tables⟩

lemma recordIn (h : Tracks T f st st') (r : Relation) (column : String) :
    Tracks T f (st.recordIn r column) (st'.recordIn r column) := by
  cases r with
  | physical schema name => exact h.record hT schema name [column]
  | _ => exact h

lemma bareColumn (h : Tracks T f st st') (x : Outlook) (name : String) :
    Tracks T f (SchemaState.bareColumn x name st) (SchemaState.bareColumn x name st') := by
  unfold SchemaState.bareColumn
  split
  · exact h
  · exact h.recordIn hT _ name
  · split
    · exact h.recordIn hT _ name
    · exact h.fail _
    · exact h.fail _

lemma column (h : Tracks T f st st') (x : Outlook) (role : Role) (qualifier : Option String)
    (name : String) :
    Tracks T f (SchemaState.column x role qualifier name st)
      (SchemaState.column x role qualifier name st') := by
  unfold SchemaState.column
  split
  · split
    · exact h.recordIn hT _ name
    · exact h
  · rw [isAliasReference, isAliasReference, h.aliases]
    split
    · exact h
    · exact h.bareColumn hT x name

lemma wildcardOver (h : Tracks T f st st') (x : Outlook) (r : ResolvedSource) :
    (∃ next next', SchemaState.wildcardOver x st r = .ok next ∧
      SchemaState.wildcardOver x st' r = .ok next' ∧ Tracks T f next next') ∨
    ∃ e, SchemaState.wildcardOver x st r = .error e ∧
      SchemaState.wildcardOver x st' r = .error e := by
  unfold SchemaState.wildcardOver
  split
  · next schema name _ =>
    cases x.physical schema name r.source.referenceName with
    | error e => exact .inr ⟨e, rfl, rfl⟩
    | ok columns => exact .inl ⟨_, _, rfl, rfl, h.record hT schema name columns⟩
  · exact .inl ⟨_, _, rfl, rfl, h⟩

lemma foldlM (h : Tracks T f st st') (x : Outlook) (rs : List ResolvedSource) :
    (∃ next next', rs.foldlM (SchemaState.wildcardOver x) st = .ok next ∧
      rs.foldlM (SchemaState.wildcardOver x) st' = .ok next' ∧ Tracks T f next next') ∨
    ∃ e, rs.foldlM (SchemaState.wildcardOver x) st = .error e ∧
      rs.foldlM (SchemaState.wildcardOver x) st' = .error e := by
  induction rs generalizing st st' with
  | nil => exact .inl ⟨st, st', rfl, rfl, h⟩
  | cons r rs ih =>
    rw [List.foldlM_cons, List.foldlM_cons]
    rcases h.wildcardOver hT x r with ⟨next, next', hr, hr', hnext⟩ | ⟨e, hr, hr'⟩
    · rw [hr, hr']
      exact ih hnext
    · exact .inr ⟨e, by rw [hr]; rfl, by rw [hr']; rfl⟩

lemma wildcards (h : Tracks T f st st') (x : Outlook) (is : List SelectItem) :
    Tracks T f (SchemaState.wildcards x st is) (SchemaState.wildcards x st' is) := by
  induction is generalizing st st' with
  | nil => exact h
  | cons i is ih =>
    rw [SchemaState.wildcards, SchemaState.wildcards, wildcardItem_eq, wildcardItem_eq]
    rcases h.foldlM hT x (starred x [i]) with ⟨next, next', hi, hi', hnext⟩ | ⟨e, hi, hi'⟩
    · rw [hi, hi']
      exact ih hnext
    · rw [hi, hi']
      exact h.fail e

/-- A report does to both states the same. -/
lemma step (h : Tracks T f st st') (resolver : Option ColumnResolver) (e : Event) :
    Tracks T f (SchemaState.step resolver st e) (SchemaState.step resolver st' e) := by
  cases e with
  | enter kind sc | leave kind sc =>
    cases kind with
    | query => exact ⟨by simp [SchemaState.step, h.aliases], h.failure, h.tables⟩
    | _ => exact h
  | statement s sc =>
    cases s with
    | insert i => exact h.record hT i.table.schema i.table.name i.columns
    | update u =>
      rw [step_update, step_update]
      split
      · exact h.record hT _ _ _
      · exact h
    | _ => exact h
  | select s sc =>
    have hopen : Tracks T f
        { st with aliases := s.items.filterMap SelectItem.aliasName :: st.aliases.tail }
        { st' with aliases := s.items.filterMap SelectItem.aliasName :: st'.aliases.tail } :=
      ⟨by rw [h.aliases], h.failure, h.tables⟩
    exact hopen.wildcards hT _ s.items
  | source x sc =>
    simp only [SchemaState.step]
    split
    · exact h.record hT _ _ []
    · exact h
  | value role x sc =>
    cases x with
    | column qualifier name => exact h.column hT _ role qualifier name
    | _ => exact h
  | table _ _ _ | endTable _ _ => exact h

lemma run (h : Tracks T f st st') (resolver : Option ColumnResolver) (es : List Event) :
    Tracks T f (es.foldl (SchemaState.step resolver) st)
      (es.foldl (SchemaState.step resolver) st') := by
  induction es generalizing st st' with
  | nil => exact h
  | cons e es ih => exact ih (h.step hT resolver e)

end Tracks

/-- The first entries are those of the second and the third together. -/
structure Joins (us ts ts' : List (String × List String)) : Prop where
  keys : ∀ key, key ∈ ts.map (·.1) ↔ key ∈ us.map (·.1) ∨ key ∈ ts'.map (·.1)
  holds : ∀ key c, Holds ts key c ↔ Holds us key c ∨ Holds ts' key c

lemma Joins.touch {us ts ts' : List (String × List String)} (h : Joins us ts ts') (key : String)
    (columns : List String) :
    Joins us (Report.touch key columns ts) (Report.touch key columns ts') where
  keys k := by rw [mem_keys_touch, mem_keys_touch, h.keys, or_left_comm]
  holds k c := by rw [holds_touch, holds_touch, h.holds, or_left_comm]

/-- Columns in increasing order. -/
def Ordered (ts : List (String × List String)) : Prop := ∀ t ∈ ts, t.2.Pairwise (· < ·)

lemma pairwise_insertColumn {cs : List String} (h : cs.Pairwise (· < ·)) (column : String) :
    (insertColumn column cs).Pairwise (· < ·) := by
  induction cs with
  | nil => simp [insertColumn]
  | cons c cs ih =>
    obtain ⟨hc, hcs⟩ := List.pairwise_cons.mp h
    simp only [insertColumn]
    split
    · next hlt =>
      refine List.pairwise_cons.mpr ⟨?_, h⟩
      rintro d hd
      rcases List.mem_cons.mp hd with rfl | hd
      · exact hlt
      · exact hlt.trans (hc d hd)
    · next hnlt =>
      split
      · exact h
      · next hne =>
        refine List.pairwise_cons.mpr ⟨?_, ih hcs⟩
        intro d hd
        rcases mem_insertColumn.mp hd with rfl | hd
        · exact lt_of_le_of_ne (not_lt.mp hnlt) hne
        · exact hc d hd

lemma pairwise_foldl_insertColumn (columns : List String) {cs : List String}
    (h : cs.Pairwise (· < ·)) :
    (columns.foldl (fun cs c => insertColumn c cs) cs).Pairwise (· < ·) := by
  induction columns generalizing cs with
  | nil => exact h
  | cons c columns ih => exact ih (pairwise_insertColumn h c)

lemma Ordered.touch {ts : List (String × List String)} (h : Ordered ts) (key : String)
    (columns : List String) : Ordered (Report.touch key columns ts) := by
  induction ts with
  | nil => simpa [Report.touch, Ordered] using pairwise_foldl_insertColumn columns .nil
  | cons t ts ih =>
    obtain ⟨k, cs⟩ := t
    obtain ⟨hcs, hts⟩ := List.forall_mem_cons.mp h
    simp only [Report.touch]
    split
    · exact List.forall_mem_cons.mpr ⟨pairwise_foldl_insertColumn columns .nil, h⟩
    · split
      · exact List.forall_mem_cons.mpr ⟨pairwise_foldl_insertColumn columns hcs, hts⟩
      · exact List.forall_mem_cons.mpr ⟨hcs, ih hts⟩

section
variable {resolver : Option ColumnResolver} {s : Statement}

lemma ordered_collected : Ordered (collected resolver s).tables := by
  have hempty : Tracks (fun ts _ => Ordered ts) none {} {} := ⟨rfl, rfl, nofun⟩
  exact (hempty.run (fun key columns _ _ h => h.touch key columns) resolver s.trace.reverse).tables

lemma schemas_eq_error_iff {e : Error} :
    schemas resolver s = .error e ↔ (collected resolver s).failure = some e := by
  simp only [schemas, collected]
  cases (s.trace.reverse.foldl (step resolver) {}).failure <;> simp

/-- Values read from outside of every query add nothing. -/
lemma foldl_of_onlyValues {es : List Event} (h : OnlyValues [] es) (st : SchemaState) :
    es.foldl (step resolver) st = st := by
  induction es with
  | nil => rfl
  | cons e es ih =>
    obtain ⟨⟨role, x, rfl⟩, hes⟩ := List.forall_mem_cons.mp h
    have hidle : step resolver st (.value role x []) = st := by
      cases x with
      | column qualifier name =>
        cases qualifier <;>
          simp [step, column, Scopes.resolveQualifier, bareColumn, Scopes.currentSources]
      | _ => rfl
    rw [List.foldl_cons, hidle, ih hes]

/-- What has been collected from the first operand is gone on with over the second. -/
lemma collected_setOp {b : SetOperation} (hl : b.left.isQuery) (hr : b.right.isQuery)
    (hw : (Statement.setOp b).operandWiths = [])
    (ht : NoSubquery (orderExprs b.orderBy ++ optionExprs b.limit ++ optionExprs b.offset)) :
    collected resolver (.setOp b) =
      b.right.trace.reverse.foldl (step resolver) (collected resolver b.left) := by
  have hwiths : b.left.operandWiths ++ b.right.operandWiths = [] := by
    obtain ⟨l, op, a, r, o, m, k⟩ := b
    simpa [Statement.operandWiths] using hw
  obtain ⟨hwl, hwr⟩ := List.append_eq_nil_iff.mp hwiths
  simp only [noSubquery_append] at ht
  have horder := Tour.onlyValues_order .plain [] b.orderBy ht.1.1
  have hlimit := Tour.onlyValues_option [] b.limit ht.1.2
  have hoffset := Tour.onlyValues_option [] b.offset ht.2
  simp only [collected, Tour.trace_reverse, Tour.statement_setOp hw,
    Tour.statement_operand hl hwl, Tour.statement_operand hr hwr, List.foldl_cons,
    List.foldl_append, foldl_of_onlyValues horder, foldl_of_onlyValues hlimit,
    foldl_of_onlyValues hoffset]
  rfl

/-- Both operands give what they give on their own. -/
lemma tracks_setOp {b : SetOperation} (hl : b.left.isQuery) (hr : b.right.isQuery)
    (hw : (Statement.setOp b).operandWiths = [])
    (ht : NoSubquery (orderExprs b.orderBy ++ optionExprs b.limit ++ optionExprs b.offset)) :
    Tracks (Joins (collected resolver b.left).tables) (collected resolver b.left).failure
      (collected resolver (.setOp b)) (collected resolver b.right) := by
  rw [collected_setOp hl hr hw ht]
  have hstart : Tracks (Joins (collected resolver b.left).tables)
      (collected resolver b.left).failure (collected resolver b.left) {} :=
    ⟨aliases_collected resolver b.left, by simp, ⟨by simp, by simp [Holds]⟩⟩
  exact hstart.run (fun key columns _ _ h => h.touch key columns) resolver b.right.trace.reverse

lemma names_schemas {ts : List TableSchema} (h : schemas resolver s = .ok ts) :
    ts.map (·.name) = (collected resolver s).tables.map (·.1) := by
  obtain ⟨-, rfl⟩ := schemas_eq_ok_iff.mp h
  simp [TableSchema.ofColumns, Function.comp_def]

lemma columns_schemas_iff_holds {ts : List TableSchema} (h : schemas resolver s = .ok ts)
    (key c : String) :
    (∃ t ∈ ts, t.name = key ∧ c ∈ t.columns) ↔ Holds (collected resolver s).tables key c := by
  obtain ⟨-, rfl⟩ := schemas_eq_ok_iff.mp h
  simp [TableSchema.ofColumns, Holds]

end

/-- **Schemas of a set operation.** Where neither the operands hoist a WITH clause nor the ORDER BY,
LIMIT and OFFSET of the operation hold a query, the collection fails with the error of the first
operand that fails on its own. Otherwise it finds the tables of both operands, in increasing order,
each with its columns from both, in increasing order too. -/
theorem schemas_setOp (resolver : Option ColumnResolver) {b : SetOperation}
    (hl : b.left.isQuery) (hr : b.right.isQuery) (hw : (Statement.setOp b).operandWiths = [])
    (ht : NoSubquery (orderExprs b.orderBy ++ optionExprs b.limit ++ optionExprs b.offset)) :
    (∀ e, schemas resolver (.setOp b) = .error e ↔ schemas resolver b.left = .error e ∨
      (∃ ls, schemas resolver b.left = .ok ls) ∧ schemas resolver b.right = .error e) ∧
    ∀ ts, schemas resolver (.setOp b) = .ok ts → ∃ ls rs,
      schemas resolver b.left = .ok ls ∧ schemas resolver b.right = .ok rs ∧
      (ts.map (·.name)).Pairwise (· < ·) ∧ (∀ t ∈ ts, t.columns.Pairwise (· < ·)) ∧
      (∀ key, key ∈ ts.map (·.name) ↔ key ∈ ls.map (·.name) ∨ key ∈ rs.map (·.name)) ∧
      ∀ t ∈ ts, ∀ c, c ∈ t.columns ↔ ∃ u ∈ ls ++ rs, u.name = t.name ∧ c ∈ u.columns := by
  have htracks := @tracks_setOp resolver b hl hr hw ht
  refine ⟨fun e => ?_, fun ts hts => ?_⟩
  · rw [schemas_eq_error_iff, schemas_eq_error_iff, schemas_eq_error_iff, exists_schemas_iff,
      htracks.failure]
    cases (collected resolver b.left).failure <;> simp
  · obtain ⟨hf, rfl⟩ := schemas_eq_ok_iff.mp hts
    have hsides := htracks.failure.symm
    rw [hf, Option.orElse_eq_orElse, Option.orElse_eq_or, Option.or_eq_none_iff] at hsides
    obtain ⟨ls, hls⟩ := exists_schemas_iff.mpr hsides.1
    obtain ⟨rs, hrs⟩ := exists_schemas_iff.mpr hsides.2
    have hsorted := (gains_collected hf).sorted .nil
    refine ⟨ls, rs, hls, hrs, ?_, ?_, fun key => ?_, ?_⟩
    · rw [names_schemas hts]
      exact hsorted
    · simp only [List.forall_mem_map]
      exact fun t hm => (ordered_collected t hm).sublist (Text.distinct_sublist t.2)
    · rw [names_schemas hts, names_schemas hls, names_schemas hrs, htracks.tables.keys]
    · simp only [List.forall_mem_map]
      rintro ⟨name, columns⟩ hm c
      simp only [TableSchema.ofColumns, Text.mem_distinct, List.mem_append, or_and_right,
        exists_or]
      rw [hsorted.mem_iff_holds hm, htracks.tables.holds, columns_schemas_iff_holds hls,
        columns_schemas_iff_holds hrs]

/-- Two selects of one table, the second with a column of another table. -/
theorem schemas_setOp_shared :
    let read (froms : List Source) (column : Expr) : Statement :=
      .select { items := [{ value := column }], froms := froms }
    let b : SetOperation :=
      { left := read [.table none "t" none] (.column (some "t") "b")
        op := .union
        right := read [.table none "t" none, .table none "s" none] (.column (some "t") "a")
        limit := some (.literal (.number "1")) }
    b.left.isQuery ∧ b.right.isQuery ∧ (Statement.setOp b).operandWiths = [] ∧
      NoSubquery (orderExprs b.orderBy ++ optionExprs b.limit ++ optionExprs b.offset) ∧
      schemas none (.setOp b) = .ok [⟨"s", []⟩, ⟨"t", ["a", "b"]⟩] ∧
      ∃ ls rs, schemas none b.left = .ok ls ∧ schemas none b.right = .ok rs ∧
        (∃ u ∈ ls ++ rs, u.name = "t" ∧ "a" ∈ u.columns) := by
  intro read b
  have ht : NoSubquery (orderExprs b.orderBy ++ optionExprs b.limit ++ optionExprs b.offset) := by
    simp [b, orderExprs, optionExprs, Expr.exprs, NoSubquery, Expr.query?]
  have hw : (Statement.setOp b).operandWiths = [] := by
    simp [b, read, Statement.operandWiths]
  have hs : schemas none (.setOp b) = .ok [⟨"s", []⟩, ⟨"t", ["a", "b"]⟩] := by
    simp only [b, read]
    rfl
  obtain ⟨ls, rs, hls, hrs, -, -, -, hcolumns⟩ := (schemas_setOp none rfl rfl hw ht).2 _ hs
  exact ⟨rfl, rfl, hw, ht, hs, ls, rs, hls, hrs,
    (hcolumns ⟨"t", ["a", "b"]⟩ (by simp) "a").mp (by simp)⟩

end Report

end SqlLoom
