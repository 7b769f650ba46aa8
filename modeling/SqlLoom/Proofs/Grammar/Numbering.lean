import Mathlib.Tactic.Lemma
import SqlLoom.Grammar.Denote
import SqlLoom.Proofs.Grammar.Sweep

/-! Placeholders without a name get a number as they are read. A statement stands for the same when
each of them is written with that number as its name. -/
namespace SqlLoom.Grammar

/-- The tree with its placeholders numbered on from a count, and the count behind it. -/
abbrev Numbering (α : Type) := Nat → α × Nat

namespace Numbering

/-- A number in place of `?`. -/
def name (n : Nat) : String := ":p" ++ toString n

/-- Numbers in the order in which the placeholders are written. -/
def written : Sweep Numbering where
  still x := fun n => (x, n)
  map f a := fun n => (f (a n).1, (a n).2)
  both a b := fun n => (((a n).1, (b (a n).2).1), (b (a n).2).2)
  crossed a b := fun n => (((a n).1, (b (a n).2).1), (b (a n).2).2)
  placeholder := fun n => (name (n + 1), n + 1)

/-- Numbers in the order in which the placeholders are read. -/
def asRead : Sweep Numbering :=
  { written with crossed := fun a b n => (((a (b n).2).1, (b n).1), (a (b n).2).2) }

open Denote

section
variable {α α' β γ δ ι : Type}

/-- The count plays no part, and all give the same or fail. -/
def Alike (p : ι → Denotation β) : Prop :=
  ∃ o : Option β, ∀ i k, ((p i).run k).toOption = o.map (·, k)

abbrev Steady (d : Denotation β) : Prop := Alike fun _ : Unit => d

lemma toOption_bind (d : Denotation β) (k : β → Denotation γ) (n : Nat) :
    ((d >>= k).run n).toOption = (d.run n).toOption.bind fun r => ((k r.1).run r.2).toOption := by
  rw [StateT.run_bind]
  cases d.run n <;> rfl

namespace Alike

lemma alike {d : Denotation β} (h : Steady d) : Alike fun _ : ι => d := by
  obtain ⟨o, ho⟩ := h
  exact ⟨o, fun _ => ho ()⟩

lemma pure (x : β) : Steady (Pure.pure x) := ⟨some x, fun _ _ => rfl⟩

lemma throw (e : Error) : Steady (MonadExcept.throw e : Denotation β) := ⟨none, fun _ _ => rfl⟩

lemma lift (r : Result β) : Steady (liftM r) := by
  cases r with
  | ok x => exact pure x
  | error e => exact throw e

lemma bind {d : Denotation β} {k : β → Denotation γ} (h : Steady d) (hk : ∀ x, Steady (k x)) :
    Steady (d >>= k) := by
  obtain ⟨o, ho⟩ := h
  cases o with
  | none => exact ⟨none, fun _ n => by rw [toOption_bind, ho () n]; rfl⟩
  | some x =>
    obtain ⟨u, hu⟩ := hk x
    exact ⟨u, fun _ n => by rw [toOption_bind, ho () n]; exact hu () n⟩

end Alike

/-- What is read from a count is read from every count, and the count is kept, where the
placeholders are written with their numbers. -/
def Reads (d : Denotation β) (a : Numbering α) (f : α → Denotation β) : Prop :=
  ∀ n, ∃ o : Option β, (d.run n).toOption = o.map (·, (a n).2) ∧
    ∀ k, ((f (a n).1).run k).toOption = o.map (·, k)

namespace Reads

variable {d : Denotation β} {a : Numbering α} {f : α → Denotation β}

lemma still {x : α} (h : Steady (f x)) : Reads (f x) (asRead.still x) f := by
  obtain ⟨o, ho⟩ := h
  exact fun n => ⟨o, ho () n, ho ()⟩

lemma map {g : α' → α} {a : Numbering α'} (h : Reads d a fun x => f (g x)) :
    Reads d (asRead.map g a) f := h

lemma congr {g : α → Denotation β} (h : Reads d a f) (hg : ∀ n, g (a n).1 = f (a n).1) :
    Reads d a g := by
  intro n
  rw [hg]
  exact h n

lemma fail (hd : ∃ e, d = throw e) (hf : ∀ x, ∃ e, f x = throw e) : Reads d a f := by
  intro n
  obtain ⟨e, rfl⟩ := hd
  obtain ⟨e', he'⟩ := hf (a n).1
  exact ⟨none, rfl, fun k => by rw [he']; rfl⟩

lemma seq {d' : β → Denotation γ} {b : Numbering α'} {f' : β → α' → Denotation γ}
    (h : Reads d a f) (h' : ∀ x, Reads (d' x) b (f' x)) :
    Reads (d >>= d') (asRead.both a b) fun p => f p.1 >>= fun x => f' x p.2 := by
  intro n
  obtain ⟨o, ho, ho'⟩ := h n
  have hf : ∀ k, ((f (asRead.both a b n).1.1).run k).toOption = o.map (·, k) := ho'
  cases o with
  | none =>
    refine ⟨none, ?_, fun k => ?_⟩
    · rw [toOption_bind, ho]
      rfl
    · rw [toOption_bind, hf]
      rfl
  | some x =>
    obtain ⟨u, hu, hu'⟩ := h' x (a n).2
    refine ⟨u, ?_, fun k => ?_⟩
    · rw [toOption_bind, ho]
      exact hu
    · rw [toOption_bind, hf]
      exact hu' k

/-- The placeholders of the part that is read first get the lower numbers. -/
lemma crossed {b : Numbering α'} {c : Numbering ι} {d' : β → Denotation γ}
    {f' : β → α' → Denotation γ} {d'' : β → γ → Denotation δ} {f'' : β → γ → ι → Denotation δ}
    (h : Reads d a f) (h' : ∀ x, Reads (d' x) b (f' x)) (h'' : ∀ x y, Reads (d'' x y) c (f'' x y)) :
    Reads (d >>= fun x => d' x >>= d'' x) (asRead.both (asRead.crossed b a) c)
      fun p => f p.1.2 >>= fun x => f' x p.1.1 >>= fun y => f'' x y p.2 :=
  h.seq fun x => (h' x).seq (h'' x)

lemma andThen {k : β → Denotation γ} (h : Reads d a f) (hk : ∀ x, Steady (k x)) :
    Reads (d >>= k) a fun x => f x >>= k := by
  intro n
  obtain ⟨o, ho, ho'⟩ := h n
  cases o with
  | none =>
    refine ⟨none, ?_, fun k => ?_⟩
    · rw [toOption_bind, ho]
      rfl
    · rw [toOption_bind, ho']
      rfl
  | some x =>
    obtain ⟨u, hu⟩ := hk x
    refine ⟨u, ?_, fun k => ?_⟩
    · rw [toOption_bind, ho]
      exact hu () _
    · rw [toOption_bind, ho']
      exact hu () k

lemma result {g : β → γ} (h : Reads d a f) :
    Reads (d >>= fun x => pure (g x)) a fun x => f x >>= fun y => pure (g y) :=
  h.andThen fun _ => .pure _

lemma after {p : α → Denotation δ} {d : δ → Denotation β} {f : δ → α → Denotation β}
    (hp : Alike p) (x : α) (h : ∀ t, Reads (d t) a (f t)) :
    Reads (p x >>= d) a fun y => p y >>= fun t => f t y := by
  intro n
  obtain ⟨o, ho⟩ := hp
  cases o with
  | none =>
    refine ⟨none, ?_, fun k => ?_⟩ <;>
    · rw [toOption_bind, ho]
      rfl
  | some t =>
    obtain ⟨u, hu, hu'⟩ := h t n
    refine ⟨u, ?_, fun k => ?_⟩
    · rw [toOption_bind, ho]
      exact hu
    · rw [toOption_bind, ho]
      exact hu' k

end Reads

end

lemma alike_joinType (op : JoinOperator) (nearest : Option Expr) :
    Alike fun x : (Factor × Constraint) × List Join => joinType op x.1.2 nearest := by
  cases op with
  | inner | leftOuter | rightOuter | fullOuter | cross => exact ⟨some _, fun _ _ => rfl⟩
  | _ => exact ⟨none, fun _ _ => rfl⟩

lemma steady_distinctness : (d : Option Distinct) → Steady (distinctness d)
  | none | some .plain => .pure _
  | some (.on _) => .throw _

lemma steady_keepsAll (q : Quantifier) : Steady (keepsAll q) := by
  cases q with
  | all | distinct | none => exact .pure _
  | _ => exact .throw _

/-- A number is the name of the parameter, with a letter in front. -/
lemma placeholderName_name (n : Nat) : placeholderName (name n) = pure ("p" ++ toString n) := by
  have hlist : (name n).toList = ':' :: 'p' :: (toString n).toList := by simp [name]
  have hmark : name n ≠ "?" := fun h => by simp [h] at hlist
  have hdrop : (name n).toList.dropWhile isSigil = 'p' :: (toString n).toList := by
    rw [hlist]
    rfl
  have hdigit : ('p' :: (toString n).toList).all (·.isDigit) = false := rfl
  simp only [placeholderName, if_neg hmark, hdrop, hdigit, Bool.and_false,
    if_neg Bool.false_ne_true]
  refine congrArg pure ?_
  rw [← String.toList_inj]
  simp

lemma reads_value (v : Value) : Reads (value v) (asRead.value v) value := by
  cases v with
  | placeholder s =>
    by_cases hs : s = "?"
    · subst hs
      intro n
      refine ⟨some (.parameter ("p" ++ toString (n + 1)) none), rfl, fun k => ?_⟩
      have hname : value (.placeholder (name (n + 1))) =
          pure (.parameter ("p" ++ toString (n + 1)) none) := by
        rw [value, placeholderName_name, pure_bind]
      exact congrArg (fun d => (StateT.run d k).toOption) hname
    · have hsweep : asRead.value (.placeholder s) = asRead.still (.placeholder s) := by
        rw [Sweep.value, if_neg hs]
        rfl
      rw [hsweep]
      refine .still ?_
      rw [value, placeholderName, if_neg hs]
      exact .bind (.pure _) fun _ => .pure _
  | string k s => cases k <;> exact .still (.pure _)
  | _ => exact .still (.pure _)

mutual

lemma reads_expr : (e : Expr) → Reads (expr e) (asRead.expr e) expr
  | .ident _ => .still (.pure _)
  | .compound _ => .still (.pure _)
  | .wildcard _ => .still (.pure _)
  | .qualifiedWildcard _ _ => .still (.pure _)
  | .value v => .map (reads_value v)
  | .binary l _ r =>
    .map (.seq (reads_expr l) fun _ => (reads_expr r).result)
  | .like e p _ _ _ none =>
    .map (.seq (reads_expr e) fun _ => (reads_expr p).result)
  | .like _ _ _ _ _ (some _) => .still (.pure _)
  | .unary _ e => .map (reads_expr e).result
  | .call c => .map (reads_call c)
  | .case o bs e =>
    .map (.crossed (reads_branches bs) (fun _ => reads_expr? o) fun _ _ =>
      (reads_expr? e).result)
  | .subquery q => .map (reads_query q).result
  | .exists q _ => .map (reads_query q).result
  | .inList e es _ =>
    .map (.seq (reads_expr e) fun _ => (reads_exprs es).result)
  | .inSubquery e q _ =>
    .map (.seq (reads_expr e) fun _ => (reads_query q).result)
  | .between e l h _ =>
    .map (.seq (reads_expr e) fun _ => .seq (reads_expr l) fun _ =>
      (reads_expr h).result)
  | .isNull e _ => .map (reads_expr e).result
  | .cast e _ _ _ _ => .map (reads_expr e).result
  | .nested e => .map (reads_expr e).result
  | .tuple es => .map (reads_exprs es).result
  | .array es _ => .map (reads_exprs es).result
  | .raw _ _ => .still (.pure _)

lemma reads_exprs : (es : List Expr) → Reads (exprs es) (asRead.exprs es) exprs
  | [] => .still (.pure _)
  | e :: es => .map (.seq (reads_expr e) fun _ => (reads_exprs es).result)

lemma reads_expr? : (e : Option Expr) → Reads (expr? e) (asRead.expr? e) expr?
  | some e => .map (reads_expr e).result
  | none => .still (.pure _)

lemma reads_branches : (bs : List (Expr × Expr)) →
    Reads (branches bs) (asRead.branches bs) branches
  | [] => .still (.pure _)
  | (c, r) :: bs =>
    .map (.seq (reads_expr c) fun _ => .seq (reads_expr r) fun _ =>
      (reads_branches bs).result)

lemma reads_call : (c : Call) → Reads (call c) (asRead.call c) call
  | ⟨_, _, _, .list _ as [], _, f, _, win⟩ =>
    .map (.seq (reads_args as) fun _ => .seq (reads_expr? f) fun _ =>
      (reads_window win).result)
  | ⟨_, _, _, .none, _, f, _, win⟩ =>
    .map (.seq (reads_expr? f) fun _ => (reads_window win).result)
  | ⟨_, _, _, .query q, _, f, _, win⟩ =>
    .map (.seq (reads_query q) fun _ => .seq (reads_expr? f) fun _ =>
      (reads_window win).result)
  | ⟨_, _, _, .list _ _ (_ :: _), _, _, _, _⟩ => .still (.pure _)

lemma reads_args : (as : List Arg) → Reads (args as) (asRead.args as) args
  | [] => .still (.pure _)
  | a :: as => .map (.seq (reads_arg a) fun _ => (reads_args as).result)

lemma reads_arg : (a : Arg) → Reads (arg a) (asRead.arg a) arg
  | .expr e => .map (reads_expr e)
  | .wildcard => .still (.pure _)
  | .qualified _ => .still (.pure _)
  | .named _ _ => .still (.pure _)

lemma reads_window : (w : Option Window) → Reads (window w) (asRead.window w) window
  | none => .still (.pure _)
  | some (.named _) => .still (.pure _)
  | some (.spec _ ps os _) =>
    .map (.seq (reads_exprs ps) fun _ => (reads_orderItems os).result)

lemma reads_orderItems : (os : List OrderItem) →
    Reads (orderItems os) (asRead.orderItems os) orderItems
  | [] => .still (.pure _)
  | ⟨e, _, _, _, _, _, _⟩ :: os =>
    .map (.seq (reads_expr e) fun _ => (reads_orderItems os).result)

lemma reads_selectItems : (is : List SelectItem) →
    Reads (selectItems is) (asRead.selectItems is) selectItems
  | [] => .still (.pure _)
  | .expr e _ :: is =>
    .map (.seq (reads_expr e) fun _ => (reads_selectItems is).result)
  | .wildcard _ _ :: is => .map (reads_selectItems is).result
  | .qualifiedWildcard _ _ _ :: is => .map (reads_selectItems is).result

lemma reads_factor : (r : Factor) → Reads (factor r) (asRead.factor r) factor
  | .table _ _ none _ _ _ => .still (.pure _)
  | .table _ _ (some ⟨as, _⟩) _ _ _ => .map (reads_args as).result
  | .derived _ q none => .map (reads_query q).result
  | .derived _ q (some _) => .map (reads_query q).result
  | .function e _ => .map ((reads_expr e).andThen fun e => by
      cases e with
      | call => exact .pure _
      | _ => exact .throw _)
  | .joined _ _ => .still (.throw _)
  | .other _ _ _ => .still (.throw _)

lemma reads_constraint : (c : Constraint) → Reads (constraint c) (asRead.constraint c) constraint
  | .on e => .map (reads_expr e).result
  | .using _ => .still (.pure _)
  | .natural => .still (.pure _)
  | .none => .still (.pure _)

lemma reads_joins : (js : List Join) → Reads (joins js) (asRead.joins js) joins
  | [] => .still (.pure _)
  | ⟨op, r, c, _, nearest⟩ :: js =>
    .map (.after (alike_joinType op nearest) ((r, c), js) fun _ =>
      .crossed (reads_constraint c) (fun _ => reads_factor r) fun _ _ => (reads_joins js).result)

lemma reads_tables : (ts : List TableWithJoins) → Reads (tables ts) (asRead.tables ts) tables
  | [] => .still (.pure _)
  | ⟨r, js⟩ :: ts =>
    .map (.seq (reads_factor r) fun _ => .seq (reads_joins js) fun _ =>
      (reads_tables ts).result)

lemma reads_grouping : (g : GroupBy) → Reads (grouping g) (asRead.grouping g) grouping
  | .exprs es _ => .map (reads_exprs es)
  | .all _ => .still (.throw _)

lemma reads_select : (s : Select) → Reads (select s) (asRead.select s) select
  | ⟨_, d, _, is, _, ts, _, f, g, _, h, windowed, _⟩ =>
    .map (.after (steady_distinctness d).alike (is, ts, f, g, h) fun _ => by
      cases windowed with
      | true => exact .fail ⟨_, rfl⟩ fun _ => ⟨_, rfl⟩
      | false =>
        exact .seq (reads_selectItems is) fun _ => .seq (reads_tables ts) fun _ =>
          .seq (reads_expr? f) fun _ => .seq (reads_grouping g) fun _ => (reads_expr? h).result)

lemma reads_rows : (rs : List (List Expr)) → Reads (rows rs) (asRead.rows rs) rows
  | [] => .still (.pure _)
  | r :: rs => .map (.seq (reads_exprs r) fun _ => (reads_rows rs).result)

lemma reads_setExpr : (b : SetExpr) → Reads (setExpr b) (asRead.setExpr b) setExpr
  | .select s => .map (reads_select s).result
  | .query q => .map (reads_query q)
  | .setOp l _ quantifier r =>
    .map (.after (steady_keepsAll quantifier).alike (l, r) fun _ =>
      .seq (reads_setExpr l) fun _ => (reads_setExpr r).result)
  | .values _ rs => .map (reads_rows rs).result
  | .other _ => .still (.throw _)

lemma reads_commonTables : (ts : List CommonTable) →
    Reads (commonTables ts) (asRead.commonTables ts) commonTables
  | [] => .still (.pure _)
  | ⟨_, _, q, _, _⟩ :: ts =>
    .map (.seq (reads_query q) fun _ => (reads_commonTables ts).result)

lemma reads_withClause : (c : Option With) → Reads (withClause c) (asRead.withClause c) withClause
  | none => .still (.pure _)
  | some ⟨_, _, ts⟩ =>
    .map ((reads_commonTables ts).andThen fun _ => .bind (.lift _) fun _ => .pure _)

lemma reads_query : (q : Query) → Reads (query q) (asRead.query q) query
  | ⟨c, b, os, _, l, o, _, _⟩ =>
    .map (.seq (reads_withClause c) fun _ => .seq (reads_setExpr b) fun _ =>
      .seq (reads_orderItems os) fun _ => .seq (reads_expr? l) fun _ =>
        (reads_expr? o).andThen fun _ => .bind (.lift _) fun _ => by
          split
          · exact .lift _
          · exact .pure _)

end

lemma reads_plainSource : (b : SetExpr) → Reads (plainSource b) (asRead.setExpr b) plainSource
  | .select s => (reads_setExpr (.select s)).result
  | .query q => (reads_setExpr (.query q)).result
  | .setOp l op quantifier r => (reads_setExpr (.setOp l op quantifier r)).result
  | .values _ rs => .map (reads_rows rs).result
  | .other text => (reads_setExpr (.other text)).result

/-- Numbers do not add clauses and do not take any away. -/
lemma isPlain_query (q : Query) (n : Nat) : (asRead.query q n).1.isPlain = q.isPlain := by
  obtain ⟨w, b, os, i, l, o, unit, tail⟩ := q
  have hw : ∀ n, (asRead.withClause w n).1.isNone = w.isNone := fun _ =>
    match w with
    | none => rfl
    | some ⟨_, _, _⟩ => rfl
  have hos : ∀ n, (asRead.orderItems os n).1.isEmpty = os.isEmpty := fun _ =>
    match os with
    | [] => rfl
    | ⟨_, _, _, _, _, _, _⟩ :: _ => rfl
  have hl : ∀ n, (asRead.expr? l n).1.isNone = l.isNone := fun _ =>
    match l with
    | none => rfl
    | some _ => rfl
  have hquery : (asRead.query ⟨w, b, os, i, l, o, unit, tail⟩ n).1.isPlain =
      ((asRead.withClause w n).1.isNone && (asRead.orderItems os _).1.isEmpty &&
        (asRead.expr? l _).1.isNone) := rfl
  rw [hquery, hw, hos, hl]
  rfl

lemma reads_insertSource : (q : Option Query) →
    Reads (insertSource q) (asRead.insertSource q) insertSource
  | none => .still (.pure _)
  | some q => by
    rw [insertSource_some, Sweep.insertSource]
    split
    next hq =>
      refine .map ((reads_plainSource q.body).congr fun n => ?_)
      rw [insertSource_some]
      exact if_pos hq
    next hq =>
      refine .map ((reads_query q).result.congr fun n => ?_)
      rw [insertSource_some, isPlain_query, if_neg hq]

lemma reads_inserted (table : QualifiedName) (columns : List String) (returning : List SelectItem)
    (taken : List (List SqlLoom.Expr) × Option SqlLoom.Statement) :
    Reads (inserted table columns returning taken) (asRead.selectItems returning)
      fun returning => inserted table columns returning taken :=
  .after (Alike.lift _).alike returning fun _ => (reads_selectItems returning).result

lemma reads_insert : (i : Insert) → Reads (insert i) (asRead.insert i) insert
  | ⟨_, table, _, columns, _, source, _, returning⟩ => by
    rw [insert_eq]
    exact .map (.congr (.seq (reads_insertSource source) fun taken =>
      reads_inserted (qualifiedName table) (columns.map (·.value)) returning taken) fun _ =>
        insert_eq _)

lemma reads_assignments : (as : List Assignment) →
    Reads (assignments as) (asRead.assignments as) assignments
  | [] => .still (.pure _)
  | ⟨_, e⟩ :: as => .map (.seq (reads_expr e) fun _ => (reads_assignments as).result)

lemma reads_update : (u : Update) → Reads (update u) (asRead.update u) update
  | ⟨_, ⟨_, _⟩, _, some _, _, _⟩ => by
    refine .map (.fail ?_ fun _ => ?_) <;> exact ⟨_, rfl⟩
  | ⟨_, ⟨r, _⟩, as, none, f, returning⟩ =>
    .map (.seq (reads_factor r) fun _ => .seq (reads_assignments as) fun _ =>
      .seq (reads_expr? f) fun _ => (reads_selectItems returning).result)

lemma reads_sources : (ts : List TableWithJoins) → Reads (sources ts) (asRead.sources ts) sources
  | [] => .still (.pure _)
  | ⟨r, _⟩ :: ts => .map (.seq (reads_factor r) fun _ => (reads_sources ts).result)

lemma reads_delete : (d : Delete) → Reads (delete d) (asRead.delete d) delete
  | ⟨[], _, _, _⟩ => .still (.throw _)
  | ⟨⟨r, _⟩ :: _, usings, f, returning⟩ =>
    .map (.seq (reads_factor r) fun _ => .seq (reads_sources usings) fun _ =>
      .seq (reads_expr? f) fun _ => (reads_selectItems returning).result)

lemma reads_createTable : (c : CreateTable) →
    Reads (createTable c) (asRead.createTable c) createTable
  | ⟨_, _, _, _, _, some q⟩ => .map (((reads_query q).result (g := some)).andThen fun _ => .pure _)
  | ⟨_, _, _, _, _, none⟩ => .still (.pure _)

/-- What a statement stands for is unchanged when every placeholder is written with its number. -/
lemma reads_statement : (t : Statement) → Reads (statement t) (asRead.statement t) statement
  | .query q => .map (reads_query q)
  | .insert i => .map (reads_insert i)
  | .update u => .map (reads_update u)
  | .delete d => .map (reads_delete d)
  | .createTable c => .map (reads_createTable c)
  | .other _ => .still (.throw _)

end Numbering

end SqlLoom.Grammar
