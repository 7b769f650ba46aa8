import Mathlib.Data.List.Forall2
import SqlLoom.Proofs.Fixture.Redirect
import SqlLoom.Proofs.Fixture.Sites
import SqlLoom.Proofs.Walk.Contents

/-! The entries of a statement beside those of the same statement with schemas dropped and tables
put in front. They correspond one to one, and their scopes agree frame by frame up to the clause
in front. -/
namespace SqlLoom

open Fixture

section
variable (targets : List QualifiedName) (fixtures : List CommonTable)

def Reach.own (r : Reach) : List QualifiedName := if r.froms then targets else []
def Reach.deep (r : Reach) : List QualifiedName := if r.values then targets else []

@[simp] lemma Reach.all_own (front : Option Nat) : Reach.own targets { front } = targets := rfl

@[simp] lemma Reach.all_deep (front : Option Nat) : Reach.deep targets { front } = targets := rfl

@[simp] lemma Reach.unsearched_own (r : Reach) : r.unsearched.own targets = [] := rfl

@[simp] lemma Reach.unsearched_deep (r : Reach) : r.unsearched.deep targets = [] := rfl

/-- The same frame before and after the search. -/
inductive FrameKin : Frame → Frame → Prop
  | tables (own deep : List QualifiedName) (all : List CommonTable) (visible : Nat) :
    FrameKin (.tables all visible) (.tables (all.map (.redirect own deep)) visible)
  | other {f f' : Frame} : f.isTables = false → f'.isTables = false → FrameKin f f'

/-- The same scopes before and after: `fixtures` come first in a clause of which none has the
name, or in a clause of their own, if the clause in front is in scope. -/
inductive Kin : Option Nat → Scopes → Scopes → Prop
  | nil : Kin none [] []
  | frame {front : Option Nat} {f f' : Frame} {sc sc' : Scopes} :
    FrameKin f f' → Kin front sc sc' → Kin front (f :: sc) (f' :: sc')
  | fresh {sc sc' : Scopes} :
    Kin none sc sc' → Kin (some sc.length) sc (.tables fixtures fixtures.length :: sc')
  | joined {sc sc' : Scopes} (own deep : List QualifiedName) (all : List CommonTable)
    (visible : Nat) : Kin none sc sc' →
    (∀ t ∈ fixtures, ∀ u ∈ all, Text.sameName t.name u.name = false) →
    Kin (some sc.length) (.tables all visible :: sc)
      (.tables (fixtures ++ all.map (.redirect own deep)) (fixtures.length + visible) :: sc')

/-- What an entry has become. -/
def Turns (x : Site) (e : Source × Scopes) : Prop :=
  (∀ s n a, x.source = .table s n a →
    e.1 = dropSchema (if x.searched then targets else []) (.table s n a)) ∧
  Kin fixtures x.front x.scopes e.2

/-- The sites are the entries before, and correspond to the entries after. -/
def Aligned (xs : List Site) (es es' : List (Source × Scopes)) : Prop :=
  xs.map (fun x => (x.source, x.scopes)) = es ∧ List.Forall₂ (Turns targets fixtures) xs es'

variable {targets fixtures}

lemma Kin.other {front : Option Nat} {f f' : Frame} {sc sc' : Scopes}
    (h : Kin fixtures front sc sc') (hf : f.isTables = false) (hf' : f'.isTables = false) :
    Kin fixtures front (f :: sc) (f' :: sc') := .frame (.other hf hf') h

lemma Kin.query {front : Option Nat} {sc sc' : Scopes} (h : Kin fixtures front sc sc')
    (xs xs' : List Source) : Kin fixtures front (.query xs :: sc) (.query xs' :: sc') :=
  h.other rfl rfl

lemma Kin.subquery {front : Option Nat} {sc sc' : Scopes} (h : Kin fixtures front sc sc')
    (name : Option String) : Kin fixtures front (.subquery name :: sc) (.subquery name :: sc') :=
  h.other rfl rfl

namespace Aligned

variable {xs ys : List Site} {es es' fs fs' : List (Source × Scopes)}

lemma nil : Aligned targets fixtures [] [] [] := ⟨rfl, .nil⟩

lemma append (h : Aligned targets fixtures xs es es') (h' : Aligned targets fixtures ys fs fs') :
    Aligned targets fixtures (xs ++ ys) (es ++ fs) (es' ++ fs') :=
  ⟨by rw [List.map_append, h.1, h'.1], List.rel_append h.2 h'.2⟩

end Aligned

lemma mapWith_redirect (own deep : List QualifiedName) (w : Option WithClause) :
    mapWith (intoQuery deep) (mapFromWith (dropSchema own) w) =
      w.map fun w => { w with tables := w.tables.map (.redirect own deep) } := by
  rcases w with _ | ⟨r, ts⟩
  · simp [mapFromWith, mapWith]
  · simp [mapFromWith, mapWith, tables_redirect]

lemma Kin.withScopes {front : Option Nat} {sc sc' : Scopes} (h : Kin fixtures front sc sc')
    (own deep : List QualifiedName) (w : Option WithClause) :
    Kin fixtures front (Walk.withScopes w sc)
      (Walk.withScopes (mapWith (intoQuery deep) (mapFromWith (dropSchema own) w)) sc') := by
  cases w with
  | none => simpa [mapWith_redirect, Walk.withScopes] using h
  | some w =>
    simpa [mapWith_redirect, Walk.withScopes] using
      h.frame (.tables own deep w.tables w.tables.length)

lemma Kin.operandScopes {front : Option Nat} (own deep : List QualifiedName) : {sc sc' : Scopes} →
    Kin fixtures front sc sc' → (s : Statement) →
    Kin fixtures front (Walk.operandScopes s sc) (Walk.operandScopes (s.redirect own deep) sc')
  | _, _, h, .select ⟨w, _, _, _, _, _, _, _, _, _, _⟩ => by
    rw [redirect_select, Walk.operandScopes_select, Walk.operandScopes_select]
    exact h.withScopes own deep w
  | _, _, h, .setOp ⟨l, _, _, r, _, _, _⟩ => by
    rw [redirect_setOp, Walk.operandScopes_setOp, Walk.operandScopes_setOp]
    exact Kin.operandScopes own deep (Kin.operandScopes own deep h l) r
  | _, _, h, .values ⟨_, _⟩ => h
  | _, _, h, .insert ⟨_, _, .rows _, _⟩ => h
  | _, _, h, .insert ⟨_, _, .query _, _⟩ => h
  | _, _, h, .createTable ⟨_, _, _, _, none⟩ => h
  | _, _, h, .createTable ⟨_, _, _, _, some _⟩ => h
  | _, _, h, .update ⟨_, _, _, _, _, _⟩ => h
  | _, _, h, .delete ⟨_, _, _, _, _⟩ => h

namespace Aligned

variable {xs ys : List Site} {es es' fs fs' : List Event} {sc sc' : Scopes}

lemma both (h : Aligned targets fixtures xs (entries es) (entries es'))
    (h' : Aligned targets fixtures ys (entries fs) (entries fs')) :
    Aligned targets fixtures (xs ++ ys) (entries (es ++ fs)) (entries (es' ++ fs')) := by
  rw [entries_append, entries_append]
  exact h.append h'

lemma inside {f f' : Frame} {body body' : Scopes → List Event}
    (h : Aligned targets fixtures xs (entries (body (f :: sc))) (entries (body' (f' :: sc')))) :
    Aligned targets fixtures xs (entries (Tour.inside f sc body))
      (entries (Tour.inside f' sc' body')) := by
  rwa [entries_inside, entries_inside]

lemma again {asOperand : Bool} {s s' : Statement}
    (h : Aligned targets fixtures xs (entries es) (entries es')) :
    Aligned targets fixtures xs (entries (Tour.again asOperand (.statement s sc) ++ es))
      (entries (Tour.again asOperand (.statement s' sc') ++ es')) := by
  rwa [entries_append, entries_append, entries_again, entries_again]

lemma leaves {n n' : Nat} (h : Aligned targets fixtures xs (entries es) (entries es')) :
    Aligned targets fixtures xs (entries (es ++ Tour.leaves n sc))
      (entries (es' ++ Tour.leaves n' sc')) := by
  rwa [entries_append, entries_append, entries_leaves, entries_leaves, List.append_nil,
    List.append_nil]

lemma regroup {xs' : List Site} (hxs : xs' = xs)
    (h : Aligned targets fixtures xs (entries es) (entries es')) :
    Aligned targets fixtures xs' (entries es) (entries es') := by
  rwa [hxs]

section
variable {own deep : List QualifiedName} {x : Source} {us : List Source}

/-- An entry that is searched. -/
lemma searched (h : Aligned targets fixtures xs (entries es)
      (entries (Tour.source (x.redirect own own deep) sc'))) :
    Aligned targets fixtures xs (entries es)
      (entries (Tour.source ((x.mapFrom (dropSchema own)).mapExprs (intoQuery deep)) sc')) := by
  rwa [source_redirect]

lemma allSearched (h : Aligned targets fixtures xs (entries es)
      (entries (Tour.sources (us.map (.redirect own own deep)) sc'))) :
    Aligned targets fixtures xs (entries es) (entries (Tour.sources
      (mapEntries (intoQuery deep) (mapFromList (dropSchema own) us)) sc')) := by
  rwa [sources_redirect]

/-- An entry of a data change, whose query is not searched. -/
lemma shallow (h : Aligned targets fixtures xs (entries es)
      (entries (Tour.source (x.redirect own [] deep) sc'))) :
    Aligned targets fixtures xs (entries es)
      (entries (Tour.source ((dropSchema own x).mapExprs (intoQuery deep)) sc')) := by
  rwa [source_redirect_shallow]

lemma allShallow (h : Aligned targets fixtures xs (entries es)
      (entries (Tour.sources (us.map (.redirect own [] deep)) sc'))) :
    Aligned targets fixtures xs (entries es)
      (entries (Tour.sources (mapEntries (intoQuery deep) (us.map (dropSchema own))) sc')) := by
  rwa [sources_redirect_shallow]

end

/-- Inside a query in a value expression. -/
lemma query {deep : List QualifiedName} {q : Statement}
    (h : Aligned targets fixtures xs (entries (Tour.statement false q (.subquery none :: sc)))
      (entries (Tour.statement false (q.redirect deep deep) (.subquery none :: sc')))) :
    Aligned targets fixtures xs (entries (Tour.inside (.subquery none) sc (Tour.statement false q)))
      (entries (Tour.inside (.subquery none) sc' (Tour.statement false
        ((q.mapExprs (intoQuery deep)).mapFrom (dropSchema deep))))) := by
  rw [mapFrom_intoQuery]
  exact h.inside

end Aligned

variable (targets)

mutual
lemma aligned_expr (r : Reach) (role : Role) {sc sc' : Scopes} (h : Kin fixtures r.front sc sc') :
    (e : Expr) → Aligned targets fixtures (Sites.expr r e sc) (entries (Tour.expr role e sc))
      (entries (Tour.expr role (e.mapExprs (intoQuery (r.deep targets))) sc'))
  | .call _ args _ f w =>
    ((aligned_exprs r h args).both (aligned_option r h f)).both (aligned_window r h w)
  | .binary a _ b => (aligned_expr r .plain h a).both (aligned_expr r .plain h b)
  | .unary _ e => aligned_expr r .plain h e
  | .tuple es => aligned_exprs r h es
  | .array es => aligned_exprs r h es
  | .inList e es _ => (aligned_expr r .plain h e).both (aligned_exprs r h es)
  | .case o bs e =>
    ((aligned_option r h o).both (aligned_branches r h bs)).both (aligned_option r h e)
  | .subquery q => .query (aligned_statement r.query false (h.subquery none) q)
  | .exists q => .query (aligned_statement r.query false (h.subquery none) q)
  | .inSubquery e q _ =>
    (aligned_expr r .plain h e).both
      (.query (aligned_statement r.query false (h.subquery none) q))
  | .between e a b _ =>
    ((aligned_expr r .plain h e).both (aligned_expr r .plain h a)).both
      (aligned_expr r .plain h b)
  | .isNull e _ => aligned_expr r .plain h e
  | .cast e _ _ => aligned_expr r .plain h e
  | .nested e => aligned_expr r .plain h e
  | .column _ _ => .nil
  | .literal _ => .nil
  | .parameter _ _ => .nil
  | .wildcard _ => .nil
  | .raw _ => .nil
lemma aligned_exprs (r : Reach) {sc sc' : Scopes} (h : Kin fixtures r.front sc sc') :
    (es : List Expr) → Aligned targets fixtures (Sites.exprs r es sc) (entries (Tour.exprs es sc))
      (entries (Tour.exprs (mapList (intoQuery (r.deep targets)) es) sc'))
  | [] => .nil
  | e :: es => (aligned_expr r .plain h e).both (aligned_exprs r h es)
lemma aligned_option (r : Reach) {sc sc' : Scopes} (h : Kin fixtures r.front sc sc') :
    (e : Option Expr) → Aligned targets fixtures (Sites.option r e sc)
      (entries (Tour.option e sc))
      (entries (Tour.option (mapOption (intoQuery (r.deep targets)) e) sc'))
  | none => .nil
  | some e => aligned_expr r .plain h e
lemma aligned_branches (r : Reach) {sc sc' : Scopes} (h : Kin fixtures r.front sc sc') :
    (bs : List (Expr × Expr)) → Aligned targets fixtures (Sites.branches r bs sc)
      (entries (Tour.branches bs sc))
      (entries (Tour.branches (mapBranches (intoQuery (r.deep targets)) bs) sc'))
  | [] => .nil
  | (c, e) :: bs =>
    ((aligned_expr r .plain h c).both (aligned_expr r .plain h e)).both (aligned_branches r h bs)
lemma aligned_window (r : Reach) {sc sc' : Scopes} (h : Kin fixtures r.front sc sc') :
    (w : Option Window) → Aligned targets fixtures (Sites.window r w sc)
      (entries (Tour.window w sc))
      (entries (Tour.window (mapWindow (intoQuery (r.deep targets)) w) sc'))
  | none => .nil
  | some ⟨_, p, o, _⟩ => (aligned_exprs r h p).both (aligned_order r .plain h o)
lemma aligned_order (r : Reach) (role : Role) {sc sc' : Scopes}
    (h : Kin fixtures r.front sc sc') : (os : List OrderItem) →
    Aligned targets fixtures (Sites.order r os sc) (entries (Tour.order role os sc))
      (entries (Tour.order role (mapOrder (intoQuery (r.deep targets)) os) sc'))
  | [] => .nil
  | ⟨v, _, _⟩ :: os => (aligned_expr r role h v).both (aligned_order r role h os)
lemma aligned_items (r : Reach) {sc sc' : Scopes} (h : Kin fixtures r.front sc sc') :
    (is : List SelectItem) → Aligned targets fixtures (Sites.items r is sc)
      (entries (Tour.items is sc))
      (entries (Tour.items (mapItems (intoQuery (r.deep targets)) is) sc'))
  | [] => .nil
  | ⟨v, _⟩ :: is => (aligned_expr r .plain h v).both (aligned_items r h is)
lemma aligned_source (r inner : Reach) (hf : inner.front = r.front) {sc sc' : Scopes}
    (h : Kin fixtures r.front sc sc') : (x : Source) →
    Aligned targets fixtures (Sites.source r inner x sc) (entries (Tour.source x sc))
      (entries (Tour.source
        (x.redirect (r.own targets) (inner.own targets) (inner.deep targets)) sc'))
  | .table s n a => by
    obtain ⟨s', hs⟩ := exists_dropSchema_table (r.own targets) s n a
    rw [Source.redirect, hs]
    refine ⟨rfl, .cons ⟨?_, h⟩ .nil⟩
    rintro _ _ _ ⟨⟩
    exact hs.symm
  | .subquery q a cs l =>
    have hq : Kin fixtures inner.front (.subquery (some a) :: sc) (.subquery (some a) :: sc') :=
      hf ▸ h.subquery (some a)
    have here : Aligned targets fixtures [r.site (.subquery q a cs l) sc]
        (entries [.source (.subquery q a cs l) sc])
        (entries [.source
          (.subquery (q.redirect (inner.own targets) (inner.deep targets)) a cs l) sc']) :=
      ⟨rfl, .cons ⟨nofun, h⟩ .nil⟩
    here.both (.inside (aligned_statement inner false hq q))
  | .function n args a =>
    have here : Aligned targets fixtures [r.site (.function n args a) sc]
        (entries [.source (.function n args a) sc])
        (entries [.source
          (.function n (mapList (intoQuery (inner.deep targets)) args) a) sc']) :=
      ⟨rfl, .cons ⟨nofun, h⟩ .nil⟩
    here.both (aligned_exprs inner (hf ▸ h) args)
lemma aligned_sources (r inner : Reach) (hf : inner.front = r.front) {sc sc' : Scopes}
    (h : Kin fixtures r.front sc sc') : (xs : List Source) →
    Aligned targets fixtures (Sites.sources r inner xs sc) (entries (Tour.sources xs sc))
      (entries (Tour.sources
        (xs.map (.redirect (r.own targets) (inner.own targets) (inner.deep targets))) sc'))
  | [] => .nil
  | x :: xs => (aligned_source r inner hf h x).both (aligned_sources r inner hf h xs)
lemma aligned_condition (r : Reach) {sc sc' : Scopes} (h : Kin fixtures r.front sc sc') :
    (c : Option JoinCondition) → Aligned targets fixtures (Sites.condition r c sc)
      (entries (Tour.condition c sc))
      (entries (Tour.condition (mapCondition (intoQuery (r.deep targets)) c) sc'))
  | some (.predicate e) => aligned_expr r .plain h e
  | some (.shared _) => .nil
  | some .natural => .nil
  | none => .nil
lemma aligned_joins (r : Reach) {sc sc' : Scopes} (h : Kin fixtures r.front sc sc') :
    (js : List Join) → Aligned targets fixtures (Sites.joins r js sc) (entries (Tour.joins js sc))
      (entries (Tour.joins (mapJoins (intoQuery (r.deep targets))
        (mapFromJoins (dropSchema (r.own targets)) js)) sc'))
  | [] => .nil
  | ⟨_, x, c⟩ :: js =>
    ((aligned_source r r rfl h x).searched.both (aligned_condition r h c)).both
      (aligned_joins r h js)
lemma aligned_rows (r : Reach) {sc sc' : Scopes} (h : Kin fixtures r.front sc sc') :
    (rs : List (List Expr)) → Aligned targets fixtures (Sites.rows r rs sc)
      (entries (Tour.rows rs sc))
      (entries (Tour.rows (mapRows (intoQuery (r.deep targets)) rs) sc'))
  | [] => .nil
  | es :: rs => (aligned_exprs r h es).both (aligned_rows r h rs)
lemma aligned_assignments (r : Reach) {sc sc' : Scopes} (h : Kin fixtures r.front sc sc') :
    (as : List Assignment) → Aligned targets fixtures (Sites.assignments r as sc)
      (entries (Tour.assignments as sc))
      (entries (Tour.assignments (mapAssignments (intoQuery (r.deep targets)) as) sc'))
  | [] => .nil
  | ⟨_, v⟩ :: as => (aligned_expr r .plain h v).both (aligned_assignments r h as)
/-- The clause may have further tables in front, `offset` of them. -/
lemma aligned_tables (r : Reach) (frame frame' : Nat → Frame) (total total' : Option Nat)
    (offset index : Nat) {sc sc' : Scopes}
    (h : ∀ k, Kin fixtures r.front (frame (total.getD k) :: sc)
      (frame' (total'.getD (offset + k)) :: sc')) : (ts : List CommonTable) →
    Aligned targets fixtures (Sites.tables r frame total index ts sc)
      (entries (Tour.tables frame total index ts sc))
      (entries (Tour.tables frame' total' (offset + index)
        (ts.map (.redirect (r.own targets) (r.deep targets))) sc'))
  | [] => .nil
  | ⟨_, _, b⟩ :: ts =>
    (Aligned.inside (aligned_statement r false ((h index).other rfl rfl) b)).both
      (aligned_tables r frame frame' total total' offset (index + 1) h ts)
lemma aligned_withClause (r : Reach) {sc sc' : Scopes} (h : Kin fixtures r.front sc sc') :
    (w : Option WithClause) → Aligned targets fixtures (Sites.withClause r w sc)
      (entries (Tour.withClause w sc))
      (entries (Tour.withClause (mapWith (intoQuery (r.deep targets))
        (mapFromWith (dropSchema (r.own targets)) w)) sc'))
  | none => .nil
  | some ⟨isRecursive, ts⟩ => by
    have htables := aligned_tables r (.tables ts)
      (.tables (ts.map (.redirect (r.own targets) (r.deep targets))))
      (if isRecursive then some ts.length else none) (if isRecursive then some ts.length else none)
      0 0 (fun k => by simpa only [Nat.zero_add] using h.frame (.tables _ _ ts _)) ts
    simp only [mapWith_redirect, Option.map_some, Tour.withClause, List.length_map]
    exact htables
lemma aligned_operandWiths (r : Reach) {sc sc' : Scopes} (h : Kin fixtures r.front sc sc') :
    (s : Statement) → Aligned targets fixtures (Sites.operandWiths r s sc)
      (entries (Tour.operandWiths s sc))
      (entries (Tour.operandWiths (s.redirect (r.own targets) (r.deep targets)) sc'))
  | .select ⟨w, _, _, _, _, _, _, _, _, _, _⟩ => aligned_withClause r h w
  | .setOp ⟨l, _, _, x, _, _, _⟩ =>
    (aligned_operandWiths r h l).both (aligned_operandWiths r (h.operandScopes _ _ l) x)
  | .values ⟨_, _⟩ => .nil
  | .insert ⟨_, _, .rows _, _⟩ => .nil
  | .insert ⟨_, _, .query _, _⟩ => .nil
  | .createTable ⟨_, _, _, _, none⟩ => .nil
  | .createTable ⟨_, _, _, _, some _⟩ => .nil
  | .update ⟨_, _, _, _, _, _⟩ => .nil
  | .delete ⟨_, _, _, _, _⟩ => .nil
lemma aligned_statement (r : Reach) (asOperand : Bool) {sc sc' : Scopes}
    (h : Kin fixtures r.front sc sc') : (s : Statement) →
    Aligned targets fixtures (Sites.statement r asOperand s sc)
      (entries (Tour.statement asOperand s sc))
      (entries (Tour.statement asOperand (s.redirect (r.own targets) (r.deep targets)) sc'))
  | .select ⟨w, d, is, fs, js, f, g, u, o, l, k⟩ => by
    have clauses {a a' : Scopes} (ha : Kin fixtures r.front a a') :=
      ((((((((aligned_items r ha is).both (aligned_sources r r rfl ha fs).allSearched).both
        (aligned_joins r ha js)).both (aligned_option r ha f)).both (aligned_exprs r ha g)).both
        (aligned_option r ha u)).both (aligned_order r .ordering ha o)).both
        (aligned_option r ha l)).both (aligned_option r ha k)
    cases asOperand with
    | true => exact .leaves (Aligned.nil.both (.inside (clauses (h.query _ _))))
    | false =>
      exact .leaves ((aligned_withClause r h w).both
        (.inside (clauses ((h.withScopes _ _ w).query _ _))))
  | .setOp ⟨l, op, a, x, o, m, k⟩ => by
    have tail {a a' : Scopes} (ha : Kin fixtures r.front a a') :=
      ((((aligned_statement r true ha l).both (aligned_statement r true ha x)).both
        (aligned_order r .plain ha o)).both (aligned_option r ha m)).both
        (aligned_option r ha k)
    cases asOperand with
    | true => exact tail h
    | false =>
      exact .leaves (((aligned_operandWiths r h l).both
        (aligned_operandWiths r (h.operandScopes _ _ l) x)).both
        (tail ((h.operandScopes _ _ l).operandScopes _ _ x)))
  | .values ⟨rs, _⟩ => aligned_rows r h rs
  | .insert ⟨_, _, .rows rs, is⟩ => (aligned_rows r h rs).again.both (aligned_items r h is)
  | .insert ⟨_, _, .query q, is⟩ =>
    (aligned_statement r false h q).again.both (aligned_items r h is)
  | .createTable ⟨_, _, _, _, some q⟩ => (aligned_statement r false h q).again
  | .createTable ⟨_, _, _, _, none⟩ => by
    cases asOperand <;> exact .nil
  | .update ⟨w, tg, as, fs, f, is⟩ => by
    have clauses {a a' : Scopes} (ha : Kin fixtures r.front a a') :=
      ((((aligned_source r r.derived rfl ha tg).shallow.both (aligned_assignments r ha as)).both
        (aligned_sources r r.derived rfl ha fs).allShallow).both (aligned_option r ha f)).both
        (aligned_items r ha is)
    refine .leaves (.regroup ?_ ((aligned_withClause r h w).again.both
      (.inside (clauses ((h.withScopes _ _ w).query _ _)))))
    change _ ++ _ ++ _ ++ _ ++ _ ++ _ = _
    simp only [List.append_assoc]
  | .delete ⟨w, tg, us, f, is⟩ => by
    have clauses {a a' : Scopes} (ha : Kin fixtures r.front a a') :=
      (((aligned_source r r.unsearched rfl ha tg).both
        (aligned_sources r r.derived rfl ha us).allShallow).both (aligned_option r ha f)).both
        (aligned_items r ha is)
    simp only [Reach.unsearched_own, Reach.unsearched_deep, ← source_redirect_top] at clauses
    refine .leaves (.regroup ?_ ((aligned_withClause r h w).again.both
      (.inside (clauses ((h.withScopes _ _ w).query _ _)))))
    change _ ++ _ ++ _ ++ _ ++ _ = _
    simp only [List.append_assoc]
end

end

end SqlLoom
