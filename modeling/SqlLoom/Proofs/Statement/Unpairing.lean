import Mathlib.Logic.Basic
import SqlLoom.Nesting

/-! What is left of a tree once pairs of parentheses are taken away at every value expression. Which
pairs go is a parameter: all of them, or those that do nothing. -/
namespace SqlLoom

namespace Expr

/-- A pair of parentheses around an expression that `p` holds of. -/
def isPair (p : Expr → Bool) : Expr → Bool
  | .nested e => p e
  | _ => false

/-- What such a pair stands around, and anything else as it is. -/
def unpair (p : Expr → Bool) : Expr → Expr
  | .nested e => if p e then e else .nested e
  | e => e

lemma dropPair_eq_unpair : dropPair = unpair standsAlone := by
  funext e
  cases e <;> rfl

end Expr

namespace Unpairing

/-! Two replacements, one after the other, are the second alone if the first is undone by it at each
expression. -/
section
variable {g h : Expr → Expr} (hgh : ∀ e : Expr, (h e).mapExprs g = e.mapExprs g)
include hgh

set_option linter.unusedSectionVars false in
mutual
lemma absorb_expr : (e : Expr) → (e.mapExprs h).mapExprs g = e.mapExprs g
  | .column _ _ => hgh _
  | .literal _ => hgh _
  | .parameter _ _ => hgh _
  | .wildcard _ => hgh _
  | .raw _ => hgh _
  | .call n args d f w => by
    refine (hgh _).trans ?_
    change g (.call n (mapList g (mapList h args)) d (mapOption g (mapOption h f))
      (mapWindow g (mapWindow h w))) = _
    rw [absorb_list args, absorb_option f, absorb_window w]
    rfl
  | .binary l op r => (hgh _).trans
    (congrArg₂ (fun l r => g (.binary l op r)) (absorb_expr l) (absorb_expr r))
  | .unary op e => (hgh _).trans (congrArg (fun e => g (.unary op e)) (absorb_expr e))
  | .tuple es => (hgh _).trans (congrArg (fun es => g (.tuple es)) (absorb_list es))
  | .array es => (hgh _).trans (congrArg (fun es => g (.array es)) (absorb_list es))
  | .inList e es neg => (hgh _).trans
    (congrArg₂ (fun e es => g (.inList e es neg)) (absorb_expr e) (absorb_list es))
  | .case o bs e => by
    refine (hgh _).trans ?_
    change g (.case (mapOption g (mapOption h o)) (mapBranches g (mapBranches h bs))
      (mapOption g (mapOption h e))) = _
    rw [absorb_option o, absorb_branches bs, absorb_option e]
    rfl
  | .subquery q => (hgh _).trans (congrArg (fun q => g (.subquery q)) (absorb_statement q))
  | .exists q => (hgh _).trans (congrArg (fun q => g (.exists q)) (absorb_statement q))
  | .inSubquery e q neg => (hgh _).trans
    (congrArg₂ (fun e q => g (.inSubquery e q neg)) (absorb_expr e) (absorb_statement q))
  | .between e l u neg => by
    refine (hgh _).trans ?_
    change g (.between ((e.mapExprs h).mapExprs g) ((l.mapExprs h).mapExprs g)
      ((u.mapExprs h).mapExprs g) neg) = _
    rw [absorb_expr e, absorb_expr l, absorb_expr u]
    rfl
  | .isNull e neg => (hgh _).trans (congrArg (fun e => g (.isNull e neg)) (absorb_expr e))
  | .cast e t s => (hgh _).trans (congrArg (fun e => g (.cast e t s)) (absorb_expr e))
  | .nested e => (hgh _).trans (congrArg (fun e => g (.nested e)) (absorb_expr e))
termination_by structural e => e
lemma absorb_list : (es : List Expr) → mapList g (mapList h es) = mapList g es
  | [] => rfl
  | e :: es => congrArg₂ List.cons (absorb_expr e) (absorb_list es)
termination_by structural es => es
lemma absorb_option : (e : Option Expr) → mapOption g (mapOption h e) = mapOption g e
  | none => rfl
  | some e => congrArg some (absorb_expr e)
termination_by structural e => e
lemma absorb_branches : (bs : List (Expr × Expr)) →
    mapBranches g (mapBranches h bs) = mapBranches g bs
  | [] => rfl
  | (c, r) :: bs =>
    congrArg₂ List.cons (congrArg₂ Prod.mk (absorb_expr c) (absorb_expr r)) (absorb_branches bs)
termination_by structural bs => bs
lemma absorb_window : (w : Option Window) → mapWindow g (mapWindow h w) = mapWindow g w
  | none => rfl
  | some ⟨n, p, o, f⟩ =>
    congrArg₂ (fun p o => some (Window.mk n p o f)) (absorb_list p) (absorb_order o)
termination_by structural w => w
lemma absorb_order : (os : List OrderItem) → mapOrder g (mapOrder h os) = mapOrder g os
  | [] => rfl
  | ⟨v, a, n⟩ :: os =>
    congrArg₂ (fun v os => OrderItem.mk v a n :: os) (absorb_expr v) (absorb_order os)
termination_by structural os => os
lemma absorb_items : (is : List SelectItem) → mapItems g (mapItems h is) = mapItems g is
  | [] => rfl
  | ⟨v, a⟩ :: is => congrArg₂ (fun v is => SelectItem.mk v a :: is) (absorb_expr v) (absorb_items is)
termination_by structural is => is
lemma absorb_source : (s : Source) → (s.mapExprs h).mapExprs g = s.mapExprs g
  | .table _ _ _ => rfl
  | .subquery q a cs l => congrArg (Source.subquery · a cs l) (absorb_statement q)
  | .function n args a => congrArg (Source.function n · a) (absorb_list args)
termination_by structural s => s
lemma absorb_entries : (ss : List Source) → mapEntries g (mapEntries h ss) = mapEntries g ss
  | [] => rfl
  | s :: ss => congrArg₂ List.cons (absorb_source s) (absorb_entries ss)
termination_by structural ss => ss
lemma absorb_condition : (c : Option JoinCondition) →
    mapCondition g (mapCondition h c) = mapCondition g c
  | some (.predicate e) => congrArg (fun e => some (JoinCondition.predicate e)) (absorb_expr e)
  | some (.shared _) => rfl
  | some .natural => rfl
  | none => rfl
termination_by structural c => c
lemma absorb_joins : (js : List Join) → mapJoins g (mapJoins h js) = mapJoins g js
  | [] => rfl
  | ⟨t, s, c⟩ :: js => congrArg₂ List.cons
    (congrArg₂ (Join.mk t) (absorb_source s) (absorb_condition c)) (absorb_joins js)
termination_by structural js => js
lemma absorb_tables : (ts : List CommonTable) → mapTables g (mapTables h ts) = mapTables g ts
  | [] => rfl
  | ⟨n, cs, b⟩ :: ts =>
    congrArg₂ (fun b ts => CommonTable.mk n cs b :: ts) (absorb_statement b) (absorb_tables ts)
termination_by structural ts => ts
lemma absorb_with : (w : Option WithClause) → mapWith g (mapWith h w) = mapWith g w
  | none => rfl
  | some ⟨r, ts⟩ => congrArg (fun ts => some (WithClause.mk r ts)) (absorb_tables ts)
termination_by structural w => w
lemma absorb_rows : (rs : List (List Expr)) → mapRows g (mapRows h rs) = mapRows g rs
  | [] => rfl
  | r :: rs => congrArg₂ List.cons (absorb_list r) (absorb_rows rs)
termination_by structural rs => rs
lemma absorb_assignments : (as : List Assignment) →
    mapAssignments g (mapAssignments h as) = mapAssignments g as
  | [] => rfl
  | ⟨c, v⟩ :: as => congrArg₂ (fun v as => Assignment.mk c v :: as) (absorb_expr v) (absorb_assignments as)
termination_by structural as => as
lemma absorb_statement : (s : Statement) → (s.mapExprs h).mapExprs g = s.mapExprs g
  | .select ⟨w, d, is, fs, js, f, b, i, o, l, k⟩ => by
    change Statement.select ⟨mapWith g (mapWith h w), d, mapItems g (mapItems h is),
      mapEntries g (mapEntries h fs), mapJoins g (mapJoins h js), mapOption g (mapOption h f),
      mapList g (mapList h b), mapOption g (mapOption h i), mapOrder g (mapOrder h o),
      mapOption g (mapOption h l), mapOption g (mapOption h k)⟩ = _
    rw [absorb_with w, absorb_items is, absorb_entries fs, absorb_joins js, absorb_option f,
      absorb_list b, absorb_option i, absorb_order o, absorb_option l, absorb_option k]
    rfl
  | .setOp ⟨l, op, a, r, o, m, k⟩ => by
    change Statement.setOp ⟨(l.mapExprs h).mapExprs g, op, a, (r.mapExprs h).mapExprs g,
      mapOrder g (mapOrder h o), mapOption g (mapOption h m), mapOption g (mapOption h k)⟩ = _
    rw [absorb_statement l, absorb_statement r, absorb_order o, absorb_option m, absorb_option k]
    rfl
  | .values ⟨rs, as⟩ => congrArg (fun rs => Statement.values ⟨rs, as⟩) (absorb_rows rs)
  | .insert ⟨t, cs, .rows rs, is⟩ =>
    congrArg₂ (fun rs is => Statement.insert ⟨t, cs, .rows rs, is⟩) (absorb_rows rs) (absorb_items is)
  | .insert ⟨t, cs, .query q, is⟩ =>
    congrArg₂ (fun q is => Statement.insert ⟨t, cs, .query q, is⟩) (absorb_statement q) (absorb_items is)
  | .createTable ⟨n, t, e, cs, some q⟩ =>
    congrArg (fun q => Statement.createTable ⟨n, t, e, cs, some q⟩) (absorb_statement q)
  | .createTable ⟨_, _, _, _, none⟩ => rfl
  | .update ⟨w, t, as, fs, f, is⟩ => by
    change Statement.update ⟨mapWith g (mapWith h w), (t.mapExprs h).mapExprs g,
      mapAssignments g (mapAssignments h as), mapEntries g (mapEntries h fs),
      mapOption g (mapOption h f), mapItems g (mapItems h is)⟩ = _
    rw [absorb_with w, absorb_source t, absorb_assignments as, absorb_entries fs,
      absorb_option f, absorb_items is]
    rfl
  | .delete ⟨w, t, us, f, is⟩ => by
    change Statement.delete ⟨mapWith g (mapWith h w), t, mapEntries g (mapEntries h us),
      mapOption g (mapOption h f), mapItems g (mapItems h is)⟩ = _
    rw [absorb_with w, absorb_entries us, absorb_option f, absorb_items is]
    rfl
termination_by structural s => s
end

end

section
variable {p : Expr → Bool} (hp : ∀ e : Expr, p (e.mapExprs (Expr.unpair p)) = p e)

/-- The value expressions that are no such pair, each with the pairs inside it taken away. -/
def kept (p : Expr → Bool) (es : List Expr) : List Expr :=
  (es.filter fun e => !e.isPair p).map (·.mapExprs (Expr.unpair p))

lemma kept_pair {e : Expr} (he : e.isPair p = true) (es : List Expr) :
    kept p (e :: es) = kept p es := by
  rw [kept, kept, List.filter_cons_of_neg (by simp [he])]

lemma kept_node (e : Expr) (he : e.isPair p = false) {es es' : List Expr} (h : es' = kept p es) :
    e.mapExprs (Expr.unpair p) :: es' = kept p (e :: es) := by
  rw [h, kept, kept, List.filter_cons_of_pos (by simp [he]), List.map_cons]

lemma kept_both {es es' fs fs' : List Expr} (h : es' = kept p es) (h' : fs' = kept p fs) :
    es' ++ fs' = kept p (es ++ fs) := by
  rw [h, h', kept, kept, kept, List.filter_append, List.map_append]

include hp

/-- A pair at the top goes exactly if `p` holds of what it stands around in the first place. -/
lemma mapExprs_nested (e : Expr) :
    (Expr.nested e).mapExprs (Expr.unpair p) =
      if p e then e.mapExprs (Expr.unpair p) else .nested (e.mapExprs (Expr.unpair p)) := by
  change Expr.unpair p (.nested (e.mapExprs (Expr.unpair p))) = _
  rw [Expr.unpair, hp]

/-- Where a pair goes in any case, it may go beforehand. -/
lemma mapExprs_unpair {q : Expr → Bool} (hqp : ∀ e : Expr, q e = true → p e = true) (e : Expr) :
    (e.unpair q).mapExprs (Expr.unpair p) = e.mapExprs (Expr.unpair p) := by
  cases e with
  | nested e =>
    rw [Expr.unpair]
    split
    next h => rw [mapExprs_nested hp, if_pos (hqp e h)]
    next => rfl
  | _ => rfl

/-- A pair that stays is an expression like any other. -/
lemma exprs_nested {e : Expr} (h : (e.mapExprs (Expr.unpair p)).exprs = kept p e.exprs) :
    ((Expr.nested e).mapExprs (Expr.unpair p)).exprs = kept p (Expr.nested e).exprs := by
  change _ = kept p (.nested e :: e.exprs)
  cases hpair : (Expr.nested e).isPair p with
  | true =>
    have hgoes : p e = true := hpair
    rw [mapExprs_nested hp, if_pos hgoes, kept_pair hpair, h]
  | false =>
    have hstays : ¬ p e = true := Bool.eq_false_iff.mp hpair
    rw [← kept_node _ hpair h, mapExprs_nested hp, if_neg hstays]
    rfl

set_option linter.unusedSectionVars false in
mutual
lemma exprs_expr : (e : Expr) → (e.mapExprs (Expr.unpair p)).exprs = kept p e.exprs
  | .column _ _ => rfl
  | .literal _ => rfl
  | .parameter _ _ => rfl
  | .wildcard _ => rfl
  | .raw _ => rfl
  | .call n args d f w => kept_node (.call n args d f w) rfl
    (kept_both (kept_both (exprs_list args) (exprs_option f)) (exprs_window w))
  | .binary l op r => kept_node (.binary l op r) rfl (kept_both (exprs_expr l) (exprs_expr r))
  | .unary op e => kept_node (.unary op e) rfl (exprs_expr e)
  | .tuple es => kept_node (.tuple es) rfl (exprs_list es)
  | .array es => kept_node (.array es) rfl (exprs_list es)
  | .inList e es neg => kept_node (.inList e es neg) rfl (kept_both (exprs_expr e) (exprs_list es))
  | .case o bs e => kept_node (.case o bs e) rfl
    (kept_both (kept_both (exprs_option o) (exprs_branches bs)) (exprs_option e))
  | .subquery q => kept_node (.subquery q) rfl (exprs_statement q)
  | .exists q => kept_node (.exists q) rfl (exprs_statement q)
  | .inSubquery e q neg => kept_node (.inSubquery e q neg) rfl
    (kept_both (exprs_expr e) (exprs_statement q))
  | .between e l u neg => kept_node (.between e l u neg) rfl
    (kept_both (kept_both (exprs_expr e) (exprs_expr l)) (exprs_expr u))
  | .isNull e neg => kept_node (.isNull e neg) rfl (exprs_expr e)
  | .cast e t s => kept_node (.cast e t s) rfl (exprs_expr e)
  | .nested e => exprs_nested hp (exprs_expr e)
termination_by structural e => e
lemma exprs_list : (es : List Expr) →
    listExprs (mapList (Expr.unpair p) es) = kept p (listExprs es)
  | [] => rfl
  | e :: es => kept_both (exprs_expr e) (exprs_list es)
termination_by structural es => es
lemma exprs_option : (e : Option Expr) →
    optionExprs (mapOption (Expr.unpair p) e) = kept p (optionExprs e)
  | none => rfl
  | some e => exprs_expr e
termination_by structural e => e
lemma exprs_branches : (bs : List (Expr × Expr)) →
    branchExprs (mapBranches (Expr.unpair p) bs) = kept p (branchExprs bs)
  | [] => rfl
  | (c, r) :: bs => kept_both (kept_both (exprs_expr c) (exprs_expr r)) (exprs_branches bs)
termination_by structural bs => bs
lemma exprs_window : (w : Option Window) →
    windowExprs (mapWindow (Expr.unpair p) w) = kept p (windowExprs w)
  | none => rfl
  | some ⟨_, ps, o, _⟩ => kept_both (exprs_list ps) (exprs_order o)
termination_by structural w => w
lemma exprs_order : (os : List OrderItem) →
    orderExprs (mapOrder (Expr.unpair p) os) = kept p (orderExprs os)
  | [] => rfl
  | ⟨v, _, _⟩ :: os => kept_both (exprs_expr v) (exprs_order os)
termination_by structural os => os
lemma exprs_items : (is : List SelectItem) →
    itemExprs (mapItems (Expr.unpair p) is) = kept p (itemExprs is)
  | [] => rfl
  | ⟨v, _⟩ :: is => kept_both (exprs_expr v) (exprs_items is)
termination_by structural is => is
lemma exprs_source : (s : Source) → (s.mapExprs (Expr.unpair p)).exprs = kept p s.exprs
  | .table _ _ _ => rfl
  | .subquery q _ _ _ => exprs_statement q
  | .function _ args _ => exprs_list args
termination_by structural s => s
lemma exprs_entries : (ss : List Source) →
    sourceExprs (mapEntries (Expr.unpair p) ss) = kept p (sourceExprs ss)
  | [] => rfl
  | s :: ss => kept_both (exprs_source s) (exprs_entries ss)
termination_by structural ss => ss
lemma exprs_condition : (c : Option JoinCondition) →
    conditionExprs (mapCondition (Expr.unpair p) c) = kept p (conditionExprs c)
  | some (.predicate e) => exprs_expr e
  | some (.shared _) => rfl
  | some .natural => rfl
  | none => rfl
termination_by structural c => c
lemma exprs_joins : (js : List Join) →
    joinExprs (mapJoins (Expr.unpair p) js) = kept p (joinExprs js)
  | [] => rfl
  | ⟨_, s, c⟩ :: js => kept_both (kept_both (exprs_source s) (exprs_condition c)) (exprs_joins js)
termination_by structural js => js
lemma exprs_tables : (ts : List CommonTable) →
    tableExprs (mapTables (Expr.unpair p) ts) = kept p (tableExprs ts)
  | [] => rfl
  | ⟨_, _, b⟩ :: ts => kept_both (exprs_statement b) (exprs_tables ts)
termination_by structural ts => ts
lemma exprs_with : (w : Option WithClause) →
    withExprs (mapWith (Expr.unpair p) w) = kept p (withExprs w)
  | none => rfl
  | some ⟨_, ts⟩ => exprs_tables ts
termination_by structural w => w
lemma exprs_rows : (rs : List (List Expr)) →
    rowExprs (mapRows (Expr.unpair p) rs) = kept p (rowExprs rs)
  | [] => rfl
  | r :: rs => kept_both (exprs_list r) (exprs_rows rs)
termination_by structural rs => rs
lemma exprs_assignments : (as : List Assignment) →
    assignmentExprs (mapAssignments (Expr.unpair p) as) = kept p (assignmentExprs as)
  | [] => rfl
  | ⟨_, v⟩ :: as => kept_both (exprs_expr v) (exprs_assignments as)
termination_by structural as => as
/-- Only such pairs go, and what is left keeps its order. -/
lemma exprs_statement : (s : Statement) →
    (s.mapExprs (Expr.unpair p)).exprs = kept p s.exprs
  | .select ⟨w, _, is, fs, js, f, b, i, o, l, k⟩ => by
    have hentries := kept_both (kept_both (kept_both (exprs_with w) (exprs_items is))
      (exprs_entries fs)) (exprs_joins js)
    have hgroups := kept_both (kept_both (kept_both hentries (exprs_option f)) (exprs_list b))
      (exprs_option i)
    exact kept_both (kept_both (kept_both hgroups (exprs_order o)) (exprs_option l))
      (exprs_option k)
  | .setOp ⟨l, _, _, r, o, m, k⟩ =>
    kept_both (kept_both (kept_both (kept_both (exprs_statement l) (exprs_statement r))
      (exprs_order o)) (exprs_option m)) (exprs_option k)
  | .values ⟨rs, _⟩ => exprs_rows rs
  | .insert ⟨_, _, .rows rs, is⟩ => kept_both (exprs_rows rs) (exprs_items is)
  | .insert ⟨_, _, .query q, is⟩ => kept_both (exprs_statement q) (exprs_items is)
  | .createTable ⟨_, _, _, _, some q⟩ => exprs_statement q
  | .createTable ⟨_, _, _, _, none⟩ => rfl
  | .update ⟨w, t, as, fs, f, is⟩ =>
    kept_both (kept_both (kept_both (kept_both (kept_both (exprs_with w) (exprs_source t))
      (exprs_entries fs)) (exprs_assignments as)) (exprs_option f)) (exprs_items is)
  | .delete ⟨w, _, us, f, is⟩ =>
    kept_both (kept_both (kept_both (exprs_with w) (exprs_entries us)) (exprs_option f))
      (exprs_items is)
termination_by structural s => s
end

end

end Unpairing

end SqlLoom
