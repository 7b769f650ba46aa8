import Mathlib.Logic.Function.Iterate
import SqlLoom.Proofs.Statement.Parts
import SqlLoom.Proofs.Statement.Unpairing
import SqlLoom.Proofs.Walk.Erasure

/-! Parentheses that do nothing are gone after one pass, and nothing else is. The pass goes from the
leaves up and takes one pair at each node; to go from the outside in and take all that can go at each
node comes to the same. -/
namespace SqlLoom

namespace Expr

/-- A pair of parentheses that does nothing. -/
def isSuperfluous : Expr → Bool
  | nested (column _ _) | nested (literal _) | nested (parameter _ _) | nested (wildcard _)
  | nested (nested _) => true
  | _ => false

lemma isSuperfluous_eq : isSuperfluous = isPair standsAlone := by
  funext e
  cases e with
  | nested e => cases e <;> rfl
  | _ => rfl

/-- Takes pairs that do nothing off an expression for as long as there is one. -/
def peel : Expr → Expr
  | nested (column q n) => column q n
  | nested (literal v) => literal v
  | nested (parameter n v) => parameter n v
  | nested (wildcard q) => wildcard q
  | nested (nested e) => (nested e).peel
  | e => e

/-- What the pass leaves of an expression. -/
def simplified (e : Expr) : Expr := e.mapExprs dropPair

lemma standsAlone_mapExprs (e : Expr) :
    (e.mapExprs (unpair standsAlone)).standsAlone = e.standsAlone := by
  cases e with
  | nested e =>
    rw [mapExprs, unpair]
    split
    next h => exact h
    next => rfl
  | _ => rfl

lemma simplified_eq (e : Expr) : e.simplified = e.mapExprs (unpair standsAlone) := by
  rw [simplified, dropPair_eq_unpair]

/-- The pass may as well look at the outer pair first. -/
lemma simplified_nested (e : Expr) :
    (nested e).simplified = if e.standsAlone then e.simplified else nested e.simplified := by
  rw [simplified_eq, simplified_eq, Unpairing.mapExprs_nested standsAlone_mapExprs]

lemma peel_nested (e : Expr) :
    (nested e).peel = if e.standsAlone then e.peel else nested e := by
  cases e <;> rfl

lemma sizeOf_peel_le (e : Expr) : sizeOf e.peel ≤ sizeOf e := by
  fun_induction peel e with
  | case5 e ih =>
    rw [nested.sizeOf_spec (nested e)]
    omega
  | case6 => exact Nat.le_refl _
  | _ =>
    rw [nested.sizeOf_spec]
    omega

/-- The pass may as well go from the outside in, and take all pairs off a node that it can before
it enters the node. -/
lemma simplified_parts : (e : Expr) →
    e.simplified = e.peel.mapParts simplified Statement.simplifyNesting
  | nested e => by
    rw [simplified_nested, peel_nested]
    split
    next => exact simplified_parts e
    next => rfl
  | call _ _ _ _ _ | binary _ _ _ | unary _ _ | tuple _ | array _ | inList _ _ _ | case _ _ _
  | subquery _ | «exists» _ | inSubquery _ _ _ | between _ _ _ _ | isNull _ _ | cast _ _ _
  | column _ _ | literal _ | parameter _ _ | wildcard _ | raw _ => mapExprs_eq dropPair _

/-- A run of pairs around an expression is taken off if the expression is a column, literal,
parameter or wildcard, and is one pair otherwise. -/
lemma simplified_run (e : Expr) (n : Nat) :
    (nested^[n + 1] e).simplified =
      match e with
      | column q m => column q m
      | literal v => literal v
      | parameter m v => parameter m v
      | wildcard q => wildcard q
      | nested e => (nested e).simplified
      | e => nested e.simplified := by
  induction n with
  | zero =>
    rw [Function.iterate_one, simplified_nested]
    cases e <;> rfl
  | succ n ih =>
    have hrun : nested^[n + 2] e = nested (nested^[n + 1] e) := Function.iterate_succ_apply' ..
    have hinner : nested^[n + 1] e = nested (nested^[n] e) := Function.iterate_succ_apply' ..
    have halone : (nested^[n + 1] e).standsAlone = true := by rw [hinner, standsAlone]
    rw [hrun, simplified_nested, halone, if_pos rfl, ih]

end Expr

namespace Statement

/-- The statement without any pair of parentheses. The target of a DELETE stays as it is. -/
def withoutPairs (s : Statement) : Statement := s.mapExprs (Expr.unpair fun _ => true)

lemma exprs_withoutPairs (s : Statement) (e : Expr) : Expr.nested e ∉ s.withoutPairs.exprs := by
  rw [withoutPairs, Unpairing.exprs_statement (fun _ => rfl)]
  intro h
  obtain ⟨x, hx, heq⟩ := List.mem_map.mp h
  have hkept : x.isPair (fun _ => true) = false := by simpa using (List.mem_filter.mp hx).2
  cases x with
  | nested x => cases hkept
  | _ => cases heq

end Statement

namespace Tour

lemma echoes_target (x : Source) (sc sc' : Scopes) : Echoes (source x sc) (source x sc') := by
  have hsame : ∀ (n : String) (v : Option Scalar), (fun _ v v' => v = v') n v v := fun _ _ => rfl
  have halong := alongside_source (.base : Scopes.Like _ sc sc' sc sc') x
    (Likeness.refl_source hsame x)
  have hocc : List.Forall₂ (· = ·) (placeholders (source x sc)) (placeholders (source x sc')) :=
    halong.placeholders.imp fun o o' ho => by
      cases o
      cases o'
      cases ho.1
      cases ho.2
      rfl
  rwa [List.forall₂_eq_eq_eq] at hocc

section
variable {p : Expr → Bool}

mutual
lemma unpaired_expr (role role' : Role) (sc sc' : Scopes) : (e : Expr) →
    Echoes (expr role (e.mapExprs (Expr.unpair p)) sc) (expr role' e sc')
  | .column _ _ => .cons rfl .nil
  | .literal _ => .cons rfl .nil
  | .parameter _ _ => .cons rfl .nil
  | .wildcard _ => .cons rfl .nil
  | .raw _ => .cons rfl .nil
  | .call _ args _ f w =>
    .cons rfl (((unpaired_exprs sc sc' args).append (unpaired_option sc sc' f)).append
      (unpaired_window sc sc' w))
  | .binary l _ r =>
    .cons rfl ((unpaired_expr .plain .plain sc sc' l).append
      (unpaired_expr .plain .plain sc sc' r))
  | .unary _ e => .cons rfl (unpaired_expr .plain .plain sc sc' e)
  | .tuple es => .cons rfl (unpaired_exprs sc sc' es)
  | .array es => .cons rfl (unpaired_exprs sc sc' es)
  | .inList e es _ =>
    .cons rfl ((unpaired_expr .plain .plain sc sc' e).append (unpaired_exprs sc sc' es))
  | .case o bs e =>
    .cons rfl (((unpaired_option sc sc' o).append (unpaired_branches sc sc' bs)).append
      (unpaired_option sc sc' e))
  | .subquery q => .cons rfl (.inside (unpaired_statement false _ _ q))
  | .exists q => .cons rfl (.inside (unpaired_statement false _ _ q))
  | .inSubquery e q _ =>
    .cons rfl ((unpaired_expr .plain .plain sc sc' e).append
      (.inside (unpaired_statement false _ _ q)))
  | .between e l h _ =>
    .cons rfl (((unpaired_expr .plain .plain sc sc' e).append
      (unpaired_expr .plain .plain sc sc' l)).append (unpaired_expr .plain .plain sc sc' h))
  | .isNull e _ => .cons rfl (unpaired_expr .plain .plain sc sc' e)
  | .cast e _ _ => .cons rfl (unpaired_expr .plain .plain sc sc' e)
  | .nested e => by
    -- The inner expression takes over the role of the pair.
    rw [Expr.mapExprs, Expr.unpair]
    split
    next => exact unpaired_expr role .plain sc sc' e
    next => exact .cons rfl (unpaired_expr .plain .plain sc sc' e)
termination_by structural e => e
lemma unpaired_exprs (sc sc' : Scopes) : (es : List Expr) →
    Echoes (exprs (mapList (Expr.unpair p) es) sc) (exprs es sc')
  | [] => .nil
  | e :: es => (unpaired_expr .plain .plain sc sc' e).append (unpaired_exprs sc sc' es)
termination_by structural es => es
lemma unpaired_option (sc sc' : Scopes) : (e : Option Expr) →
    Echoes (option (mapOption (Expr.unpair p) e) sc) (option e sc')
  | none => .nil
  | some e => unpaired_expr .plain .plain sc sc' e
termination_by structural e => e
lemma unpaired_branches (sc sc' : Scopes) : (bs : List (Expr × Expr)) →
    Echoes (branches (mapBranches (Expr.unpair p) bs) sc) (branches bs sc')
  | [] => .nil
  | (c, r) :: bs =>
    ((unpaired_expr .plain .plain sc sc' c).append (unpaired_expr .plain .plain sc sc' r)).append
      (unpaired_branches sc sc' bs)
termination_by structural bs => bs
lemma unpaired_window (sc sc' : Scopes) : (w : Option Window) →
    Echoes (window (mapWindow (Expr.unpair p) w) sc) (window w sc')
  | none => .nil
  | some ⟨_, ps, o, _⟩ => (unpaired_exprs sc sc' ps).append (unpaired_order .plain sc sc' o)
termination_by structural w => w
lemma unpaired_order (role : Role) (sc sc' : Scopes) : (os : List OrderItem) →
    Echoes (order role (mapOrder (Expr.unpair p) os) sc) (order role os sc')
  | [] => .nil
  | ⟨v, _, _⟩ :: os =>
    (unpaired_expr role role sc sc' v).append (unpaired_order role sc sc' os)
termination_by structural os => os
lemma unpaired_items (sc sc' : Scopes) : (is : List SelectItem) →
    Echoes (items (mapItems (Expr.unpair p) is) sc) (items is sc')
  | [] => .nil
  | ⟨v, _⟩ :: is => (unpaired_expr .plain .plain sc sc' v).append (unpaired_items sc sc' is)
termination_by structural is => is
lemma unpaired_source (sc sc' : Scopes) : (x : Source) →
    Echoes (source (x.mapExprs (Expr.unpair p)) sc) (source x sc')
  | .table _ _ _ => .cons rfl .nil
  | .subquery q _ _ _ => .cons rfl (.inside (unpaired_statement false _ _ q))
  | .function _ args _ => .cons rfl (unpaired_exprs sc sc' args)
termination_by structural x => x
lemma unpaired_sources (sc sc' : Scopes) : (xs : List Source) →
    Echoes (sources (mapEntries (Expr.unpair p) xs) sc) (sources xs sc')
  | [] => .nil
  | x :: xs => (unpaired_source sc sc' x).append (unpaired_sources sc sc' xs)
termination_by structural xs => xs
lemma unpaired_condition (sc sc' : Scopes) : (c : Option JoinCondition) →
    Echoes (condition (mapCondition (Expr.unpair p) c) sc) (condition c sc')
  | some (.predicate e) => unpaired_expr .plain .plain sc sc' e
  | some (.shared _) => .nil
  | some .natural => .nil
  | none => .nil
termination_by structural c => c
lemma unpaired_joins (sc sc' : Scopes) : (js : List Join) →
    Echoes (joins (mapJoins (Expr.unpair p) js) sc) (joins js sc')
  | [] => .nil
  | ⟨_, s, c⟩ :: js =>
    ((unpaired_source sc sc' s).append (unpaired_condition sc sc' c)).append
      (unpaired_joins sc sc' js)
termination_by structural js => js
lemma unpaired_rows (sc sc' : Scopes) : (rs : List (List Expr)) →
    Echoes (rows (mapRows (Expr.unpair p) rs) sc) (rows rs sc')
  | [] => .nil
  | r :: rs => (unpaired_exprs sc sc' r).append (unpaired_rows sc sc' rs)
termination_by structural rs => rs
lemma unpaired_assignments (sc sc' : Scopes) : (as : List Assignment) →
    Echoes (assignments (mapAssignments (Expr.unpair p) as) sc) (assignments as sc')
  | [] => .nil
  | ⟨_, v⟩ :: as =>
    (unpaired_expr .plain .plain sc sc' v).append (unpaired_assignments sc sc' as)
termination_by structural as => as
lemma unpaired_tables (frame frame' : Nat → Frame) (total total' : Option Nat)
    (index index' : Nat) (sc sc' : Scopes) : (ts : List CommonTable) →
    Echoes (tables frame total index (mapTables (Expr.unpair p) ts) sc)
      (tables frame' total' index' ts sc')
  | [] => .nil
  | ⟨_, _, b⟩ :: ts =>
    (Echoes.cons rfl (.inside (unpaired_statement false _ _ b))).append
      (.cons rfl (unpaired_tables frame frame' total total' _ _ sc sc' ts))
termination_by structural ts => ts
lemma unpaired_withClause (sc sc' : Scopes) : (w : Option WithClause) →
    Echoes (withClause (mapWith (Expr.unpair p) w) sc) (withClause w sc')
  | none => .nil
  | some ⟨_, ts⟩ => .cons rfl (unpaired_tables _ _ _ _ _ _ sc sc' ts)
termination_by structural w => w
lemma unpaired_operandWiths (sc sc' : Scopes) : (s : Statement) →
    Echoes (operandWiths (s.mapExprs (Expr.unpair p)) sc) (operandWiths s sc')
  | .select ⟨w, _, _, _, _, _, _, _, _, _, _⟩ => unpaired_withClause sc sc' w
  | .setOp ⟨l, _, _, r, _, _, _⟩ =>
    (unpaired_operandWiths sc sc' l).append (unpaired_operandWiths _ _ r)
  | .values ⟨_, _⟩ => .nil
  | .insert ⟨_, _, .rows _, _⟩ => .nil
  | .insert ⟨_, _, .query _, _⟩ => .nil
  | .createTable ⟨_, _, _, _, some _⟩ => .nil
  | .createTable ⟨_, _, _, _, none⟩ => .nil
  | .update ⟨_, _, _, _, _, _⟩ => .nil
  | .delete ⟨_, _, _, _, _⟩ => .nil
termination_by structural s => s
/-- Taking pairs of parentheses away leaves the placeholders where they are. -/
lemma unpaired_statement (asOperand : Bool) (sc sc' : Scopes) : (s : Statement) →
    Echoes (statement asOperand (s.mapExprs (Expr.unpair p)) sc) (statement asOperand s sc')
  | .select ⟨w, _, is, fs, js, f, g, h, o, l, k⟩ => by
    have hbody := fun sc sc' => ((((((((unpaired_items sc sc' is).append
      (unpaired_sources sc sc' fs)).append (unpaired_joins sc sc' js)).append
      (unpaired_option sc sc' f)).append (unpaired_exprs sc sc' g)).append
      (unpaired_option sc sc' h)).append (unpaired_order .ordering sc sc' o)).append
      (unpaired_option sc sc' l)).append (unpaired_option sc sc' k)
    cases asOperand with
    | true =>
      exact .cons rfl ((Echoes.nil.append (.inside (.cons rfl (hbody _ _)))).append
        (.leaves _ _ _ _))
    | false =>
      exact .cons rfl (((unpaired_withClause sc sc' w).append
        (.inside (.cons rfl (hbody _ _)))).append (.leaves _ _ _ _))
  | .setOp ⟨l, _, _, r, o, m, k⟩ => by
    have htail := fun sc sc' => ((((unpaired_statement true sc sc' l).append
      (unpaired_statement true sc sc' r)).append (unpaired_order .plain sc sc' o)).append
      (unpaired_option sc sc' m)).append (unpaired_option sc sc' k)
    cases asOperand with
    | true => exact .cons rfl (htail _ _)
    | false =>
      exact .cons rfl ((((unpaired_operandWiths sc sc' l).append
        (unpaired_operandWiths _ _ r)).append (htail _ _)).append (.leaves _ _ _ _))
  | .values ⟨rs, _⟩ => .cons rfl (unpaired_rows sc sc' rs)
  | .insert ⟨_, _, .rows rs, is⟩ =>
    ((Echoes.again _ _ _ _ _).append (unpaired_rows sc sc' rs)).append (unpaired_items sc sc' is)
  | .insert ⟨_, _, .query q, is⟩ =>
    ((Echoes.again _ _ _ _ _).append (unpaired_statement false sc sc' q)).append
      (unpaired_items sc sc' is)
  | .createTable ⟨_, _, _, _, some q⟩ =>
    (Echoes.again _ _ _ _ _).append (unpaired_statement false sc sc' q)
  | .createTable ⟨_, _, _, _, none⟩ => .again _ _ _ _ _
  | .update ⟨w, t, as, fs, f, is⟩ =>
    (((Echoes.again _ _ _ _ _).append (unpaired_withClause sc sc' w)).append
      (.inside (((((unpaired_source _ _ t).append (unpaired_assignments _ _ as)).append
        (unpaired_sources _ _ fs)).append (unpaired_option _ _ f)).append
        (unpaired_items _ _ is)))).append (.leaves _ _ _ _)
  | .delete ⟨w, t, us, f, is⟩ =>
    (((Echoes.again _ _ _ _ _).append (unpaired_withClause sc sc' w)).append
      (.inside ((((echoes_target t _ _).append (unpaired_sources _ _ us)).append
        (unpaired_option _ _ f)).append (unpaired_items _ _ is)))).append (.leaves _ _ _ _)
termination_by structural s => s
end

end

end Tour

namespace Statement

lemma simplifyNesting_eq (s : Statement) :
    s.simplifyNesting = s.mapExprs (Expr.unpair Expr.standsAlone) := by
  rw [simplifyNesting, Expr.dropPair_eq_unpair]

/-- The pass from the leaves up is the pass from the outside in. -/
theorem simplifyNesting_topDown :
    TopDown Expr.peel Expr.simplified simplifyNesting where
  expr := Expr.simplified_parts
  statement := mapExprs_eq Expr.dropPair

/-- Any pass from the outside in that takes off what it can at each node is this one. -/
theorem topDown_eq_simplifyNesting {g : Expr → Expr} {t : Statement → Statement}
    (h : TopDown Expr.peel g t) : t = simplifyNesting :=
  (h.unique simplifyNesting_topDown Expr.sizeOf_peel_le).2

/-- Exactly the pairs that do nothing go; all else stays, in its order. -/
lemma exprs_simplifyNesting (s : Statement) :
    s.simplifyNesting.exprs =
      (s.exprs.filter fun e => !e.isSuperfluous).map Expr.simplified := by
  rw [simplifyNesting_eq, Unpairing.exprs_statement Expr.standsAlone_mapExprs,
    Expr.isSuperfluous_eq]
  exact congrArg (List.map · _) (funext fun e => (Expr.simplified_eq e).symm)

lemma isSuperfluous_simplified {e : Expr} (he : e.isSuperfluous = false) :
    e.simplified.isSuperfluous = false := by
  rw [Expr.isSuperfluous_eq] at he ⊢
  cases e with
  | nested e =>
    have halone : e.standsAlone = false := he
    have hinner : e.simplified.standsAlone = e.standsAlone := by
      rw [Expr.simplified_eq, Expr.standsAlone_mapExprs]
    rw [Expr.simplified_nested, halone, if_neg Bool.false_ne_true]
    exact hinner.trans halone
  | _ => rfl

lemma isSuperfluous_of_mem_simplifyNesting {s : Statement} {e : Expr}
    (he : e ∈ s.simplifyNesting.exprs) : e.isSuperfluous = false := by
  rw [exprs_simplifyNesting] at he
  obtain ⟨x, hx, rfl⟩ := List.mem_map.mp he
  exact isSuperfluous_simplified (by simpa using (List.mem_filter.mp hx).2)

/-- **The pass reaches its normal form at once, and changes nothing else.** It is the one pass from
the outside in that takes off what it can at each node. -/
theorem simplifyNesting_normal (s : Statement) :
    (∀ e : Expr, .nested e ∈ s.simplifyNesting.exprs →
      (∀ q n, e ≠ .column q n) ∧ (∀ v, e ≠ .literal v) ∧ (∀ n v, e ≠ .parameter n v) ∧
        (∀ q, e ≠ .wildcard q) ∧ ∀ x, e ≠ .nested x) ∧
      s.simplifyNesting.simplifyNesting = s.simplifyNesting ∧
      s.simplifyNesting.withoutPairs = s.withoutPairs ∧
      (∀ e : Expr, .nested e ∉ s.withoutPairs.exprs) ∧
      s.simplifyNesting.exprs =
        (s.exprs.filter fun e => !e.isSuperfluous).map Expr.simplified ∧
      (∀ (e : Expr) (n : Nat), (Expr.nested^[n + 1] e).simplified =
        match e with
        | .column q m => .column q m
        | .literal v => .literal v
        | .parameter m v => .parameter m v
        | .wildcard q => .wildcard q
        | .nested x => (Expr.nested x).simplified
        | e => .nested e.simplified) ∧
      TopDown Expr.peel Expr.simplified simplifyNesting ∧
      (∀ g t, TopDown Expr.peel g t → t = simplifyNesting) ∧
      Report.parameters s.simplifyNesting = Report.parameters s := by
  refine ⟨?normal, ?again, ?erased, exprs_withoutPairs s, exprs_simplifyNesting s,
    Expr.simplified_run, simplifyNesting_topDown, fun _ _ h => topDown_eq_simplifyNesting h,
    ?parameters⟩
  case normal =>
    intro e he
    have hkept := isSuperfluous_of_mem_simplifyNesting he
    refine ⟨fun _ _ h => ?_, fun _ h => ?_, fun _ _ h => ?_, fun _ h => ?_, fun _ h => ?_⟩ <;>
      (subst h; cases hkept)
  case again =>
    rw [simplifyNesting_eq, simplifyNesting_eq]
    exact Unpairing.absorb_statement
      (Unpairing.mapExprs_unpair Expr.standsAlone_mapExprs fun _ h => h) s
  case erased =>
    rw [simplifyNesting_eq, withoutPairs, withoutPairs]
    exact Unpairing.absorb_statement (Unpairing.mapExprs_unpair (fun _ => rfl) fun _ _ => rfl) s
  case parameters =>
    have hsame : Echoes (Tour.statement false s.simplifyNesting [])
        (Tour.statement false s []) := by
      rw [simplifyNesting_eq]
      exact Tour.unpaired_statement false [] [] s
    rw [Report.parameters, Report.parameters, Tour.trace_reverse, Tour.trace_reverse]
    exact hsame

example (e : Expr) : (Expr.nested (.nested (.binary (.nested e) .plus e))).simplified =
    .nested (.binary (Expr.nested e).simplified .plus e.simplified) := rfl

end Statement

end SqlLoom
