import SqlLoom.Proofs.Walk.Contents
import SqlLoom.Statement.Equality

/-! Trees that are equal up to the values bound in them are alike, so that they hold the same
placeholder names in the same order, whatever the scopes they are walked in. -/
namespace SqlLoom

lemma CommonTable.body_equals {t u : CommonTable} (h : t.equals u = true) :
    t.body.equals u.body = true := by
  obtain ⟨n, cs, b⟩ := t
  obtain ⟨n', cs', b'⟩ := u
  simp only [CommonTable.equals, Bool.and_eq_true] at h
  exact h.2

namespace Likeness

section
variable {V : String → Option Scalar → Option Scalar → Prop}
variable (hV : ∀ {n v v'}, equalBindings v' v = true → V n v v')
include hV

-- A comparison of trees of one shape computes to a conjunction, which `change` brings out.
set_option linter.unusedSectionVars false in
mutual
lemma like_expr {x : Expr} : (y : Expr) → y.equals x = true → Expr.Like V x y
  | .column q n, h => by
    cases x with
    | column q' n' =>
      change (_ && _) = true at h
      simp only [Bool.and_eq_true, beq_iff_eq] at h
      obtain ⟨rfl, rfl⟩ := h
      exact .column q n
    | _ => exact absurd h Bool.false_ne_true
  | .literal v, h => by
    cases x with
    | literal v' =>
      obtain rfl : v = v' := eq_of_beq h
      exact .literal v
    | _ => exact absurd h Bool.false_ne_true
  | .parameter n v, h => by
    cases x with
    | parameter n' v' =>
      change (_ && _) = true at h
      simp only [Bool.and_eq_true, beq_iff_eq] at h
      obtain ⟨rfl, hv⟩ := h
      exact .parameter (hV hv)
    | _ => exact absurd h Bool.false_ne_true
  | .call n args d f w, h => by
    cases x with
    | call n' args' d' f' w' =>
      change (_ && _) = true at h
      simp only [Bool.and_eq_true, beq_iff_eq] at h
      obtain ⟨⟨⟨⟨rfl, hargs⟩, rfl⟩, hf⟩, hw⟩ := h
      exact .call (like_exprs args hargs) (like_option f hf) (like_window w hw)
    | _ => exact absurd h Bool.false_ne_true
  | .binary l op r, h => by
    cases x with
    | binary l' op' r' =>
      change (_ && _) = true at h
      simp only [Bool.and_eq_true, beq_iff_eq] at h
      obtain ⟨⟨hl, rfl⟩, hr⟩ := h
      exact .binary (like_expr l hl) (like_expr r hr)
    | _ => exact absurd h Bool.false_ne_true
  | .unary op e, h => by
    cases x with
    | unary op' e' =>
      change (_ && _) = true at h
      simp only [Bool.and_eq_true, beq_iff_eq] at h
      obtain ⟨rfl, he⟩ := h
      exact .unary (like_expr e he)
    | _ => exact absurd h Bool.false_ne_true
  | .tuple es, h => by
    cases x with
    | tuple es' => exact .tuple (like_exprs es h)
    | _ => exact absurd h Bool.false_ne_true
  | .array es, h => by
    cases x with
    | array es' => exact .array (like_exprs es h)
    | _ => exact absurd h Bool.false_ne_true
  | .inList e es neg, h => by
    cases x with
    | inList e' es' neg' =>
      change (_ && _) = true at h
      simp only [Bool.and_eq_true, beq_iff_eq] at h
      obtain ⟨⟨he, hes⟩, rfl⟩ := h
      exact .inList (like_expr e he) (like_exprs es hes)
    | _ => exact absurd h Bool.false_ne_true
  | .wildcard q, h => by
    cases x with
    | wildcard q' =>
      obtain rfl : q = q' := eq_of_beq h
      exact .wildcard q
    | _ => exact absurd h Bool.false_ne_true
  | .case o bs e, h => by
    cases x with
    | case o' bs' e' =>
      change (_ && _) = true at h
      simp only [Bool.and_eq_true] at h
      obtain ⟨⟨ho, hbs⟩, he⟩ := h
      exact .case (like_option o ho) (like_branches bs hbs) (like_option e he)
    | _ => exact absurd h Bool.false_ne_true
  | .subquery q, h => by
    cases x with
    | subquery q' => exact .subquery (like_statement q h)
    | _ => exact absurd h Bool.false_ne_true
  | .exists q, h => by
    cases x with
    | «exists» q' => exact .exists (like_statement q h)
    | _ => exact absurd h Bool.false_ne_true
  | .inSubquery e q neg, h => by
    cases x with
    | inSubquery e' q' neg' =>
      change (_ && _) = true at h
      simp only [Bool.and_eq_true, beq_iff_eq] at h
      obtain ⟨⟨he, hq⟩, rfl⟩ := h
      exact .inSubquery (like_expr e he) (like_statement q hq)
    | _ => exact absurd h Bool.false_ne_true
  | .between e l u neg, h => by
    cases x with
    | between e' l' u' neg' =>
      change (_ && _) = true at h
      simp only [Bool.and_eq_true, beq_iff_eq] at h
      obtain ⟨⟨⟨he, hl⟩, hu⟩, rfl⟩ := h
      exact .between (like_expr e he) (like_expr l hl) (like_expr u hu)
    | _ => exact absurd h Bool.false_ne_true
  | .isNull e neg, h => by
    cases x with
    | isNull e' neg' =>
      change (_ && _) = true at h
      simp only [Bool.and_eq_true, beq_iff_eq] at h
      obtain ⟨he, rfl⟩ := h
      exact .isNull (like_expr e he)
    | _ => exact absurd h Bool.false_ne_true
  | .cast e t s, h => by
    cases x with
    | cast e' t' s' =>
      change (_ && _) = true at h
      simp only [Bool.and_eq_true, beq_iff_eq] at h
      obtain ⟨⟨he, rfl⟩, rfl⟩ := h
      exact .cast (like_expr e he)
    | _ => exact absurd h Bool.false_ne_true
  | .nested e, h => by
    cases x with
    | nested e' => exact .nested (like_expr e h)
    | _ => exact absurd h Bool.false_ne_true
  | .raw s, h => by
    cases x with
    | raw s' =>
      obtain rfl : s = s' := eq_of_beq h
      exact .raw s
    | _ => exact absurd h Bool.false_ne_true
termination_by structural y => y
lemma like_exprs {xs : List Expr} : (ys : List Expr) →
    equalExprs ys xs = true → List.Forall₂ (Expr.Like V) xs ys
  | [], h => by
    cases xs with
    | nil => exact .nil
    | cons _ _ => exact absurd h Bool.false_ne_true
  | y :: ys, h => by
    cases xs with
    | nil => exact absurd h Bool.false_ne_true
    | cons x xs =>
      change (_ && _) = true at h
      simp only [Bool.and_eq_true] at h
      obtain ⟨h, hys⟩ := h
      exact .cons (like_expr y h) (like_exprs ys hys)
termination_by structural y => y
lemma like_option {x : Option Expr} : (y : Option Expr) → equalExpr? y x = true →
    Option.Rel (Expr.Like V) x y
  | none, h => by
    cases x with
    | none => exact .none
    | some _ => exact absurd h Bool.false_ne_true
  | some y, h => by
    cases x with
    | none => exact absurd h Bool.false_ne_true
    | some x => exact .some (like_expr y h)
termination_by structural y => y
lemma like_branches {xs : List (Expr × Expr)} : (ys : List (Expr × Expr)) →
    equalBranches ys xs = true → List.Forall₂ (Branch.Like V) xs ys
  | [], h => by
    cases xs with
    | nil => exact .nil
    | cons _ _ => exact absurd h Bool.false_ne_true
  | (c, r) :: ys, h => by
    cases xs with
    | nil => exact absurd h Bool.false_ne_true
    | cons x xs =>
      obtain ⟨c', r'⟩ := x
      change (_ && _) = true at h
      simp only [Bool.and_eq_true] at h
      obtain ⟨⟨hc, hr⟩, hys⟩ := h
      exact .cons (.mk (like_expr c hc) (like_expr r hr)) (like_branches ys hys)
termination_by structural y => y
lemma like_window {x : Option Window} : (y : Option Window) → equalWindow? y x = true →
    Option.Rel (Window.Like V) x y
  | none, h => by
    cases x with
    | none => exact .none
    | some _ => exact absurd h Bool.false_ne_true
  | some ⟨n, p, o, f⟩, h => by
    cases x with
    | none => exact absurd h Bool.false_ne_true
    | some x =>
      obtain ⟨n', p', o', f'⟩ := x
      change (_ && _) = true at h
      simp only [Bool.and_eq_true, beq_iff_eq] at h
      obtain ⟨⟨⟨rfl, hp⟩, ho⟩, rfl⟩ := h
      exact .some (.mk (like_exprs p hp) (like_order o ho))
termination_by structural y => y
lemma like_order {xs : List OrderItem} : (ys : List OrderItem) →
    equalOrder ys xs = true → List.Forall₂ (OrderItem.Like V) xs ys
  | [], h => by
    cases xs with
    | nil => exact .nil
    | cons _ _ => exact absurd h Bool.false_ne_true
  | ⟨v, a, n⟩ :: ys, h => by
    cases xs with
    | nil => exact absurd h Bool.false_ne_true
    | cons x xs =>
      obtain ⟨v', a', n'⟩ := x
      change (_ && _) = true at h
      simp only [Bool.and_eq_true, beq_iff_eq] at h
      obtain ⟨⟨⟨hv, rfl⟩, rfl⟩, hys⟩ := h
      exact .cons (.mk (like_expr v hv)) (like_order ys hys)
termination_by structural y => y
lemma like_items {xs : List SelectItem} : (ys : List SelectItem) →
    equalItems ys xs = true → List.Forall₂ (SelectItem.Like V) xs ys
  | [], h => by
    cases xs with
    | nil => exact .nil
    | cons _ _ => exact absurd h Bool.false_ne_true
  | ⟨v, a⟩ :: ys, h => by
    cases xs with
    | nil => exact absurd h Bool.false_ne_true
    | cons x xs =>
      obtain ⟨v', a'⟩ := x
      change (_ && _) = true at h
      simp only [Bool.and_eq_true, beq_iff_eq] at h
      obtain ⟨⟨hv, rfl⟩, hys⟩ := h
      exact .cons (.mk (like_expr v hv)) (like_items ys hys)
termination_by structural y => y
lemma like_source {x : Source} : (y : Source) → y.equals x = true → Source.Like V x y
  | .table s n a, h => by
    cases x with
    | table s' n' a' =>
      change (_ && _) = true at h
      simp only [Bool.and_eq_true, beq_iff_eq] at h
      obtain ⟨⟨rfl, rfl⟩, rfl⟩ := h
      exact .table s n a
    | _ => exact absurd h Bool.false_ne_true
  | .subquery q a cs l, h => by
    cases x with
    | subquery q' a' cs' l' =>
      change (_ && _) = true at h
      simp only [Bool.and_eq_true, beq_iff_eq] at h
      obtain ⟨⟨⟨hq, rfl⟩, rfl⟩, rfl⟩ := h
      exact .subquery (like_statement q hq)
    | _ => exact absurd h Bool.false_ne_true
  | .function n args a, h => by
    cases x with
    | function n' args' a' =>
      change (_ && _) = true at h
      simp only [Bool.and_eq_true, beq_iff_eq] at h
      obtain ⟨⟨rfl, hargs⟩, rfl⟩ := h
      exact .function (like_exprs args hargs)
    | _ => exact absurd h Bool.false_ne_true
termination_by structural y => y
lemma like_sources {xs : List Source} : (ys : List Source) →
    equalSources ys xs = true → List.Forall₂ (Source.Like V) xs ys
  | [], h => by
    cases xs with
    | nil => exact .nil
    | cons _ _ => exact absurd h Bool.false_ne_true
  | y :: ys, h => by
    cases xs with
    | nil => exact absurd h Bool.false_ne_true
    | cons x xs =>
      change (_ && _) = true at h
      simp only [Bool.and_eq_true] at h
      obtain ⟨h, hys⟩ := h
      exact .cons (like_source y h) (like_sources ys hys)
termination_by structural y => y
lemma like_condition {x : Option JoinCondition} : (y : Option JoinCondition) →
    equalCondition? y x = true → Option.Rel (JoinCondition.Like V) x y
  | none, h => by
    cases x with
    | none => exact .none
    | some _ => exact absurd h Bool.false_ne_true
  | some (.predicate e), h => by
    rcases x with _ | e' | _ | _
    · exact absurd h Bool.false_ne_true
    · exact .some (.predicate (like_expr e h))
    all_goals exact absurd h Bool.false_ne_true
  | some (.shared cs), h => by
    rcases x with _ | _ | cs' | _
    · exact absurd h Bool.false_ne_true
    · exact absurd h Bool.false_ne_true
    · obtain rfl : cs = cs' := eq_of_beq h
      exact .some (.shared cs)
    · exact absurd h Bool.false_ne_true
  | some .natural, h => by
    rcases x with _ | _ | _ | _
    · exact absurd h Bool.false_ne_true
    · exact absurd h Bool.false_ne_true
    · exact absurd h Bool.false_ne_true
    · exact .some .natural
termination_by structural y => y
lemma like_joins {xs : List Join} : (ys : List Join) →
    equalJoins ys xs = true → List.Forall₂ (Join.Like V) xs ys
  | [], h => by
    cases xs with
    | nil => exact .nil
    | cons _ _ => exact absurd h Bool.false_ne_true
  | ⟨t, s, c⟩ :: ys, h => by
    cases xs with
    | nil => exact absurd h Bool.false_ne_true
    | cons x xs =>
      obtain ⟨t', s', c'⟩ := x
      change (_ && _) = true at h
      simp only [Bool.and_eq_true, beq_iff_eq] at h
      obtain ⟨⟨⟨rfl, hs⟩, hc⟩, hys⟩ := h
      exact .cons (.mk (like_source s hs) (like_condition c hc)) (like_joins ys hys)
termination_by structural y => y
lemma like_tables {xs : List CommonTable} : (ys : List CommonTable) →
    equalTables ys xs = true → List.Forall₂ (CommonTable.Like V) xs ys
  | [], h => by
    cases xs with
    | nil => exact .nil
    | cons _ _ => exact absurd h Bool.false_ne_true
  | ⟨n, cs, b⟩ :: ys, h => by
    cases xs with
    | nil => exact absurd h Bool.false_ne_true
    | cons x xs =>
      obtain ⟨n', cs', b'⟩ := x
      change (_ && _ && _ && _) = true at h
      simp only [Bool.and_eq_true, beq_iff_eq] at h
      obtain ⟨⟨⟨rfl, rfl⟩, hb⟩, hys⟩ := h
      exact .cons (.mk (like_statement b hb)) (like_tables ys hys)
termination_by structural y => y
lemma like_with {x : Option WithClause} : (y : Option WithClause) → equalWith? y x = true →
    Option.Rel (WithClause.Like V) x y
  | none, h => by
    cases x with
    | none => exact .none
    | some _ => exact absurd h Bool.false_ne_true
  | some ⟨r, ts⟩, h => by
    cases x with
    | none => exact absurd h Bool.false_ne_true
    | some x =>
      obtain ⟨r', ts'⟩ := x
      change (_ && _) = true at h
      simp only [Bool.and_eq_true, beq_iff_eq] at h
      obtain ⟨rfl, hts⟩ := h
      exact .some (.mk (like_tables ts hts))
termination_by structural y => y
lemma like_rows {xs : List (List Expr)} : (ys : List (List Expr)) →
    equalRows ys xs = true → List.Forall₂ (List.Forall₂ (Expr.Like V)) xs ys
  | [], h => by
    cases xs with
    | nil => exact .nil
    | cons _ _ => exact absurd h Bool.false_ne_true
  | y :: ys, h => by
    cases xs with
    | nil => exact absurd h Bool.false_ne_true
    | cons x xs =>
      change (_ && _) = true at h
      simp only [Bool.and_eq_true] at h
      obtain ⟨h, hys⟩ := h
      exact .cons (like_exprs y h) (like_rows ys hys)
termination_by structural y => y
lemma like_assignments {xs : List Assignment} : (ys : List Assignment) →
    equalAssignments ys xs = true → List.Forall₂ (Assignment.Like V) xs ys
  | [], h => by
    cases xs with
    | nil => exact .nil
    | cons _ _ => exact absurd h Bool.false_ne_true
  | ⟨c, v⟩ :: ys, h => by
    cases xs with
    | nil => exact absurd h Bool.false_ne_true
    | cons x xs =>
      obtain ⟨c', v'⟩ := x
      change (_ && _) = true at h
      simp only [Bool.and_eq_true, beq_iff_eq] at h
      obtain ⟨⟨rfl, hv⟩, hys⟩ := h
      exact .cons (.mk (like_expr v hv)) (like_assignments ys hys)
termination_by structural y => y
/-- A tree is like every tree that equals it. -/
lemma like_statement {x : Statement} : (y : Statement) → y.equals x = true →
    Statement.Like V x y
  | .select ⟨w, d, is, fs, js, f, g, u, o, l, k⟩, h => by
    cases x with
    | select s =>
      obtain ⟨w', d', is', fs', js', f', g', u', o', l', k'⟩ := s
      change (_ && _) = true at h
      simp only [Bool.and_eq_true, beq_iff_eq] at h
      obtain ⟨⟨⟨⟨⟨⟨⟨⟨⟨⟨hw, rfl⟩, his⟩, hfs⟩, hjs⟩, hf⟩, hg⟩, hu⟩, ho⟩, hl⟩, hk⟩ := h
      exact .select (like_with w hw) (like_items is his) (like_sources fs hfs) (like_joins js hjs)
        (like_option f hf) (like_exprs g hg) (like_option u hu) (like_order o ho)
        (like_option l hl) (like_option k hk)
    | _ => exact absurd h Bool.false_ne_true
  | .setOp ⟨l, op, a, r, o, m, k⟩, h => by
    cases x with
    | setOp b =>
      obtain ⟨l', op', a', r', o', m', k'⟩ := b
      change (_ && _) = true at h
      simp only [Bool.and_eq_true, beq_iff_eq] at h
      obtain ⟨⟨⟨⟨⟨⟨hl, rfl⟩, rfl⟩, hr⟩, ho⟩, hm⟩, hk⟩ := h
      exact .setOp (like_statement l hl) (like_statement r hr) (like_order o ho) (like_option m hm)
        (like_option k hk)
    | _ => exact absurd h Bool.false_ne_true
  | .values ⟨rs, as⟩, h => by
    cases x with
    | values v =>
      obtain ⟨rs', as'⟩ := v
      change (_ && _) = true at h
      simp only [Bool.and_eq_true, beq_iff_eq] at h
      obtain ⟨hrs, rfl⟩ := h
      exact .values (like_rows rs hrs)
    | _ => exact absurd h Bool.false_ne_true
  | .insert ⟨t, cs, .rows rs, is⟩, h => by
    cases x with
    | insert i =>
      rcases i with ⟨t', cs', rs' | q', is'⟩
      · change (_ && _) = true at h
        simp only [Bool.and_eq_true, beq_iff_eq] at h
        obtain ⟨⟨⟨rfl, rfl⟩, hrs⟩, his⟩ := h
        exact .insert (.rows (like_rows rs hrs)) (like_items is his)
      · change (_ && _) = true at h
        simp only [Bool.and_eq_true] at h
        exact absurd h.1.2 Bool.false_ne_true
    | _ => exact absurd h Bool.false_ne_true
  | .insert ⟨t, cs, .query q, is⟩, h => by
    cases x with
    | insert i =>
      rcases i with ⟨t', cs', rs' | q', is'⟩
      · change (_ && _) = true at h
        simp only [Bool.and_eq_true] at h
        exact absurd h.1.2 Bool.false_ne_true
      · change (_ && _) = true at h
        simp only [Bool.and_eq_true, beq_iff_eq] at h
        obtain ⟨⟨⟨rfl, rfl⟩, hq⟩, his⟩ := h
        exact .insert (.query (like_statement q hq)) (like_items is his)
    | _ => exact absurd h Bool.false_ne_true
  | .createTable ⟨n, t, e, cs, some q⟩, h => by
    cases x with
    | createTable c =>
      rcases c with ⟨n', t', e', cs', _ | q'⟩
      · change (_ && _) = true at h
        simp only [Bool.and_eq_true] at h
        exact absurd h.2 Bool.false_ne_true
      · change (_ && _) = true at h
        simp only [Bool.and_eq_true, beq_iff_eq] at h
        obtain ⟨⟨⟨⟨rfl, rfl⟩, rfl⟩, rfl⟩, hq⟩ := h
        exact .createTable (.some (like_statement q hq))
    | _ => exact absurd h Bool.false_ne_true
  | .createTable ⟨n, t, e, cs, none⟩, h => by
    cases x with
    | createTable c =>
      rcases c with ⟨n', t', e', cs', _ | q'⟩
      · change (_ && _) = true at h
        simp only [Bool.and_eq_true, beq_iff_eq] at h
        obtain ⟨⟨⟨⟨rfl, rfl⟩, rfl⟩, rfl⟩, -⟩ := h
        exact .createTable .none
      · change (_ && _) = true at h
        simp only [Bool.and_eq_true] at h
        exact absurd h.2 Bool.false_ne_true
    | _ => exact absurd h Bool.false_ne_true
  | .update ⟨w, t, as, fs, f, is⟩, h => by
    cases x with
    | update u =>
      obtain ⟨w', t', as', fs', f', is'⟩ := u
      change (_ && _) = true at h
      simp only [Bool.and_eq_true] at h
      obtain ⟨⟨⟨⟨⟨hw, ht⟩, has⟩, hfs⟩, hf⟩, his⟩ := h
      exact .update (like_with w hw) (like_source t ht) (like_assignments as has)
        (like_sources fs hfs) (like_option f hf) (like_items is his)
    | _ => exact absurd h Bool.false_ne_true
  | .delete ⟨w, t, us, f, is⟩, h => by
    cases x with
    | delete u =>
      obtain ⟨w', t', us', f', is'⟩ := u
      change (_ && _) = true at h
      simp only [Bool.and_eq_true] at h
      obtain ⟨⟨⟨⟨hw, ht⟩, hus⟩, hf⟩, his⟩ := h
      exact .delete (like_with w hw) (like_source t ht) (like_sources us hus) (like_option f hf)
        (like_items is his)
    | _ => exact absurd h Bool.false_ne_true
termination_by structural y => y
end

lemma like_table {t u : CommonTable} (h : u.equals t = true) : CommonTable.Like V t u := by
  obtain ⟨n, cs, b⟩ := u
  obtain ⟨n', cs', b'⟩ := t
  change (_ && _) = true at h
  simp only [Bool.and_eq_true, beq_iff_eq] at h
  obtain ⟨⟨rfl, rfl⟩, hb⟩ := h
  exact .mk (like_statement hV b hb)

end

end Likeness

lemma Tour.names_statement (asOperand : Bool) (sc sc' : Scopes) {y : Statement} (x : Statement)
    (h : x.equals y = true) :
    placeholderNames (statement asOperand x sc) = placeholderNames (statement asOperand y sc') := by
  have hbase : Scopes.Like AnyValue sc' sc sc' sc := .base
  have hlike := alongside_statement asOperand hbase y
    (Likeness.like_statement (fun _ => trivial) x h)
  exact hlike.placeholderNames_eq.symm

end SqlLoom
