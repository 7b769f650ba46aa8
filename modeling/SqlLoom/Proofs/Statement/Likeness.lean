import Mathlib.Data.List.Forall2
import Mathlib.Data.Option.Basic
import Mathlib.Tactic.Lemma
import SqlLoom.Statement

/-! Trees of one shape that differ at most in the values bound to placeholders. Which differences
are allowed is a parameter: none, those of one name, or all. -/
namespace SqlLoom

section
variable (V : String → Option Scalar → Option Scalar → Prop)

mutual
/-- One tree and another in its stead, with `V` between the values bound in them. -/
inductive Expr.Like : Expr → Expr → Prop
  | column (q n) : Expr.Like (.column q n) (.column q n)
  | literal (v) : Expr.Like (.literal v) (.literal v)
  | parameter {n v v'} : V n v v' → Expr.Like (.parameter n v) (.parameter n v')
  | call {n d args args' f f' w w'} : List.Forall₂ Expr.Like args args' →
    Option.Rel Expr.Like f f' → Option.Rel Window.Like w w' →
    Expr.Like (.call n args d f w) (.call n args' d f' w')
  | binary {op l l' r r'} : Expr.Like l l' → Expr.Like r r' →
    Expr.Like (.binary l op r) (.binary l' op r')
  | unary {op e e'} : Expr.Like e e' → Expr.Like (.unary op e) (.unary op e')
  | tuple {es es'} : List.Forall₂ Expr.Like es es' → Expr.Like (.tuple es) (.tuple es')
  | array {es es'} : List.Forall₂ Expr.Like es es' → Expr.Like (.array es) (.array es')
  | inList {neg e e' es es'} : Expr.Like e e' → List.Forall₂ Expr.Like es es' →
    Expr.Like (.inList e es neg) (.inList e' es' neg)
  | wildcard (q) : Expr.Like (.wildcard q) (.wildcard q)
  | case {o o' bs bs' e e'} : Option.Rel Expr.Like o o' → List.Forall₂ Branch.Like bs bs' →
    Option.Rel Expr.Like e e' → Expr.Like (.case o bs e) (.case o' bs' e')
  | subquery {q q'} : Statement.Like q q' → Expr.Like (.subquery q) (.subquery q')
  | exists {q q'} : Statement.Like q q' → Expr.Like (.exists q) (.exists q')
  | inSubquery {neg e e' q q'} : Expr.Like e e' → Statement.Like q q' →
    Expr.Like (.inSubquery e q neg) (.inSubquery e' q' neg)
  | between {neg e e' l l' h h'} : Expr.Like e e' → Expr.Like l l' → Expr.Like h h' →
    Expr.Like (.between e l h neg) (.between e' l' h' neg)
  | isNull {neg e e'} : Expr.Like e e' → Expr.Like (.isNull e neg) (.isNull e' neg)
  | cast {t s e e'} : Expr.Like e e' → Expr.Like (.cast e t s) (.cast e' t s)
  | nested {e e'} : Expr.Like e e' → Expr.Like (.nested e) (.nested e')
  | raw (s) : Expr.Like (.raw s) (.raw s)
inductive Branch.Like : Expr × Expr → Expr × Expr → Prop
  | mk {c c' r r'} : Expr.Like c c' → Expr.Like r r' → Branch.Like (c, r) (c', r')
inductive Window.Like : Window → Window → Prop
  | mk {n f p p' o o'} : List.Forall₂ Expr.Like p p' → List.Forall₂ OrderItem.Like o o' →
    Window.Like ⟨n, p, o, f⟩ ⟨n, p', o', f⟩
inductive OrderItem.Like : OrderItem → OrderItem → Prop
  | mk {a n v v'} : Expr.Like v v' → OrderItem.Like ⟨v, a, n⟩ ⟨v', a, n⟩
inductive SelectItem.Like : SelectItem → SelectItem → Prop
  | mk {a v v'} : Expr.Like v v' → SelectItem.Like ⟨v, a⟩ ⟨v', a⟩
inductive Source.Like : Source → Source → Prop
  | table (s n a) : Source.Like (.table s n a) (.table s n a)
  | subquery {a cs l q q'} : Statement.Like q q' →
    Source.Like (.subquery q a cs l) (.subquery q' a cs l)
  | function {n a args args'} : List.Forall₂ Expr.Like args args' →
    Source.Like (.function n args a) (.function n args' a)
inductive JoinCondition.Like : JoinCondition → JoinCondition → Prop
  | predicate {e e'} : Expr.Like e e' → JoinCondition.Like (.predicate e) (.predicate e')
  | shared (cs) : JoinCondition.Like (.shared cs) (.shared cs)
  | natural : JoinCondition.Like .natural .natural
inductive Join.Like : Join → Join → Prop
  | mk {t s s' c c'} : Source.Like s s' → Option.Rel JoinCondition.Like c c' →
    Join.Like ⟨t, s, c⟩ ⟨t, s', c'⟩
inductive CommonTable.Like : CommonTable → CommonTable → Prop
  | mk {n cs b b'} : Statement.Like b b' → CommonTable.Like ⟨n, cs, b⟩ ⟨n, cs, b'⟩
inductive WithClause.Like : WithClause → WithClause → Prop
  | mk {r ts ts'} : List.Forall₂ CommonTable.Like ts ts' → WithClause.Like ⟨r, ts⟩ ⟨r, ts'⟩
inductive Assignment.Like : Assignment → Assignment → Prop
  | mk {c v v'} : Expr.Like v v' → Assignment.Like ⟨c, v⟩ ⟨c, v'⟩
inductive InsertSource.Like : InsertSource → InsertSource → Prop
  | rows {rs rs'} : List.Forall₂ (List.Forall₂ Expr.Like) rs rs' →
    InsertSource.Like (.rows rs) (.rows rs')
  | query {q q'} : Statement.Like q q' → InsertSource.Like (.query q) (.query q')
inductive Statement.Like : Statement → Statement → Prop
  | select {d w w' is is' fs fs' js js' f f' g g' h h' o o' l l' k k'} :
    Option.Rel WithClause.Like w w' → List.Forall₂ SelectItem.Like is is' →
    List.Forall₂ Source.Like fs fs' → List.Forall₂ Join.Like js js' →
    Option.Rel Expr.Like f f' → List.Forall₂ Expr.Like g g' → Option.Rel Expr.Like h h' →
    List.Forall₂ OrderItem.Like o o' → Option.Rel Expr.Like l l' → Option.Rel Expr.Like k k' →
    Statement.Like (.select ⟨w, d, is, fs, js, f, g, h, o, l, k⟩)
      (.select ⟨w', d, is', fs', js', f', g', h', o', l', k'⟩)
  | setOp {op a l l' r r' o o' m m' k k'} : Statement.Like l l' → Statement.Like r r' →
    List.Forall₂ OrderItem.Like o o' → Option.Rel Expr.Like m m' → Option.Rel Expr.Like k k' →
    Statement.Like (.setOp ⟨l, op, a, r, o, m, k⟩) (.setOp ⟨l', op, a, r', o', m', k'⟩)
  | values {as rs rs'} : List.Forall₂ (List.Forall₂ Expr.Like) rs rs' →
    Statement.Like (.values ⟨rs, as⟩) (.values ⟨rs', as⟩)
  | insert {t cs s s' is is'} : InsertSource.Like s s' → List.Forall₂ SelectItem.Like is is' →
    Statement.Like (.insert ⟨t, cs, s, is⟩) (.insert ⟨t, cs, s', is'⟩)
  | createTable {n t e cs q q'} : Option.Rel Statement.Like q q' →
    Statement.Like (.createTable ⟨n, t, e, cs, q⟩) (.createTable ⟨n, t, e, cs, q'⟩)
  | update {w w' t t' as as' fs fs' f f' is is'} : Option.Rel WithClause.Like w w' →
    Source.Like t t' → List.Forall₂ Assignment.Like as as' → List.Forall₂ Source.Like fs fs' →
    Option.Rel Expr.Like f f' → List.Forall₂ SelectItem.Like is is' →
    Statement.Like (.update ⟨w, t, as, fs, f, is⟩) (.update ⟨w', t', as', fs', f', is'⟩)
  | delete {w w' t t' us us' f f' is is'} : Option.Rel WithClause.Like w w' →
    Source.Like t t' → List.Forall₂ Source.Like us us' → Option.Rel Expr.Like f f' →
    List.Forall₂ SelectItem.Like is is' →
    Statement.Like (.delete ⟨w, t, us, f, is⟩) (.delete ⟨w', t', us', f', is'⟩)
end

end

/-- Any value may stand for any other. -/
abbrev AnyValue : String → Option Scalar → Option Scalar → Prop := fun _ _ _ => True

namespace Likeness

section
variable {V : String → Option Scalar → Option Scalar → Prop} (hV : ∀ n v, V n v v)
include hV

set_option linter.unusedSectionVars false in
mutual
lemma refl_expr : (e : Expr) → Expr.Like V e e
  | .column q n => .column q n
  | .literal v => .literal v
  | .parameter n v => .parameter (hV n v)
  | .call _ args _ f w => .call (refl_exprs args) (refl_option f) (refl_window w)
  | .binary l _ r => .binary (refl_expr l) (refl_expr r)
  | .unary _ e => .unary (refl_expr e)
  | .tuple es => .tuple (refl_exprs es)
  | .array es => .array (refl_exprs es)
  | .inList e es _ => .inList (refl_expr e) (refl_exprs es)
  | .wildcard q => .wildcard q
  | .case o bs e => .case (refl_option o) (refl_branches bs) (refl_option e)
  | .subquery q => .subquery (refl_statement q)
  | .exists q => .exists (refl_statement q)
  | .inSubquery e q _ => .inSubquery (refl_expr e) (refl_statement q)
  | .between e l h _ => .between (refl_expr e) (refl_expr l) (refl_expr h)
  | .isNull e _ => .isNull (refl_expr e)
  | .cast e _ _ => .cast (refl_expr e)
  | .nested e => .nested (refl_expr e)
  | .raw s => .raw s
lemma refl_exprs : (es : List Expr) → List.Forall₂ (Expr.Like V) es es
  | [] => .nil
  | e :: es => .cons (refl_expr e) (refl_exprs es)
lemma refl_option : (e : Option Expr) → Option.Rel (Expr.Like V) e e
  | none => .none
  | some e => .some (refl_expr e)
lemma refl_branches : (bs : List (Expr × Expr)) → List.Forall₂ (Branch.Like V) bs bs
  | [] => .nil
  | (c, r) :: bs => .cons (.mk (refl_expr c) (refl_expr r)) (refl_branches bs)
lemma refl_window : (w : Option Window) → Option.Rel (Window.Like V) w w
  | none => .none
  | some ⟨_, p, o, _⟩ => .some (.mk (refl_exprs p) (refl_order o))
lemma refl_order : (os : List OrderItem) → List.Forall₂ (OrderItem.Like V) os os
  | [] => .nil
  | ⟨v, _, _⟩ :: os => .cons (.mk (refl_expr v)) (refl_order os)
lemma refl_items : (is : List SelectItem) → List.Forall₂ (SelectItem.Like V) is is
  | [] => .nil
  | ⟨v, _⟩ :: is => .cons (.mk (refl_expr v)) (refl_items is)
lemma refl_source : (s : Source) → Source.Like V s s
  | .table s n a => .table s n a
  | .subquery q _ _ _ => .subquery (refl_statement q)
  | .function _ args _ => .function (refl_exprs args)
lemma refl_sources : (ss : List Source) → List.Forall₂ (Source.Like V) ss ss
  | [] => .nil
  | s :: ss => .cons (refl_source s) (refl_sources ss)
lemma refl_condition : (c : Option JoinCondition) → Option.Rel (JoinCondition.Like V) c c
  | none => .none
  | some (.predicate e) => .some (.predicate (refl_expr e))
  | some (.shared cs) => .some (.shared cs)
  | some .natural => .some .natural
lemma refl_joins : (js : List Join) → List.Forall₂ (Join.Like V) js js
  | [] => .nil
  | ⟨_, s, c⟩ :: js => .cons (.mk (refl_source s) (refl_condition c)) (refl_joins js)
lemma refl_tables : (ts : List CommonTable) → List.Forall₂ (CommonTable.Like V) ts ts
  | [] => .nil
  | ⟨_, _, b⟩ :: ts => .cons (.mk (refl_statement b)) (refl_tables ts)
lemma refl_with : (w : Option WithClause) → Option.Rel (WithClause.Like V) w w
  | none => .none
  | some ⟨_, ts⟩ => .some (.mk (refl_tables ts))
lemma refl_rows : (rs : List (List Expr)) → List.Forall₂ (List.Forall₂ (Expr.Like V)) rs rs
  | [] => .nil
  | r :: rs => .cons (refl_exprs r) (refl_rows rs)
lemma refl_assignments : (as : List Assignment) → List.Forall₂ (Assignment.Like V) as as
  | [] => .nil
  | ⟨_, v⟩ :: as => .cons (.mk (refl_expr v)) (refl_assignments as)
/-- A tree is like itself if every value may stay. -/
lemma refl_statement : (s : Statement) → Statement.Like V s s
  | .select ⟨w, _, is, fs, js, f, g, h, o, l, k⟩ =>
    .select (refl_with w) (refl_items is) (refl_sources fs) (refl_joins js) (refl_option f)
      (refl_exprs g) (refl_option h) (refl_order o) (refl_option l) (refl_option k)
  | .setOp ⟨l, _, _, r, o, m, k⟩ =>
    .setOp (refl_statement l) (refl_statement r) (refl_order o) (refl_option m) (refl_option k)
  | .values ⟨rs, _⟩ => .values (refl_rows rs)
  | .insert ⟨_, _, .rows rs, is⟩ => .insert (.rows (refl_rows rs)) (refl_items is)
  | .insert ⟨_, _, .query q, is⟩ => .insert (.query (refl_statement q)) (refl_items is)
  | .createTable ⟨_, _, _, _, some q⟩ => .createTable (.some (refl_statement q))
  | .createTable ⟨_, _, _, _, none⟩ => .createTable .none
  | .update ⟨w, t, as, fs, f, is⟩ =>
    .update (refl_with w) (refl_source t) (refl_assignments as) (refl_sources fs) (refl_option f)
      (refl_items is)
  | .delete ⟨w, t, us, f, is⟩ =>
    .delete (refl_with w) (refl_source t) (refl_sources us) (refl_option f) (refl_items is)
end

lemma refl_table : (t : CommonTable) → CommonTable.Like V t t
  | ⟨_, _, b⟩ => .mk (refl_statement hV b)

end

end Likeness

end SqlLoom
