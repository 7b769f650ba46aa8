import Mathlib.Data.List.Forall2
import Mathlib.Data.Option.Basic
import Mathlib.Tactic.Lemma
import SqlLoom.Statement

/-! Trees of which one lacks some names that the other has: unqualified columns as entries of the
ORDER BY of set operations, of any of them and at any depth. All else is the same. -/
namespace SqlLoom

mutual
/-- One tree, and what is left of it without some bare names in the ORDER BY of set operations. -/
inductive Expr.Trims : Expr → Expr → Prop
  | column (q n) : Expr.Trims (.column q n) (.column q n)
  | literal (v) : Expr.Trims (.literal v) (.literal v)
  | parameter (n v) : Expr.Trims (.parameter n v) (.parameter n v)
  | call {n d args args' f f' w w'} : List.Forall₂ Expr.Trims args args' →
    Option.Rel Expr.Trims f f' → Option.Rel Window.Trims w w' →
    Expr.Trims (.call n args d f w) (.call n args' d f' w')
  | binary {op l l' r r'} : Expr.Trims l l' → Expr.Trims r r' →
    Expr.Trims (.binary l op r) (.binary l' op r')
  | unary {op e e'} : Expr.Trims e e' → Expr.Trims (.unary op e) (.unary op e')
  | tuple {es es'} : List.Forall₂ Expr.Trims es es' → Expr.Trims (.tuple es) (.tuple es')
  | array {es es'} : List.Forall₂ Expr.Trims es es' → Expr.Trims (.array es) (.array es')
  | inList {neg e e' es es'} : Expr.Trims e e' → List.Forall₂ Expr.Trims es es' →
    Expr.Trims (.inList e es neg) (.inList e' es' neg)
  | wildcard (q) : Expr.Trims (.wildcard q) (.wildcard q)
  | case {o o' bs bs' e e'} : Option.Rel Expr.Trims o o' → List.Forall₂ Branch.Trims bs bs' →
    Option.Rel Expr.Trims e e' → Expr.Trims (.case o bs e) (.case o' bs' e')
  | subquery {q q'} : Statement.Trims q q' → Expr.Trims (.subquery q) (.subquery q')
  | exists {q q'} : Statement.Trims q q' → Expr.Trims (.exists q) (.exists q')
  | inSubquery {neg e e' q q'} : Expr.Trims e e' → Statement.Trims q q' →
    Expr.Trims (.inSubquery e q neg) (.inSubquery e' q' neg)
  | between {neg e e' l l' h h'} : Expr.Trims e e' → Expr.Trims l l' → Expr.Trims h h' →
    Expr.Trims (.between e l h neg) (.between e' l' h' neg)
  | isNull {neg e e'} : Expr.Trims e e' → Expr.Trims (.isNull e neg) (.isNull e' neg)
  | cast {t s e e'} : Expr.Trims e e' → Expr.Trims (.cast e t s) (.cast e' t s)
  | nested {e e'} : Expr.Trims e e' → Expr.Trims (.nested e) (.nested e')
  | raw (s) : Expr.Trims (.raw s) (.raw s)
inductive Branch.Trims : Expr × Expr → Expr × Expr → Prop
  | mk {c c' r r'} : Expr.Trims c c' → Expr.Trims r r' → Branch.Trims (c, r) (c', r')
inductive Window.Trims : Window → Window → Prop
  | mk {n f p p' o o'} : List.Forall₂ Expr.Trims p p' → List.Forall₂ OrderItem.Trims o o' →
    Window.Trims ⟨n, p, o, f⟩ ⟨n, p', o', f⟩
inductive OrderItem.Trims : OrderItem → OrderItem → Prop
  | mk {a n v v'} : Expr.Trims v v' → OrderItem.Trims ⟨v, a, n⟩ ⟨v', a, n⟩
/-- The ORDER BY of a set operation. -/
inductive Trailing.Trims : List OrderItem → List OrderItem → Prop
  | nil : Trailing.Trims [] []
  | keep {i i' os os'} : OrderItem.Trims i i' → Trailing.Trims os os' →
    Trailing.Trims (i :: os) (i' :: os')
  | drop (name a n) {os os'} : Trailing.Trims os os' →
    Trailing.Trims (⟨.column none name, a, n⟩ :: os) os'
inductive SelectItem.Trims : SelectItem → SelectItem → Prop
  | mk {a v v'} : Expr.Trims v v' → SelectItem.Trims ⟨v, a⟩ ⟨v', a⟩
inductive Source.Trims : Source → Source → Prop
  | table (s n a) : Source.Trims (.table s n a) (.table s n a)
  | subquery {a cs l q q'} : Statement.Trims q q' →
    Source.Trims (.subquery q a cs l) (.subquery q' a cs l)
  | function {n a args args'} : List.Forall₂ Expr.Trims args args' →
    Source.Trims (.function n args a) (.function n args' a)
inductive JoinCondition.Trims : JoinCondition → JoinCondition → Prop
  | predicate {e e'} : Expr.Trims e e' → JoinCondition.Trims (.predicate e) (.predicate e')
  | shared (cs) : JoinCondition.Trims (.shared cs) (.shared cs)
  | natural : JoinCondition.Trims .natural .natural
inductive Join.Trims : Join → Join → Prop
  | mk {t s s' c c'} : Source.Trims s s' → Option.Rel JoinCondition.Trims c c' →
    Join.Trims ⟨t, s, c⟩ ⟨t, s', c'⟩
inductive CommonTable.Trims : CommonTable → CommonTable → Prop
  | mk {n cs b b'} : Statement.Trims b b' → CommonTable.Trims ⟨n, cs, b⟩ ⟨n, cs, b'⟩
inductive WithClause.Trims : WithClause → WithClause → Prop
  | mk {r ts ts'} : List.Forall₂ CommonTable.Trims ts ts' → WithClause.Trims ⟨r, ts⟩ ⟨r, ts'⟩
inductive Assignment.Trims : Assignment → Assignment → Prop
  | mk {c v v'} : Expr.Trims v v' → Assignment.Trims ⟨c, v⟩ ⟨c, v'⟩
inductive InsertSource.Trims : InsertSource → InsertSource → Prop
  | rows {rs rs'} : List.Forall₂ (List.Forall₂ Expr.Trims) rs rs' →
    InsertSource.Trims (.rows rs) (.rows rs')
  | query {q q'} : Statement.Trims q q' → InsertSource.Trims (.query q) (.query q')
inductive Statement.Trims : Statement → Statement → Prop
  | select {d w w' is is' fs fs' js js' f f' g g' h h' o o' l l' k k'} :
    Option.Rel WithClause.Trims w w' → List.Forall₂ SelectItem.Trims is is' →
    List.Forall₂ Source.Trims fs fs' → List.Forall₂ Join.Trims js js' →
    Option.Rel Expr.Trims f f' → List.Forall₂ Expr.Trims g g' → Option.Rel Expr.Trims h h' →
    List.Forall₂ OrderItem.Trims o o' → Option.Rel Expr.Trims l l' → Option.Rel Expr.Trims k k' →
    Statement.Trims (.select ⟨w, d, is, fs, js, f, g, h, o, l, k⟩)
      (.select ⟨w', d, is', fs', js', f', g', h', o', l', k'⟩)
  | setOp {op a l l' r r' o o' m m' k k'} : Statement.Trims l l' → Statement.Trims r r' →
    Trailing.Trims o o' → Option.Rel Expr.Trims m m' → Option.Rel Expr.Trims k k' →
    Statement.Trims (.setOp ⟨l, op, a, r, o, m, k⟩) (.setOp ⟨l', op, a, r', o', m', k'⟩)
  | values {as rs rs'} : List.Forall₂ (List.Forall₂ Expr.Trims) rs rs' →
    Statement.Trims (.values ⟨rs, as⟩) (.values ⟨rs', as⟩)
  | insert {t cs s s' is is'} : InsertSource.Trims s s' → List.Forall₂ SelectItem.Trims is is' →
    Statement.Trims (.insert ⟨t, cs, s, is⟩) (.insert ⟨t, cs, s', is'⟩)
  | createTable {n t e cs q q'} : Option.Rel Statement.Trims q q' →
    Statement.Trims (.createTable ⟨n, t, e, cs, q⟩) (.createTable ⟨n, t, e, cs, q'⟩)
  | update {w w' t t' as as' fs fs' f f' is is'} : Option.Rel WithClause.Trims w w' →
    Source.Trims t t' → List.Forall₂ Assignment.Trims as as' → List.Forall₂ Source.Trims fs fs' →
    Option.Rel Expr.Trims f f' → List.Forall₂ SelectItem.Trims is is' →
    Statement.Trims (.update ⟨w, t, as, fs, f, is⟩) (.update ⟨w', t', as', fs', f', is'⟩)
  | delete {w w' t t' us us' f f' is is'} : Option.Rel WithClause.Trims w w' →
    Source.Trims t t' → List.Forall₂ Source.Trims us us' → Option.Rel Expr.Trims f f' →
    List.Forall₂ SelectItem.Trims is is' →
    Statement.Trims (.delete ⟨w, t, us, f, is⟩) (.delete ⟨w', t', us', f', is'⟩)
end

namespace Trimming

mutual
lemma refl_expr : (e : Expr) → Expr.Trims e e
  | .column q n => .column q n
  | .literal v => .literal v
  | .parameter n v => .parameter n v
  | .call _ args _ f w => .call (refl_exprs args) (refl_option f) (refl_window w)
  | .binary l _ r => .binary (refl_expr l) (refl_expr r)
  | .unary _ e => .unary (refl_expr e)
  | .tuple es => .tuple (refl_exprs es)
  | .array es => .array (refl_exprs es)
  | .inList e es _ => .inList (refl_expr e) (refl_exprs es)
  | .wildcard q => .wildcard q
  | .case o bs e => .case (refl_option o) (refl_branches bs) (refl_option e)
  | .subquery q => .subquery (refl_statement q)
  | .exists q => .exists (refl_statement q)
  | .inSubquery e q _ => .inSubquery (refl_expr e) (refl_statement q)
  | .between e l h _ => .between (refl_expr e) (refl_expr l) (refl_expr h)
  | .isNull e _ => .isNull (refl_expr e)
  | .cast e _ _ => .cast (refl_expr e)
  | .nested e => .nested (refl_expr e)
  | .raw s => .raw s
lemma refl_exprs : (es : List Expr) → List.Forall₂ Expr.Trims es es
  | [] => .nil
  | e :: es => .cons (refl_expr e) (refl_exprs es)
lemma refl_option : (e : Option Expr) → Option.Rel Expr.Trims e e
  | none => .none
  | some e => .some (refl_expr e)
lemma refl_branches : (bs : List (Expr × Expr)) → List.Forall₂ Branch.Trims bs bs
  | [] => .nil
  | (c, r) :: bs => .cons (.mk (refl_expr c) (refl_expr r)) (refl_branches bs)
lemma refl_window : (w : Option Window) → Option.Rel Window.Trims w w
  | none => .none
  | some ⟨_, p, o, _⟩ => .some (.mk (refl_exprs p) (refl_order o))
lemma refl_order : (os : List OrderItem) → List.Forall₂ OrderItem.Trims os os
  | [] => .nil
  | ⟨v, _, _⟩ :: os => .cons (.mk (refl_expr v)) (refl_order os)
lemma refl_trailing : (os : List OrderItem) → Trailing.Trims os os
  | [] => .nil
  | ⟨v, _, _⟩ :: os => .keep (.mk (refl_expr v)) (refl_trailing os)
lemma refl_items : (is : List SelectItem) → List.Forall₂ SelectItem.Trims is is
  | [] => .nil
  | ⟨v, _⟩ :: is => .cons (.mk (refl_expr v)) (refl_items is)
lemma refl_source : (s : Source) → Source.Trims s s
  | .table s n a => .table s n a
  | .subquery q _ _ _ => .subquery (refl_statement q)
  | .function _ args _ => .function (refl_exprs args)
lemma refl_sources : (ss : List Source) → List.Forall₂ Source.Trims ss ss
  | [] => .nil
  | s :: ss => .cons (refl_source s) (refl_sources ss)
lemma refl_condition : (c : Option JoinCondition) → Option.Rel JoinCondition.Trims c c
  | none => .none
  | some (.predicate e) => .some (.predicate (refl_expr e))
  | some (.shared cs) => .some (.shared cs)
  | some .natural => .some .natural
lemma refl_joins : (js : List Join) → List.Forall₂ Join.Trims js js
  | [] => .nil
  | ⟨_, s, c⟩ :: js => .cons (.mk (refl_source s) (refl_condition c)) (refl_joins js)
lemma refl_tables : (ts : List CommonTable) → List.Forall₂ CommonTable.Trims ts ts
  | [] => .nil
  | ⟨_, _, b⟩ :: ts => .cons (.mk (refl_statement b)) (refl_tables ts)
lemma refl_with : (w : Option WithClause) → Option.Rel WithClause.Trims w w
  | none => .none
  | some ⟨_, ts⟩ => .some (.mk (refl_tables ts))
lemma refl_rows : (rs : List (List Expr)) → List.Forall₂ (List.Forall₂ Expr.Trims) rs rs
  | [] => .nil
  | r :: rs => .cons (refl_exprs r) (refl_rows rs)
lemma refl_assignments : (as : List Assignment) → List.Forall₂ Assignment.Trims as as
  | [] => .nil
  | ⟨_, v⟩ :: as => .cons (.mk (refl_expr v)) (refl_assignments as)
/-- Every entry may stay. -/
lemma refl_statement : (s : Statement) → Statement.Trims s s
  | .select ⟨w, _, is, fs, js, f, g, h, o, l, k⟩ =>
    .select (refl_with w) (refl_items is) (refl_sources fs) (refl_joins js) (refl_option f)
      (refl_exprs g) (refl_option h) (refl_order o) (refl_option l) (refl_option k)
  | .setOp ⟨l, _, _, r, o, m, k⟩ =>
    .setOp (refl_statement l) (refl_statement r) (refl_trailing o) (refl_option m) (refl_option k)
  | .values ⟨rs, _⟩ => .values (refl_rows rs)
  | .insert ⟨_, _, .rows rs, is⟩ => .insert (.rows (refl_rows rs)) (refl_items is)
  | .insert ⟨_, _, .query q, is⟩ => .insert (.query (refl_statement q)) (refl_items is)
  | .createTable ⟨_, _, _, _, some q⟩ => .createTable (.some (refl_statement q))
  | .createTable ⟨_, _, _, _, none⟩ => .createTable .none
  | .update ⟨w, t, as, fs, f, is⟩ =>
    .update (refl_with w) (refl_source t) (refl_assignments as) (refl_sources fs) (refl_option f)
      (refl_items is)
  | .delete ⟨w, t, us, f, is⟩ =>
    .delete (refl_with w) (refl_source t) (refl_sources us) (refl_option f) (refl_items is)
end

/-- The names of one set operation may be left out alone. -/
lemma trims_orderBy (b : SetOperation) {os : List OrderItem} (h : Trailing.Trims b.orderBy os) :
    Statement.Trims (.setOp b) (.setOp { b with orderBy := os }) := by
  obtain ⟨l, op, a, r, o, m, k⟩ := b
  exact .setOp (refl_statement l) (refl_statement r) h (refl_option m) (refl_option k)

end Trimming

end SqlLoom
