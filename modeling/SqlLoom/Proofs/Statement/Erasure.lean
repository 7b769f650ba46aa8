import Mathlib.Data.List.Forall2
import Mathlib.Data.Option.Basic
import SqlLoom.Statement

/-! Trees that differ in nothing but the schemas of FROM entries, some of which are gone. Which
references may lose theirs is a parameter. -/
namespace SqlLoom

section
variable (P : String → String → Prop)

mutual
/-- One tree and another that is the same but for schemas that are gone. -/
inductive Expr.Erases : Expr → Expr → Prop
  | column (q n) : Expr.Erases (.column q n) (.column q n)
  | literal (v) : Expr.Erases (.literal v) (.literal v)
  | parameter (n v) : Expr.Erases (.parameter n v) (.parameter n v)
  | call {n d args args' f f' w w'} : List.Forall₂ Expr.Erases args args' →
    Option.Rel Expr.Erases f f' → Option.Rel Window.Erases w w' →
    Expr.Erases (.call n args d f w) (.call n args' d f' w')
  | binary {op l l' r r'} : Expr.Erases l l' → Expr.Erases r r' →
    Expr.Erases (.binary l op r) (.binary l' op r')
  | unary {op e e'} : Expr.Erases e e' → Expr.Erases (.unary op e) (.unary op e')
  | tuple {es es'} : List.Forall₂ Expr.Erases es es' → Expr.Erases (.tuple es) (.tuple es')
  | array {es es'} : List.Forall₂ Expr.Erases es es' → Expr.Erases (.array es) (.array es')
  | inList {neg e e' es es'} : Expr.Erases e e' → List.Forall₂ Expr.Erases es es' →
    Expr.Erases (.inList e es neg) (.inList e' es' neg)
  | wildcard (q) : Expr.Erases (.wildcard q) (.wildcard q)
  | case {o o' bs bs' e e'} : Option.Rel Expr.Erases o o' → List.Forall₂ Branch.Erases bs bs' →
    Option.Rel Expr.Erases e e' → Expr.Erases (.case o bs e) (.case o' bs' e')
  | subquery {q q'} : Statement.Erases q q' → Expr.Erases (.subquery q) (.subquery q')
  | exists {q q'} : Statement.Erases q q' → Expr.Erases (.exists q) (.exists q')
  | inSubquery {neg e e' q q'} : Expr.Erases e e' → Statement.Erases q q' →
    Expr.Erases (.inSubquery e q neg) (.inSubquery e' q' neg)
  | between {neg e e' l l' h h'} : Expr.Erases e e' → Expr.Erases l l' → Expr.Erases h h' →
    Expr.Erases (.between e l h neg) (.between e' l' h' neg)
  | isNull {neg e e'} : Expr.Erases e e' → Expr.Erases (.isNull e neg) (.isNull e' neg)
  | cast {t s e e'} : Expr.Erases e e' → Expr.Erases (.cast e t s) (.cast e' t s)
  | nested {e e'} : Expr.Erases e e' → Expr.Erases (.nested e) (.nested e')
  | raw (s) : Expr.Erases (.raw s) (.raw s)
inductive Branch.Erases : Expr × Expr → Expr × Expr → Prop
  | mk {c c' r r'} : Expr.Erases c c' → Expr.Erases r r' → Branch.Erases (c, r) (c', r')
inductive Window.Erases : Window → Window → Prop
  | mk {n f p p' o o'} : List.Forall₂ Expr.Erases p p' → List.Forall₂ OrderItem.Erases o o' →
    Window.Erases ⟨n, p, o, f⟩ ⟨n, p', o', f⟩
inductive OrderItem.Erases : OrderItem → OrderItem → Prop
  | mk {a n v v'} : Expr.Erases v v' → OrderItem.Erases ⟨v, a, n⟩ ⟨v', a, n⟩
inductive SelectItem.Erases : SelectItem → SelectItem → Prop
  | mk {a v v'} : Expr.Erases v v' → SelectItem.Erases ⟨v, a⟩ ⟨v', a⟩
inductive Source.Erases : Source → Source → Prop
  | table (s n a) : Source.Erases (.table s n a) (.table s n a)
  | erased {s n} (a) : P s n → Source.Erases (.table (some s) n a) (.table none n a)
  | subquery {a cs l q q'} : Statement.Erases q q' →
    Source.Erases (.subquery q a cs l) (.subquery q' a cs l)
  | function {n a args args'} : List.Forall₂ Expr.Erases args args' →
    Source.Erases (.function n args a) (.function n args' a)
inductive JoinCondition.Erases : JoinCondition → JoinCondition → Prop
  | predicate {e e'} : Expr.Erases e e' → JoinCondition.Erases (.predicate e) (.predicate e')
  | shared (cs) : JoinCondition.Erases (.shared cs) (.shared cs)
  | natural : JoinCondition.Erases .natural .natural
inductive Join.Erases : Join → Join → Prop
  | mk {t s s' c c'} : Source.Erases s s' → Option.Rel JoinCondition.Erases c c' →
    Join.Erases ⟨t, s, c⟩ ⟨t, s', c'⟩
inductive CommonTable.Erases : CommonTable → CommonTable → Prop
  | mk {n cs b b'} : Statement.Erases b b' → CommonTable.Erases ⟨n, cs, b⟩ ⟨n, cs, b'⟩
inductive WithClause.Erases : WithClause → WithClause → Prop
  | mk {r ts ts'} : List.Forall₂ CommonTable.Erases ts ts' → WithClause.Erases ⟨r, ts⟩ ⟨r, ts'⟩
inductive Assignment.Erases : Assignment → Assignment → Prop
  | mk {c v v'} : Expr.Erases v v' → Assignment.Erases ⟨c, v⟩ ⟨c, v'⟩
inductive InsertSource.Erases : InsertSource → InsertSource → Prop
  | rows {rs rs'} : List.Forall₂ (List.Forall₂ Expr.Erases) rs rs' →
    InsertSource.Erases (.rows rs) (.rows rs')
  | query {q q'} : Statement.Erases q q' → InsertSource.Erases (.query q) (.query q')
inductive Statement.Erases : Statement → Statement → Prop
  | select {d w w' is is' fs fs' js js' f f' g g' h h' o o' l l' k k'} :
    Option.Rel WithClause.Erases w w' → List.Forall₂ SelectItem.Erases is is' →
    List.Forall₂ Source.Erases fs fs' → List.Forall₂ Join.Erases js js' →
    Option.Rel Expr.Erases f f' → List.Forall₂ Expr.Erases g g' → Option.Rel Expr.Erases h h' →
    List.Forall₂ OrderItem.Erases o o' → Option.Rel Expr.Erases l l' → Option.Rel Expr.Erases k k' →
    Statement.Erases (.select ⟨w, d, is, fs, js, f, g, h, o, l, k⟩)
      (.select ⟨w', d, is', fs', js', f', g', h', o', l', k'⟩)
  | setOp {op a l l' r r' o o' m m' k k'} : Statement.Erases l l' → Statement.Erases r r' →
    List.Forall₂ OrderItem.Erases o o' → Option.Rel Expr.Erases m m' → Option.Rel Expr.Erases k k' →
    Statement.Erases (.setOp ⟨l, op, a, r, o, m, k⟩) (.setOp ⟨l', op, a, r', o', m', k'⟩)
  | values {as rs rs'} : List.Forall₂ (List.Forall₂ Expr.Erases) rs rs' →
    Statement.Erases (.values ⟨rs, as⟩) (.values ⟨rs', as⟩)
  | insert {t cs s s' is is'} : InsertSource.Erases s s' → List.Forall₂ SelectItem.Erases is is' →
    Statement.Erases (.insert ⟨t, cs, s, is⟩) (.insert ⟨t, cs, s', is'⟩)
  | createTable {n t e cs q q'} : Option.Rel Statement.Erases q q' →
    Statement.Erases (.createTable ⟨n, t, e, cs, q⟩) (.createTable ⟨n, t, e, cs, q'⟩)
  | update {w w' t t' as as' fs fs' f f' is is'} : Option.Rel WithClause.Erases w w' →
    Source.Erases t t' → List.Forall₂ Assignment.Erases as as' → List.Forall₂ Source.Erases fs fs' →
    Option.Rel Expr.Erases f f' → List.Forall₂ SelectItem.Erases is is' →
    Statement.Erases (.update ⟨w, t, as, fs, f, is⟩) (.update ⟨w', t', as', fs', f', is'⟩)
  | delete {w w' t t' us us' f f' is is'} : Option.Rel WithClause.Erases w w' →
    Source.Erases t t' → List.Forall₂ Source.Erases us us' → Option.Rel Expr.Erases f f' →
    List.Forall₂ SelectItem.Erases is is' →
    Statement.Erases (.delete ⟨w, t, us, f, is⟩) (.delete ⟨w', t', us', f', is'⟩)
end

end

end SqlLoom
