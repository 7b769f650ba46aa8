import SqlLoom.Proofs.Walk.Tour

/-! Every FROM entry of a statement in the order of the walk, with what decides whether fixtures
reach it: whether the search for schemas gets there, and whether the clause in front of the
statement is in scope there. -/
namespace SqlLoom

/-- A FROM entry with its place. -/
structure Site where
  source : Source
  scopes : Scopes
  /-- Whether a schema is looked for. -/
  searched : Bool
  /-- How many frames lie below the clause in front of the statement, if it is in scope. -/
  front : Option Nat

/-- What holds at the entries of a part of a statement. -/
structure Reach where
  /-- FROM clauses are searched. -/
  froms : Bool := true
  /-- The queries in value expressions are searched. -/
  values : Bool := true
  front : Option Nat := none

namespace Reach

/-- Inside a derived table that a data change reads from. -/
def derived (r : Reach) : Reach := { r with froms := false }

/-- Inside the target of a DELETE. -/
def unsearched (r : Reach) : Reach := { r with froms := false, values := false }

/-- Inside a query in a value expression. -/
def query (r : Reach) : Reach := { r with froms := r.values }

def site (r : Reach) (x : Source) (sc : Scopes) : Site := ⟨x, sc, r.froms, r.front⟩

end Reach

namespace Sites

mutual
def expr (r : Reach) : Expr → Scopes → List Site
  | .call _ args _ f w, sc => exprs r args sc ++ option r f sc ++ window r w sc
  | .binary l _ x, sc => expr r l sc ++ expr r x sc
  | .unary _ e, sc => expr r e sc
  | .tuple es, sc => exprs r es sc
  | .array es, sc => exprs r es sc
  | .inList e es _, sc => expr r e sc ++ exprs r es sc
  | .case o bs e, sc => option r o sc ++ branches r bs sc ++ option r e sc
  | .subquery q, sc => statement r.query false q (.subquery none :: sc)
  | .exists q, sc => statement r.query false q (.subquery none :: sc)
  | .inSubquery e q _, sc => expr r e sc ++ statement r.query false q (.subquery none :: sc)
  | .between e l h _, sc => expr r e sc ++ expr r l sc ++ expr r h sc
  | .isNull e _, sc => expr r e sc
  | .cast e _ _, sc => expr r e sc
  | .nested e, sc => expr r e sc
  | .column _ _, _ => []
  | .literal _, _ => []
  | .parameter _ _, _ => []
  | .wildcard _, _ => []
  | .raw _, _ => []
def exprs (r : Reach) : List Expr → Scopes → List Site
  | [], _ => []
  | e :: es, sc => expr r e sc ++ exprs r es sc
def option (r : Reach) : Option Expr → Scopes → List Site
  | none, _ => []
  | some e, sc => expr r e sc
def branches (r : Reach) : List (Expr × Expr) → Scopes → List Site
  | [], _ => []
  | (c, e) :: bs, sc => expr r c sc ++ expr r e sc ++ branches r bs sc
def window (r : Reach) : Option Window → Scopes → List Site
  | none, _ => []
  | some ⟨_, p, o, _⟩, sc => exprs r p sc ++ order r o sc
def order (r : Reach) : List OrderItem → Scopes → List Site
  | [], _ => []
  | ⟨v, _, _⟩ :: os, sc => expr r v sc ++ order r os sc
def items (r : Reach) : List SelectItem → Scopes → List Site
  | [], _ => []
  | ⟨v, _⟩ :: is, sc => expr r v sc ++ items r is sc
/-- An entry, and those inside of it. -/
def source (r inner : Reach) : Source → Scopes → List Site
  | .table s n a, sc => [r.site (.table s n a) sc]
  | .subquery q a cs l, sc =>
    r.site (.subquery q a cs l) sc :: statement inner false q (.subquery (some a) :: sc)
  | .function n args a, sc => r.site (.function n args a) sc :: exprs inner args sc
def sources (r inner : Reach) : List Source → Scopes → List Site
  | [], _ => []
  | x :: xs, sc => source r inner x sc ++ sources r inner xs sc
def condition (r : Reach) : Option JoinCondition → Scopes → List Site
  | some (.predicate e), sc => expr r e sc
  | some (.shared _), _ => []
  | some .natural, _ => []
  | none, _ => []
def joins (r : Reach) : List Join → Scopes → List Site
  | [], _ => []
  | ⟨_, x, c⟩ :: js, sc => source r r x sc ++ condition r c sc ++ joins r js sc
def rows (r : Reach) : List (List Expr) → Scopes → List Site
  | [], _ => []
  | es :: rs, sc => exprs r es sc ++ rows r rs sc
def assignments (r : Reach) : List Assignment → Scopes → List Site
  | [], _ => []
  | ⟨_, v⟩ :: as, sc => expr r v sc ++ assignments r as sc
def tables (r : Reach) (frame : Nat → Frame) (total : Option Nat) (index : Nat) :
    List CommonTable → Scopes → List Site
  | [], _ => []
  | ⟨n, _, b⟩ :: ts, sc =>
    statement r false b (.body n :: frame (total.getD index) :: sc) ++
      tables r frame total (index + 1) ts sc
def withClause (r : Reach) : Option WithClause → Scopes → List Site
  | none, _ => []
  | some ⟨isRecursive, ts⟩, sc =>
    tables r (.tables ts) (if isRecursive then some ts.length else none) 0 ts sc
def operandWiths (r : Reach) : Statement → Scopes → List Site
  | .select ⟨w, _, _, _, _, _, _, _, _, _, _⟩, sc => withClause r w sc
  | .setOp ⟨l, _, _, x, _, _, _⟩, sc =>
    operandWiths r l sc ++ operandWiths r x (Walk.operandScopes l sc)
  | _, _ => []
def statement (r : Reach) (asOperand : Bool) : Statement → Scopes → List Site
  | .select ⟨w, d, is, fs, js, f, g, h, o, l, k⟩, sc =>
    let s : Select := ⟨w, d, is, fs, js, f, g, h, o, l, k⟩
    let inner := .query s.sources :: Walk.withScopes (if asOperand then none else w) sc
    (if asOperand then [] else withClause r w sc) ++
      (items r is inner ++ sources r r fs inner ++ joins r js inner ++ option r f inner ++
        exprs r g inner ++ option r h inner ++ order r o inner ++ option r l inner ++
        option r k inner)
  | .setOp ⟨l, _, _, x, o, m, k⟩, sc =>
    let tail := fun sc =>
      statement r true l sc ++ statement r true x sc ++ order r o sc ++ option r m sc ++
        option r k sc
    if asOperand then tail sc
    else
      operandWiths r l sc ++ operandWiths r x (Walk.operandScopes l sc) ++
        tail (Walk.operandScopes x (Walk.operandScopes l sc))
  | .values ⟨rs, _⟩, sc => rows r rs sc
  | .insert ⟨_, _, .rows rs, is⟩, sc => rows r rs sc ++ items r is sc
  | .insert ⟨_, _, .query q, is⟩, sc => statement r false q sc ++ items r is sc
  | .createTable ⟨_, _, _, _, some q⟩, sc => statement r false q sc
  | .createTable ⟨_, _, _, _, none⟩, _ => []
  | .update ⟨w, tg, as, fs, f, is⟩, sc =>
    let inner := .query (tg :: fs) :: Walk.withScopes w sc
    withClause r w sc ++ source r r.derived tg inner ++ assignments r as inner ++
      sources r r.derived fs inner ++ option r f inner ++ items r is inner
  | .delete ⟨w, tg, us, f, is⟩, sc =>
    let inner := .query (tg :: us) :: Walk.withScopes w sc
    withClause r w sc ++ source r r.unsearched tg inner ++ sources r r.derived us inner ++
      option r f inner ++ items r is inner
end

lemma operandWiths_select (r : Reach) (s : Select) (sc : Scopes) :
    operandWiths r (.select s) sc = withClause r s.withClause sc := by
  cases s
  rfl

lemma operandWiths_setOp (r : Reach) (b : SetOperation) (sc : Scopes) :
    operandWiths r (.setOp b) sc =
      operandWiths r b.left sc ++ operandWiths r b.right (Walk.operandScopes b.left sc) := by
  cases b
  rfl

/-- The entries of a statement or an operand, in whose front a clause is put. It is in scope in
the statement that has the place for it. The clauses of the operands of a set operation are
walked before all operands, so that a clause of the first select is in scope everywhere, but one
of a data change only in that operand. -/
def fronted (asOperand : Bool) : Statement → Scopes → List Site
  | .select s, sc => statement { front := some sc.length } asOperand (.select s) sc
  | .setOp ⟨l, op, a, x, o, m, k⟩, sc =>
    if l.leftmost?.isSome then
      statement { front := some sc.length } asOperand (.setOp ⟨l, op, a, x, o, m, k⟩) sc
    else
      let tail := fun sc =>
        fronted true l sc ++ statement {} true x sc ++ order {} o sc ++ option {} m sc ++
          option {} k sc
      if asOperand then tail sc
      else
        operandWiths {} l sc ++ operandWiths {} x (Walk.operandScopes l sc) ++
          tail (Walk.operandScopes x (Walk.operandScopes l sc))
  | .values v, sc => statement {} asOperand (.values v) sc
  | .insert ⟨_, _, .rows rs, is⟩, sc => rows {} rs sc ++ items {} is sc
  | .insert ⟨_, _, .query q, is⟩, sc => fronted false q sc ++ items {} is sc
  | .createTable ⟨_, _, _, _, some q⟩, sc => fronted false q sc
  | .createTable ⟨_, _, _, _, none⟩, _ => []
  | .update u, sc => statement { front := some sc.length } asOperand (.update u) sc
  | .delete u, sc => statement { front := some sc.length } asOperand (.delete u) sc

end Sites

/-- Every FROM entry of a statement. -/
def Statement.sites (s : Statement) : List Site := Sites.fronted false s []

end SqlLoom
