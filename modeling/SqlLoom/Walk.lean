import SqlLoom.Scope

/-! The walk over a statement in the order of its text, with the scopes of every place. The WITH
clauses of all operands of a set operation are walked before any operand, since they stand in
front of the whole operation and every operand sees them.

A visitor is a function of what the walk has reported so far: it says whether the newest report's
children are left out. -/
namespace SqlLoom

inductive Role where
  | plain
  /-- An entry of a select's own ORDER BY. -/
  | ordering
  deriving DecidableEq, Repr

inductive Event where
  /-- A frame has been pushed. -/
  | enter (kind : ScopeKind) (scopes : Scopes)
  /-- The innermost frame is about to be popped. -/
  | leave (kind : ScopeKind) (scopes : Scopes)
  | statement (s : Statement) (scopes : Scopes)
  /-- The entries of a select are in scope, and none of its clauses has been walked. -/
  | select (s : Select) (scopes : Scopes)
  | table (index : Nat) (t : CommonTable) (scopes : Scopes)
  | endTable (t : CommonTable) (scopes : Scopes)
  | source (s : Source) (scopes : Scopes)
  | value (role : Role) (e : Expr) (scopes : Scopes)

/-- Reports, the newest first. -/
abbrev Trace := List Event

namespace Event

def scopes : Event → Scopes
  | .enter _ sc => sc
  | .leave _ sc => sc
  | .statement _ sc => sc
  | .select _ sc => sc
  | .table _ _ sc => sc
  | .endTable _ sc => sc
  | .source _ sc => sc
  | .value _ _ sc => sc

end Event

namespace Walk

/-- Reports an event, and then goes on to its children unless the visitor declines. -/
def visit (skips : Trace → Bool) (e : Event) (children : Trace → Trace) (t : Trace) : Trace :=
  if skips (e :: t) then e :: t else children (e :: t)

/-- A data change as an operand of a set operation is reported once as operand and once as a
statement. -/
def visitAgain (skips : Trace → Bool) (asOperand : Bool) (e : Event) (children : Trace → Trace) :
    Trace → Trace :=
  if asOperand then visit skips e (visit skips e children) else visit skips e children

/-- Walks inside a frame that is pushed before and popped after. -/
def inside (f : Frame) (sc : Scopes) (body : Scopes → Trace → Trace) (t : Trace) : Trace :=
  .leave f.kind (f :: sc) :: body (f :: sc) (.enter f.kind (f :: sc) :: t)

/-- The scopes once a WITH clause has been walked. -/
def withScopes : Option WithClause → Scopes → Scopes
  | none, sc => sc
  | some w, sc => .tables w.tables w.tables.length :: sc

/-- The scopes once the WITH clauses of all operands have been walked. -/
def operandScopes (s : Statement) (sc : Scopes) : Scopes :=
  s.operandWiths.foldl (fun sc w => withScopes (some w) sc) sc

/-- Pops `n` WITH clauses. -/
def leaveWiths : Nat → Scopes → Trace → Trace
  | n + 1, f :: sc, t => leaveWiths n sc (.leave f.kind (f :: sc) :: t)
  | _, _, t => t

mutual
def expr (skips : Trace → Bool) (role : Role) : Expr → Scopes → Trace → Trace
  | .call n args d f w, sc, t =>
    visit skips (.value role (.call n args d f w) sc)
      (fun t => window skips w sc (option skips f sc (exprs skips args sc t))) t
  | .binary l op r, sc, t =>
    visit skips (.value role (.binary l op r) sc)
      (fun t => expr skips .plain r sc (expr skips .plain l sc t)) t
  | .unary op e, sc, t =>
    visit skips (.value role (.unary op e) sc) (expr skips .plain e sc) t
  | .tuple es, sc, t => visit skips (.value role (.tuple es) sc) (exprs skips es sc) t
  | .array es, sc, t => visit skips (.value role (.array es) sc) (exprs skips es sc) t
  | .inList e es neg, sc, t =>
    visit skips (.value role (.inList e es neg) sc)
      (fun t => exprs skips es sc (expr skips .plain e sc t)) t
  | .case o bs e, sc, t =>
    visit skips (.value role (.case o bs e) sc)
      (fun t => option skips e sc (branches skips bs sc (option skips o sc t))) t
  | .subquery q, sc, t =>
    visit skips (.value role (.subquery q) sc)
      (inside (.subquery none) sc (statement skips false q)) t
  | .exists q, sc, t =>
    visit skips (.value role (.exists q) sc)
      (inside (.subquery none) sc (statement skips false q)) t
  | .inSubquery e q neg, sc, t =>
    visit skips (.value role (.inSubquery e q neg) sc)
      (fun t => inside (.subquery none) sc (statement skips false q) (expr skips .plain e sc t)) t
  | .between e l h neg, sc, t =>
    visit skips (.value role (.between e l h neg) sc)
      (fun t => expr skips .plain h sc (expr skips .plain l sc (expr skips .plain e sc t))) t
  | .isNull e neg, sc, t =>
    visit skips (.value role (.isNull e neg) sc) (expr skips .plain e sc) t
  | .cast e ty s, sc, t =>
    visit skips (.value role (.cast e ty s) sc) (expr skips .plain e sc) t
  | .nested e, sc, t => visit skips (.value role (.nested e) sc) (expr skips .plain e sc) t
  | .column q n, sc, t => .value role (.column q n) sc :: t
  | .literal v, sc, t => .value role (.literal v) sc :: t
  | .parameter n v, sc, t => .value role (.parameter n v) sc :: t
  | .wildcard q, sc, t => .value role (.wildcard q) sc :: t
  | .raw s, sc, t => .value role (.raw s) sc :: t
def exprs (skips : Trace → Bool) : List Expr → Scopes → Trace → Trace
  | [], _, t => t
  | e :: es, sc, t => exprs skips es sc (expr skips .plain e sc t)
def option (skips : Trace → Bool) : Option Expr → Scopes → Trace → Trace
  | none, _, t => t
  | some e, sc, t => expr skips .plain e sc t
def branches (skips : Trace → Bool) : List (Expr × Expr) → Scopes → Trace → Trace
  | [], _, t => t
  | (c, r) :: bs, sc, t =>
    branches skips bs sc (expr skips .plain r sc (expr skips .plain c sc t))
def window (skips : Trace → Bool) : Option Window → Scopes → Trace → Trace
  | none, _, t => t
  | some ⟨_, p, o, _⟩, sc, t => order skips .plain o sc (exprs skips p sc t)
def order (skips : Trace → Bool) (role : Role) : List OrderItem → Scopes → Trace → Trace
  | [], _, t => t
  | ⟨v, _, _⟩ :: os, sc, t => order skips role os sc (expr skips role v sc t)
def items (skips : Trace → Bool) : List SelectItem → Scopes → Trace → Trace
  | [], _, t => t
  | ⟨v, _⟩ :: is, sc, t => items skips is sc (expr skips .plain v sc t)
def source (skips : Trace → Bool) : Source → Scopes → Trace → Trace
  | .table s n a, sc, t => .source (.table s n a) sc :: t
  | .subquery q a cs l, sc, t =>
    visit skips (.source (.subquery q a cs l) sc)
      (inside (.subquery (some a)) sc (statement skips false q)) t
  | .function n args a, sc, t =>
    visit skips (.source (.function n args a) sc) (exprs skips args sc) t
def sources (skips : Trace → Bool) : List Source → Scopes → Trace → Trace
  | [], _, t => t
  | s :: ss, sc, t => sources skips ss sc (source skips s sc t)
def condition (skips : Trace → Bool) : Option JoinCondition → Scopes → Trace → Trace
  | some (.predicate e), sc, t => expr skips .plain e sc t
  | some (.shared _), _, t => t
  | some .natural, _, t => t
  | none, _, t => t
def joins (skips : Trace → Bool) : List Join → Scopes → Trace → Trace
  | [], _, t => t
  | ⟨_, s, c⟩ :: js, sc, t => joins skips js sc (condition skips c sc (source skips s sc t))
def rows (skips : Trace → Bool) : List (List Expr) → Scopes → Trace → Trace
  | [], _, t => t
  | r :: rs, sc, t => rows skips rs sc (exprs skips r sc t)
def assignments (skips : Trace → Bool) : List Assignment → Scopes → Trace → Trace
  | [], _, t => t
  | ⟨_, v⟩ :: as, sc, t => assignments skips as sc (expr skips .plain v sc t)
/-- The tables of a clause from the `index`-th on. Before a table of a plain clause the earlier
ones are visible, before one of a recursive clause all are. -/
def tables (skips : Trace → Bool) (frame : Nat → Frame) (total : Option Nat) (index : Nat) :
    List CommonTable → Scopes → Trace → Trace
  | [], _, t => t
  | ⟨n, cs, b⟩ :: ts, sc, t =>
    let here := frame (total.getD index) :: sc
    tables skips frame total (index + 1) ts sc
      (.endTable ⟨n, cs, b⟩ here ::
        visit skips (.table index ⟨n, cs, b⟩ here)
          (inside (.body n) here (statement skips false b)) t)
/-- Enters a WITH clause and walks its tables. -/
def withClause (skips : Trace → Bool) : Option WithClause → Scopes → Trace → Trace
  | none, _, t => t
  | some ⟨r, ts⟩, sc, t =>
    tables skips (.tables ts) (if r then some ts.length else none) 0 ts sc
      (.enter .withClause (.tables ts 0 :: sc) :: t)
/-- Enters and walks the WITH clauses of the operands of a set operation. -/
def operandWiths (skips : Trace → Bool) : Statement → Scopes → Trace → Trace
  | .select ⟨w, _, _, _, _, _, _, _, _, _, _⟩, sc, t => withClause skips w sc t
  | .setOp ⟨l, _, _, r, _, _, _⟩, sc, t =>
    operandWiths skips r (operandScopes l sc) (operandWiths skips l sc t)
  | _, _, t => t
/-- A statement, or an operand of a set operation, whose WITH clauses are in scope already. -/
def statement (skips : Trace → Bool) (asOperand : Bool) : Statement → Scopes → Trace → Trace
  | .select ⟨w, d, is, fs, js, f, g, h, o, l, k⟩, sc, t =>
    let s : Select := ⟨w, d, is, fs, js, f, g, h, o, l, k⟩
    let own := if asOperand then none else w
    visit skips (.statement (.select s) sc) (fun t =>
      leaveWiths own.toList.length (withScopes own sc)
        (inside (.query s.sources) (withScopes own sc)
          (fun sc t =>
            option skips k sc <| option skips l sc <| order skips .ordering o sc <|
            option skips h sc <| exprs skips g sc <| option skips f sc <| joins skips js sc <|
            sources skips fs sc <| items skips is sc <| .select s sc :: t)
          (if asOperand then t else withClause skips w sc t))) t
  | .setOp ⟨l, op, a, r, o, m, k⟩, sc, t =>
    let b : SetOperation := ⟨l, op, a, r, o, m, k⟩
    let tail := fun sc t =>
      option skips k sc <| option skips m sc <| order skips .plain o sc <|
      statement skips true r sc <| statement skips true l sc t
    visit skips (.statement (.setOp b) sc) (fun t =>
      if asOperand then tail sc t
      else
        let hoisted := operandScopes r (operandScopes l sc)
        leaveWiths (hoisted.length - sc.length) hoisted
          (tail hoisted (operandWiths skips r (operandScopes l sc) (operandWiths skips l sc t)))) t
  | .values ⟨rs, as⟩, sc, t => visit skips (.statement (.values ⟨rs, as⟩) sc) (rows skips rs sc) t
  | .insert ⟨tb, cs, .rows rs, is⟩, sc, t =>
    visitAgain skips asOperand (.statement (.insert ⟨tb, cs, .rows rs, is⟩) sc)
      (fun t => items skips is sc (rows skips rs sc t)) t
  | .insert ⟨tb, cs, .query q, is⟩, sc, t =>
    visitAgain skips asOperand (.statement (.insert ⟨tb, cs, .query q, is⟩) sc)
      (fun t => items skips is sc (statement skips false q sc t)) t
  | .createTable ⟨n, tm, e, cs, some q⟩, sc, t =>
    visitAgain skips asOperand (.statement (.createTable ⟨n, tm, e, cs, some q⟩) sc)
      (statement skips false q sc) t
  | .createTable ⟨n, tm, e, cs, none⟩, sc, t =>
    visitAgain skips asOperand (.statement (.createTable ⟨n, tm, e, cs, none⟩) sc) id t
  | .update ⟨w, tg, as, fs, f, is⟩, sc, t =>
    visitAgain skips asOperand (.statement (.update ⟨w, tg, as, fs, f, is⟩) sc) (fun t =>
      leaveWiths w.toList.length (withScopes w sc)
        (inside (.query (tg :: fs)) (withScopes w sc)
          (fun sc t =>
            items skips is sc <| option skips f sc <| sources skips fs sc <|
            assignments skips as sc <| source skips tg sc t)
          (withClause skips w sc t))) t
  | .delete ⟨w, tg, us, f, is⟩, sc, t =>
    visitAgain skips asOperand (.statement (.delete ⟨w, tg, us, f, is⟩) sc) (fun t =>
      leaveWiths w.toList.length (withScopes w sc)
        (inside (.query (tg :: us)) (withScopes w sc)
          (fun sc t =>
            items skips is sc <| option skips f sc <| sources skips us sc <| source skips tg sc t)
          (withClause skips w sc t))) t
end

end Walk

namespace Statement

/-- The reports of a walk, the newest first. -/
def walk (skips : Trace → Bool) (s : Statement) : Trace := Walk.statement skips false s [] []

/-- The reports of a walk that leaves nothing out. -/
def trace (s : Statement) : Trace := s.walk fun _ => false

end Statement

end SqlLoom
