import SqlLoom.Grammar.Outline
import SqlLoom.Grammar.Parser.Statements
import SqlLoom.Statement.Edit

/-! The statement that a parsed one stands for. The state counts the placeholders without a name,
which are numbered in the order in which they are reached. -/
namespace SqlLoom.Grammar.Denote

abbrev Denotation (α : Type) := StateT Nat Result α

def unsupported {α : Type} (what : String) : Denotation α := throw (.unsupported what)

/-- A name and everything in front of its last point. -/
def splitName (parts : List Ident) : Option String × String :=
  let names := parts.map (·.value)
  let outer := names.dropLast
  (if outer.isEmpty then none else some (String.intercalate "." outer), (names.getLast?).getD "")

def qualifiedName (parts : List Ident) : QualifiedName := .parse (Ident.path parts)

def isSigil (c : Char) : Bool := c = ':' || c = '@' || c = '$' || c = '?'

/-- The name of a placeholder: without its sigils, and with a letter in front if a number is left. -/
def placeholderName (s : String) : Denotation String := do
  if s = "?" then
    modify (· + 1)
    return "p" ++ toString (← get)
  else
    let name := s.toList.dropWhile isSigil
    let numbered := !name.isEmpty && name.all (·.isDigit)
    return if numbered then "p" ++ String.ofList name else String.ofList name

def column (i : Ident) : SqlLoom.Expr :=
  match i.value.toList with
  | '@' :: name => .parameter (String.ofList name) none
  | _ => .column none i.value

def value : Value → Denotation SqlLoom.Expr
  | .null => return .null
  | .bool b => return .literal (.bool b)
  | .number t _ => return .number t
  | .string .single s => return .string s
  | .placeholder s => return .parameter (← placeholderName s) none
  | v => return .raw v.text

def likeOp (negated caseless : Bool) : BinaryOp :=
  match caseless, negated with
  | false, false => .like
  | false, true => .notLike
  | true, false => .ilike
  | true, true => .notIlike

/-- The number of rows of a frame bound, where it is written as one. -/
def boundOffset : Option Expr → Option Nat
  | some (.value (.number t _)) =>
    let digits := t.toList
    let n := digits.foldl (fun n c => 10 * n + (c.toNat - '0'.toNat)) 0
    if !digits.isEmpty && digits.all (·.isDigit) && n < Nat.pow 2 64 then some n else none
  | _ => none

def frameBound : Bound → FrameBound
  | .currentRow => .currentRow
  | .preceding e => .preceding (boundOffset e)
  | .following e => .following (boundOffset e)

def frame (f : Frame) : WindowFrame := ⟨f.mode, frameBound f.start, f.stop.map frameBound⟩

/-- The type of a join with its operator, condition and what rows are near. -/
def joinType (op : JoinOperator) (c : Constraint) (nearest : Option Expr) : Denotation JoinType :=
  match op with
  | .inner => return .inner
  | .leftOuter => return .left
  | .rightOuter => return .right
  | .fullOuter => return .full
  | .cross => return .cross
  | op => unsupported ("join operator " ++ Outline.join op c nearest)

/-- Whether all rows are kept. -/
def keepsAll : Quantifier → Denotation Bool
  | .all => return true
  | .distinct | .none => return false
  | q => unsupported ("set quantifier " ++ Print.quantifier q)

def isModified (order : List SqlLoom.OrderItem) (limit offset : Option SqlLoom.Expr) : Bool :=
  !order.isEmpty || limit.isSome || offset.isSome

/-- Order and limits of a query. A body that has its own is wrapped, so that neither are lost. -/
def modified (body : SqlLoom.Statement) (orderBy : List SqlLoom.OrderItem)
    (limit offset : Option SqlLoom.Expr) : Result SqlLoom.Statement :=
  let wrapped : SqlLoom.Statement :=
    .select { items := [⟨.wildcard none, none⟩], froms := [.derived body "_sub"],
              orderBy, limit, offset }
  if !isModified orderBy limit offset then .ok body
  else
    match body with
    | .select s =>
      if isModified s.orderBy s.limit s.offset then .ok wrapped
      else .ok (.select { s with orderBy, limit, offset })
    | .setOp b =>
      if isModified b.orderBy b.limit b.offset then .ok wrapped
      else .ok (.setOp { b with orderBy, limit, offset })
    | .values _ => .error (.unsupported "ORDER BY / LIMIT on a bare VALUES list")
    | _ => .ok wrapped

/-- The tables of an outer clause in front of those of an inner one. -/
def mergeWith (outer : WithClause) : Option WithClause → Result WithClause
  | none => .ok outer
  | some inner =>
    match WithClause.prepend outer.tables
        { inner with recursive := inner.recursive || outer.recursive } with
    | .ok _ w => .ok w
    | .error e _ => .error e

/-- A WITH clause over a set operation belongs to its first select. -/
def attachWith (w : WithClause) (body : SqlLoom.Statement) : Result SqlLoom.Statement :=
  match body with
  | .values _ => .error (.unsupported "WITH over a bare VALUES list")
  | body =>
    match body.leftmost? with
    | none => .error (.unsupported "WITH over a non-select operand")
    | some s => do
      let merged ← mergeWith w s.withClause
      return body.mapLeftmost fun s => { s with withClause := some merged }

mutual

def expr : Expr → Denotation SqlLoom.Expr
  | .ident i => return column i
  | .compound parts => return .column (splitName parts).1 (splitName parts).2
  | .wildcard _ => return .raw "*"
  | .qualifiedWildcard q _ => return .raw (Ident.dotted q ++ ".*")
  | .value v => value v
  | .binary l op r => return .binary (← expr l) op (← expr r)
  | .like e p negated caseless _ none =>
    return .binary (← expr e) (likeOp negated caseless) (← expr p)
  | .like e p negated caseless any (some escape) =>
    return .raw (Print.expr (.like e p negated caseless any (some escape)))
  | .unary op e => return .unary op (← expr e)
  | .call c => call c
  | .case o bs e => do
    let bs ← branches bs
    return .case (← expr? o) bs (← expr? e)
  | .subquery q => return .subquery (← query q)
  | .exists q negated => do
    let e := SqlLoom.Expr.exists (← query q)
    return if negated then .unary .not e else e
  | .inList e es negated => return .inList (← expr e) (← exprs es) negated
  | .inSubquery e q negated => return .inSubquery (← expr e) (← query q) negated
  | .between e l h negated => return .between (← expr e) (← expr l) (← expr h) negated
  | .isNull e negated => return .isNull (← expr e) negated
  | .cast e type _ short _ => return .cast (← expr e) type short
  | .nested e => return .nested (← expr e)
  | .tuple es => return .tuple (← exprs es)
  | .array es _ => return .array (← exprs es)
  | .raw t _ => return .raw t

def exprs : List Expr → Denotation (List SqlLoom.Expr)
  | [] => return []
  | e :: es => return (← expr e) :: (← exprs es)

def expr? : Option Expr → Denotation (Option SqlLoom.Expr)
  | some e => return some (← expr e)
  | none => return none

def branches : List (Expr × Expr) → Denotation (List (SqlLoom.Expr × SqlLoom.Expr))
  | [] => return []
  | (c, r) :: bs => return (← expr c, ← expr r) :: (← branches bs)

def call : Call → Denotation SqlLoom.Expr
  | ⟨name, _, _, .list treatment as [], _, filter, _, w⟩ =>
    return .call (Ident.path name) (← args as) (treatment == some true) (← expr? filter)
      (← window w)
  | ⟨name, _, _, .none, _, filter, _, w⟩ =>
    return .call (Ident.path name) [] false (← expr? filter) (← window w)
  | ⟨name, _, _, .query q, _, filter, _, w⟩ =>
    return .call (Ident.path name) [.subquery (← query q)] false (← expr? filter) (← window w)
  | ⟨name, _, _, .list treatment as (c :: cs), _, _, _, _⟩ =>
    return .raw (Ident.path name ++ Print.args (.list treatment as (c :: cs)))

def args : List Arg → Denotation (List SqlLoom.Expr)
  | [] => return []
  | a :: as => return (← arg a) :: (← args as)

def arg : Arg → Denotation SqlLoom.Expr
  | .expr e => expr e
  | .wildcard => return .wildcard none
  | .qualified q => return .wildcard (some (Ident.path q))
  | .named t _ => return .raw t

def window : Option Window → Denotation (Option SqlLoom.Window)
  | none => return none
  | some (.named n) => return some { name := some n.value }
  | some (.spec _ ps os f) =>
    return some { partitionBy := ← exprs ps, orderBy := ← orderItems os, frame := f.map frame }

def orderItems : List OrderItem → Denotation (List SqlLoom.OrderItem)
  | [] => return []
  | ⟨e, ascending, nullsFirst, _, _, _, _⟩ :: os =>
    return ⟨← expr e, ascending, nullsFirst⟩ :: (← orderItems os)

def selectItems : List SelectItem → Denotation (List SqlLoom.SelectItem)
  | [] => return []
  | .expr e a :: is => return ⟨← expr e, a.map (·.value)⟩ :: (← selectItems is)
  | .wildcard _ _ :: is => return ⟨.wildcard none, none⟩ :: (← selectItems is)
  | .qualifiedWildcard q _ _ :: is =>
    return ⟨.wildcard (some (Ident.path q)), none⟩ :: (← selectItems is)

def factor : Factor → Denotation Source
  | .table name _ none _ a _ =>
    return .table (splitName name).1 (splitName name).2 (a.map (·.name.value))
  | .table name _ (some ⟨as, _⟩) _ a _ =>
    return .function (Ident.path name) (← args as) (a.map (·.name.value))
  | .derived lateral q none => return .subquery (← query q) "_subquery" [] lateral
  | .derived lateral q (some a) =>
    return .subquery (← query q) a.name.value (a.columns.map (·.1.value)) lateral
  | .function e a => do
    match ← expr e with
    | .call name args _ _ _ => return .function name args (a.map (·.name.value))
    | other => unsupported ("table function " ++ SqlLoom.Outline.expr other)
  | .joined t a => unsupported ("FROM item " ++ Print.factor (.joined t a))
  | .other t a after => unsupported ("FROM item " ++ Print.factor (.other t a after))

def constraint : Constraint → Denotation (Option JoinCondition)
  | .on e => return some (.predicate (← expr e))
  | .using is => return some (.shared (is.map (·.value)))
  | .natural => return some .natural
  | .none => return none

def joins : List Join → Denotation (List SqlLoom.Join)
  | [] => return []
  | ⟨op, r, c, _, nearest⟩ :: js => do
    let type ← joinType op c nearest
    let condition ← constraint c
    let source ← factor r
    return { type, source, condition } :: (← joins js)

def tables : List TableWithJoins → Denotation (List Source × List SqlLoom.Join)
  | [] => return ([], [])
  | ⟨r, js⟩ :: ts => do
    let source ← factor r
    let js ← joins js
    let (sources, rest) ← tables ts
    return (source :: sources, js ++ rest)

def grouping : GroupBy → Denotation (List SqlLoom.Expr)
  | .exprs es _ => exprs es
  | .all _ => unsupported "GROUP BY ALL"

def distinctness : Option Distinct → Denotation Bool
  | none => return false
  | some .plain => return true
  | some (.on _) => unsupported "DISTINCT ON"

def select : Select → Denotation SqlLoom.Select
  | ⟨_, d, _, is, _, ts, _, f, g, _, h, windowed, _⟩ => do
    let distinct ← distinctness d
    if windowed then unsupported "WINDOW clause"
    else
      let items ← selectItems is
      let (froms, joins) ← tables ts
      let filter ← expr? f
      let groupBy ← grouping g
      return { distinct, items, froms, joins, filter, groupBy, having := ← expr? h }

def rows : List (List Expr) → Denotation (List (List SqlLoom.Expr))
  | [] => return []
  | r :: rs => return (← exprs r) :: (← rows rs)

def setExpr : SetExpr → Denotation SqlLoom.Statement
  | .select s => return .select (← select s)
  | .query q => query q
  | .setOp l op qt r => do
    let all ← keepsAll qt
    return .setOp { left := ← setExpr l, op, all, right := ← setExpr r }
  | .values _ rs => return .values { rows := ← rows rs }
  | .other t => unsupported ("query body " ++ t)

def commonTables : List CommonTable → Denotation (List SqlLoom.CommonTable)
  | [] => return []
  | ⟨a, _, q, _, _⟩ :: ts =>
    return ⟨a.name.value, a.columns.map (·.1.value), ← query q⟩ :: (← commonTables ts)

def withClause : Option With → Denotation (Option WithClause)
  | none => return none
  | some ⟨_, recursive, ts⟩ => do
    let w ← WithClause.ofTables (← commonTables ts)
    return some { w with recursive }

def query : Query → Denotation SqlLoom.Statement
  | ⟨w, b, os, _, l, o, _, _⟩ => do
    let w ← withClause w
    let b ← setExpr b
    let orderBy ← orderItems os
    let limit ← expr? l
    let b ← modified b orderBy limit (← expr? o)
    match w with
    | some w => attachWith w b
    | none => return b

end

/-- What an insertion takes: rows, or a query. Rows and bare bodies are taken as they are, without
the clauses behind them. -/
def insertSource : Option Query → Denotation (List (List SqlLoom.Expr) × Option SqlLoom.Statement)
  | none => return ([], none)
  | some ⟨none, .values _ rs, [], _, none, _, _, _⟩ => return (← rows rs, none)
  | some ⟨none, body, [], _, none, _, _, _⟩ => return ([], some (← setExpr body))
  | some q => return ([], some (← query q))

def insert (i : Insert) : Denotation SqlLoom.Statement := do
  let (rows, source) ← insertSource i.source
  let built ← SqlLoom.Insert.build (qualifiedName i.table) (i.columns.map (·.value)) rows source
  return .insert { built with returning := ← selectItems i.returning }

def assignments : List Assignment → Denotation (List SqlLoom.Assignment)
  | [] => return []
  | a :: as => return ⟨Print.target a.target, ← expr a.value⟩ :: (← assignments as)

def update (u : Update) : Denotation SqlLoom.Statement := do
  if u.source.isSome then unsupported "UPDATE ... FROM"
  else
    let target ← factor u.table.relation
    let assignments ← assignments u.assignments
    let filter ← expr? u.filter
    return .update { target, assignments, filter, returning := ← selectItems u.returning }

def sources : List TableWithJoins → Denotation (List Source)
  | [] => return []
  | t :: ts => return (← factor t.relation) :: (← sources ts)

/-- Rows are deleted from the first table; what is joined to it has no effect. -/
def delete (d : Delete) : Denotation SqlLoom.Statement := do
  match d.froms with
  | [] => throw (.missingOperand "DELETE without a target table")
  | t :: _ =>
    let target ← factor t.relation
    let usings ← sources d.usings
    let filter ← expr? d.filter
    return .delete { target, usings, filter, returning := ← selectItems d.returning }

def createTable (c : CreateTable) : Denotation SqlLoom.Statement := do
  let asQuery ← match c.query with
    | some q => some <$> query q
    | none => pure none
  return .createTable
    { name := qualifiedName c.name, temporary := c.temporary, ifNotExists := c.ifNotExists,
      columns := c.columns.map fun (i, type) => ⟨i.value, type⟩, query := asQuery }

def statement : Statement → Denotation SqlLoom.Statement
  | .query q => query q
  | .insert i => insert i
  | .update u => update u
  | .delete d => delete d
  | .createTable c => createTable c
  | .other t => unsupported (Text.leadingWords 2 t)

end SqlLoom.Grammar.Denote
