import SqlLoom.Render

/-! A statement written to text in one go. The depth, the parameters met and the first clash are
kept on the way, and whatever depends on the options looks at them where it is written. -/
namespace SqlLoom

/-- How far the writing has come. -/
structure Progress where
  registry : Registry := {}
  depth : Nat := 0
  /-- The first hoisted table that differs from another of its name. -/
  clash : Option String := none

abbrev Writing (α : Type) := StateM Progress α

namespace Writing

/-- One text, and then the other. -/
instance : Append (Writing String) := ⟨fun v w => return (← v) ++ (← w)⟩

def word (s : String) : Writing String := return s

/-- All texts, in order. -/
def each : List (Writing String) → Writing (List String)
  | [] => return []
  | w :: ws => return (← w) :: (← each ws)

/-- What stands between the texts is looked up once all are written. -/
def joined (between : Writing String) (ws : List (Writing String)) : Writing String := do
  let texts ← each ws
  return (← between).intercalate texts

def commaed (ws : List (Writing String)) : Writing String := joined (word ", ") ws

def parenthesized (w : Writing String) : Writing String := word "(" ++ w ++ word ")"

/-- A list under a keyword, if there is anything to list. -/
def listed (keyword : String) (ws : List (Writing String)) : List (Writing String) :=
  if ws.isEmpty then [] else [word keyword ++ commaed ws]

def operandOf (parent : BinaryOp) (right : Bool) (e : Expr) (w : Writing String) :
    Writing String :=
  if Layout.needsParens parent right e then parenthesized w else w

/-- Only the first clash is kept. -/
def noteClash (table : String) : Writing Unit :=
  modify fun p => { p with clash := p.clash.or (some table) }

section
variable (o : FormatOptions)

def name (s : String) : Writing String :=
  return if o.quoteNames then o.preset.quoteName s else s

/-- Registers an occurrence. -/
def placeholder (a : Occurrence) : Writing String := do
  let p ← get
  set { p with registry := p.registry.register a }
  return o.preset.placeholder a.name (p.registry.nextSlot a.name + 1)

/-- A blank, or a new line at the depth reached. -/
def separator : Writing String := do
  let p ← get
  return if o.pretty then Layout.lineBreak p.depth else " "

/-- A statement one level deeper, in parentheses. -/
def nested (w : Writing String) : Writing String := do
  modify fun p => { p with depth := p.depth + 1 }
  let inner ← w
  modify fun p => { p with depth := p.depth - 1 }
  let p ← get
  return if o.pretty then
      "(" ++ Layout.lineBreak (p.depth + 1) ++ inner ++ Layout.lineBreak p.depth ++ ")"
    else "(" ++ inner ++ ")"

def names (xs : List String) : Writing String := commaed (xs.map (name o))

def columnList (xs : List String) : Writing String :=
  if xs.isEmpty then word "" else parenthesized (names o xs)

def qualified : Option String → String → Writing String
  | some s, n => name o s ++ word "." ++ name o n
  | none, n => name o n

def aliased : Option String → Writing String
  | some a => word " AS " ++ name o a
  | none => word ""

/-- A name with the names of its columns. -/
def headed (n : String) (columns : List String) : Writing String :=
  name o n ++ columnList o columns

/-- Clauses one below the other. -/
def stacked (ws : List (Writing String)) : Writing String := joined (separator o) ws

def withTables (isRecursive : Bool) (tables : List (Writing String)) : Writing String :=
  word (Layout.withText isRecursive) ++
    joined (if o.pretty then word "," ++ separator o else word ", ") tables

def rowsText (rows : List (Writing String)) : Writing String :=
  word "VALUES " ++
    joined (if o.pretty then word "," ++ separator o ++ word (Layout.indent 1) else word ", ") rows

/-- Two parts with a text between them in which lines are broken. Both are written first. -/
def parted (between : String → String) (v w : Writing String) : Writing String := do
  let first ← v
  let second ← w
  return first ++ between (← separator o) ++ second

def chained (op : SetOperator) (all : Bool) (left right : Writing String) : Writing String :=
  parted o (fun s => s ++ Layout.setOpText op all ++ s) left right

/-- The clause in front of a set operation, made of the tables of all operands. -/
def hoisted (clauses : List (Bool × List (CommonTable × Writing String))) :
    List (Writing String) :=
  let h := Hoisted.ofTables Prod.fst (clauses.flatMap (·.2))
  if clauses.isEmpty then []
  else [do
    h.clashes.forM noteClash
    withTables o (clauses.any (·.1)) (h.kept.map (·.2))]

def insertHead (table : QualifiedName) (columns : List String) : Writing String :=
  word "INSERT INTO " ++ qualified o table.schema table.name ++
    if columns.isEmpty then word "" else word " " ++ parenthesized (names o columns)

def createHead (n : QualifiedName) (temporary ifNotExists : Bool)
    (columns : List ColumnDefinition) : Writing String :=
  word ("CREATE " ++ (if temporary then "TEMPORARY " else "") ++ "TABLE " ++
      if ifNotExists then "IF NOT EXISTS " else "") ++
    qualified o n.schema n.name ++
    if columns.isEmpty then word ""
    else
      word " " ++
        parenthesized (commaed (columns.map fun c => name o c.name ++ word (" " ++ c.dataType)))

mutual
def expr : Expr → Writing String
  | .column q n => qualified o q n
  | .literal v => word (Layout.literalText v)
  | .parameter n v => placeholder o ⟨n, v⟩
  | .call n args isDistinct f w =>
    word n ++ word "(" ++ word (if isDistinct then "DISTINCT " else "") ++ commaed (exprs args) ++
      word ")" ++ filterText f ++ window w
  | .binary l op r =>
    operandOf op false l (expr l) ++ word (" " ++ Layout.opText op ++ " ") ++
      operandOf op true r (expr r)
  | .unary .not e => word "NOT " ++ expr e
  | .unary .minus e => word "-" ++ expr e
  | .unary .plus e => word "+" ++ expr e
  | .tuple es => parenthesized (commaed (exprs es))
  | .array es => word "ARRAY[" ++ commaed (exprs es) ++ word "]"
  | .inList e es neg =>
    expr e ++ word (" " ++ Layout.notText neg ++ "IN (") ++ commaed (exprs es) ++ word ")"
  | .wildcard (some q) => name o q ++ word ".*"
  | .wildcard none => word "*"
  | .case e bs d =>
    word "CASE" ++ after " " e ++ branches bs ++ after " ELSE " d ++ word " END"
  | .subquery q => nested o (statement q)
  | .exists q => word "EXISTS " ++ nested o (statement q)
  | .inSubquery e q neg =>
    expr e ++ word (" " ++ Layout.notText neg ++ "IN ") ++ nested o (statement q)
  | .between e l h neg =>
    expr e ++ word (" " ++ Layout.notText neg ++ "BETWEEN ") ++ expr l ++ word " AND " ++ expr h
  | .isNull e neg => expr e ++ word (if neg then " IS NOT NULL" else " IS NULL")
  | .cast e t true => expr e ++ word ("::" ++ t)
  | .cast e t false => word "CAST(" ++ expr e ++ word (" AS " ++ t ++ ")")
  | .nested e => parenthesized (expr e)
  | .raw s => word s
def exprs : List Expr → List (Writing String)
  | [] => []
  | e :: es => expr e :: exprs es
/-- An expression after a keyword, or nothing. -/
def after (keyword : String) : Option Expr → Writing String
  | none => word ""
  | some e => word keyword ++ expr e
/-- A clause of one expression, or none. -/
def clause (keyword : String) : Option Expr → List (Writing String)
  | none => []
  | some e => [word keyword ++ expr e]
def filterText : Option Expr → Writing String
  | none => word ""
  | some e => word " FILTER (WHERE " ++ expr e ++ word ")"
def branches : List (Expr × Expr) → Writing String
  | [] => word ""
  | (c, r) :: bs => word " WHEN " ++ expr c ++ word " THEN " ++ expr r ++ branches bs
def window : Option Window → Writing String
  | none => word ""
  | some ⟨some n, _, _, _⟩ => word " OVER " ++ name o n
  | some ⟨none, p, os, f⟩ =>
    word " OVER (" ++
      joined (word " ")
        (listed "PARTITION BY " (exprs p) ++ listed "ORDER BY " (order os) ++
          f.toList.map fun f => word (Layout.frameText f)) ++
      word ")"
def order : List OrderItem → List (Writing String)
  | [] => []
  | ⟨v, a, n⟩ :: os => (expr v ++ word (Layout.directionText a n)) :: order os
def items : List SelectItem → List (Writing String)
  | [] => []
  | ⟨v, a⟩ :: is => (expr v ++ aliased o a) :: items is
def source : Source → Writing String
  | .table s n a => qualified o s n ++ aliased o a
  | .subquery q a cs l =>
    word (if l then "LATERAL " else "") ++ nested o (statement q) ++ word " AS " ++ headed o a cs
  | .function n args a => word n ++ parenthesized (commaed (exprs args)) ++ aliased o a
def sources : List Source → List (Writing String)
  | [] => []
  | s :: ss => source s :: sources ss
def condition : Option JoinCondition → Writing String
  | some (.predicate e) => word " ON " ++ expr e
  | some (.shared cs) => word " USING " ++ parenthesized (names o cs)
  | some .natural => word ""
  | none => word ""
def joins : List Join → List (Writing String)
  | [] => []
  | ⟨t, s, c⟩ :: js =>
    let natural := match c with
      | some .natural => "NATURAL "
      | _ => ""
    (word (natural ++ Layout.joinText t ++ " ") ++ source s ++ condition c) :: joins js
def rows : List (List Expr) → List (Writing String)
  | [] => []
  | r :: rs => parenthesized (commaed (exprs r)) :: rows rs
def assignments : List Assignment → List (Writing String)
  | [] => []
  | ⟨c, v⟩ :: as => (name o c ++ word " = " ++ expr v) :: assignments as
/-- The tables of a WITH clause, each with how it is written. -/
def tables : List CommonTable → List (CommonTable × Writing String)
  | [] => []
  | ⟨n, cs, b⟩ :: ts =>
    (⟨n, cs, b⟩, headed o n cs ++ word " AS " ++ nested o (statement b)) :: tables ts
def withClause : Option WithClause → List (Writing String)
  | none => []
  | some ⟨r, ts⟩ => [withTables o r ((tables ts).map (·.2))]
/-- The WITH clauses of the operands of a set operation. -/
def operandWiths : Statement → List (Bool × List (CommonTable × Writing String))
  | .select ⟨some ⟨r, ts⟩, _, _, _, _, _, _, _, _, _, _⟩ => [(r, tables ts)]
  | .setOp ⟨l, _, _, r, _, _, _⟩ => operandWiths l ++ operandWiths r
  | _ => []
/-- A select with its WITH clause or without it. -/
def select (ownWith : Bool) : Select → Writing String
  | ⟨w, isDistinct, is, fs, js, f, g, h, os, l, k⟩ =>
    let list := items is
    let clauses :=
      (word (if isDistinct then "SELECT DISTINCT " else "SELECT ") ++
          if list.isEmpty then word "*" else commaed list) ::
        listed "FROM " (sources fs) ++ joins js ++ clause "WHERE " f ++
        listed "GROUP BY " (exprs g) ++ clause "HAVING " h ++
        (listed "ORDER BY " (order os) ++ clause "LIMIT " l ++ clause "OFFSET " k)
    stacked o (if ownWith then withClause w ++ clauses else clauses)
def setOperation : SetOperation → Writing String
  | ⟨l, op, a, r, _, _, _⟩ => chained o op a (operand op false l) (operand op true r)
def modifiers : SetOperation → List (Writing String)
  | ⟨_, _, _, _, os, l, k⟩ =>
    listed "ORDER BY " (order os) ++ clause "LIMIT " l ++ clause "OFFSET " k
def front : SetOperation → List (Writing String)
  | ⟨l, _, _, r, _, _, _⟩ => hoisted o (operandWiths l ++ operandWiths r)
def valuesList : ValuesList → Writing String
  | ⟨rs, _⟩ => rowsText o (rows rs)
def insert : Insert → Writing String
  | ⟨t, cs, .rows rs, is⟩ =>
    stacked o (insertHead o t cs :: rowsText o (rows rs) :: listed "RETURNING " (items is))
  | ⟨t, cs, .query q, is⟩ =>
    stacked o (insertHead o t cs :: statement q :: listed "RETURNING " (items is))
def createTable : CreateTable → Writing String
  | ⟨n, tm, e, cs, none⟩ => createHead o n tm e cs
  | ⟨n, tm, e, cs, some q⟩ =>
    parted o (fun s => " AS" ++ s) (createHead o n tm e cs) (statement q)
def update : Update → Writing String
  | ⟨w, t, as, fs, f, is⟩ =>
    stacked o
      (withClause w ++ (word "UPDATE " ++ source t) :: (word "SET " ++ commaed (assignments as)) ::
        listed "FROM " (sources fs) ++ clause "WHERE " f ++ listed "RETURNING " (items is))
def delete : Delete → Writing String
  | ⟨w, t, us, f, is⟩ =>
    stacked o
      (withClause w ++ (word "DELETE FROM " ++ source t) :: listed "USING " (sources us) ++
        clause "WHERE " f ++ listed "RETURNING " (items is))
/-- An operand of a set operation, without its WITH clause. -/
def operand (parent : SetOperator) (right : Bool) : Statement → Writing String
  | .select s =>
    if s.orderBy.isEmpty && s.limit.isNone && s.offset.isNone then select false s
    else parenthesized (select false s)
  | .setOp b =>
    if Layout.operandNests parent b.op right
        (!b.orderBy.isEmpty || b.limit.isSome || b.offset.isSome) then
      parenthesized (stacked o (setOperation b :: modifiers b))
    else setOperation b
  | .values v => valuesList v
  | .insert i => nested o (insert i)
  | .createTable c => nested o (createTable c)
  | .update u => nested o (update u)
  | .delete d => nested o (delete d)
def statement : Statement → Writing String
  | .select s => select true s
  | .setOp b => stacked o (front b ++ setOperation b :: modifiers b)
  | .values v => valuesList v
  | .insert i => insert i
  | .createTable c => createTable c
  | .update u => update u
  | .delete d => delete d
end

end

end Writing

/-- The text and the reconciled parameters of a statement. A clash is reported before a parameter
that is bound to two values. -/
def Statement.written (o : FormatOptions) (s : Statement) : Result Rendered :=
  let (sql, p) := (Writing.statement o s).run {}
  match p.clash with
  | some table => .error (.duplicateTable table)
  | none =>
    match p.registry.finish o.preset with
    | .error e => .error e
    | .ok params => .ok { sql, params }

/-- The text of a lone expression. -/
def Expr.written (o : FormatOptions) (e : Expr) : String := ((Writing.expr o e).run {}).1

/-- The text of a lone WITH clause. -/
def WithClause.written (o : FormatOptions) (w : WithClause) : String :=
  ((Writing.withTables o w.recursive ((Writing.tables o w.tables).map (·.2))).run {}).1

end SqlLoom
