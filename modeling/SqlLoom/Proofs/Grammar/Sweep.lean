import SqlLoom.Proofs.Grammar.Insertion

/-! Going through the placeholders of a parsed statement. A sweep visits those that stand for a
parameter of the statement, wherever an expression can stand; placeholders in parts that are only
kept as text, or not kept, are left alone. -/
namespace SqlLoom.Grammar

/-- How a sweep gets from the parts of a tree to the tree. -/
structure Sweep (F : Type → Type) where
  /-- What has no parts. -/
  still : {α : Type} → α → F α
  map : {α β : Type} → (α → β) → F α → F β
  /-- One part behind the other. -/
  both : {α β : Type} → F α → F β → F (α × β)
  /-- Two parts as they are written, of which the second one is read first. -/
  crossed : {α β : Type} → F α → F β → F (α × β)
  /-- A placeholder without a name. -/
  placeholder : F String

namespace Sweep

variable {F : Type → Type} (w : Sweep F)

def value : Value → F Value
  | .placeholder s => w.map .placeholder (if s = "?" then w.placeholder else w.still s)
  | v => w.still v

mutual

def expr : Expr → F Expr
  | .ident i => w.still (.ident i)
  | .compound parts => w.still (.compound parts)
  | .wildcard star => w.still (.wildcard star)
  | .qualifiedWildcard q star => w.still (.qualifiedWildcard q star)
  | .value v => w.map .value (w.value v)
  | .binary l op r => w.map (fun (l, r) => .binary l op r) (w.both (expr l) (expr r))
  | .like e p negated caseless any none =>
    w.map (fun (e, p) => .like e p negated caseless any none) (w.both (expr e) (expr p))
  | .like e p negated caseless any (some escape) =>
    w.still (.like e p negated caseless any (some escape))
  | .unary op e => w.map (.unary op) (expr e)
  | .call c => w.map .call (call c)
  | .case o bs e =>
    w.map (fun ((o, bs), e) => .case o bs e) (w.both (w.crossed (expr? o) (branches bs)) (expr? e))
  | .subquery q => w.map .subquery (query q)
  | .exists q negated => w.map (.exists · negated) (query q)
  | .inList e es negated =>
    w.map (fun (e, es) => .inList e es negated) (w.both (expr e) (exprs es))
  | .inSubquery e q negated =>
    w.map (fun (e, q) => .inSubquery e q negated) (w.both (expr e) (query q))
  | .between e l h negated =>
    w.map (fun (e, l, h) => .between e l h negated) (w.both (expr e) (w.both (expr l) (expr h)))
  | .isNull e negated => w.map (.isNull · negated) (expr e)
  | .cast e text type short format => w.map (.cast · text type short format) (expr e)
  | .nested e => w.map .nested (expr e)
  | .tuple es => w.map .tuple (exprs es)
  | .array es named => w.map (.array · named) (exprs es)
  | .raw text shape => w.still (.raw text shape)

def exprs : List Expr → F (List Expr)
  | [] => w.still []
  | e :: es => w.map (fun (e, es) => e :: es) (w.both (expr e) (exprs es))

def expr? : Option Expr → F (Option Expr)
  | some e => w.map some (expr e)
  | none => w.still none

def branches : List (Expr × Expr) → F (List (Expr × Expr))
  | [] => w.still []
  | (c, r) :: bs =>
    w.map (fun (c, r, bs) => (c, r) :: bs) (w.both (expr c) (w.both (expr r) (branches bs)))

def call : Call → F Call
  | ⟨name, braced, ps, .list treatment as [], g, f, nulls, win⟩ =>
    w.map (fun (as, f, win) => ⟨name, braced, ps, .list treatment as [], g, f, nulls, win⟩)
      (w.both (args as) (w.both (expr? f) (window win)))
  | ⟨name, braced, ps, .none, g, f, nulls, win⟩ =>
    w.map (fun (f, win) => ⟨name, braced, ps, .none, g, f, nulls, win⟩)
      (w.both (expr? f) (window win))
  | ⟨name, braced, ps, .query q, g, f, nulls, win⟩ =>
    w.map (fun (q, f, win) => ⟨name, braced, ps, .query q, g, f, nulls, win⟩)
      (w.both (query q) (w.both (expr? f) (window win)))
  | ⟨name, braced, ps, .list treatment as (c :: cs), g, f, nulls, win⟩ =>
    w.still ⟨name, braced, ps, .list treatment as (c :: cs), g, f, nulls, win⟩

def args : List Arg → F (List Arg)
  | [] => w.still []
  | a :: as => w.map (fun (a, as) => a :: as) (w.both (arg a) (args as))

def arg : Arg → F Arg
  | .expr e => w.map .expr (expr e)
  | .wildcard => w.still .wildcard
  | .qualified q => w.still (.qualified q)
  | .named text shape => w.still (.named text shape)

def window : Option Window → F (Option Window)
  | none => w.still none
  | some (.named n) => w.still (some (.named n))
  | some (.spec base ps os f) =>
    w.map (fun (ps, os) => some (.spec base ps os f)) (w.both (exprs ps) (orderItems os))

def orderItems : List OrderItem → F (List OrderItem)
  | [] => w.still []
  | ⟨e, ascending, nullsFirst, filled, first, last, step⟩ :: os =>
    w.map (fun (e, os) => ⟨e, ascending, nullsFirst, filled, first, last, step⟩ :: os)
      (w.both (expr e) (orderItems os))

def selectItems : List SelectItem → F (List SelectItem)
  | [] => w.still []
  | .expr e a :: is => w.map (fun (e, is) => .expr e a :: is) (w.both (expr e) (selectItems is))
  | .wildcard star options :: is => w.map (.wildcard star options :: ·) (selectItems is)
  | .qualifiedWildcard q star options :: is =>
    w.map (.qualifiedWildcard q star options :: ·) (selectItems is)

def factor : Factor → F Factor
  | .table name partitions none before a after =>
    w.still (.table name partitions none before a after)
  | .table name partitions (some ⟨as, settings⟩) before a after =>
    w.map (fun as => .table name partitions (some ⟨as, settings⟩) before a after) (args as)
  | .derived lateral q a => w.map (.derived lateral · a) (query q)
  | .function e a => w.map (.function · a) (expr e)
  | .joined t a => w.still (.joined t a)
  | .other text a after => w.still (.other text a after)

def constraint : Constraint → F Constraint
  | .on e => w.map .on (expr e)
  | .using is => w.still (.using is)
  | .natural => w.still .natural
  | .none => w.still .none

def joins : List Join → F (List Join)
  | [] => w.still []
  | ⟨op, r, c, g, nearest⟩ :: js =>
    w.map (fun ((r, c), js) => ⟨op, r, c, g, nearest⟩ :: js)
      (w.both (w.crossed (factor r) (constraint c)) (joins js))

def tables : List TableWithJoins → F (List TableWithJoins)
  | [] => w.still []
  | ⟨r, js⟩ :: ts =>
    w.map (fun (r, js, ts) => ⟨r, js⟩ :: ts) (w.both (factor r) (w.both (joins js) (tables ts)))

def grouping : GroupBy → F GroupBy
  | .exprs es modifiers => w.map (.exprs · modifiers) (exprs es)
  | .all modifiers => w.still (.all modifiers)

def select : Select → F Select
  | ⟨opening, d, top, is, into, ts, views, f, g, sorting, h, windowed, tail⟩ =>
    w.map
      (fun (is, ts, f, g, h) =>
        ⟨opening, d, top, is, into, ts, views, f, g, sorting, h, windowed, tail⟩)
      (w.both (selectItems is)
        (w.both (tables ts) (w.both (expr? f) (w.both (grouping g) (expr? h)))))

def rows : List (List Expr) → F (List (List Expr))
  | [] => w.still []
  | r :: rs => w.map (fun (r, rs) => r :: rs) (w.both (exprs r) (rows rs))

def setExpr : SetExpr → F SetExpr
  | .select s => w.map .select (select s)
  | .query q => w.map .query (query q)
  | .setOp l op quantifier r =>
    w.map (fun (l, r) => .setOp l op quantifier r) (w.both (setExpr l) (setExpr r))
  | .values explicitRow rs => w.map (.values explicitRow) (rows rs)
  | .other text => w.still (.other text)

def commonTables : List CommonTable → F (List CommonTable)
  | [] => w.still []
  | ⟨a, m, q, closing, after⟩ :: ts =>
    w.map (fun (q, ts) => ⟨a, m, q, closing, after⟩ :: ts) (w.both (query q) (commonTables ts))

def withClause : Option With → F (Option With)
  | none => w.still none
  | some ⟨opening, recursive, ts⟩ =>
    w.map (fun ts => some ⟨opening, recursive, ts⟩) (commonTables ts)

def query : Query → F Query
  | ⟨c, b, os, i, l, o, unit, tail⟩ =>
    w.map (fun (c, b, os, l, o) => ⟨c, b, os, i, l, o, unit, tail⟩)
      (w.both (withClause c)
        (w.both (setExpr b) (w.both (orderItems os) (w.both (expr? l) (expr? o)))))

end

/-- An offset behind a plain source is not kept. -/
def insertSource : Option Query → F (Option Query)
  | none => w.still none
  | some q =>
    if q.isPlain then w.map (fun b => some { q with body := b }) (w.setExpr q.body)
    else w.map some (w.query q)

def insert : Insert → F Insert
  | ⟨head, table, a, columns, partition, source, tail, returning⟩ =>
    w.map (fun (source, returning) =>
        ⟨head, table, a, columns, partition, source, tail, returning⟩)
      (w.both (w.insertSource source) (w.selectItems returning))

def assignments : List Assignment → F (List Assignment)
  | [] => w.still []
  | ⟨target, e⟩ :: as =>
    w.map (fun (e, as) => ⟨target, e⟩ :: as) (w.both (w.expr e) (assignments as))

def update : Update → F Update
  | ⟨conflict, ⟨r, js⟩, as, source, f, returning⟩ =>
    w.map (fun (r, as, f, returning) => ⟨conflict, ⟨r, js⟩, as, source, f, returning⟩)
      (w.both (w.factor r)
        (w.both (w.assignments as) (w.both (w.expr? f) (w.selectItems returning))))

/-- Tables without what is joined to them. -/
def sources : List TableWithJoins → F (List TableWithJoins)
  | [] => w.still []
  | ⟨r, js⟩ :: ts => w.map (fun (r, ts) => ⟨r, js⟩ :: ts) (w.both (w.factor r) (sources ts))

def delete : Delete → F Delete
  | ⟨[], usings, f, returning⟩ => w.still ⟨[], usings, f, returning⟩
  | ⟨⟨r, js⟩ :: ts, usings, f, returning⟩ =>
    w.map (fun (r, usings, f, returning) => ⟨⟨r, js⟩ :: ts, usings, f, returning⟩)
      (w.both (w.factor r)
        (w.both (w.sources usings) (w.both (w.expr? f) (w.selectItems returning))))

def createTable : CreateTable → F CreateTable
  | ⟨head, name, temporary, ifNotExists, columns, some q⟩ =>
    w.map (fun q => ⟨head, name, temporary, ifNotExists, columns, some q⟩) (w.query q)
  | ⟨head, name, temporary, ifNotExists, columns, none⟩ =>
    w.still ⟨head, name, temporary, ifNotExists, columns, none⟩

def statement : Statement → F Statement
  | .query q => w.map .query (w.query q)
  | .insert i => w.map .insert (w.insert i)
  | .update u => w.map .update (w.update u)
  | .delete d => w.map .delete (w.delete d)
  | .createTable c => w.map .createTable (w.createTable c)
  | .other text => w.still (.other text)

end Sweep

end SqlLoom.Grammar
