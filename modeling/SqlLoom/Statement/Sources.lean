import SqlLoom.Statement.Exprs

/-! Every FROM entry of a statement: those reached through FROM clauses and WITH clauses, and then
those of the queries that stand in value expressions. A derived table in the FROM of an UPDATE or
the USING of a DELETE is an entry, but is not searched. -/
namespace SqlLoom

mutual
/-- An entry and those of its query. -/
def Source.fromSources : Source → List Source
  | .table s n a => [.table s n a]
  | .subquery q a cs l => .subquery q a cs l :: q.fromSources
  | .function n args a => [.function n args a]
def listFromSources : List Source → List Source
  | [] => []
  | s :: ss => s.fromSources ++ listFromSources ss
def joinFromSources : List Join → List Source
  | [] => []
  | ⟨_, s, _⟩ :: js => s.fromSources ++ joinFromSources js
def tableFromSources : List CommonTable → List Source
  | [] => []
  | ⟨_, _, b⟩ :: ts => b.fromSources ++ tableFromSources ts
def withFromSources : Option WithClause → List Source
  | none => []
  | some ⟨_, ts⟩ => tableFromSources ts
/-- The entries reached without entering a value expression. -/
def Statement.fromSources : Statement → List Source
  | .select ⟨w, _, _, fs, js, _, _, _, _, _, _⟩ =>
    withFromSources w ++ listFromSources fs ++ joinFromSources js
  | .setOp ⟨l, _, _, r, _, _, _⟩ => l.fromSources ++ r.fromSources
  | .values _ => []
  | .insert ⟨_, _, .rows _, _⟩ => []
  | .insert ⟨_, _, .query q, _⟩ => q.fromSources
  | .createTable ⟨_, _, _, _, some q⟩ => q.fromSources
  | .createTable ⟨_, _, _, _, none⟩ => []
  | .update ⟨w, t, _, fs, _, _⟩ => withFromSources w ++ t :: fs
  | .delete ⟨w, t, us, _, _⟩ => withFromSources w ++ t :: us
end

mutual
def Source.mapFrom (g : Source → Source) : Source → Source
  | .table s n a => g (.table s n a)
  | .subquery q a cs l => g (.subquery (q.mapFrom g) a cs l)
  | .function n args a => g (.function n args a)
def mapFromList (g : Source → Source) : List Source → List Source
  | [] => []
  | s :: ss => s.mapFrom g :: mapFromList g ss
def mapFromJoins (g : Source → Source) : List Join → List Join
  | [] => []
  | ⟨t, s, c⟩ :: js => ⟨t, s.mapFrom g, c⟩ :: mapFromJoins g js
def mapFromTables (g : Source → Source) : List CommonTable → List CommonTable
  | [] => []
  | ⟨n, cs, b⟩ :: ts => ⟨n, cs, b.mapFrom g⟩ :: mapFromTables g ts
def mapFromWith (g : Source → Source) : Option WithClause → Option WithClause
  | none => none
  | some ⟨r, ts⟩ => some ⟨r, mapFromTables g ts⟩
/-- Applies `g` to every entry that `fromSources` lists. -/
def Statement.mapFrom (g : Source → Source) : Statement → Statement
  | .select ⟨w, d, is, fs, js, f, b, h, o, l, k⟩ =>
    .select ⟨mapFromWith g w, d, is, mapFromList g fs, mapFromJoins g js, f, b, h, o, l, k⟩
  | .setOp ⟨l, op, a, r, o, m, k⟩ => .setOp ⟨l.mapFrom g, op, a, r.mapFrom g, o, m, k⟩
  | .values v => .values v
  | .insert ⟨t, cs, .rows rs, is⟩ => .insert ⟨t, cs, .rows rs, is⟩
  | .insert ⟨t, cs, .query q, is⟩ => .insert ⟨t, cs, .query (q.mapFrom g), is⟩
  | .createTable ⟨n, t, e, cs, some q⟩ => .createTable ⟨n, t, e, cs, some (q.mapFrom g)⟩
  | .createTable ⟨n, t, e, cs, none⟩ => .createTable ⟨n, t, e, cs, none⟩
  | .update ⟨w, t, as, fs, f, is⟩ =>
    .update ⟨mapFromWith g w, g t, as, fs.map g, f, is⟩
  | .delete ⟨w, t, us, f, is⟩ => .delete ⟨mapFromWith g w, g t, us.map g, f, is⟩
end

namespace Expr

/-- The query that stands in the expression itself. -/
def query? : Expr → Option Statement
  | .subquery q => some q
  | .exists q => some q
  | .inSubquery _ q _ => some q
  | _ => none

def mapQuery (f : Statement → Statement) : Expr → Expr
  | .subquery q => .subquery (f q)
  | .exists q => .exists (f q)
  | .inSubquery e q neg => .inSubquery e (f q) neg
  | e => e

end Expr

namespace Statement

/-- Every FROM entry, those of the queries in value expressions last. -/
def sources (s : Statement) : List Source :=
  s.fromSources ++ (s.exprs.filterMap Expr.query?).flatMap fromSources

/-- Applies `g` to every entry that `sources` lists. -/
def mapSources (g : Source → Source) (s : Statement) : Statement :=
  (s.mapFrom g).mapExprs (Expr.mapQuery (mapFrom g))

end Statement

end SqlLoom
