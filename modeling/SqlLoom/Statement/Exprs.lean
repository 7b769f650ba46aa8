import SqlLoom.Statement

/-! Every value expression of a statement: listed with parents before children, and replaced from
the leaves up. The target of a DELETE is left alone. -/
namespace SqlLoom

mutual
def Expr.exprs : Expr → List Expr
  | .call n args d f w => .call n args d f w :: (listExprs args ++ optionExprs f ++ windowExprs w)
  | .binary l op r => .binary l op r :: (l.exprs ++ r.exprs)
  | .unary op e => .unary op e :: e.exprs
  | .tuple es => .tuple es :: listExprs es
  | .array es => .array es :: listExprs es
  | .inList e es neg => .inList e es neg :: (e.exprs ++ listExprs es)
  | .case o bs e => .case o bs e :: (optionExprs o ++ branchExprs bs ++ optionExprs e)
  | .subquery q => .subquery q :: q.exprs
  | .exists q => .exists q :: q.exprs
  | .inSubquery e q neg => .inSubquery e q neg :: (e.exprs ++ q.exprs)
  | .between e l h neg => .between e l h neg :: (e.exprs ++ l.exprs ++ h.exprs)
  | .isNull e neg => .isNull e neg :: e.exprs
  | .cast e t s => .cast e t s :: e.exprs
  | .nested e => .nested e :: e.exprs
  | .column q n => [.column q n]
  | .literal v => [.literal v]
  | .parameter n v => [.parameter n v]
  | .wildcard q => [.wildcard q]
  | .raw s => [.raw s]
def listExprs : List Expr → List Expr
  | [] => []
  | e :: es => e.exprs ++ listExprs es
def optionExprs : Option Expr → List Expr
  | none => []
  | some e => e.exprs
def branchExprs : List (Expr × Expr) → List Expr
  | [] => []
  | (c, r) :: bs => c.exprs ++ r.exprs ++ branchExprs bs
def windowExprs : Option Window → List Expr
  | none => []
  | some ⟨_, p, o, _⟩ => listExprs p ++ orderExprs o
def orderExprs : List OrderItem → List Expr
  | [] => []
  | ⟨v, _, _⟩ :: os => v.exprs ++ orderExprs os
def itemExprs : List SelectItem → List Expr
  | [] => []
  | ⟨v, _⟩ :: is => v.exprs ++ itemExprs is
def Source.exprs : Source → List Expr
  | .table _ _ _ => []
  | .subquery q _ _ _ => q.exprs
  | .function _ args _ => listExprs args
def sourceExprs : List Source → List Expr
  | [] => []
  | s :: ss => s.exprs ++ sourceExprs ss
def conditionExprs : Option JoinCondition → List Expr
  | some (.predicate e) => e.exprs
  | some (.shared _) => []
  | some .natural => []
  | none => []
def joinExprs : List Join → List Expr
  | [] => []
  | ⟨_, s, c⟩ :: js => s.exprs ++ conditionExprs c ++ joinExprs js
def tableExprs : List CommonTable → List Expr
  | [] => []
  | ⟨_, _, b⟩ :: ts => b.exprs ++ tableExprs ts
def withExprs : Option WithClause → List Expr
  | none => []
  | some ⟨_, ts⟩ => tableExprs ts
def rowExprs : List (List Expr) → List Expr
  | [] => []
  | r :: rs => listExprs r ++ rowExprs rs
def assignmentExprs : List Assignment → List Expr
  | [] => []
  | ⟨_, v⟩ :: as => v.exprs ++ assignmentExprs as
def Statement.exprs : Statement → List Expr
  | .select ⟨w, _, is, fs, js, f, g, h, o, l, k⟩ =>
    withExprs w ++ itemExprs is ++ sourceExprs fs ++ joinExprs js ++ optionExprs f ++
      listExprs g ++ optionExprs h ++ orderExprs o ++ optionExprs l ++ optionExprs k
  | .setOp ⟨l, _, _, r, o, m, k⟩ =>
    l.exprs ++ r.exprs ++ orderExprs o ++ optionExprs m ++ optionExprs k
  | .values ⟨rs, _⟩ => rowExprs rs
  | .insert ⟨_, _, .rows rs, is⟩ => rowExprs rs ++ itemExprs is
  | .insert ⟨_, _, .query q, is⟩ => q.exprs ++ itemExprs is
  | .createTable ⟨_, _, _, _, some q⟩ => q.exprs
  | .createTable ⟨_, _, _, _, none⟩ => []
  | .update ⟨w, t, as, fs, f, is⟩ =>
    withExprs w ++ t.exprs ++ sourceExprs fs ++ assignmentExprs as ++ optionExprs f ++
      itemExprs is
  | .delete ⟨w, _, us, f, is⟩ => withExprs w ++ sourceExprs us ++ optionExprs f ++ itemExprs is
end

mutual
def Expr.mapExprs (g : Expr → Expr) : Expr → Expr
  | .call n args d f w => g (.call n (mapList g args) d (mapOption g f) (mapWindow g w))
  | .binary l op r => g (.binary (l.mapExprs g) op (r.mapExprs g))
  | .unary op e => g (.unary op (e.mapExprs g))
  | .tuple es => g (.tuple (mapList g es))
  | .array es => g (.array (mapList g es))
  | .inList e es neg => g (.inList (e.mapExprs g) (mapList g es) neg)
  | .case o bs e => g (.case (mapOption g o) (mapBranches g bs) (mapOption g e))
  | .subquery q => g (.subquery (q.mapExprs g))
  | .exists q => g (.exists (q.mapExprs g))
  | .inSubquery e q neg => g (.inSubquery (e.mapExprs g) (q.mapExprs g) neg)
  | .between e l h neg => g (.between (e.mapExprs g) (l.mapExprs g) (h.mapExprs g) neg)
  | .isNull e neg => g (.isNull (e.mapExprs g) neg)
  | .cast e t s => g (.cast (e.mapExprs g) t s)
  | .nested e => g (.nested (e.mapExprs g))
  | .column q n => g (.column q n)
  | .literal v => g (.literal v)
  | .parameter n v => g (.parameter n v)
  | .wildcard q => g (.wildcard q)
  | .raw s => g (.raw s)
def mapList (g : Expr → Expr) : List Expr → List Expr
  | [] => []
  | e :: es => e.mapExprs g :: mapList g es
def mapOption (g : Expr → Expr) : Option Expr → Option Expr
  | none => none
  | some e => some (e.mapExprs g)
def mapBranches (g : Expr → Expr) : List (Expr × Expr) → List (Expr × Expr)
  | [] => []
  | (c, r) :: bs => (c.mapExprs g, r.mapExprs g) :: mapBranches g bs
def mapWindow (g : Expr → Expr) : Option Window → Option Window
  | none => none
  | some ⟨n, p, o, f⟩ => some ⟨n, mapList g p, mapOrder g o, f⟩
def mapOrder (g : Expr → Expr) : List OrderItem → List OrderItem
  | [] => []
  | ⟨v, a, n⟩ :: os => ⟨v.mapExprs g, a, n⟩ :: mapOrder g os
def mapItems (g : Expr → Expr) : List SelectItem → List SelectItem
  | [] => []
  | ⟨v, a⟩ :: is => ⟨v.mapExprs g, a⟩ :: mapItems g is
def Source.mapExprs (g : Expr → Expr) : Source → Source
  | .table s n a => .table s n a
  | .subquery q a cs l => .subquery (q.mapExprs g) a cs l
  | .function n args a => .function n (mapList g args) a
def mapEntries (g : Expr → Expr) : List Source → List Source
  | [] => []
  | s :: ss => s.mapExprs g :: mapEntries g ss
def mapCondition (g : Expr → Expr) : Option JoinCondition → Option JoinCondition
  | some (.predicate e) => some (.predicate (e.mapExprs g))
  | some (.shared cs) => some (.shared cs)
  | some .natural => some .natural
  | none => none
def mapJoins (g : Expr → Expr) : List Join → List Join
  | [] => []
  | ⟨t, s, c⟩ :: js => ⟨t, s.mapExprs g, mapCondition g c⟩ :: mapJoins g js
def mapTables (g : Expr → Expr) : List CommonTable → List CommonTable
  | [] => []
  | ⟨n, cs, b⟩ :: ts => ⟨n, cs, b.mapExprs g⟩ :: mapTables g ts
def mapWith (g : Expr → Expr) : Option WithClause → Option WithClause
  | none => none
  | some ⟨r, ts⟩ => some ⟨r, mapTables g ts⟩
def mapRows (g : Expr → Expr) : List (List Expr) → List (List Expr)
  | [] => []
  | r :: rs => mapList g r :: mapRows g rs
def mapAssignments (g : Expr → Expr) : List Assignment → List Assignment
  | [] => []
  | ⟨c, v⟩ :: as => ⟨c, v.mapExprs g⟩ :: mapAssignments g as
/-- Applies `g` to every value expression whose children have been replaced already. -/
def Statement.mapExprs (g : Expr → Expr) : Statement → Statement
  | .select ⟨w, d, is, fs, js, f, b, h, o, l, k⟩ =>
    .select ⟨mapWith g w, d, mapItems g is, mapEntries g fs, mapJoins g js, mapOption g f,
      mapList g b, mapOption g h, mapOrder g o, mapOption g l, mapOption g k⟩
  | .setOp ⟨l, op, a, r, o, m, k⟩ =>
    .setOp ⟨l.mapExprs g, op, a, r.mapExprs g, mapOrder g o, mapOption g m, mapOption g k⟩
  | .values ⟨rs, as⟩ => .values ⟨mapRows g rs, as⟩
  | .insert ⟨t, cs, .rows rs, is⟩ => .insert ⟨t, cs, .rows (mapRows g rs), mapItems g is⟩
  | .insert ⟨t, cs, .query q, is⟩ => .insert ⟨t, cs, .query (q.mapExprs g), mapItems g is⟩
  | .createTable ⟨n, t, e, cs, some q⟩ => .createTable ⟨n, t, e, cs, some (q.mapExprs g)⟩
  | .createTable ⟨n, t, e, cs, none⟩ => .createTable ⟨n, t, e, cs, none⟩
  | .update ⟨w, t, as, fs, f, is⟩ =>
    .update ⟨mapWith g w, t.mapExprs g, mapAssignments g as, mapEntries g fs, mapOption g f,
      mapItems g is⟩
  | .delete ⟨w, t, us, f, is⟩ =>
    .delete ⟨mapWith g w, t, mapEntries g us, mapOption g f, mapItems g is⟩
end

namespace Expr

def isParameter (name : String) : Expr → Bool
  | .parameter n _ => n == name
  | _ => false

/-- Binds the placeholder if it has the name. -/
def bind (name : String) (value : Scalar) : Expr → Expr
  | .parameter n v => .parameter n (if n = name then some value else v)
  | e => e

end Expr

namespace Statement

/-- Binds a value to every placeholder of a name, and counts them. -/
def setParameter (name : String) (value : Scalar) (s : Statement) : Statement × Nat :=
  (s.mapExprs (Expr.bind name value), s.exprs.countP (Expr.isParameter name))

end Statement

end SqlLoom
