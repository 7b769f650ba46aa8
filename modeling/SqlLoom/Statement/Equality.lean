import SqlLoom.Statement

/-! Equality of trees, with bound values compared by `Scalar.equals`. -/
namespace SqlLoom

def equalBindings : Option Scalar → Option Scalar → Bool
  | none, none => true
  | some a, some b => a.equals b
  | _, _ => false

mutual
def Expr.equals : Expr → Expr → Bool
  | .column q n, .column q' n' => q == q' && n == n'
  | .literal v, .literal v' => v == v'
  | .parameter n v, .parameter n' v' => n == n' && equalBindings v v'
  | .call n args d f w, .call n' args' d' f' w' =>
    n == n' && equalExprs args args' && d == d' && equalExpr? f f' && equalWindow? w w'
  | .binary l op r, .binary l' op' r' => l.equals l' && op == op' && r.equals r'
  | .unary op e, .unary op' e' => op == op' && e.equals e'
  | .tuple es, .tuple es' => equalExprs es es'
  | .array es, .array es' => equalExprs es es'
  | .inList e es neg, .inList e' es' neg' => e.equals e' && equalExprs es es' && neg == neg'
  | .wildcard q, .wildcard q' => q == q'
  | .case o bs e, .case o' bs' e' => equalExpr? o o' && equalBranches bs bs' && equalExpr? e e'
  | .subquery q, .subquery q' => q.equals q'
  | .exists q, .exists q' => q.equals q'
  | .inSubquery e q neg, .inSubquery e' q' neg' => e.equals e' && q.equals q' && neg == neg'
  | .between e l h neg, .between e' l' h' neg' =>
    e.equals e' && l.equals l' && h.equals h' && neg == neg'
  | .isNull e neg, .isNull e' neg' => e.equals e' && neg == neg'
  | .cast e t s, .cast e' t' s' => e.equals e' && t == t' && s == s'
  | .nested e, .nested e' => e.equals e'
  | .raw s, .raw s' => s == s'
  | _, _ => false
termination_by structural x => x
def equalExprs : List Expr → List Expr → Bool
  | [], [] => true
  | e :: es, e' :: es' => e.equals e' && equalExprs es es'
  | _, _ => false
termination_by structural x => x
def equalExpr? : Option Expr → Option Expr → Bool
  | none, none => true
  | some e, some e' => e.equals e'
  | _, _ => false
termination_by structural x => x
def equalBranches : List (Expr × Expr) → List (Expr × Expr) → Bool
  | [], [] => true
  | (c, r) :: bs, (c', r') :: bs' => c.equals c' && r.equals r' && equalBranches bs bs'
  | _, _ => false
termination_by structural x => x
def equalWindow? : Option Window → Option Window → Bool
  | none, none => true
  | some ⟨n, p, o, f⟩, some ⟨n', p', o', f'⟩ =>
    n == n' && equalExprs p p' && equalOrder o o' && f == f'
  | _, _ => false
termination_by structural x => x
def equalOrder : List OrderItem → List OrderItem → Bool
  | [], [] => true
  | ⟨v, a, n⟩ :: os, ⟨v', a', n'⟩ :: os' =>
    v.equals v' && a == a' && n == n' && equalOrder os os'
  | _, _ => false
termination_by structural x => x
def equalItems : List SelectItem → List SelectItem → Bool
  | [], [] => true
  | ⟨v, a⟩ :: is, ⟨v', a'⟩ :: is' => v.equals v' && a == a' && equalItems is is'
  | _, _ => false
termination_by structural x => x
def Source.equals : Source → Source → Bool
  | .table s n a, .table s' n' a' => s == s' && n == n' && a == a'
  | .subquery q a cs l, .subquery q' a' cs' l' => q.equals q' && a == a' && cs == cs' && l == l'
  | .function n args a, .function n' args' a' => n == n' && equalExprs args args' && a == a'
  | _, _ => false
termination_by structural x => x
def equalSources : List Source → List Source → Bool
  | [], [] => true
  | s :: ss, s' :: ss' => s.equals s' && equalSources ss ss'
  | _, _ => false
termination_by structural x => x
def equalCondition? : Option JoinCondition → Option JoinCondition → Bool
  | none, none => true
  | some (.predicate e), some (.predicate e') => e.equals e'
  | some (.shared cs), some (.shared cs') => cs == cs'
  | some .natural, some .natural => true
  | _, _ => false
termination_by structural x => x
def equalJoins : List Join → List Join → Bool
  | [], [] => true
  | ⟨t, s, c⟩ :: js, ⟨t', s', c'⟩ :: js' =>
    t == t' && s.equals s' && equalCondition? c c' && equalJoins js js'
  | _, _ => false
termination_by structural x => x
def CommonTable.equals : CommonTable → CommonTable → Bool
  | ⟨n, cs, b⟩, ⟨n', cs', b'⟩ => n == n' && cs == cs' && b.equals b'
termination_by structural x => x
def equalTables : List CommonTable → List CommonTable → Bool
  | [], [] => true
  | t :: ts, t' :: ts' => t.equals t' && equalTables ts ts'
  | _, _ => false
termination_by structural x => x
def equalWith? : Option WithClause → Option WithClause → Bool
  | none, none => true
  | some ⟨r, ts⟩, some ⟨r', ts'⟩ => r == r' && equalTables ts ts'
  | _, _ => false
termination_by structural x => x
def equalRows : List (List Expr) → List (List Expr) → Bool
  | [], [] => true
  | r :: rs, r' :: rs' => equalExprs r r' && equalRows rs rs'
  | _, _ => false
termination_by structural x => x
def equalAssignments : List Assignment → List Assignment → Bool
  | [], [] => true
  | ⟨c, v⟩ :: as, ⟨c', v'⟩ :: as' => c == c' && v.equals v' && equalAssignments as as'
  | _, _ => false
termination_by structural x => x
def equalStatement? : Option Statement → Option Statement → Bool
  | none, none => true
  | some s, some s' => s.equals s'
  | _, _ => false
termination_by structural x => x
def InsertSource.equals : InsertSource → InsertSource → Bool
  | .rows rs, .rows rs' => equalRows rs rs'
  | .query q, .query q' => q.equals q'
  | _, _ => false
termination_by structural x => x
def Statement.equals : Statement → Statement → Bool
  | .select ⟨w, d, is, fs, js, f, g, h, o, l, k⟩, .select ⟨w', d', is', fs', js', f', g', h', o', l', k'⟩ =>
    equalWith? w w' && d == d' && equalItems is is' && equalSources fs fs' && equalJoins js js' &&
      equalExpr? f f' && equalExprs g g' && equalExpr? h h' && equalOrder o o' &&
      equalExpr? l l' && equalExpr? k k'
  | .setOp ⟨l, op, a, r, o, m, k⟩, .setOp ⟨l', op', a', r', o', m', k'⟩ =>
    l.equals l' && op == op' && a == a' && r.equals r' && equalOrder o o' &&
      equalExpr? m m' && equalExpr? k k'
  | .values ⟨rs, as⟩, .values ⟨rs', as'⟩ => equalRows rs rs' && as == as'
  | .insert ⟨t, cs, s, is⟩, .insert ⟨t', cs', s', is'⟩ =>
    t == t' && cs == cs' && s.equals s' && equalItems is is'
  | .createTable ⟨n, t, e, cs, q⟩, .createTable ⟨n', t', e', cs', q'⟩ =>
    n == n' && t == t' && e == e' && cs == cs' && equalStatement? q q'
  | .update ⟨w, t, as, fs, f, is⟩, .update ⟨w', t', as', fs', f', is'⟩ =>
    equalWith? w w' && t.equals t' && equalAssignments as as' && equalSources fs fs' &&
      equalExpr? f f' && equalItems is is'
  | .delete ⟨w, t, us, f, is⟩, .delete ⟨w', t', us', f', is'⟩ =>
    equalWith? w w' && t.equals t' && equalSources us us' && equalExpr? f f' && equalItems is is'
  | _, _ => false
termination_by structural x => x
end

end SqlLoom
