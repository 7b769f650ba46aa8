import Mathlib.Logic.Basic
import SqlLoom.Fixture
import SqlLoom.Proofs.Statement.Parts

/-! What the search for schemas does to a statement, part by part. It goes through FROM clauses
first and through the queries of value expressions then; the two passes commute, so that the
outcome inside any query is again that of two passes. -/
namespace SqlLoom

namespace Fixture

@[simp] lemma dropSchema_subquery (targets : List QualifiedName) (q : Statement) (a : String)
    (cs : List String) (l : Bool) :
    dropSchema targets (.subquery q a cs l) = .subquery q a cs l := rfl

@[simp] lemma dropSchema_function (targets : List QualifiedName) (n : String) (args : List Expr)
    (a : Option String) : dropSchema targets (.function n args a) = .function n args a := rfl

@[simp] lemma dropSchema_bare (targets : List QualifiedName) (n : String) (a : Option String) :
    dropSchema targets (.table none n a) = .table none n a := rfl

@[simp] lemma dropSchema_nil (x : Source) : dropSchema [] x = x := by
  rcases x with ⟨_ | _, _, _⟩ | _ | _ <;> simp [dropSchema]

@[simp] lemma map_dropSchema_nil (xs : List Source) : xs.map (dropSchema []) = xs := by
  induction xs with
  | nil => rfl
  | cons x xs ih => simp [ih]

lemma exists_dropSchema_table (targets : List QualifiedName) (s : Option String) (n : String)
    (a : Option String) : ∃ s', dropSchema targets (.table s n a) = .table s' n a := by
  cases s with
  | none => exact ⟨none, rfl⟩
  | some s => exact ⟨_, rfl⟩

lemma dropSchema_mapExprs (targets : List QualifiedName) (G : Expr → Expr) (x : Source) :
    dropSchema targets (x.mapExprs G) = (dropSchema targets x).mapExprs G := by
  rcases x with ⟨_ | _, _, _⟩ | _ | _ <;> simp [dropSchema, Source.mapExprs]

/-- Searches the query that stands in an expression itself. -/
def intoQuery (targets : List QualifiedName) : Expr → Expr :=
  Expr.mapQuery (Statement.mapFrom (dropSchema targets))

end Fixture

open Fixture

lemma map_dropSchema_mapEntries (targets : List QualifiedName) (G : Expr → Expr)
    (xs : List Source) :
    (mapEntries G xs).map (dropSchema targets) = mapEntries G (xs.map (dropSchema targets)) := by
  simp only [mapEntries_eq_map, List.map_map, Function.comp_def, dropSchema_mapExprs]

section
variable (targets : List QualifiedName) (G : Expr → Expr)

mutual
lemma mapFrom_mapExprs_source : (x : Source) →
    (x.mapExprs G).mapFrom (dropSchema targets) = (x.mapFrom (dropSchema targets)).mapExprs G
  | .table s n a => dropSchema_mapExprs targets G (.table s n a)
  | .subquery q a cs l => congrArg (Source.subquery · a cs l) (mapFrom_mapExprs_statement q)
  | .function _ _ _ => rfl
lemma mapFrom_mapExprs_list : (xs : List Source) →
    mapFromList (dropSchema targets) (mapEntries G xs) =
      mapEntries G (mapFromList (dropSchema targets) xs)
  | [] => rfl
  | x :: xs => congrArg₂ List.cons (mapFrom_mapExprs_source x) (mapFrom_mapExprs_list xs)
lemma mapFrom_mapExprs_joins : (js : List Join) →
    mapFromJoins (dropSchema targets) (mapJoins G js) =
      mapJoins G (mapFromJoins (dropSchema targets) js)
  | [] => rfl
  | ⟨t, x, c⟩ :: js =>
    congrArg₂ (Join.mk t · (mapCondition G c) :: ·) (mapFrom_mapExprs_source x)
      (mapFrom_mapExprs_joins js)
lemma mapFrom_mapExprs_tables : (ts : List CommonTable) →
    mapFromTables (dropSchema targets) (mapTables G ts) =
      mapTables G (mapFromTables (dropSchema targets) ts)
  | [] => rfl
  | ⟨n, cs, b⟩ :: ts =>
    congrArg₂ (CommonTable.mk n cs · :: ·) (mapFrom_mapExprs_statement b)
      (mapFrom_mapExprs_tables ts)
lemma mapFrom_mapExprs_with : (w : Option WithClause) →
    mapFromWith (dropSchema targets) (mapWith G w) = mapWith G (mapFromWith (dropSchema targets) w)
  | none => rfl
  | some ⟨r, ts⟩ => congrArg (fun ts => some (WithClause.mk r ts)) (mapFrom_mapExprs_tables ts)
/-- The two passes commute. -/
lemma mapFrom_mapExprs_statement : (s : Statement) →
    (s.mapExprs G).mapFrom (dropSchema targets) = (s.mapFrom (dropSchema targets)).mapExprs G
  | .select ⟨w, d, is, fs, js, f, g, h, o, l, k⟩ => by
    change Statement.select ⟨_, d, mapItems G is, _, _, mapOption G f, mapList G g, mapOption G h,
      mapOrder G o, mapOption G l, mapOption G k⟩ = .select ⟨_, _, _, _, _, _, _, _, _, _, _⟩
    rw [mapFrom_mapExprs_with w, mapFrom_mapExprs_list fs, mapFrom_mapExprs_joins js]
  | .setOp ⟨l, op, a, r, o, m, k⟩ => by
    change Statement.setOp ⟨_, op, a, _, mapOrder G o, mapOption G m, mapOption G k⟩ =
      .setOp ⟨_, _, _, _, _, _, _⟩
    rw [mapFrom_mapExprs_statement l, mapFrom_mapExprs_statement r]
  | .values ⟨_, _⟩ => rfl
  | .insert ⟨_, _, .rows _, _⟩ => rfl
  | .insert ⟨t, cs, .query q, is⟩ =>
    congrArg (fun q => Statement.insert ⟨t, cs, .query q, mapItems G is⟩)
      (mapFrom_mapExprs_statement q)
  | .createTable ⟨n, t, e, cs, some q⟩ =>
    congrArg (fun q => Statement.createTable ⟨n, t, e, cs, some q⟩) (mapFrom_mapExprs_statement q)
  | .createTable ⟨_, _, _, _, none⟩ => rfl
  | .update ⟨w, t, as, fs, f, is⟩ => by
    change Statement.update ⟨_, _, mapAssignments G as, _, mapOption G f, mapItems G is⟩ =
      .update ⟨_, _, _, _, _, _⟩
    rw [mapFrom_mapExprs_with w, dropSchema_mapExprs, map_dropSchema_mapEntries]
  | .delete ⟨w, t, us, f, is⟩ => by
    change Statement.delete ⟨_, _, _, mapOption G f, mapItems G is⟩ = .delete ⟨_, _, _, _, _⟩
    rw [mapFrom_mapExprs_with w, map_dropSchema_mapEntries]
end

end

mutual
lemma mapFrom_nil_source : (x : Source) → x.mapFrom (dropSchema []) = x
  | .table s n a => dropSchema_nil (.table s n a)
  | .subquery q a cs l => congrArg (Source.subquery · a cs l) (mapFrom_nil_statement q)
  | .function _ _ _ => rfl
lemma mapFrom_nil_list : (xs : List Source) → mapFromList (dropSchema []) xs = xs
  | [] => rfl
  | x :: xs => congrArg₂ List.cons (mapFrom_nil_source x) (mapFrom_nil_list xs)
lemma mapFrom_nil_joins : (js : List Join) → mapFromJoins (dropSchema []) js = js
  | [] => rfl
  | ⟨t, x, c⟩ :: js =>
    congrArg₂ (Join.mk t · c :: ·) (mapFrom_nil_source x) (mapFrom_nil_joins js)
lemma mapFrom_nil_tables : (ts : List CommonTable) → mapFromTables (dropSchema []) ts = ts
  | [] => rfl
  | ⟨n, cs, b⟩ :: ts =>
    congrArg₂ (CommonTable.mk n cs · :: ·) (mapFrom_nil_statement b) (mapFrom_nil_tables ts)
lemma mapFrom_nil_with : (w : Option WithClause) → mapFromWith (dropSchema []) w = w
  | none => rfl
  | some ⟨r, ts⟩ => congrArg (fun ts => some (WithClause.mk r ts)) (mapFrom_nil_tables ts)
lemma mapFrom_nil_statement : (s : Statement) → s.mapFrom (dropSchema []) = s
  | .select ⟨w, d, is, fs, js, f, g, h, o, l, k⟩ => by
    change Statement.select ⟨_, d, is, _, _, f, g, h, o, l, k⟩ = _
    rw [mapFrom_nil_with w, mapFrom_nil_list fs, mapFrom_nil_joins js]
  | .setOp ⟨l, op, a, r, o, m, k⟩ => by
    change Statement.setOp ⟨_, op, a, _, o, m, k⟩ = _
    rw [mapFrom_nil_statement l, mapFrom_nil_statement r]
  | .values _ => rfl
  | .insert ⟨_, _, .rows _, _⟩ => rfl
  | .insert ⟨t, cs, .query q, is⟩ =>
    congrArg (fun q => Statement.insert ⟨t, cs, .query q, is⟩) (mapFrom_nil_statement q)
  | .createTable ⟨n, t, e, cs, some q⟩ =>
    congrArg (fun q => Statement.createTable ⟨n, t, e, cs, some q⟩) (mapFrom_nil_statement q)
  | .createTable ⟨_, _, _, _, none⟩ => rfl
  | .update ⟨w, t, as, fs, f, is⟩ => by
    change Statement.update ⟨_, _, as, _, f, is⟩ = _
    rw [mapFrom_nil_with w, dropSchema_nil, map_dropSchema_nil]
  | .delete ⟨w, t, us, f, is⟩ => by
    change Statement.delete ⟨_, _, _, f, is⟩ = _
    rw [mapFrom_nil_with w, dropSchema_nil, map_dropSchema_nil]
end

mutual
lemma mapExprs_id_expr : (e : Expr) → e.mapExprs id = e
  | .call n args d f w => by
    change Expr.call n _ d _ _ = _
    rw [mapExprs_id_list args, mapExprs_id_option f, mapExprs_id_window w]
  | .binary l op r => congrArg₂ (Expr.binary · op ·) (mapExprs_id_expr l) (mapExprs_id_expr r)
  | .unary op e => congrArg (Expr.unary op) (mapExprs_id_expr e)
  | .tuple es => congrArg Expr.tuple (mapExprs_id_list es)
  | .array es => congrArg Expr.array (mapExprs_id_list es)
  | .inList e es neg => congrArg₂ (Expr.inList · · neg) (mapExprs_id_expr e) (mapExprs_id_list es)
  | .case o bs e => by
    change Expr.case _ _ _ = _
    rw [mapExprs_id_option o, mapExprs_id_branches bs, mapExprs_id_option e]
  | .subquery q => congrArg Expr.subquery (mapExprs_id_statement q)
  | .exists q => congrArg Expr.exists (mapExprs_id_statement q)
  | .inSubquery e q neg =>
    congrArg₂ (Expr.inSubquery · · neg) (mapExprs_id_expr e) (mapExprs_id_statement q)
  | .between e l h neg => by
    change Expr.between _ _ _ neg = _
    rw [mapExprs_id_expr e, mapExprs_id_expr l, mapExprs_id_expr h]
  | .isNull e neg => congrArg (Expr.isNull · neg) (mapExprs_id_expr e)
  | .cast e t s => congrArg (Expr.cast · t s) (mapExprs_id_expr e)
  | .nested e => congrArg Expr.nested (mapExprs_id_expr e)
  | .column _ _ => rfl
  | .literal _ => rfl
  | .parameter _ _ => rfl
  | .wildcard _ => rfl
  | .raw _ => rfl
lemma mapExprs_id_list : (es : List Expr) → mapList id es = es
  | [] => rfl
  | e :: es => congrArg₂ List.cons (mapExprs_id_expr e) (mapExprs_id_list es)
lemma mapExprs_id_option : (e : Option Expr) → mapOption id e = e
  | none => rfl
  | some e => congrArg some (mapExprs_id_expr e)
lemma mapExprs_id_branches : (bs : List (Expr × Expr)) → mapBranches id bs = bs
  | [] => rfl
  | (c, r) :: bs => by
    change (_, _) :: _ = _
    rw [mapExprs_id_expr c, mapExprs_id_expr r, mapExprs_id_branches bs]
lemma mapExprs_id_window : (w : Option Window) → mapWindow id w = w
  | none => rfl
  | some ⟨n, p, o, f⟩ =>
    congrArg₂ (fun p o => some (Window.mk n p o f)) (mapExprs_id_list p) (mapExprs_id_order o)
lemma mapExprs_id_order : (os : List OrderItem) → mapOrder id os = os
  | [] => rfl
  | ⟨v, a, n⟩ :: os =>
    congrArg₂ (OrderItem.mk · a n :: ·) (mapExprs_id_expr v) (mapExprs_id_order os)
lemma mapExprs_id_items : (is : List SelectItem) → mapItems id is = is
  | [] => rfl
  | ⟨v, a⟩ :: is => congrArg₂ (SelectItem.mk · a :: ·) (mapExprs_id_expr v) (mapExprs_id_items is)
lemma mapExprs_id_source : (x : Source) → x.mapExprs id = x
  | .table _ _ _ => rfl
  | .subquery q a cs l => congrArg (Source.subquery · a cs l) (mapExprs_id_statement q)
  | .function n args a => congrArg (Source.function n · a) (mapExprs_id_list args)
lemma mapExprs_id_entries : (xs : List Source) → mapEntries id xs = xs
  | [] => rfl
  | x :: xs => congrArg₂ List.cons (mapExprs_id_source x) (mapExprs_id_entries xs)
lemma mapExprs_id_condition : (c : Option JoinCondition) → mapCondition id c = c
  | some (.predicate e) => congrArg (fun e => some (JoinCondition.predicate e)) (mapExprs_id_expr e)
  | some (.shared _) => rfl
  | some .natural => rfl
  | none => rfl
lemma mapExprs_id_joins : (js : List Join) → mapJoins id js = js
  | [] => rfl
  | ⟨t, x, c⟩ :: js => by
    change Join.mk t _ _ :: _ = _
    rw [mapExprs_id_source x, mapExprs_id_condition c, mapExprs_id_joins js]
lemma mapExprs_id_tables : (ts : List CommonTable) → mapTables id ts = ts
  | [] => rfl
  | ⟨n, cs, b⟩ :: ts =>
    congrArg₂ (CommonTable.mk n cs · :: ·) (mapExprs_id_statement b) (mapExprs_id_tables ts)
lemma mapExprs_id_with : (w : Option WithClause) → mapWith id w = w
  | none => rfl
  | some ⟨r, ts⟩ => congrArg (fun ts => some (WithClause.mk r ts)) (mapExprs_id_tables ts)
lemma mapExprs_id_rows : (rs : List (List Expr)) → mapRows id rs = rs
  | [] => rfl
  | r :: rs => congrArg₂ List.cons (mapExprs_id_list r) (mapExprs_id_rows rs)
lemma mapExprs_id_assignments : (as : List Assignment) → mapAssignments id as = as
  | [] => rfl
  | ⟨c, v⟩ :: as =>
    congrArg₂ (Assignment.mk c · :: ·) (mapExprs_id_expr v) (mapExprs_id_assignments as)
lemma mapExprs_id_statement : (s : Statement) → s.mapExprs id = s
  | .select ⟨w, d, is, fs, js, f, g, h, o, l, k⟩ => by
    change Statement.select ⟨_, d, _, _, _, _, _, _, _, _, _⟩ = _
    rw [mapExprs_id_with w, mapExprs_id_items is, mapExprs_id_entries fs, mapExprs_id_joins js,
      mapExprs_id_option f, mapExprs_id_list g, mapExprs_id_option h, mapExprs_id_order o,
      mapExprs_id_option l, mapExprs_id_option k]
  | .setOp ⟨l, op, a, r, o, m, k⟩ => by
    change Statement.setOp ⟨_, op, a, _, _, _, _⟩ = _
    rw [mapExprs_id_statement l, mapExprs_id_statement r, mapExprs_id_order o,
      mapExprs_id_option m, mapExprs_id_option k]
  | .values ⟨rs, as⟩ => congrArg (fun rs => Statement.values ⟨rs, as⟩) (mapExprs_id_rows rs)
  | .insert ⟨t, cs, .rows rs, is⟩ =>
    congrArg₂ (fun rs is => Statement.insert ⟨t, cs, .rows rs, is⟩) (mapExprs_id_rows rs)
      (mapExprs_id_items is)
  | .insert ⟨t, cs, .query q, is⟩ =>
    congrArg₂ (fun q is => Statement.insert ⟨t, cs, .query q, is⟩) (mapExprs_id_statement q)
      (mapExprs_id_items is)
  | .createTable ⟨n, t, e, cs, some q⟩ =>
    congrArg (fun q => Statement.createTable ⟨n, t, e, cs, some q⟩) (mapExprs_id_statement q)
  | .createTable ⟨_, _, _, _, none⟩ => rfl
  | .update ⟨w, t, as, fs, f, is⟩ => by
    change Statement.update ⟨_, _, _, _, _, _⟩ = _
    rw [mapExprs_id_with w, mapExprs_id_source t, mapExprs_id_assignments as,
      mapExprs_id_entries fs, mapExprs_id_option f, mapExprs_id_items is]
  | .delete ⟨w, t, us, f, is⟩ => by
    change Statement.delete ⟨_, t, _, _, _⟩ = _
    rw [mapExprs_id_with w, mapExprs_id_entries us, mapExprs_id_option f, mapExprs_id_items is]
end

namespace Fixture

lemma intoQuery_nil : intoQuery [] = id := by
  funext e
  cases e <;> simp [intoQuery, Expr.mapQuery, mapFrom_nil_statement]

end Fixture

/-- A statement whose FROM clauses are searched for `own` and whose value expressions for `deep`. -/
def Statement.redirect (own deep : List QualifiedName) (s : Statement) : Statement :=
  (s.mapFrom (dropSchema own)).mapExprs (intoQuery deep)

/-- An entry that is searched for `here`, with what is inside of it. -/
def Source.redirect (here own deep : List QualifiedName) : Source → Source
  | .table s n a => dropSchema here (.table s n a)
  | .subquery q a cs l => .subquery (q.redirect own deep) a cs l
  | .function n args a => .function n (mapList (intoQuery deep) args) a

def CommonTable.redirect (own deep : List QualifiedName) (t : CommonTable) : CommonTable :=
  { t with body := t.body.redirect own deep }

section
variable (here own deep : List QualifiedName)

@[simp] lemma CommonTable.redirect_name (t : CommonTable) :
    (t.redirect own deep).name = t.name := rfl

lemma redirect_nil (s : Statement) : s.redirect [] [] = s := by
  rw [Statement.redirect, intoQuery_nil, mapExprs_id_statement, mapFrom_nil_statement]

section
variable (w : Option WithClause) (t : Source) (fs : List Source) (f m k : Option Expr)
  (is : List SelectItem) (o : List OrderItem) (name : QualifiedName) (cs : List String)

lemma redirect_select (isDistinct : Bool) (js : List Join) (g : List Expr) (h : Option Expr) :
    (Statement.select ⟨w, isDistinct, is, fs, js, f, g, h, o, m, k⟩).redirect own deep =
      .select ⟨mapWith (intoQuery deep) (mapFromWith (dropSchema own) w), isDistinct,
        mapItems (intoQuery deep) is, mapEntries (intoQuery deep) (mapFromList (dropSchema own) fs),
        mapJoins (intoQuery deep) (mapFromJoins (dropSchema own) js),
        mapOption (intoQuery deep) f, mapList (intoQuery deep) g, mapOption (intoQuery deep) h,
        mapOrder (intoQuery deep) o, mapOption (intoQuery deep) m,
        mapOption (intoQuery deep) k⟩ := rfl

lemma redirect_setOp (l r : Statement) (op : SetOperator) (all : Bool) :
    (Statement.setOp ⟨l, op, all, r, o, m, k⟩).redirect own deep =
      .setOp ⟨l.redirect own deep, op, all, r.redirect own deep, mapOrder (intoQuery deep) o,
        mapOption (intoQuery deep) m, mapOption (intoQuery deep) k⟩ := rfl

lemma redirect_values (rows : List (List Expr)) :
    (Statement.values ⟨rows, cs⟩).redirect own deep =
      .values ⟨mapRows (intoQuery deep) rows, cs⟩ := rfl

lemma redirect_insert_rows (rows : List (List Expr)) :
    (Statement.insert ⟨name, cs, .rows rows, is⟩).redirect own deep =
      .insert ⟨name, cs, .rows (mapRows (intoQuery deep) rows), mapItems (intoQuery deep) is⟩ := rfl

lemma redirect_insert_query (q : Statement) :
    (Statement.insert ⟨name, cs, .query q, is⟩).redirect own deep =
      .insert ⟨name, cs, .query (q.redirect own deep), mapItems (intoQuery deep) is⟩ := rfl

lemma redirect_createTable_query (temporary ifNotExists : Bool)
    (columns : List ColumnDefinition) (q : Statement) :
    (Statement.createTable ⟨name, temporary, ifNotExists, columns, some q⟩).redirect own deep =
      .createTable ⟨name, temporary, ifNotExists, columns, some (q.redirect own deep)⟩ := rfl

lemma redirect_update (as : List Assignment) :
    (Statement.update ⟨w, t, as, fs, f, is⟩).redirect own deep =
      .update ⟨mapWith (intoQuery deep) (mapFromWith (dropSchema own) w),
        (dropSchema own t).mapExprs (intoQuery deep), mapAssignments (intoQuery deep) as,
        mapEntries (intoQuery deep) (fs.map (dropSchema own)), mapOption (intoQuery deep) f,
        mapItems (intoQuery deep) is⟩ := rfl

lemma redirect_delete :
    (Statement.delete ⟨w, t, fs, f, is⟩).redirect own deep =
      .delete ⟨mapWith (intoQuery deep) (mapFromWith (dropSchema own) w), dropSchema own t,
        mapEntries (intoQuery deep) (fs.map (dropSchema own)), mapOption (intoQuery deep) f,
        mapItems (intoQuery deep) is⟩ := rfl

end

/-- Inside a query of an expression both passes are made again. -/
lemma mapFrom_intoQuery (q : Statement) :
    (q.mapExprs (intoQuery deep)).mapFrom (dropSchema deep) = q.redirect deep deep :=
  mapFrom_mapExprs_statement deep _ q

lemma source_redirect (x : Source) :
    (x.mapFrom (dropSchema own)).mapExprs (intoQuery deep) = x.redirect own own deep := by
  cases x with
  | table s n a =>
    obtain ⟨s', hs⟩ := exists_dropSchema_table own s n a
    rw [Source.mapFrom, Source.redirect, hs, Source.mapExprs]
  | subquery q a cs l =>
    rw [Source.mapFrom, dropSchema_subquery, Source.mapExprs, Source.redirect, Statement.redirect]
  | function n args a =>
    rw [Source.mapFrom, dropSchema_function, Source.mapExprs, Source.redirect]

/-- In a data change, FROM clauses of derived tables are not searched. -/
lemma source_redirect_shallow (x : Source) :
    (dropSchema here x).mapExprs (intoQuery deep) = x.redirect here [] deep := by
  cases x with
  | table s n a =>
    obtain ⟨s', hs⟩ := exists_dropSchema_table here s n a
    rw [Source.redirect, hs, Source.mapExprs]
  | subquery q a cs l =>
    rw [dropSchema_subquery, Source.mapExprs, Source.redirect, Statement.redirect,
      mapFrom_nil_statement]
  | function n args a => rw [dropSchema_function, Source.mapExprs, Source.redirect]

/-- Nothing inside the target of a DELETE is searched. -/
lemma source_redirect_top (x : Source) : dropSchema here x = x.redirect here [] [] := by
  rw [← source_redirect_shallow, intoQuery_nil, mapExprs_id_source]

lemma sources_redirect (xs : List Source) :
    mapEntries (intoQuery deep) (mapFromList (dropSchema own) xs) =
      xs.map (Source.redirect own own deep) := by
  induction xs with
  | nil => simp [mapFromList, mapEntries]
  | cons x xs ih => simp [mapFromList, mapEntries, source_redirect, ih]

lemma sources_redirect_shallow (xs : List Source) :
    mapEntries (intoQuery deep) (xs.map (dropSchema here)) =
      xs.map (Source.redirect here [] deep) := by
  simp [mapEntries_eq_map, source_redirect_shallow]

lemma tables_redirect (ts : List CommonTable) :
    mapTables (intoQuery deep) (mapFromTables (dropSchema own) ts) =
      ts.map (CommonTable.redirect own deep) := by
  induction ts with
  | nil => simp [mapFromTables, mapTables]
  | cons t ts ih =>
    obtain ⟨n, cs, b⟩ := t
    simp [mapFromTables, mapTables, ih, CommonTable.redirect, Statement.redirect]

end

end SqlLoom
