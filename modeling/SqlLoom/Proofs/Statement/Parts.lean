import Mathlib.Data.List.Basic
import Mathlib.Tactic.Lemma
import SqlLoom.Statement.Exprs

/-! The parts right below a tree: the value expressions and the queries that it is made of. A
replacement that goes from the leaves up does the parts of a tree before the tree, and one that goes
from the outside in does them after it. Of the latter there is but one for each step that does not
make trees larger. -/
namespace SqlLoom

section
variable (f : Expr → Expr) (g : Statement → Statement)

def OrderItem.mapParts (o : OrderItem) : OrderItem := { o with value := f o.value }

def SelectItem.mapParts (i : SelectItem) : SelectItem := { i with value := f i.value }

def Assignment.mapParts (a : Assignment) : Assignment := { a with value := f a.value }

def Window.mapParts (w : Window) : Window :=
  { w with
    partitionBy := w.partitionBy.map f
    orderBy := w.orderBy.map (OrderItem.mapParts f) }

/-- Replaces the expressions and the queries right below an expression. -/
def Expr.mapParts : Expr → Expr
  | .call n args d c w => .call n (args.map f) d (c.map f) (w.map (Window.mapParts f))
  | .binary l op r => .binary (f l) op (f r)
  | .unary op e => .unary op (f e)
  | .tuple es => .tuple (es.map f)
  | .array es => .array (es.map f)
  | .inList e es neg => .inList (f e) (es.map f) neg
  | .case o bs e => .case (o.map f) (bs.map (Prod.map f f)) (e.map f)
  | .subquery q => .subquery (g q)
  | .exists q => .exists (g q)
  | .inSubquery e q neg => .inSubquery (f e) (g q) neg
  | .between e l h neg => .between (f e) (f l) (f h) neg
  | .isNull e neg => .isNull (f e) neg
  | .cast e t short => .cast (f e) t short
  | .nested e => .nested (f e)
  | .column q n => .column q n
  | .literal v => .literal v
  | .parameter n v => .parameter n v
  | .wildcard q => .wildcard q
  | .raw s => .raw s

def Source.mapParts : Source → Source
  | .table s n a => .table s n a
  | .subquery q a cs l => .subquery (g q) a cs l
  | .function n args a => .function n (args.map f) a

def JoinCondition.mapParts : JoinCondition → JoinCondition
  | .predicate e => .predicate (f e)
  | .shared cs => .shared cs
  | .natural => .natural

def Join.mapParts (j : Join) : Join :=
  { j with
    source := j.source.mapParts f g
    condition := j.condition.map (JoinCondition.mapParts f) }

def CommonTable.mapParts (t : CommonTable) : CommonTable := { t with body := g t.body }

def WithClause.mapParts (w : WithClause) : WithClause :=
  { w with tables := w.tables.map (CommonTable.mapParts g) }

/-- Replaces the expressions and the queries right below a statement. The target of a DELETE is
left alone. -/
def Statement.mapParts : Statement → Statement
  | .select ⟨w, d, is, fs, js, c, b, h, o, l, k⟩ =>
    .select ⟨w.map (WithClause.mapParts g), d, is.map (SelectItem.mapParts f),
      fs.map (Source.mapParts f g), js.map (Join.mapParts f g), c.map f, b.map f, h.map f,
      o.map (OrderItem.mapParts f), l.map f, k.map f⟩
  | .setOp ⟨l, op, a, r, o, m, k⟩ =>
    .setOp ⟨g l, op, a, g r, o.map (OrderItem.mapParts f), m.map f, k.map f⟩
  | .values ⟨rs, as⟩ => .values ⟨rs.map (List.map f), as⟩
  | .insert ⟨t, cs, .rows rs, is⟩ =>
    .insert ⟨t, cs, .rows (rs.map (List.map f)), is.map (SelectItem.mapParts f)⟩
  | .insert ⟨t, cs, .query q, is⟩ =>
    .insert ⟨t, cs, .query (g q), is.map (SelectItem.mapParts f)⟩
  | .createTable ⟨n, t, e, cs, q⟩ => .createTable ⟨n, t, e, cs, q.map g⟩
  | .update ⟨w, t, as, fs, c, is⟩ =>
    .update ⟨w.map (WithClause.mapParts g), t.mapParts f g, as.map (Assignment.mapParts f),
      fs.map (Source.mapParts f g), c.map f, is.map (SelectItem.mapParts f)⟩
  | .delete ⟨w, t, us, c, is⟩ =>
    .delete ⟨w.map (WithClause.mapParts g), t, us.map (Source.mapParts f g), c.map f,
      is.map (SelectItem.mapParts f)⟩

end

section
variable (h : Expr → Expr)

lemma mapList_eq_map (es : List Expr) : mapList h es = es.map (Expr.mapExprs h) := by
  induction es with
  | nil => rfl
  | cons e es ih => exact congrArg (_ :: ·) ih

lemma mapOption_eq_map (e : Option Expr) : mapOption h e = e.map (Expr.mapExprs h) := by
  cases e <;> rfl

lemma mapBranches_eq_map (bs : List (Expr × Expr)) :
    mapBranches h bs = bs.map (Prod.map (Expr.mapExprs h) (Expr.mapExprs h)) := by
  induction bs with
  | nil => rfl
  | cons b bs ih =>
    obtain ⟨c, r⟩ := b
    exact congrArg (_ :: ·) ih

lemma mapOrder_eq_map (os : List OrderItem) :
    mapOrder h os = os.map (OrderItem.mapParts (Expr.mapExprs h)) := by
  induction os with
  | nil => rfl
  | cons o os ih =>
    obtain ⟨v, a, n⟩ := o
    exact congrArg (_ :: ·) ih

lemma mapWindow_eq_map (w : Option Window) :
    mapWindow h w = w.map (Window.mapParts (Expr.mapExprs h)) := by
  rcases w with _ | ⟨n, p, o, c⟩
  · rfl
  · exact congrArg₂ (fun p o => some (Window.mk n p o c)) (mapList_eq_map h p)
      (mapOrder_eq_map h o)

lemma mapItems_eq_map (is : List SelectItem) :
    mapItems h is = is.map (SelectItem.mapParts (Expr.mapExprs h)) := by
  induction is with
  | nil => rfl
  | cons i is ih =>
    obtain ⟨v, a⟩ := i
    exact congrArg (_ :: ·) ih

lemma Source.mapExprs_eq (x : Source) :
    x.mapExprs h = x.mapParts (Expr.mapExprs h) (Statement.mapExprs h) := by
  cases x with
  | table _ _ _ | subquery _ _ _ _ => rfl
  | function n args a => exact congrArg (Source.function n · a) (mapList_eq_map h args)

lemma mapEntries_eq_map (xs : List Source) : mapEntries h xs = xs.map (Source.mapExprs h) := by
  induction xs with
  | nil => rfl
  | cons x xs ih => exact congrArg (_ :: ·) ih

lemma mapCondition_eq_map (c : Option JoinCondition) :
    mapCondition h c = c.map (JoinCondition.mapParts (Expr.mapExprs h)) := by
  rcases c with _ | _ | _ | _ <;> rfl

lemma mapJoins_eq_map (js : List Join) :
    mapJoins h js = js.map (Join.mapParts (Expr.mapExprs h) (Statement.mapExprs h)) := by
  induction js with
  | nil => rfl
  | cons j js ih =>
    obtain ⟨t, x, c⟩ := j
    refine congrArg₂ List.cons ?_ ih
    exact congrArg₂ (Join.mk t) (x.mapExprs_eq h) (mapCondition_eq_map h c)

lemma mapTables_eq_map (ts : List CommonTable) :
    mapTables h ts = ts.map (CommonTable.mapParts (Statement.mapExprs h)) := by
  induction ts with
  | nil => rfl
  | cons t ts ih =>
    obtain ⟨n, cs, b⟩ := t
    exact congrArg (_ :: ·) ih

lemma mapWith_eq_map (w : Option WithClause) :
    mapWith h w = w.map (WithClause.mapParts (Statement.mapExprs h)) := by
  rcases w with _ | ⟨r, ts⟩
  · rfl
  · exact congrArg (fun ts => some (WithClause.mk r ts)) (mapTables_eq_map h ts)

lemma mapRows_eq_map (rs : List (List Expr)) :
    mapRows h rs = rs.map (List.map (Expr.mapExprs h)) := by
  induction rs with
  | nil => rfl
  | cons r rs ih => exact congrArg₂ List.cons (mapList_eq_map h r) ih

lemma mapAssignments_eq_map (as : List Assignment) :
    mapAssignments h as = as.map (Assignment.mapParts (Expr.mapExprs h)) := by
  induction as with
  | nil => rfl
  | cons a as ih =>
    obtain ⟨c, v⟩ := a
    exact congrArg (_ :: ·) ih

/-- A replacement from the leaves up has done the parts of an expression before the expression. -/
lemma Expr.mapExprs_eq : (e : Expr) →
    e.mapExprs h = h (e.mapParts (Expr.mapExprs h) (Statement.mapExprs h))
  | .call n args d c w => by
    change h (.call n (mapList h args) d (mapOption h c) (mapWindow h w)) = _
    rw [mapList_eq_map, mapOption_eq_map, mapWindow_eq_map]
    rfl
  | .case o bs e => by
    change h (.case (mapOption h o) (mapBranches h bs) (mapOption h e)) = _
    rw [mapOption_eq_map, mapBranches_eq_map, mapOption_eq_map]
    rfl
  | .tuple es => congrArg (fun es => h (.tuple es)) (mapList_eq_map h es)
  | .array es => congrArg (fun es => h (.array es)) (mapList_eq_map h es)
  | .inList e es neg =>
    congrArg (fun es => h (.inList (e.mapExprs h) es neg)) (mapList_eq_map h es)
  | .binary _ _ _ | .unary _ _ | .subquery _ | .exists _ | .inSubquery _ _ _ | .between _ _ _ _
  | .isNull _ _ | .cast _ _ _ | .nested _ | .column _ _ | .literal _ | .parameter _ _
  | .wildcard _ | .raw _ => rfl

lemma mapSources_eq_map (xs : List Source) :
    mapEntries h xs = xs.map (Source.mapParts (Expr.mapExprs h) (Statement.mapExprs h)) := by
  rw [mapEntries_eq_map, funext (Source.mapExprs_eq h)]

lemma Statement.mapExprs_eq (s : Statement) :
    s.mapExprs h = s.mapParts (Expr.mapExprs h) (Statement.mapExprs h) := by
  cases s with
  | select s =>
    obtain ⟨w, d, is, fs, js, c, b, u, o, l, k⟩ := s
    change Statement.select ⟨mapWith h w, d, mapItems h is, mapEntries h fs, mapJoins h js,
      mapOption h c, mapList h b, mapOption h u, mapOrder h o, mapOption h l, mapOption h k⟩ = _
    rw [mapWith_eq_map, mapItems_eq_map, mapSources_eq_map, mapJoins_eq_map, mapList_eq_map,
      mapOrder_eq_map]
    simp only [mapOption_eq_map]
    rfl
  | setOp b =>
    obtain ⟨l, op, a, r, o, m, k⟩ := b
    change Statement.setOp ⟨l.mapExprs h, op, a, r.mapExprs h, mapOrder h o, mapOption h m,
      mapOption h k⟩ = _
    rw [mapOrder_eq_map, mapOption_eq_map, mapOption_eq_map]
    rfl
  | values v =>
    obtain ⟨rs, as⟩ := v
    exact congrArg (fun rs => Statement.values ⟨rs, as⟩) (mapRows_eq_map h rs)
  | insert i =>
    obtain ⟨t, cs, rs | q, is⟩ := i
    · exact congrArg₂ (fun rs is => Statement.insert ⟨t, cs, .rows rs, is⟩) (mapRows_eq_map h rs)
        (mapItems_eq_map h is)
    · exact congrArg (fun is => Statement.insert ⟨t, cs, .query (q.mapExprs h), is⟩)
        (mapItems_eq_map h is)
  | createTable c => obtain ⟨_, _, _, _, _ | _⟩ := c <;> rfl
  | update u =>
    obtain ⟨w, t, as, fs, c, is⟩ := u
    change Statement.update ⟨mapWith h w, t.mapExprs h, mapAssignments h as, mapEntries h fs,
      mapOption h c, mapItems h is⟩ = _
    rw [mapWith_eq_map, Source.mapExprs_eq, mapAssignments_eq_map, mapSources_eq_map,
      mapOption_eq_map, mapItems_eq_map]
    rfl
  | delete x =>
    obtain ⟨w, t, us, c, is⟩ := x
    change Statement.delete ⟨mapWith h w, t, mapEntries h us, mapOption h c, mapItems h is⟩ = _
    rw [mapWith_eq_map, mapSources_eq_map, mapOption_eq_map, mapItems_eq_map]
    rfl

end

/-- The two functions agree on everything smaller than `n`. -/
def AgreeBelow {α β : Type} [SizeOf α] (n : Nat) (a b : α → β) : Prop :=
  ∀ x, sizeOf x < n → a x = b x

namespace AgreeBelow

variable {n : Nat}

lemma list {α β : Type} [SizeOf α] {a b : α → β} (h : AgreeBelow n a b) :
    AgreeBelow n (List.map a) (List.map b) := fun _ hxs =>
  List.map_congr_left fun x hx => h x (Nat.lt_trans (List.sizeOf_lt_of_mem hx) hxs)

lemma option {α β : Type} [SizeOf α] {a b : α → β} (h : AgreeBelow n a b) :
    AgreeBelow n (Option.map a) (Option.map b)
  | none, _ => rfl
  | some x, hx => congrArg some (h x (by simp at hx; omega))

lemma pair {α β : Type} [SizeOf α] {a b : α → β} (h : AgreeBelow n a b) :
    AgreeBelow n (Prod.map a a) (Prod.map b b)
  | (x, y), hx => congrArg₂ Prod.mk (h x (by simp at hx; omega)) (h y (by simp at hx; omega))

variable {f f' : Expr → Expr} {g g' : Statement → Statement} (hf : AgreeBelow n f f')
  (hg : AgreeBelow n g g')

include hf in
lemma orderItem : AgreeBelow n (OrderItem.mapParts f) (OrderItem.mapParts f')
  | ⟨v, a, m⟩, hx => congrArg (OrderItem.mk · a m) (hf v (by simp at hx; omega))

include hf in
lemma selectItem : AgreeBelow n (SelectItem.mapParts f) (SelectItem.mapParts f')
  | ⟨v, a⟩, hx => congrArg (SelectItem.mk · a) (hf v (by simp at hx; omega))

include hf in
lemma assignment : AgreeBelow n (Assignment.mapParts f) (Assignment.mapParts f')
  | ⟨c, v⟩, hx => congrArg (Assignment.mk c) (hf v (by simp at hx; omega))

include hf in
lemma window : AgreeBelow n (Window.mapParts f) (Window.mapParts f')
  | ⟨m, p, o, c⟩, hx => congrArg₂ (Window.mk m · · c) (hf.list p (by simp at hx; omega))
    (hf.orderItem.list o (by simp at hx; omega))

include hf hg in
lemma source : AgreeBelow n (Source.mapParts f g) (Source.mapParts f' g')
  | .table _ _ _, _ => rfl
  | .subquery q a cs l, hx => congrArg (Source.subquery · a cs l) (hg q (by simp at hx; omega))
  | .function m args a, hx =>
    congrArg (Source.function m · a) (hf.list args (by simp at hx; omega))

include hf in
lemma condition : AgreeBelow n (JoinCondition.mapParts f) (JoinCondition.mapParts f')
  | .predicate e, hx => congrArg JoinCondition.predicate (hf e (by simp at hx; omega))
  | .shared _, _ => rfl
  | .natural, _ => rfl

include hf hg in
lemma join : AgreeBelow n (Join.mapParts f g) (Join.mapParts f' g')
  | ⟨t, x, c⟩, hx => congrArg₂ (Join.mk t) (hf.source hg x (by simp at hx; omega))
    (hf.condition.option c (by simp at hx; omega))

include hg in
lemma commonTable : AgreeBelow n (CommonTable.mapParts g) (CommonTable.mapParts g')
  | ⟨m, cs, b⟩, hx => congrArg (CommonTable.mk m cs) (hg b (by simp at hx; omega))

include hg in
lemma withClause : AgreeBelow n (WithClause.mapParts g) (WithClause.mapParts g')
  | ⟨r, ts⟩, hx => congrArg (WithClause.mk r) (hg.commonTable.list ts (by simp at hx; omega))

include hf hg in
/-- The parts of an expression are smaller than the expression. -/
lemma expr : (e : Expr) → sizeOf e ≤ n → e.mapParts f g = e.mapParts f' g'
  | .call m args d c w, h => by
    simp only [Expr.call.sizeOf_spec] at h
    simp only [Expr.mapParts, hf.list args (by omega), hf.option c (by omega),
      hf.window.option w (by omega)]
  | .case o bs e, h => by
    simp only [Expr.case.sizeOf_spec] at h
    simp only [Expr.mapParts, hf.option o (by omega), hf.pair.list bs (by omega),
      hf.option e (by omega)]
  | .between e l u neg, h => by
    simp only [Expr.between.sizeOf_spec] at h
    simp only [Expr.mapParts, hf e (by omega), hf l (by omega), hf u (by omega)]
  | .binary l op r, h => by
    simp only [Expr.binary.sizeOf_spec] at h
    exact congrArg₂ (Expr.binary · op ·) (hf l (by omega)) (hf r (by omega))
  | .inList e es neg, h => by
    simp only [Expr.inList.sizeOf_spec] at h
    exact congrArg₂ (Expr.inList · · neg) (hf e (by omega)) (hf.list es (by omega))
  | .inSubquery e q neg, h => by
    simp only [Expr.inSubquery.sizeOf_spec] at h
    exact congrArg₂ (Expr.inSubquery · · neg) (hf e (by omega)) (hg q (by omega))
  | .unary op e, h => congrArg (Expr.unary op) (hf e (by simp at h; omega))
  | .isNull e neg, h => congrArg (Expr.isNull · neg) (hf e (by simp at h; omega))
  | .cast e t short, h => congrArg (Expr.cast · t short) (hf e (by simp at h; omega))
  | .nested e, h => congrArg Expr.nested (hf e (by simp at h; omega))
  | .tuple es, h => congrArg Expr.tuple (hf.list es (by simp at h; omega))
  | .array es, h => congrArg Expr.array (hf.list es (by simp at h; omega))
  | .subquery q, h => congrArg Expr.subquery (hg q (by simp at h; omega))
  | .exists q, h => congrArg Expr.exists (hg q (by simp at h; omega))
  | .column _ _, _ => rfl
  | .literal _, _ => rfl
  | .parameter _ _, _ => rfl
  | .wildcard _, _ => rfl
  | .raw _, _ => rfl

include hf hg in
lemma statement : (s : Statement) → sizeOf s ≤ n → s.mapParts f g = s.mapParts f' g'
  | .select ⟨w, d, is, fs, js, c, b, u, o, l, k⟩, h => by
    simp only [Statement.select.sizeOf_spec, Select.mk.sizeOf_spec] at h
    simp only [Statement.mapParts, hg.withClause.option w (by omega),
      hf.selectItem.list is (by omega), (hf.source hg).list fs (by omega),
      (hf.join hg).list js (by omega), hf.option c (by omega), hf.list b (by omega),
      hf.option u (by omega), hf.orderItem.list o (by omega), hf.option l (by omega),
      hf.option k (by omega)]
  | .setOp ⟨l, op, a, r, o, m, k⟩, h => by
    simp only [Statement.setOp.sizeOf_spec, SetOperation.mk.sizeOf_spec] at h
    simp only [Statement.mapParts, hg l (by omega), hg r (by omega),
      hf.orderItem.list o (by omega), hf.option m (by omega), hf.option k (by omega)]
  | .values ⟨rs, as⟩, h =>
    congrArg (fun rs => Statement.values ⟨rs, as⟩) (hf.list.list rs (by simp at h; omega))
  | .insert ⟨t, cs, .rows rs, is⟩, h => by
    simp only [Statement.insert.sizeOf_spec, Insert.mk.sizeOf_spec,
      InsertSource.rows.sizeOf_spec] at h
    simp only [Statement.mapParts, hf.list.list rs (by omega), hf.selectItem.list is (by omega)]
  | .insert ⟨t, cs, .query q, is⟩, h => by
    simp only [Statement.insert.sizeOf_spec, Insert.mk.sizeOf_spec,
      InsertSource.query.sizeOf_spec] at h
    simp only [Statement.mapParts, hg q (by omega), hf.selectItem.list is (by omega)]
  | .createTable ⟨m, t, e, cs, q⟩, h =>
    congrArg (fun q => Statement.createTable ⟨m, t, e, cs, q⟩)
      (hg.option q (by simp at h; omega))
  | .update ⟨w, t, as, fs, c, is⟩, h => by
    simp only [Statement.update.sizeOf_spec, Update.mk.sizeOf_spec] at h
    simp only [Statement.mapParts, hg.withClause.option w (by omega),
      hf.source hg t (by omega), hf.assignment.list as (by omega),
      (hf.source hg).list fs (by omega), hf.option c (by omega),
      hf.selectItem.list is (by omega)]
  | .delete ⟨w, t, us, c, is⟩, h => by
    simp only [Statement.delete.sizeOf_spec, Delete.mk.sizeOf_spec] at h
    simp only [Statement.mapParts, hg.withClause.option w (by omega),
      (hf.source hg).list us (by omega), hf.option c (by omega),
      hf.selectItem.list is (by omega)]

end AgreeBelow

/-- A replacement from the outside in: at every value expression `f` comes first, and then the parts
of what it gives. -/
structure TopDown (f : Expr → Expr) (onExpr : Expr → Expr) (onStatement : Statement → Statement) :
    Prop where
  expr (e : Expr) : onExpr e = (f e).mapParts onExpr onStatement
  statement (s : Statement) : onStatement s = s.mapParts onExpr onStatement

/-- There is but one, by induction on the size: the parts of what `f` gives are smaller than the
expression, as `f` does not make it larger. -/
theorem TopDown.unique {f g g' : Expr → Expr} {t t' : Statement → Statement}
    (h : TopDown f g t) (h' : TopDown f g' t') (hf : ∀ e, sizeOf (f e) ≤ sizeOf e) :
    g = g' ∧ t = t' := by
  have hagree : ∀ n, AgreeBelow n g g' ∧ AgreeBelow n t t' := by
    intro n
    induction n with
    | zero => exact ⟨nofun, nofun⟩
    | succ n ih =>
      refine ⟨fun e he => ?_, fun s hs => ?_⟩
      · rw [h.expr, h'.expr]
        exact ih.1.expr ih.2 (f e) (Nat.le_trans (hf e) (Nat.le_of_lt_succ he))
      · rw [h.statement, h'.statement]
        exact ih.1.statement ih.2 s (Nat.le_of_lt_succ hs)
  exact ⟨funext fun e => (hagree _).1 e (Nat.lt_succ_self _),
    funext fun s => (hagree _).2 s (Nat.lt_succ_self _)⟩

end SqlLoom
