import Mathlib.Data.Bool.Basic
import SqlLoom.Proofs.Statement.Equality
import SqlLoom.Statement.Sources

/-! Trees that are alike stay alike when the same is put in place of their value expressions or of
their FROM entries, and so do trees that are equal. -/
namespace SqlLoom

/-- Values that count as one, the later of the two first. -/
abbrev EqualValue : String → Option Scalar → Option Scalar → Prop :=
  fun _ v v' => equalBindings v' v = true

namespace Likeness

mutual
lemma equals_expr : (x : Expr) → {y : Expr} → Expr.Like EqualValue x y → y.equals x = true
  | .column _ _, _, .column q n => Bool.and_intro (beq_self_eq_true q) (beq_self_eq_true n)
  | .literal _, _, .literal v => beq_self_eq_true v
  | .parameter n _, _, .parameter hv => Bool.and_intro (beq_self_eq_true n) hv
  | .call n args d f w, _, .call hargs hf hw =>
    Bool.and_intro (Bool.and_intro (Bool.and_intro (Bool.and_intro (beq_self_eq_true n)
      (equals_exprs args hargs)) (beq_self_eq_true d)) (equals_option f hf)) (equals_window w hw)
  | .binary l op r, _, .binary hl hr =>
    Bool.and_intro (Bool.and_intro (equals_expr l hl) (beq_self_eq_true op)) (equals_expr r hr)
  | .unary op e, _, .unary he => Bool.and_intro (beq_self_eq_true op) (equals_expr e he)
  | .tuple es, _, .tuple hes => equals_exprs es hes
  | .array es, _, .array hes => equals_exprs es hes
  | .inList e es neg, _, .inList he hes =>
    Bool.and_intro (Bool.and_intro (equals_expr e he) (equals_exprs es hes)) (beq_self_eq_true neg)
  | .wildcard _, _, .wildcard q => beq_self_eq_true q
  | .case o bs e, _, .case ho hbs he =>
    Bool.and_intro (Bool.and_intro (equals_option o ho) (equals_branches bs hbs))
      (equals_option e he)
  | .subquery q, _, .subquery hq => equals_statement q hq
  | .exists q, _, .exists hq => equals_statement q hq
  | .inSubquery e q neg, _, .inSubquery he hq =>
    Bool.and_intro (Bool.and_intro (equals_expr e he) (equals_statement q hq))
      (beq_self_eq_true neg)
  | .between e l u neg, _, .between he hl hu =>
    Bool.and_intro (Bool.and_intro (Bool.and_intro (equals_expr e he) (equals_expr l hl))
      (equals_expr u hu)) (beq_self_eq_true neg)
  | .isNull e neg, _, .isNull he => Bool.and_intro (equals_expr e he) (beq_self_eq_true neg)
  | .cast e t s, _, .cast he =>
    Bool.and_intro (Bool.and_intro (equals_expr e he) (beq_self_eq_true t)) (beq_self_eq_true s)
  | .nested e, _, .nested he => equals_expr e he
  | .raw _, _, .raw s => beq_self_eq_true s
termination_by structural x => x
lemma equals_exprs : (xs : List Expr) → {ys : List Expr} →
    List.Forall₂ (Expr.Like EqualValue) xs ys → equalExprs ys xs = true
  | [], _, .nil => rfl
  | x :: xs, _, .cons hx hxs => Bool.and_intro (equals_expr x hx) (equals_exprs xs hxs)
termination_by structural xs => xs
lemma equals_option : (x : Option Expr) → {y : Option Expr} →
    Option.Rel (Expr.Like EqualValue) x y → equalExpr? y x = true
  | none, _, .none => rfl
  | some x, _, .some hx => equals_expr x hx
termination_by structural x => x
lemma equals_branches : (bs : List (Expr × Expr)) → {cs : List (Expr × Expr)} →
    List.Forall₂ (Branch.Like EqualValue) bs cs → equalBranches cs bs = true
  | [], _, .nil => rfl
  | (c, r) :: bs, _, .cons (.mk hc hr) hbs =>
    Bool.and_intro (Bool.and_intro (equals_expr c hc) (equals_expr r hr)) (equals_branches bs hbs)
termination_by structural bs => bs
lemma equals_window : (w : Option Window) → {v : Option Window} →
    Option.Rel (Window.Like EqualValue) w v → equalWindow? v w = true
  | none, _, .none => rfl
  | some ⟨n, p, o, f⟩, _, .some (.mk hp ho) =>
    Bool.and_intro (Bool.and_intro (Bool.and_intro (beq_self_eq_true n) (equals_exprs p hp))
      (equals_order o ho)) (beq_self_eq_true f)
termination_by structural w => w
lemma equals_order : (os : List OrderItem) → {ps : List OrderItem} →
    List.Forall₂ (OrderItem.Like EqualValue) os ps → equalOrder ps os = true
  | [], _, .nil => rfl
  | ⟨v, a, n⟩ :: os, _, .cons (.mk hv) hos =>
    Bool.and_intro (Bool.and_intro (Bool.and_intro (equals_expr v hv) (beq_self_eq_true a))
      (beq_self_eq_true n)) (equals_order os hos)
termination_by structural os => os
lemma equals_items : (is : List SelectItem) → {js : List SelectItem} →
    List.Forall₂ (SelectItem.Like EqualValue) is js → equalItems js is = true
  | [], _, .nil => rfl
  | ⟨v, a⟩ :: is, _, .cons (.mk hv) his =>
    Bool.and_intro (Bool.and_intro (equals_expr v hv) (beq_self_eq_true a)) (equals_items is his)
termination_by structural is => is
lemma equals_source : (x : Source) → {y : Source} → Source.Like EqualValue x y → y.equals x = true
  | .table _ _ _, _, .table s n a =>
    Bool.and_intro (Bool.and_intro (beq_self_eq_true s) (beq_self_eq_true n)) (beq_self_eq_true a)
  | .subquery q a cs l, _, .subquery hq =>
    Bool.and_intro (Bool.and_intro (Bool.and_intro (equals_statement q hq) (beq_self_eq_true a))
      (beq_self_eq_true cs)) (beq_self_eq_true l)
  | .function n args a, _, .function hargs =>
    Bool.and_intro (Bool.and_intro (beq_self_eq_true n) (equals_exprs args hargs))
      (beq_self_eq_true a)
termination_by structural x => x
lemma equals_sources : (xs : List Source) → {ys : List Source} →
    List.Forall₂ (Source.Like EqualValue) xs ys → equalSources ys xs = true
  | [], _, .nil => rfl
  | x :: xs, _, .cons hx hxs => Bool.and_intro (equals_source x hx) (equals_sources xs hxs)
termination_by structural xs => xs
lemma equals_condition : (c : Option JoinCondition) → {b : Option JoinCondition} →
    Option.Rel (JoinCondition.Like EqualValue) c b → equalCondition? b c = true
  | none, _, .none => rfl
  | some (.predicate e), _, .some (.predicate he) => equals_expr e he
  | some (.shared _), _, .some (.shared cs) => beq_self_eq_true cs
  | some .natural, _, .some .natural => rfl
termination_by structural c => c
lemma equals_joins : (js : List Join) → {ks : List Join} →
    List.Forall₂ (Join.Like EqualValue) js ks → equalJoins ks js = true
  | [], _, .nil => rfl
  | ⟨t, x, c⟩ :: js, _, .cons (.mk hx hc) hjs =>
    Bool.and_intro (Bool.and_intro (Bool.and_intro (beq_self_eq_true t) (equals_source x hx))
      (equals_condition c hc)) (equals_joins js hjs)
termination_by structural js => js
lemma equals_tables : (ts : List CommonTable) → {us : List CommonTable} →
    List.Forall₂ (CommonTable.Like EqualValue) ts us → equalTables us ts = true
  | [], _, .nil => rfl
  | ⟨n, cs, b⟩ :: ts, _, .cons (.mk hb) hts =>
    Bool.and_intro (Bool.and_intro (Bool.and_intro (beq_self_eq_true n) (beq_self_eq_true cs))
      (equals_statement b hb)) (equals_tables ts hts)
termination_by structural ts => ts
lemma equals_with : (w : Option WithClause) → {v : Option WithClause} →
    Option.Rel (WithClause.Like EqualValue) w v → equalWith? v w = true
  | none, _, .none => rfl
  | some ⟨r, ts⟩, _, .some (.mk hts) =>
    Bool.and_intro (beq_self_eq_true r) (equals_tables ts hts)
termination_by structural w => w
lemma equals_rows : (rs : List (List Expr)) → {ss : List (List Expr)} →
    List.Forall₂ (List.Forall₂ (Expr.Like EqualValue)) rs ss → equalRows ss rs = true
  | [], _, .nil => rfl
  | r :: rs, _, .cons hr hrs => Bool.and_intro (equals_exprs r hr) (equals_rows rs hrs)
termination_by structural rs => rs
lemma equals_assignments : (as : List Assignment) → {bs : List Assignment} →
    List.Forall₂ (Assignment.Like EqualValue) as bs → equalAssignments bs as = true
  | [], _, .nil => rfl
  | ⟨c, v⟩ :: as, _, .cons (.mk hv) has =>
    Bool.and_intro (Bool.and_intro (beq_self_eq_true c) (equals_expr v hv))
      (equals_assignments as has)
termination_by structural as => as
/-- Trees of one shape are equal if the values bound in them are. -/
lemma equals_statement : (s : Statement) → {u : Statement} → Statement.Like EqualValue s u →
    u.equals s = true
  | .select ⟨w, d, is, fs, js, f, g, h, o, l, k⟩, _, .select hw his hfs hjs hf hg hh ho hl hk =>
    Bool.and_intro (Bool.and_intro (Bool.and_intro (Bool.and_intro (Bool.and_intro (Bool.and_intro
      (Bool.and_intro (Bool.and_intro (Bool.and_intro (Bool.and_intro (equals_with w hw)
      (beq_self_eq_true d)) (equals_items is his)) (equals_sources fs hfs)) (equals_joins js hjs))
      (equals_option f hf)) (equals_exprs g hg)) (equals_option h hh)) (equals_order o ho))
      (equals_option l hl)) (equals_option k hk)
  | .setOp ⟨l, op, a, r, o, m, k⟩, _, .setOp hl hr ho hm hk =>
    Bool.and_intro (Bool.and_intro (Bool.and_intro (Bool.and_intro (Bool.and_intro (Bool.and_intro
      (equals_statement l hl) (beq_self_eq_true op)) (beq_self_eq_true a)) (equals_statement r hr))
      (equals_order o ho)) (equals_option m hm)) (equals_option k hk)
  | .values ⟨rs, as⟩, _, .values hrs => Bool.and_intro (equals_rows rs hrs) (beq_self_eq_true as)
  | .insert ⟨t, cs, .rows rs, is⟩, _, .insert (.rows hrs) his =>
    Bool.and_intro (Bool.and_intro (Bool.and_intro (beq_self_eq_true t) (beq_self_eq_true cs))
      (equals_rows rs hrs)) (equals_items is his)
  | .insert ⟨t, cs, .query q, is⟩, _, .insert (.query hq) his =>
    Bool.and_intro (Bool.and_intro (Bool.and_intro (beq_self_eq_true t) (beq_self_eq_true cs))
      (equals_statement q hq)) (equals_items is his)
  | .createTable ⟨n, t, e, cs, some q⟩, _, .createTable (.some hq) =>
    Bool.and_intro (Bool.and_intro (Bool.and_intro (Bool.and_intro (beq_self_eq_true n)
      (beq_self_eq_true t)) (beq_self_eq_true e)) (beq_self_eq_true cs)) (equals_statement q hq)
  | .createTable ⟨n, t, e, cs, none⟩, _, .createTable .none =>
    Bool.and_intro (Bool.and_intro (Bool.and_intro (Bool.and_intro (beq_self_eq_true n)
      (beq_self_eq_true t)) (beq_self_eq_true e)) (beq_self_eq_true cs)) rfl
  | .update ⟨w, t, as, fs, f, is⟩, _, .update hw ht has hfs hf his =>
    Bool.and_intro (Bool.and_intro (Bool.and_intro (Bool.and_intro (Bool.and_intro
      (equals_with w hw) (equals_source t ht)) (equals_assignments as has)) (equals_sources fs hfs))
      (equals_option f hf)) (equals_items is his)
  | .delete ⟨w, t, us, f, is⟩, _, .delete hw ht hus hf his =>
    Bool.and_intro (Bool.and_intro (Bool.and_intro (Bool.and_intro (equals_with w hw)
      (equals_source t ht)) (equals_sources us hus)) (equals_option f hf)) (equals_items is his)
termination_by structural s => s
end

lemma equals_table {t u : CommonTable} (h : CommonTable.Like EqualValue t u) :
    u.equals t = true := by
  cases h with
  | mk hb =>
    exact Bool.and_intro (Bool.and_intro (beq_self_eq_true _) (beq_self_eq_true _))
      (equals_statement _ hb)

variable {V : String → Option Scalar → Option Scalar → Prop}

section
variable {G : Expr → Expr} (hG : ∀ {x y}, Expr.Like V x y → Expr.Like V (G x) (G y))
include hG

set_option linter.unusedSectionVars false in
mutual
lemma map_expr : (x : Expr) → {y : Expr} → Expr.Like V x y →
    Expr.Like V (x.mapExprs G) (y.mapExprs G)
  | .column _ _, _, .column q n => hG (.column q n)
  | .literal _, _, .literal v => hG (.literal v)
  | .parameter _ _, _, .parameter hv => hG (.parameter hv)
  | .call _ args _ f w, _, .call hargs hf hw =>
    hG (.call (map_exprs args hargs) (map_option f hf) (map_window w hw))
  | .binary l _ r, _, .binary hl hr => hG (.binary (map_expr l hl) (map_expr r hr))
  | .unary _ e, _, .unary he => hG (.unary (map_expr e he))
  | .tuple es, _, .tuple hes => hG (.tuple (map_exprs es hes))
  | .array es, _, .array hes => hG (.array (map_exprs es hes))
  | .inList e es _, _, .inList he hes => hG (.inList (map_expr e he) (map_exprs es hes))
  | .wildcard _, _, .wildcard q => hG (.wildcard q)
  | .case o bs e, _, .case ho hbs he =>
    hG (.case (map_option o ho) (map_branches bs hbs) (map_option e he))
  | .subquery q, _, .subquery hq => hG (.subquery (map_statement q hq))
  | .exists q, _, .exists hq => hG (.exists (map_statement q hq))
  | .inSubquery e q _, _, .inSubquery he hq =>
    hG (.inSubquery (map_expr e he) (map_statement q hq))
  | .between e l u _, _, .between he hl hu =>
    hG (.between (map_expr e he) (map_expr l hl) (map_expr u hu))
  | .isNull e _, _, .isNull he => hG (.isNull (map_expr e he))
  | .cast e _ _, _, .cast he => hG (.cast (map_expr e he))
  | .nested e, _, .nested he => hG (.nested (map_expr e he))
  | .raw _, _, .raw s => hG (.raw s)
termination_by structural x => x
lemma map_exprs : (xs : List Expr) → {ys : List Expr} → List.Forall₂ (Expr.Like V) xs ys →
    List.Forall₂ (Expr.Like V) (mapList G xs) (mapList G ys)
  | [], _, .nil => .nil
  | x :: xs, _, .cons hx hxs => .cons (map_expr x hx) (map_exprs xs hxs)
termination_by structural x => x
lemma map_option : (x : Option Expr) → {y : Option Expr} → Option.Rel (Expr.Like V) x y →
    Option.Rel (Expr.Like V) (mapOption G x) (mapOption G y)
  | none, _, .none => .none
  | some x, _, .some hx => .some (map_expr x hx)
termination_by structural x => x
lemma map_branches : (bs : List (Expr × Expr)) → {cs : List (Expr × Expr)} →
    List.Forall₂ (Branch.Like V) bs cs →
    List.Forall₂ (Branch.Like V) (mapBranches G bs) (mapBranches G cs)
  | [], _, .nil => .nil
  | (c, r) :: bs, _, .cons (.mk hc hr) hbs =>
    .cons (.mk (map_expr c hc) (map_expr r hr)) (map_branches bs hbs)
termination_by structural x => x
lemma map_window : (w : Option Window) → {v : Option Window} → Option.Rel (Window.Like V) w v →
    Option.Rel (Window.Like V) (mapWindow G w) (mapWindow G v)
  | none, _, .none => .none
  | some ⟨_, p, o, _⟩, _, .some (.mk hp ho) => .some (.mk (map_exprs p hp) (map_order o ho))
termination_by structural x => x
lemma map_order : (os : List OrderItem) → {ps : List OrderItem} →
    List.Forall₂ (OrderItem.Like V) os ps →
    List.Forall₂ (OrderItem.Like V) (mapOrder G os) (mapOrder G ps)
  | [], _, .nil => .nil
  | ⟨v, _, _⟩ :: os, _, .cons (.mk hv) hos => .cons (.mk (map_expr v hv)) (map_order os hos)
termination_by structural x => x
lemma map_items : (is : List SelectItem) → {js : List SelectItem} →
    List.Forall₂ (SelectItem.Like V) is js →
    List.Forall₂ (SelectItem.Like V) (mapItems G is) (mapItems G js)
  | [], _, .nil => .nil
  | ⟨v, _⟩ :: is, _, .cons (.mk hv) his => .cons (.mk (map_expr v hv)) (map_items is his)
termination_by structural x => x
lemma map_source : (x : Source) → {y : Source} → Source.Like V x y →
    Source.Like V (x.mapExprs G) (y.mapExprs G)
  | .table _ _ _, _, .table s n a => .table s n a
  | .subquery q _ _ _, _, .subquery hq => .subquery (map_statement q hq)
  | .function _ args _, _, .function hargs => .function (map_exprs args hargs)
termination_by structural x => x
lemma map_entries : (xs : List Source) → {ys : List Source} →
    List.Forall₂ (Source.Like V) xs ys →
    List.Forall₂ (Source.Like V) (mapEntries G xs) (mapEntries G ys)
  | [], _, .nil => .nil
  | x :: xs, _, .cons hx hxs => .cons (map_source x hx) (map_entries xs hxs)
termination_by structural x => x
lemma map_condition : (c : Option JoinCondition) → {b : Option JoinCondition} →
    Option.Rel (JoinCondition.Like V) c b →
    Option.Rel (JoinCondition.Like V) (mapCondition G c) (mapCondition G b)
  | none, _, .none => .none
  | some (.predicate e), _, .some (.predicate he) => .some (.predicate (map_expr e he))
  | some (.shared _), _, .some (.shared cs) => .some (.shared cs)
  | some .natural, _, .some .natural => .some .natural
termination_by structural x => x
lemma map_joins : (js : List Join) → {ks : List Join} → List.Forall₂ (Join.Like V) js ks →
    List.Forall₂ (Join.Like V) (mapJoins G js) (mapJoins G ks)
  | [], _, .nil => .nil
  | ⟨_, x, c⟩ :: js, _, .cons (.mk hx hc) hjs =>
    .cons (.mk (map_source x hx) (map_condition c hc)) (map_joins js hjs)
termination_by structural x => x
lemma map_tables : (ts : List CommonTable) → {us : List CommonTable} →
    List.Forall₂ (CommonTable.Like V) ts us →
    List.Forall₂ (CommonTable.Like V) (mapTables G ts) (mapTables G us)
  | [], _, .nil => .nil
  | ⟨_, _, b⟩ :: ts, _, .cons (.mk hb) hts => .cons (.mk (map_statement b hb)) (map_tables ts hts)
termination_by structural x => x
lemma map_with : (w : Option WithClause) → {v : Option WithClause} →
    Option.Rel (WithClause.Like V) w v →
    Option.Rel (WithClause.Like V) (mapWith G w) (mapWith G v)
  | none, _, .none => .none
  | some ⟨_, ts⟩, _, .some (.mk hts) => .some (.mk (map_tables ts hts))
termination_by structural x => x
lemma map_rows : (rs : List (List Expr)) → {ss : List (List Expr)} →
    List.Forall₂ (List.Forall₂ (Expr.Like V)) rs ss →
    List.Forall₂ (List.Forall₂ (Expr.Like V)) (mapRows G rs) (mapRows G ss)
  | [], _, .nil => .nil
  | r :: rs, _, .cons hr hrs => .cons (map_exprs r hr) (map_rows rs hrs)
termination_by structural x => x
lemma map_assignments : (as : List Assignment) → {bs : List Assignment} →
    List.Forall₂ (Assignment.Like V) as bs →
    List.Forall₂ (Assignment.Like V) (mapAssignments G as) (mapAssignments G bs)
  | [], _, .nil => .nil
  | ⟨_, v⟩ :: as, _, .cons (.mk hv) has => .cons (.mk (map_expr v hv)) (map_assignments as has)
termination_by structural x => x
lemma map_statement : (s : Statement) → {u : Statement} → Statement.Like V s u →
    Statement.Like V (s.mapExprs G) (u.mapExprs G)
  | .select ⟨w, _, is, fs, js, f, g, h, o, l, k⟩, _, .select hw his hfs hjs hf hg hh ho hl hk =>
    .select (map_with w hw) (map_items is his) (map_entries fs hfs) (map_joins js hjs)
      (map_option f hf) (map_exprs g hg) (map_option h hh) (map_order o ho) (map_option l hl)
      (map_option k hk)
  | .setOp ⟨l, _, _, r, o, m, k⟩, _, .setOp hl hr ho hm hk =>
    .setOp (map_statement l hl) (map_statement r hr) (map_order o ho) (map_option m hm)
      (map_option k hk)
  | .values ⟨rs, _⟩, _, .values hrs => .values (map_rows rs hrs)
  | .insert ⟨_, _, .rows rs, is⟩, _, .insert (.rows hrs) his =>
    .insert (.rows (map_rows rs hrs)) (map_items is his)
  | .insert ⟨_, _, .query q, is⟩, _, .insert (.query hq) his =>
    .insert (.query (map_statement q hq)) (map_items is his)
  | .createTable ⟨_, _, _, _, some q⟩, _, .createTable (.some hq) =>
    .createTable (.some (map_statement q hq))
  | .createTable ⟨_, _, _, _, none⟩, _, .createTable .none => .createTable .none
  | .update ⟨w, t, as, fs, f, is⟩, _, .update hw ht has hfs hf his =>
    .update (map_with w hw) (map_source t ht) (map_assignments as has) (map_entries fs hfs)
      (map_option f hf) (map_items is his)
  | .delete ⟨w, _, us, f, is⟩, _, .delete hw ht hus hf his =>
    .delete (map_with w hw) ht (map_entries us hus) (map_option f hf) (map_items is his)
termination_by structural x => x
end

end

lemma map_query {f : Statement → Statement}
    (hf : ∀ {s u}, Statement.Like V s u → Statement.Like V (f s) (f u)) {x y : Expr}
    (h : Expr.Like V x y) : Expr.Like V (x.mapQuery f) (y.mapQuery f) := by
  have hsame := h
  cases h with
  | subquery hq => exact .subquery (hf hq)
  | «exists» hq => exact .exists (hf hq)
  | inSubquery he hq => exact .inSubquery he (hf hq)
  | _ => exact hsame

section
variable {F : Source → Source} (hF : ∀ {x y}, Source.Like V x y → Source.Like V (F x) (F y))
include hF

lemma map_list {xs ys : List Source} (h : List.Forall₂ (Source.Like V) xs ys) :
    List.Forall₂ (Source.Like V) (xs.map F) (ys.map F) := by
  rw [List.forall₂_map_left_iff, List.forall₂_map_right_iff]
  exact h.imp fun _ _ => hF

set_option linter.unusedSectionVars false in
mutual
lemma mapFrom_source : (x : Source) → {y : Source} → Source.Like V x y →
    Source.Like V (x.mapFrom F) (y.mapFrom F)
  | .table _ _ _, _, .table s n a => hF (.table s n a)
  | .subquery q _ _ _, _, .subquery hq => hF (.subquery (mapFrom_statement q hq))
  | .function _ _ _, _, .function hargs => hF (.function hargs)
termination_by structural x => x
lemma mapFrom_sources : (xs : List Source) → {ys : List Source} →
    List.Forall₂ (Source.Like V) xs ys →
    List.Forall₂ (Source.Like V) (mapFromList F xs) (mapFromList F ys)
  | [], _, .nil => .nil
  | x :: xs, _, .cons hx hxs => .cons (mapFrom_source x hx) (mapFrom_sources xs hxs)
termination_by structural x => x
lemma mapFrom_joins : (js : List Join) → {ks : List Join} → List.Forall₂ (Join.Like V) js ks →
    List.Forall₂ (Join.Like V) (mapFromJoins F js) (mapFromJoins F ks)
  | [], _, .nil => .nil
  | ⟨_, x, _⟩ :: js, _, .cons (.mk hx hc) hjs =>
    .cons (.mk (mapFrom_source x hx) hc) (mapFrom_joins js hjs)
termination_by structural x => x
lemma mapFrom_tables : (ts : List CommonTable) → {us : List CommonTable} →
    List.Forall₂ (CommonTable.Like V) ts us →
    List.Forall₂ (CommonTable.Like V) (mapFromTables F ts) (mapFromTables F us)
  | [], _, .nil => .nil
  | ⟨_, _, b⟩ :: ts, _, .cons (.mk hb) hts =>
    .cons (.mk (mapFrom_statement b hb)) (mapFrom_tables ts hts)
termination_by structural x => x
lemma mapFrom_with : (w : Option WithClause) → {v : Option WithClause} →
    Option.Rel (WithClause.Like V) w v →
    Option.Rel (WithClause.Like V) (mapFromWith F w) (mapFromWith F v)
  | none, _, .none => .none
  | some ⟨_, ts⟩, _, .some (.mk hts) => .some (.mk (mapFrom_tables ts hts))
termination_by structural x => x
lemma mapFrom_statement : (s : Statement) → {u : Statement} → Statement.Like V s u →
    Statement.Like V (s.mapFrom F) (u.mapFrom F)
  | .select ⟨w, _, _, fs, js, _, _, _, _, _, _⟩, _, .select hw his hfs hjs hf hg hh ho hl hk =>
    .select (mapFrom_with w hw) his (mapFrom_sources fs hfs) (mapFrom_joins js hjs) hf hg hh ho hl
      hk
  | .setOp ⟨l, _, _, r, _, _, _⟩, _, .setOp hl hr ho hm hk =>
    .setOp (mapFrom_statement l hl) (mapFrom_statement r hr) ho hm hk
  | .values _, _, .values hrs => .values hrs
  | .insert ⟨_, _, .rows _, _⟩, _, .insert (.rows hrs) his => .insert (.rows hrs) his
  | .insert ⟨_, _, .query q, _⟩, _, .insert (.query hq) his =>
    .insert (.query (mapFrom_statement q hq)) his
  | .createTable ⟨_, _, _, _, some q⟩, _, .createTable (.some hq) =>
    .createTable (.some (mapFrom_statement q hq))
  | .createTable ⟨_, _, _, _, none⟩, _, .createTable .none => .createTable .none
  | .update ⟨w, _, _, _, _, _⟩, _, .update hw ht has hfs hf his =>
    .update (mapFrom_with w hw) (hF ht) has (map_list hF hfs) hf his
  | .delete ⟨w, _, _, _, _⟩, _, .delete hw ht hus hf his =>
    .delete (mapFrom_with w hw) (hF ht) (map_list hF hus) hf his
termination_by structural x => x
end

end

end Likeness

end SqlLoom
