import SqlLoom.Proofs.Fixture.Redirect
import SqlLoom.Proofs.Layout.Front
import SqlLoom.Proofs.Statement.Replacement

/-! What is written of a statement in which schemas have been dropped. The text names tables in
another way, but equal tables stay equal, so that the clause in front of a set operation is made of
the same ones, and slots and clashes are where they were. -/
namespace SqlLoom

open Fixture

lemma Likeness.dropSchema {V : String → Option Scalar → Option Scalar → Prop}
    (targets : List QualifiedName) {x y : Source} (h : Source.Like V x y) :
    Source.Like V (dropSchema targets x) (dropSchema targets y) := by
  cases h with
  | table s n a =>
    obtain ⟨s', hs⟩ := exists_dropSchema_table targets s n a
    rw [hs]
    exact .table s' n a
  | subquery hq => exact .subquery hq
  | function hargs => exact .function hargs

/-- Equal tables stay equal. -/
lemma CommonTable.equals_redirect (own deep : List QualifiedName) {t u : CommonTable}
    (h : t.equals u = true) : (t.redirect own deep).equals (u.redirect own deep) = true := by
  have hlike : CommonTable.Like EqualValue u t := Likeness.like_table id h
  cases hlike with
  | mk hb =>
    refine Likeness.equals_table (.mk ?_)
    refine Likeness.map_statement (fun he => ?_) _
      (Likeness.mapFrom_statement (Likeness.dropSchema own) _ hb)
    exact Likeness.map_query (Likeness.mapFrom_statement (Likeness.dropSchema deep) _) he

lemma operandWiths_redirect (own deep : List QualifiedName) : (s : Statement) →
    (s.redirect own deep).operandWiths.flatMap (·.tables) =
      (s.operandWiths.flatMap (·.tables)).map (.redirect own deep)
  | .select ⟨none, _, _, _, _, _, _, _, _, _, _⟩ => rfl
  | .select ⟨some ⟨r, ts⟩, _, _, _, _, _, _, _, _, _, _⟩ => by
    simp [redirect_select, mapFromWith, mapWith, Statement.operandWiths, tables_redirect]
  | .setOp ⟨l, _, _, r, _, _, _⟩ => by
    simp [redirect_setOp, Statement.operandWiths, operandWiths_redirect own deep l,
      operandWiths_redirect own deep r]
  | .values ⟨_, _⟩ => rfl
  | .insert ⟨_, _, .rows _, _⟩ => rfl
  | .insert ⟨_, _, .query _, _⟩ => rfl
  | .createTable ⟨_, _, _, _, none⟩ => rfl
  | .createTable ⟨_, _, _, _, some _⟩ => rfl
  | .update ⟨_, _, _, _, _, _⟩ => rfl
  | .delete ⟨_, _, _, _, _⟩ => rfl

namespace Layout

/-- The marks in the body of a table. -/
def tableMarks (d : Nat) (t : CommonTable) : List Piece := marks (statement (d + 1) .whole t.body)

lemma marks_withClause (d : Nat) (w : Option WithClause) :
    marks (withClause d w).flatten = (w.getD {}).tables.flatMap (tableMarks d) := by
  rcases w with _ | ⟨r, ts⟩
  · rfl
  · induction ts with
    | nil => rfl
    | cons t ts ih =>
      obtain ⟨n, cs, b⟩ := t
      simpa [withClause, tables, tableMarks] using ih

/-- Tables that clash, then those of the clause in front, then the operands. -/
lemma marks_setOp (d : Nat) (b : SetOperation) :
    marks (statement d .whole (.setOp b)) =
      (Hoisted.ofTables id ((Statement.setOp b).operandWiths.flatMap (·.tables))).clashes.map
          .clash ++
        (Hoisted.ofTables id ((Statement.setOp b).operandWiths.flatMap (·.tables))).kept.flatMap
          (tableMarks d) ++
        marks (body d b) := by
  have hfront : ∀ w, marks (front d w) = marks (withClause d w).flatten := by
    rintro (_ | ⟨_, _⟩) <;> simp [front, withClause]
  have hkept : ((WithClause.hoisted (Statement.setOp b).operandWiths).getD {}).tables =
      (Hoisted.ofTables id ((Statement.setOp b).operandWiths.flatMap (·.tables))).kept := by
    unfold WithClause.hoisted
    split
    · next h => rw [List.isEmpty_iff.mp h]; rfl
    · rfl
  have hclash : ∀ names : List String, marks (names.map .clash) = names.map .clash := by
    intro names
    induction names with
    | nil => rfl
    | cons n ns ih => simp [ih]
  rw [statement_setOp, marks_append, marks_append, hfront, marks_withClause, hkept, clashing,
    hclash]

lemma marks_body (d : Nat) (b : SetOperation) :
    marks (body d b) =
      marks (statement d (.operand b.op false) b.left) ++
        marks (statement d (.operand b.op true) b.right) ++ marks (order d b.orderBy).flatten ++
        marks (clause d "LIMIT " b.limit).flatten ++
        marks (clause d "OFFSET " b.offset).flatten := by
  simp [body]

/-- As an operand, a set operation has none of the tables. -/
lemma marks_setOp_operand (d : Nat) (parent : SetOperator) (right : Bool) (b : SetOperation) :
    marks (statement d (.operand parent right) (.setOp b)) = marks (body d b) := by
  obtain ⟨l, op, a, r, o, m, k⟩ := b
  rw [statement, marks_operandNests, marks_body]
  simp

/-- Marks that stay as they are if there is no clash among them. -/
def Stays (ms ms' : List Piece) : Prop := clash? ms = none → ms' = ms

namespace Stays

variable {ms ms' ns ns' : List Piece}

lemma refl (ms : List Piece) : Stays ms ms := fun _ => rfl

lemma append (h : Stays ms ms') (h' : Stays ns ns') : Stays (ms ++ ns) (ms' ++ ns') := by
  intro hc
  obtain ⟨hm, hn⟩ := clash?_append_eq_none.mp hc
  rw [h hm, h' hn]

lemma flatMap {ts : List CommonTable} {f : CommonTable → CommonTable}
    {g : CommonTable → List Piece} (h : ∀ t ∈ ts, Stays (g t) (g (f t))) :
    Stays (ts.flatMap g) ((ts.map f).flatMap g) := by
  induction ts with
  | nil => exact refl []
  | cons t ts ih =>
    rw [List.map_cons, List.flatMap_cons, List.flatMap_cons]
    exact (h t (List.mem_cons_self ..)).append (ih fun u hu => h u (List.mem_cons_of_mem _ hu))

/-- What is hoisted of changed tables, if no tables clash. -/
lemma hoisted {ts : List CommonTable} {f : CommonTable → CommonTable}
    (hname : ∀ t, (f t).name = t.name)
    (heq : ∀ t u, t.equals u = true → (f t).equals (f u) = true)
    {g : CommonTable → List Piece} (h : ∀ t ∈ ts, Stays (g t) (g (f t))) :
    Stays ((Hoisted.ofTables id ts).clashes.map .clash ++ (Hoisted.ofTables id ts).kept.flatMap g)
      ((Hoisted.ofTables id (ts.map f)).clashes.map .clash ++
        (Hoisted.ofTables id (ts.map f)).kept.flatMap g) := by
  intro hc
  obtain ⟨hclash, hkept⟩ := clash?_append_eq_none.mp hc
  have hnone := clash?_clashes.mp hclash
  have hstay := flatMap (fun t ht => h t (Hoisted.kept_subset ts ht)) hkept
  rw [Hoisted.ofTables_map_of_equals hname heq hnone]
  exact congrArg _ hstay

end Stays

mutual
lemma stays_expr (deep : List QualifiedName) (d : Nat) : (e : Expr) →
    Stays (marks (expr d e)) (marks (expr d (e.mapExprs (intoQuery deep))))
  | .call n args isDistinct f w => by
    simpa [Expr.mapExprs, intoQuery, Expr.mapQuery, expr] using
      ((stays_exprs deep d args).append (stays_filter deep d f)).append (stays_window deep d w)
  | .binary l op r => by
    simpa [Expr.mapExprs, intoQuery, Expr.mapQuery, expr] using
      (stays_expr deep d l).append (stays_expr deep d r)
  | .unary op e => by
    cases op <;> simpa [Expr.mapExprs, intoQuery, Expr.mapQuery, expr] using stays_expr deep d e
  | .tuple es => by
    simpa [Expr.mapExprs, intoQuery, Expr.mapQuery, expr] using stays_exprs deep d es
  | .array es => by
    simpa [Expr.mapExprs, intoQuery, Expr.mapQuery, expr] using stays_exprs deep d es
  | .inList e es neg => by
    simpa [Expr.mapExprs, intoQuery, Expr.mapQuery, expr] using
      (stays_expr deep d e).append (stays_exprs deep d es)
  | .case o bs e => by
    simpa [Expr.mapExprs, intoQuery, Expr.mapQuery, expr] using
      ((stays_after deep d " " o).append (stays_branches deep d bs)).append
        (stays_after deep d " ELSE " e)
  | .subquery q => by
    simpa [Expr.mapExprs, intoQuery, Expr.mapQuery, expr, ← mapFrom_intoQuery] using
      stays_statement deep deep (d + 1) .whole q
  | .exists q => by
    simpa [Expr.mapExprs, intoQuery, Expr.mapQuery, expr, ← mapFrom_intoQuery] using
      stays_statement deep deep (d + 1) .whole q
  | .inSubquery e q neg => by
    simpa [Expr.mapExprs, intoQuery, Expr.mapQuery, expr, ← mapFrom_intoQuery] using
      (stays_expr deep d e).append (stays_statement deep deep (d + 1) .whole q)
  | .between e l h neg => by
    simpa [Expr.mapExprs, intoQuery, Expr.mapQuery, expr] using
      ((stays_expr deep d e).append (stays_expr deep d l)).append (stays_expr deep d h)
  | .isNull e neg => by
    simpa [Expr.mapExprs, intoQuery, Expr.mapQuery, expr] using stays_expr deep d e
  | .cast e t short => by
    cases short <;> simpa [Expr.mapExprs, intoQuery, Expr.mapQuery, expr] using stays_expr deep d e
  | .nested e => by
    simpa [Expr.mapExprs, intoQuery, Expr.mapQuery, expr] using stays_expr deep d e
  | .column _ _ => .refl _
  | .literal _ => .refl _
  | .parameter _ _ => .refl _
  | .wildcard _ => .refl _
  | .raw _ => .refl _
termination_by structural e => e
lemma stays_exprs (deep : List QualifiedName) (d : Nat) : (es : List Expr) →
    Stays (marks (exprs d es).flatten) (marks (exprs d (mapList (intoQuery deep) es)).flatten)
  | [] => .refl _
  | e :: es => by
    simpa [mapList, exprs] using (stays_expr deep d e).append (stays_exprs deep d es)
termination_by structural es => es
lemma stays_after (deep : List QualifiedName) (d : Nat) (keyword : String) : (e : Option Expr) →
    Stays (marks (after d keyword e)) (marks (after d keyword (mapOption (intoQuery deep) e)))
  | none => .refl _
  | some e => stays_expr deep d e
termination_by structural e => e
lemma stays_clause (deep : List QualifiedName) (d : Nat) (keyword : String) : (e : Option Expr) →
    Stays (marks (clause d keyword e).flatten)
      (marks (clause d keyword (mapOption (intoQuery deep) e)).flatten)
  | none => .refl _
  | some e => by simpa [mapOption, clause] using stays_expr deep d e
termination_by structural e => e
lemma stays_filter (deep : List QualifiedName) (d : Nat) : (e : Option Expr) →
    Stays (marks (filterPieces d e)) (marks (filterPieces d (mapOption (intoQuery deep) e)))
  | none => .refl _
  | some e => by simpa [mapOption, filterPieces] using stays_expr deep d e
termination_by structural e => e
lemma stays_branches (deep : List QualifiedName) (d : Nat) : (bs : List (Expr × Expr)) →
    Stays (marks (branches d bs)) (marks (branches d (mapBranches (intoQuery deep) bs)))
  | [] => .refl _
  | (c, r) :: bs => by
    simpa [mapBranches, branches] using
      ((stays_expr deep d c).append (stays_expr deep d r)).append (stays_branches deep d bs)
termination_by structural bs => bs
lemma stays_window (deep : List QualifiedName) (d : Nat) : (w : Option Window) →
    Stays (marks (window d w)) (marks (window d (mapWindow (intoQuery deep) w)))
  | none => .refl _
  | some ⟨some _, _, _, _⟩ => .refl _
  | some ⟨none, p, o, f⟩ => by
    have hf : marks (f.toList.map fun f => [.word (frameText f)]).flatten = [] := by
      cases f <;> rfl
    simpa [mapWindow, window, marks_intercalate (show marks [.word " "] = [] from rfl), hf] using
      (stays_exprs deep d p).append (stays_order deep d o)
termination_by structural w => w
lemma stays_order (deep : List QualifiedName) (d : Nat) : (os : List OrderItem) →
    Stays (marks (order d os).flatten) (marks (order d (mapOrder (intoQuery deep) os)).flatten)
  | [] => .refl _
  | ⟨v, _, _⟩ :: os => by
    simpa [mapOrder, order] using (stays_expr deep d v).append (stays_order deep d os)
termination_by structural os => os
lemma stays_items (deep : List QualifiedName) (d : Nat) : (is : List SelectItem) →
    Stays (marks (items d is).flatten) (marks (items d (mapItems (intoQuery deep) is)).flatten)
  | [] => .refl _
  | ⟨v, _⟩ :: is => by
    simpa [mapItems, items] using (stays_expr deep d v).append (stays_items deep d is)
termination_by structural is => is
lemma stays_source (here own deep : List QualifiedName) (d : Nat) : (x : Source) →
    Stays (marks (source d x)) (marks (source d (x.redirect here own deep)))
  | .table s n a => by
    obtain ⟨s', hs⟩ := exists_dropSchema_table here s n a
    simpa [Source.redirect, hs, source] using Stays.refl []
  | .subquery q _ _ _ => by
    simpa [Source.redirect, source] using stays_statement own deep (d + 1) .whole q
  | .function _ args _ => by simpa [Source.redirect, source] using stays_exprs deep d args
termination_by structural x => x
lemma stays_sources (here own deep : List QualifiedName) (d : Nat) : (xs : List Source) →
    Stays (marks (sources d xs).flatten)
      (marks (sources d (xs.map (Source.redirect here own deep))).flatten)
  | [] => .refl _
  | x :: xs => by
    simpa [sources] using (stays_source here own deep d x).append (stays_sources here own deep d xs)
termination_by structural xs => xs
lemma stays_condition (deep : List QualifiedName) (d : Nat) : (c : Option JoinCondition) →
    Stays (marks (condition d c)) (marks (condition d (mapCondition (intoQuery deep) c)))
  | some (.predicate e) => stays_expr deep d e
  | some (.shared _) => .refl _
  | some .natural => .refl _
  | none => .refl _
termination_by structural c => c
lemma stays_joins (own deep : List QualifiedName) (d : Nat) : (js : List Join) →
    Stays (marks (joins d js).flatten)
      (marks (joins d (mapJoins (intoQuery deep) (mapFromJoins (dropSchema own) js))).flatten)
  | [] => .refl _
  | ⟨_, x, c⟩ :: js => by
    simpa [mapFromJoins, mapJoins, joins, source_redirect] using
      ((stays_source own own deep d x).append (stays_condition deep d c)).append
        (stays_joins own deep d js)
termination_by structural js => js
lemma stays_tables (own deep : List QualifiedName) (d : Nat) : (ts : List CommonTable) →
    ∀ t ∈ ts, Stays (tableMarks d t) (tableMarks d (t.redirect own deep))
  | [] => by simp
  | ⟨_, _, b⟩ :: ts =>
    List.forall_mem_cons.mpr ⟨stays_statement own deep (d + 1) .whole b, stays_tables own deep d ts⟩
termination_by structural ts => ts
lemma stays_with (own deep : List QualifiedName) (d : Nat) : (w : Option WithClause) →
    Stays (marks (withClause d w).flatten)
      (marks (withClause d (mapWith (intoQuery deep) (mapFromWith (dropSchema own) w))).flatten)
  | none => .refl _
  | some ⟨_, ts⟩ => by
    simpa [marks_withClause, mapFromWith, mapWith, tables_redirect] using
      Stays.flatMap (stays_tables own deep d ts)
termination_by structural w => w
lemma stays_rows (deep : List QualifiedName) (d : Nat) : (rs : List (List Expr)) →
    Stays (marks (rows d rs).flatten) (marks (rows d (mapRows (intoQuery deep) rs)).flatten)
  | [] => .refl _
  | r :: rs => by
    simpa [mapRows, rows] using (stays_exprs deep d r).append (stays_rows deep d rs)
termination_by structural rs => rs
lemma stays_assignments (deep : List QualifiedName) (d : Nat) : (as : List Assignment) →
    Stays (marks (assignments d as).flatten)
      (marks (assignments d (mapAssignments (intoQuery deep) as)).flatten)
  | [] => .refl _
  | ⟨_, v⟩ :: as => by
    simpa [mapAssignments, assignments] using
      (stays_expr deep d v).append (stays_assignments deep d as)
termination_by structural as => as
lemma stays_operandWiths (own deep : List QualifiedName) (d : Nat) : (s : Statement) →
    ∀ t ∈ s.operandWiths.flatMap (·.tables),
      Stays (tableMarks d t) (tableMarks d (t.redirect own deep))
  | .select ⟨none, _, _, _, _, _, _, _, _, _, _⟩ => by simp [Statement.operandWiths]
  | .select ⟨some ⟨_, ts⟩, _, _, _, _, _, _, _, _, _, _⟩ => by
    simpa [Statement.operandWiths] using stays_tables own deep d ts
  | .setOp ⟨l, _, _, r, _, _, _⟩ => by
    rw [Statement.operandWiths, List.flatMap_append, List.forall_mem_append]
    exact ⟨stays_operandWiths own deep d l, stays_operandWiths own deep d r⟩
  | .values _ => by simp [Statement.operandWiths]
  | .insert _ => by simp [Statement.operandWiths]
  | .createTable _ => by simp [Statement.operandWiths]
  | .update _ => by simp [Statement.operandWiths]
  | .delete _ => by simp [Statement.operandWiths]
termination_by structural s => s
lemma stays_statement (own deep : List QualifiedName) (d : Nat) (placement : Placement) :
    (s : Statement) →
    Stays (marks (statement d placement s)) (marks (statement d placement (s.redirect own deep)))
  | .select ⟨w, _, is, fs, js, f, g, h, o, l, k⟩ => by
    have hrest := ((((((((stays_items deep d is).append (stays_sources own own deep d fs)).append
      (stays_joins own deep d js)).append (stays_clause deep d "WHERE " f)).append
      (stays_exprs deep d g)).append (stays_clause deep d "HAVING " h)).append
      (stays_order deep d o)).append (stays_clause deep d "LIMIT " l)).append
      (stays_clause deep d "OFFSET " k)
    cases placement with
    | whole =>
      simpa [redirect_select, sources_redirect, statement] using
        (stays_with own deep d w).append hrest
    | operand _ _ => simpa [redirect_select, sources_redirect, statement] using hrest
  | .setOp ⟨l, op, a, r, o, m, k⟩ => by
    have hbody := ((((stays_statement own deep d (.operand op false) l).append
      (stays_statement own deep d (.operand op true) r)).append (stays_order deep d o)).append
      (stays_clause deep d "LIMIT " m)).append (stays_clause deep d "OFFSET " k)
    rw [redirect_setOp]
    cases placement with
    | whole =>
      have htables := List.forall_mem_append.mpr
        ⟨stays_operandWiths own deep d l, stays_operandWiths own deep d r⟩
      rw [← List.flatMap_append] at htables
      have hhoisted := Stays.hoisted (CommonTable.redirect_name own deep)
        (fun _ _ => CommonTable.equals_redirect own deep) htables
      have hb := operandWiths_redirect own deep (.setOp ⟨l, op, a, r, o, m, k⟩)
      rw [redirect_setOp] at hb
      rw [marks_setOp, marks_setOp, marks_body, marks_body, hb]
      exact hhoisted.append hbody
    | operand parent right =>
      rw [marks_setOp_operand, marks_setOp_operand, marks_body, marks_body]
      exact hbody
  | .values ⟨rs, _⟩ => by
    simpa [redirect_values, statement] using stays_rows deep d rs
  | .insert ⟨_, _, .rows rs, is⟩ => by
    cases placement <;>
      simpa [redirect_insert_rows, statement] using
        (stays_rows deep _ rs).append (stays_items deep _ is)
  | .insert ⟨_, _, .query q, is⟩ => by
    cases placement <;>
      simpa [redirect_insert_query, statement] using
        (stays_statement own deep _ .whole q).append (stays_items deep _ is)
  | .createTable ⟨_, _, _, _, some q⟩ => by
    cases placement <;>
      simpa [redirect_createTable_query, statement, asQuery] using
        stays_statement own deep _ .whole q
  | .createTable ⟨_, _, _, _, none⟩ => .refl _
  | .update ⟨w, t, as, fs, f, is⟩ => by
    cases placement <;>
      simpa [redirect_update, source_redirect_shallow, sources_redirect_shallow, statement] using
        (((((stays_with own deep _ w).append (stays_source own [] deep _ t)).append
          (stays_assignments deep _ as)).append (stays_sources own [] deep _ fs)).append
          (stays_clause deep _ "WHERE " f)).append (stays_items deep _ is)
  | .delete ⟨w, t, us, f, is⟩ => by
    cases placement <;>
      simpa [redirect_delete, source_redirect_top, sources_redirect_shallow, statement] using
        ((((stays_with own deep _ w).append (stays_source own [] [] _ t)).append
          (stays_sources own [] deep _ us)).append (stays_clause deep _ "WHERE " f)).append
          (stays_items deep _ is)
termination_by structural s => s
end

end Layout

end SqlLoom
