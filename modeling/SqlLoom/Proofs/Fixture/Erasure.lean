import SqlLoom.Proofs.Fixture.Redirect
import SqlLoom.Proofs.Statement.Erasure

/-! The search for schemas takes nothing from a statement but schemas, and only from references to
the tables that it looks for. -/
namespace SqlLoom

open Fixture

/-- References that may lose their schema are all that the targets shadow. -/
def Loses (P : String → String → Prop) (targets : List QualifiedName) : Prop :=
  ∀ schema name, targets.any (shadows schema name) = true → P schema name

section
variable {P : String → String → Prop}

lemma Loses.nil : Loses P [] := fun _ _ h => absurd h Bool.false_ne_true

lemma erases_dropSchema {here : List QualifiedName} (hh : Loses P here) (s : Option String)
    (n : String) (a : Option String) :
    Source.Erases P (.table s n a) (dropSchema here (.table s n a)) := by
  cases s with
  | none => exact .table none n a
  | some schema =>
    rw [dropSchema]
    split
    · next h => exact .erased a (hh schema n h)
    · exact .table (some schema) n a

mutual
lemma erases_expr {deep : List QualifiedName} (hd : Loses P deep) : (e : Expr) →
    Expr.Erases P e (e.mapExprs (intoQuery deep))
  | .call _ args _ f w => .call (erases_exprs hd args) (erases_option hd f) (erases_window hd w)
  | .binary l _ r => .binary (erases_expr hd l) (erases_expr hd r)
  | .unary _ e => .unary (erases_expr hd e)
  | .tuple es => .tuple (erases_exprs hd es)
  | .array es => .array (erases_exprs hd es)
  | .inList e es _ => .inList (erases_expr hd e) (erases_exprs hd es)
  | .case o bs e => .case (erases_option hd o) (erases_branches hd bs) (erases_option hd e)
  | .subquery q => .subquery (Trans.trans (erases_statement hd hd q) (mapFrom_intoQuery _ q).symm)
  | .exists q => .exists (Trans.trans (erases_statement hd hd q) (mapFrom_intoQuery _ q).symm)
  | .inSubquery e q _ =>
    .inSubquery (erases_expr hd e)
      (Trans.trans (erases_statement hd hd q) (mapFrom_intoQuery _ q).symm)
  | .between e l h _ => .between (erases_expr hd e) (erases_expr hd l) (erases_expr hd h)
  | .isNull e _ => .isNull (erases_expr hd e)
  | .cast e _ _ => .cast (erases_expr hd e)
  | .nested e => .nested (erases_expr hd e)
  | .column q n => .column q n
  | .literal v => .literal v
  | .parameter n v => .parameter n v
  | .wildcard q => .wildcard q
  | .raw s => .raw s
lemma erases_exprs {deep : List QualifiedName} (hd : Loses P deep) : (es : List Expr) →
    List.Forall₂ (Expr.Erases P) es (mapList (intoQuery deep) es)
  | [] => .nil
  | e :: es => .cons (erases_expr hd e) (erases_exprs hd es)
lemma erases_option {deep : List QualifiedName} (hd : Loses P deep) : (e : Option Expr) →
    Option.Rel (Expr.Erases P) e (mapOption (intoQuery deep) e)
  | none => .none
  | some e => .some (erases_expr hd e)
lemma erases_branches {deep : List QualifiedName} (hd : Loses P deep) :
    (bs : List (Expr × Expr)) →
    List.Forall₂ (Branch.Erases P) bs (mapBranches (intoQuery deep) bs)
  | [] => .nil
  | (c, r) :: bs => .cons (.mk (erases_expr hd c) (erases_expr hd r)) (erases_branches hd bs)
lemma erases_window {deep : List QualifiedName} (hd : Loses P deep) : (w : Option Window) →
    Option.Rel (Window.Erases P) w (mapWindow (intoQuery deep) w)
  | none => .none
  | some ⟨_, p, o, _⟩ => .some (.mk (erases_exprs hd p) (erases_order hd o))
lemma erases_order {deep : List QualifiedName} (hd : Loses P deep) : (os : List OrderItem) →
    List.Forall₂ (OrderItem.Erases P) os (mapOrder (intoQuery deep) os)
  | [] => .nil
  | ⟨v, _, _⟩ :: os => .cons (.mk (erases_expr hd v)) (erases_order hd os)
lemma erases_items {deep : List QualifiedName} (hd : Loses P deep) : (is : List SelectItem) →
    List.Forall₂ (SelectItem.Erases P) is (mapItems (intoQuery deep) is)
  | [] => .nil
  | ⟨v, _⟩ :: is => .cons (.mk (erases_expr hd v)) (erases_items hd is)
lemma erases_source {here own deep : List QualifiedName} (hh : Loses P here) (ho : Loses P own)
    (hd : Loses P deep) : (x : Source) →
    Source.Erases P x (x.redirect here own deep)
  | .table s n a => erases_dropSchema hh s n a
  | .subquery q _ _ _ => .subquery (erases_statement ho hd q)
  | .function _ args _ => .function (erases_exprs hd args)
lemma erases_sources {here own deep : List QualifiedName} (hh : Loses P here) (ho : Loses P own)
    (hd : Loses P deep) : (xs : List Source) →
    List.Forall₂ (Source.Erases P) xs (xs.map (Source.redirect here own deep))
  | [] => .nil
  | x :: xs => .cons (erases_source hh ho hd x) (erases_sources hh ho hd xs)
lemma erases_condition {deep : List QualifiedName} (hd : Loses P deep) :
    (c : Option JoinCondition) →
    Option.Rel (JoinCondition.Erases P) c (mapCondition (intoQuery deep) c)
  | none => .none
  | some (.predicate e) => .some (.predicate (erases_expr hd e))
  | some (.shared cs) => .some (.shared cs)
  | some .natural => .some .natural
lemma erases_joins {own deep : List QualifiedName} (ho : Loses P own) (hd : Loses P deep) :
    (js : List Join) →
    List.Forall₂ (Join.Erases P) js
      (mapJoins (intoQuery deep) (mapFromJoins (dropSchema own) js))
  | [] => .nil
  | ⟨_, x, c⟩ :: js =>
    .cons (.mk (Trans.trans (erases_source ho ho hd x) (source_redirect _ _ x).symm)
      (erases_condition hd c))
      (erases_joins ho hd js)
lemma erases_tables {own deep : List QualifiedName} (ho : Loses P own) (hd : Loses P deep) :
    (ts : List CommonTable) →
    List.Forall₂ (CommonTable.Erases P) ts (ts.map (CommonTable.redirect own deep))
  | [] => .nil
  | ⟨_, _, b⟩ :: ts => .cons (.mk (erases_statement ho hd b)) (erases_tables ho hd ts)
lemma erases_with {own deep : List QualifiedName} (ho : Loses P own) (hd : Loses P deep) :
    (w : Option WithClause) →
    Option.Rel (WithClause.Erases P) w
      (mapWith (intoQuery deep) (mapFromWith (dropSchema own) w))
  | none => .none
  | some ⟨_, ts⟩ =>
    .some (.mk (Trans.trans (erases_tables ho hd ts) (tables_redirect _ _ ts).symm))
lemma erases_rows {deep : List QualifiedName} (hd : Loses P deep) : (rs : List (List Expr)) →
    List.Forall₂ (List.Forall₂ (Expr.Erases P)) rs (mapRows (intoQuery deep) rs)
  | [] => .nil
  | r :: rs => .cons (erases_exprs hd r) (erases_rows hd rs)
lemma erases_assignments {deep : List QualifiedName} (hd : Loses P deep) :
    (as : List Assignment) →
    List.Forall₂ (Assignment.Erases P) as (mapAssignments (intoQuery deep) as)
  | [] => .nil
  | ⟨_, v⟩ :: as => .cons (.mk (erases_expr hd v)) (erases_assignments hd as)
/-- Whatever is searched, the outcome is the same but for schemas. -/
lemma erases_statement {own deep : List QualifiedName} (ho : Loses P own) (hd : Loses P deep) :
    (s : Statement) →
    Statement.Erases P s (s.redirect own deep)
  | .select ⟨w, _, is, fs, js, f, g, h, o, l, k⟩ =>
    .select (erases_with ho hd w) (erases_items hd is)
      (Trans.trans (erases_sources ho ho hd fs) (sources_redirect _ _ fs).symm)
      (erases_joins ho hd js) (erases_option hd f) (erases_exprs hd g) (erases_option hd h)
      (erases_order hd o) (erases_option hd l) (erases_option hd k)
  | .setOp ⟨l, _, _, r, o, m, k⟩ =>
    .setOp (erases_statement ho hd l) (erases_statement ho hd r) (erases_order hd o)
      (erases_option hd m) (erases_option hd k)
  | .values ⟨rs, _⟩ => .values (erases_rows hd rs)
  | .insert ⟨_, _, .rows rs, is⟩ => .insert (.rows (erases_rows hd rs)) (erases_items hd is)
  | .insert ⟨_, _, .query q, is⟩ =>
    .insert (.query (erases_statement ho hd q)) (erases_items hd is)
  | .createTable ⟨_, _, _, _, some q⟩ => .createTable (.some (erases_statement ho hd q))
  | .createTable ⟨_, _, _, _, none⟩ => .createTable .none
  | .update ⟨w, t, as, fs, f, is⟩ =>
    .update (erases_with ho hd w)
      (Trans.trans (erases_source ho .nil hd t) (source_redirect_shallow _ _ t).symm)
      (erases_assignments hd as)
      (Trans.trans (erases_sources ho .nil hd fs) (sources_redirect_shallow _ _ fs).symm)
      (erases_option hd f) (erases_items hd is)
  | .delete ⟨w, t, us, f, is⟩ =>
    .delete (erases_with ho hd w)
      (Trans.trans (erases_source ho .nil .nil t) (source_redirect_top _ t).symm)
      (Trans.trans (erases_sources ho .nil hd us) (sources_redirect_shallow _ _ us).symm)
      (erases_option hd f) (erases_items hd is)
end

lemma Statement.Erases.refl (s : Statement) : Statement.Erases P s s := by
  have h : Statement.Erases P s (s.redirect [] []) := erases_statement .nil .nil s
  rwa [redirect_nil] at h

end

end SqlLoom
