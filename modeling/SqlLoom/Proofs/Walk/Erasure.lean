import SqlLoom.Proofs.Statement.Erasure
import SqlLoom.Proofs.Walk.Contents

/-! Placeholders do not depend on schemas, nor on the scopes in which a walk begins. -/
namespace SqlLoom

/-- Two walks report the same placeholders. -/
def Echoes (es es' : List Event) : Prop := placeholders es = placeholders es'

namespace Echoes

variable {es es' fs fs' : List Event}

lemma nil : Echoes [] [] := rfl

lemma append (h : Echoes es es') (h' : Echoes fs fs') : Echoes (es ++ fs) (es' ++ fs') := by
  rw [Echoes, placeholders_append, placeholders_append, h, h']

lemma cons {e e' : Event} (he : Report.placeholder e = Report.placeholder e')
    (h : Echoes es es') : Echoes (e :: es) (e' :: es') := by
  rw [Echoes, placeholders_cons, placeholders_cons, he, h]

lemma inside {f f' : Frame} {sc sc' : Scopes} {body body' : Scopes → List Event}
    (h : Echoes (body (f :: sc)) (body' (f' :: sc'))) :
    Echoes (Tour.inside f sc body) (Tour.inside f' sc' body') := by
  rwa [Echoes, placeholders_inside, placeholders_inside]

lemma leaves (n n' : Nat) (sc sc' : Scopes) : Echoes (Tour.leaves n sc) (Tour.leaves n' sc') := by
  rw [Echoes, placeholders_leaves, placeholders_leaves]

lemma again (asOperand : Bool) (s s' : Statement) (sc sc' : Scopes) :
    Echoes (Tour.again asOperand (.statement s sc)) (Tour.again asOperand (.statement s' sc')) := by
  rw [Echoes, placeholders_again, placeholders_again]

end Echoes

namespace Tour

variable {P : String → String → Prop}

mutual
lemma echoes_expr (role : Role) (sc sc' : Scopes) : (x : Expr) → {y : Expr} →
    Expr.Erases P x y → Echoes (expr role x sc) (expr role y sc')
  | .column _ _, _, .column _ _ => .cons rfl .nil
  | .literal _, _, .literal _ => .cons rfl .nil
  | .parameter _ _, _, .parameter _ _ => .cons rfl .nil
  | .call _ args _ f w, _, .call hargs hf hw =>
    .cons rfl (((echoes_exprs sc sc' args hargs).append (echoes_option sc sc' f hf)).append
      (echoes_window sc sc' w hw))
  | .binary l _ r, _, .binary hl hr =>
    .cons rfl ((echoes_expr .plain sc sc' l hl).append (echoes_expr .plain sc sc' r hr))
  | .unary _ e, _, .unary he => .cons rfl (echoes_expr .plain sc sc' e he)
  | .tuple es, _, .tuple hes => .cons rfl (echoes_exprs sc sc' es hes)
  | .array es, _, .array hes => .cons rfl (echoes_exprs sc sc' es hes)
  | .inList e es _, _, .inList he hes =>
    .cons rfl ((echoes_expr .plain sc sc' e he).append (echoes_exprs sc sc' es hes))
  | .wildcard _, _, .wildcard _ => .cons rfl .nil
  | .case o bs e, _, .case ho hbs he =>
    .cons rfl (((echoes_option sc sc' o ho).append (echoes_branches sc sc' bs hbs)).append
      (echoes_option sc sc' e he))
  | .subquery q, _, .subquery hq => .cons rfl (.inside (echoes_statement false _ _ q hq))
  | .exists q, _, .exists hq => .cons rfl (.inside (echoes_statement false _ _ q hq))
  | .inSubquery e q _, _, .inSubquery he hq =>
    .cons rfl ((echoes_expr .plain sc sc' e he).append
      (.inside (echoes_statement false _ _ q hq)))
  | .between e l h _, _, .between he hl hh =>
    .cons rfl (((echoes_expr .plain sc sc' e he).append (echoes_expr .plain sc sc' l hl)).append
      (echoes_expr .plain sc sc' h hh))
  | .isNull e _, _, .isNull he => .cons rfl (echoes_expr .plain sc sc' e he)
  | .cast e _ _, _, .cast he => .cons rfl (echoes_expr .plain sc sc' e he)
  | .nested e, _, .nested he => .cons rfl (echoes_expr .plain sc sc' e he)
  | .raw _, _, .raw _ => .cons rfl .nil
termination_by structural x => x
lemma echoes_exprs (sc sc' : Scopes) : (xs : List Expr) → {ys : List Expr} →
    List.Forall₂ (Expr.Erases P) xs ys → Echoes (exprs xs sc) (exprs ys sc')
  | [], _, .nil => .nil
  | x :: xs, _, .cons h hs => (echoes_expr .plain sc sc' x h).append (echoes_exprs sc sc' xs hs)
termination_by structural xs => xs
lemma echoes_option (sc sc' : Scopes) : (x : Option Expr) → {y : Option Expr} →
    Option.Rel (Expr.Erases P) x y → Echoes (option x sc) (option y sc')
  | none, _, .none => .nil
  | some x, _, .some h => echoes_expr .plain sc sc' x h
termination_by structural x => x
lemma echoes_branches (sc sc' : Scopes) : (xs : List (Expr × Expr)) →
    {ys : List (Expr × Expr)} → List.Forall₂ (Branch.Erases P) xs ys →
    Echoes (branches xs sc) (branches ys sc')
  | [], _, .nil => .nil
  | (c, r) :: xs, _, .cons (.mk hc hr) hs =>
    ((echoes_expr .plain sc sc' c hc).append (echoes_expr .plain sc sc' r hr)).append
      (echoes_branches sc sc' xs hs)
termination_by structural xs => xs
lemma echoes_window (sc sc' : Scopes) : (x : Option Window) → {y : Option Window} →
    Option.Rel (Window.Erases P) x y → Echoes (window x sc) (window y sc')
  | none, _, .none => .nil
  | some ⟨_, p, o, _⟩, _, .some (.mk hp ho) =>
    (echoes_exprs sc sc' p hp).append (echoes_order .plain sc sc' o ho)
termination_by structural x => x
lemma echoes_order (role : Role) (sc sc' : Scopes) : (xs : List OrderItem) →
    {ys : List OrderItem} → List.Forall₂ (OrderItem.Erases P) xs ys →
    Echoes (order role xs sc) (order role ys sc')
  | [], _, .nil => .nil
  | ⟨v, _, _⟩ :: xs, _, .cons (.mk hv) hs =>
    (echoes_expr role sc sc' v hv).append (echoes_order role sc sc' xs hs)
termination_by structural xs => xs
lemma echoes_items (sc sc' : Scopes) : (xs : List SelectItem) → {ys : List SelectItem} →
    List.Forall₂ (SelectItem.Erases P) xs ys → Echoes (items xs sc) (items ys sc')
  | [], _, .nil => .nil
  | ⟨v, _⟩ :: xs, _, .cons (.mk hv) hs =>
    (echoes_expr .plain sc sc' v hv).append (echoes_items sc sc' xs hs)
termination_by structural xs => xs
lemma echoes_source (sc sc' : Scopes) : (x : Source) → {y : Source} →
    Source.Erases P x y → Echoes (source x sc) (source y sc')
  | .table _ _ _, _, .table _ _ _ => .cons rfl .nil
  | .table _ _ _, _, .erased _ _ => .cons rfl .nil
  | .subquery q _ _ _, _, .subquery hq => .cons rfl (.inside (echoes_statement false _ _ q hq))
  | .function _ args _, _, .function hargs => .cons rfl (echoes_exprs sc sc' args hargs)
termination_by structural x => x
lemma echoes_sources (sc sc' : Scopes) : (xs : List Source) → {ys : List Source} →
    List.Forall₂ (Source.Erases P) xs ys → Echoes (sources xs sc) (sources ys sc')
  | [], _, .nil => .nil
  | x :: xs, _, .cons h hs => (echoes_source sc sc' x h).append (echoes_sources sc sc' xs hs)
termination_by structural xs => xs
lemma echoes_condition (sc sc' : Scopes) : (x : Option JoinCondition) →
    {y : Option JoinCondition} → Option.Rel (JoinCondition.Erases P) x y →
    Echoes (condition x sc) (condition y sc')
  | none, _, .none => .nil
  | some (.predicate e), _, .some (.predicate he) => echoes_expr .plain sc sc' e he
  | some (.shared _), _, .some (.shared _) => .nil
  | some .natural, _, .some .natural => .nil
termination_by structural x => x
lemma echoes_joins (sc sc' : Scopes) : (xs : List Join) → {ys : List Join} →
    List.Forall₂ (Join.Erases P) xs ys → Echoes (joins xs sc) (joins ys sc')
  | [], _, .nil => .nil
  | ⟨_, s, c⟩ :: xs, _, .cons (.mk hs hc) h =>
    ((echoes_source sc sc' s hs).append (echoes_condition sc sc' c hc)).append
      (echoes_joins sc sc' xs h)
termination_by structural xs => xs
lemma echoes_rows (sc sc' : Scopes) : (xs : List (List Expr)) → {ys : List (List Expr)} →
    List.Forall₂ (List.Forall₂ (Expr.Erases P)) xs ys → Echoes (rows xs sc) (rows ys sc')
  | [], _, .nil => .nil
  | x :: xs, _, .cons h hs => (echoes_exprs sc sc' x h).append (echoes_rows sc sc' xs hs)
termination_by structural xs => xs
lemma echoes_assignments (sc sc' : Scopes) : (xs : List Assignment) →
    {ys : List Assignment} → List.Forall₂ (Assignment.Erases P) xs ys →
    Echoes (assignments xs sc) (assignments ys sc')
  | [], _, .nil => .nil
  | ⟨_, v⟩ :: xs, _, .cons (.mk hv) hs =>
    (echoes_expr .plain sc sc' v hv).append (echoes_assignments sc sc' xs hs)
termination_by structural xs => xs
lemma echoes_tables (frame frame' : Nat → Frame) (total total' : Option Nat) (index index' : Nat)
    (sc sc' : Scopes) : (xs : List CommonTable) → {ys : List CommonTable} →
    List.Forall₂ (CommonTable.Erases P) xs ys →
    Echoes (tables frame total index xs sc) (tables frame' total' index' ys sc')
  | [], _, .nil => .nil
  | ⟨_, _, b⟩ :: xs, _, .cons (.mk hb) hs =>
    (Echoes.cons rfl (.inside (echoes_statement false _ _ b hb))).append
      (.cons rfl (echoes_tables frame frame' total total' _ _ sc sc' xs hs))
termination_by structural xs => xs
lemma echoes_withClause (sc sc' : Scopes) : (x : Option WithClause) → {y : Option WithClause} →
    Option.Rel (WithClause.Erases P) x y → Echoes (withClause x sc) (withClause y sc')
  | none, _, .none => .nil
  | some ⟨_, ts⟩, _, .some (.mk hts) => .cons rfl (echoes_tables _ _ _ _ _ _ sc sc' ts hts)
termination_by structural x => x
lemma echoes_operandWiths (sc sc' : Scopes) : (x : Statement) → {y : Statement} →
    Statement.Erases P x y → Echoes (operandWiths x sc) (operandWiths y sc')
  | .select ⟨w, _, _, _, _, _, _, _, _, _, _⟩, _, .select hw _ _ _ _ _ _ _ _ _ =>
    echoes_withClause sc sc' w hw
  | .setOp ⟨l, _, _, r, _, _, _⟩, _, .setOp hl hr _ _ _ =>
    (echoes_operandWiths sc sc' l hl).append (echoes_operandWiths _ _ r hr)
  | .values _, _, .values _ => .nil
  | .insert _, _, .insert _ _ => .nil
  | .createTable _, _, .createTable _ => .nil
  | .update _, _, .update _ _ _ _ _ _ => .nil
  | .delete _, _, .delete _ _ _ _ _ => .nil
termination_by structural x => x
lemma echoes_statement (asOperand : Bool) (sc sc' : Scopes) : (x : Statement) →
    {y : Statement} → Statement.Erases P x y →
    Echoes (statement asOperand x sc) (statement asOperand y sc')
  | .select ⟨w, _, is, fs, js, f, g, h, o, l, k⟩, _,
      .select hw his hfs hjs hf hg hh ho hl hk => by
    have hbody := fun sc sc' => ((((((((echoes_items sc sc' is his).append
      (echoes_sources sc sc' fs hfs)).append (echoes_joins sc sc' js hjs)).append
      (echoes_option sc sc' f hf)).append (echoes_exprs sc sc' g hg)).append
      (echoes_option sc sc' h hh)).append (echoes_order .ordering sc sc' o ho)).append
      (echoes_option sc sc' l hl)).append (echoes_option sc sc' k hk)
    cases asOperand with
    | true =>
      exact .cons rfl ((Echoes.nil.append (.inside (.cons rfl (hbody _ _)))).append
        (.leaves _ _ _ _))
    | false =>
      exact .cons rfl (((echoes_withClause sc sc' w hw).append
        (.inside (.cons rfl (hbody _ _)))).append (.leaves _ _ _ _))
  | .setOp ⟨l, _, _, r, o, m, k⟩, _, .setOp hl hr ho hm hk => by
    have htail := fun sc sc' => ((((echoes_statement true sc sc' l hl).append
      (echoes_statement true sc sc' r hr)).append (echoes_order .plain sc sc' o ho)).append
      (echoes_option sc sc' m hm)).append (echoes_option sc sc' k hk)
    cases asOperand with
    | true => exact .cons rfl (htail _ _)
    | false =>
      exact .cons rfl ((((echoes_operandWiths sc sc' l hl).append
        (echoes_operandWiths _ _ r hr)).append (htail _ _)).append (.leaves _ _ _ _))
  | .values ⟨rs, _⟩, _, .values hrs => .cons rfl (echoes_rows sc sc' rs hrs)
  | .insert ⟨_, _, .rows rs, is⟩, _, .insert (.rows hrs) his =>
    ((Echoes.again _ _ _ _ _).append (echoes_rows sc sc' rs hrs)).append
      (echoes_items sc sc' is his)
  | .insert ⟨_, _, .query q, is⟩, _, .insert (.query hq) his =>
    ((Echoes.again _ _ _ _ _).append (echoes_statement false sc sc' q hq)).append
      (echoes_items sc sc' is his)
  | .createTable ⟨_, _, _, _, some q⟩, _, .createTable (.some hq) =>
    (Echoes.again _ _ _ _ _).append (echoes_statement false sc sc' q hq)
  | .createTable ⟨_, _, _, _, none⟩, _, .createTable .none => .again _ _ _ _ _
  | .update ⟨w, t, as, fs, f, is⟩, _, .update hw ht has hfs hf his =>
    (((Echoes.again _ _ _ _ _).append (echoes_withClause sc sc' w hw)).append
      (.inside (((((echoes_source _ _ t ht).append (echoes_assignments _ _ as has)).append
        (echoes_sources _ _ fs hfs)).append (echoes_option _ _ f hf)).append
        (echoes_items _ _ is his)))).append (.leaves _ _ _ _)
  | .delete ⟨w, t, us, f, is⟩, _, .delete hw ht hus hf his =>
    (((Echoes.again _ _ _ _ _).append (echoes_withClause sc sc' w hw)).append
      (.inside ((((echoes_source _ _ t ht).append (echoes_sources _ _ us hus)).append
        (echoes_option _ _ f hf)).append (echoes_items _ _ is his)))).append (.leaves _ _ _ _)
termination_by structural x => x
end

end Tour

end SqlLoom
