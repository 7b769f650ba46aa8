import SqlLoom.Proofs.Statement.Likeness
import SqlLoom.Proofs.Walk.Balance

/-! Walks of like trees report like events, one for one, even from different scopes: what lies
around the two walks is a parameter, and the frames pushed since then are alike. -/
namespace SqlLoom

section
variable (V : String → Option Scalar → Option Scalar → Prop)

inductive Frame.Like : Frame → Frame → Prop
  | tables {all all'} (visible) : List.Forall₂ (CommonTable.Like V) all all' →
    Frame.Like (.tables all visible) (.tables all' visible)
  | body (n) : Frame.Like (.body n) (.body n)
  | query {ss ss'} : List.Forall₂ (Source.Like V) ss ss' → Frame.Like (.query ss) (.query ss')
  | subquery (n) : Frame.Like (.subquery n) (.subquery n)

variable (base base' : Scopes)

/-- Like frames have been pushed since two walks were at `base` and `base'`. -/
inductive Scopes.Like : Scopes → Scopes → Prop
  | base : Scopes.Like base base'
  | frame {f f' sc sc'} : Frame.Like V f f' → Scopes.Like sc sc' → Scopes.Like (f :: sc) (f' :: sc')

/-- The same report about like nodes. -/
inductive Event.Like : Event → Event → Prop
  | enter (kind) {sc sc'} : Scopes.Like V base base' sc sc' →
    Event.Like (.enter kind sc) (.enter kind sc')
  | leave (kind) {sc sc'} : Scopes.Like V base base' sc sc' →
    Event.Like (.leave kind sc) (.leave kind sc')
  | statement {s s' sc sc'} : Statement.Like V s s' → Scopes.Like V base base' sc sc' →
    Event.Like (.statement s sc) (.statement s' sc')
  | select {s s' sc sc'} : Statement.Like V (.select s) (.select s') →
    Scopes.Like V base base' sc sc' → Event.Like (.select s sc) (.select s' sc')
  | table (index) {t t' sc sc'} : CommonTable.Like V t t' → Scopes.Like V base base' sc sc' →
    Event.Like (.table index t sc) (.table index t' sc')
  | endTable {t t' sc sc'} : CommonTable.Like V t t' → Scopes.Like V base base' sc sc' →
    Event.Like (.endTable t sc) (.endTable t' sc')
  | source {s s' sc sc'} : Source.Like V s s' → Scopes.Like V base base' sc sc' →
    Event.Like (.source s sc) (.source s' sc')
  | value (role) {e e' sc sc'} : Expr.Like V e e' → Scopes.Like V base base' sc sc' →
    Event.Like (.value role e sc) (.value role e' sc')

/-- Two walks report like events. -/
abbrev Alongside : List Event → List Event → Prop := List.Forall₂ (Event.Like V base base')

end

lemma exists_left_of_forall₂ {α β : Type} {R : α → β → Prop} {xs : List α} {ys : List β}
    (h : List.Forall₂ R xs ys) {y : β} (hy : y ∈ ys) : ∃ x ∈ xs, R x y := by
  induction h with
  | nil => simp at hy
  | cons hr _ ih =>
    rcases List.mem_cons.mp hy with rfl | hy
    · exact ⟨_, List.mem_cons_self, hr⟩
    · obtain ⟨x, hx, hr⟩ := ih hy
      exact ⟨x, List.mem_cons_of_mem _ hx, hr⟩

lemma forall₂_toList {α β : Type} {R : α → β → Prop} {x : Option α} {y : Option β}
    (h : Option.Rel R x y) : List.Forall₂ R x.toList y.toList := by
  cases h with
  | none => exact .nil
  | some h => exact .cons h .nil

section
variable {V : String → Option Scalar → Option Scalar → Prop} {base base' : Scopes}

lemma Frame.Like.kind_eq {f f' : Frame} (h : Frame.Like V f f') : f.kind = f'.kind := by
  cases h <;> rfl

lemma Join.Like.sources {js js' : List Join} (h : List.Forall₂ (Join.Like V) js js') :
    List.Forall₂ (Source.Like V) (js.map (·.source)) (js'.map (·.source)) := by
  induction h with
  | nil => exact .nil
  | cons hj _ ih =>
    obtain ⟨hs, _⟩ := hj
    exact .cons hs ih

lemma Statement.Like.operandWiths : {s s' : Statement} → Statement.Like V s s' →
    List.Forall₂ (WithClause.Like V) s.operandWiths s'.operandWiths
  | .select _, _, .select hw _ _ _ _ _ _ _ _ _ => forall₂_toList hw
  | .setOp _, _, .setOp hl hr _ _ _ => List.rel_append (Like.operandWiths hl) (Like.operandWiths hr)
  | .values _, _, .values _ => .nil
  | .insert _, _, .insert _ _ => .nil
  | .createTable _, _, .createTable _ => .nil
  | .update _, _, .update _ _ _ _ _ _ => .nil
  | .delete _, _, .delete _ _ _ _ _ => .nil

variable {sc sc' : Scopes}

lemma WithClause.Like.after {w w' : WithClause} (h : WithClause.Like V w w') :
    Frame.Like V w.after w'.after := by
  obtain ⟨hts⟩ := h
  have hlen := hts.length_eq
  simp only [WithClause.after, hlen]
  exact .tables _ hts

lemma Scopes.Like.within {ws ws' : List WithClause}
    (hws : List.Forall₂ (WithClause.Like V) ws ws') (h : Scopes.Like V base base' sc sc') :
    Scopes.Like V base base' (Scopes.within ws sc) (Scopes.within ws' sc') := by
  induction hws generalizing sc sc' with
  | nil => exact h
  | cons hw _ ih => exact ih (.frame hw.after h)

lemma Walk.withScopes_eq (w : Option WithClause) (sc : Scopes) :
    Walk.withScopes w sc = Scopes.within w.toList sc := by
  cases w <;> rfl

lemma Scopes.Like.withScopes {w w' : Option WithClause}
    (hw : Option.Rel (WithClause.Like V) w w') (h : Scopes.Like V base base' sc sc') :
    Scopes.Like V base base' (Walk.withScopes w sc) (Walk.withScopes w' sc') := by
  rw [Walk.withScopes_eq, Walk.withScopes_eq]
  exact h.within (forall₂_toList hw)

lemma Scopes.Like.operandScopes {s s' : Statement} (hs : Statement.Like V s s')
    (h : Scopes.Like V base base' sc sc') :
    Scopes.Like V base base' (Walk.operandScopes s sc) (Walk.operandScopes s' sc') :=
  h.within hs.operandWiths

namespace Alongside

variable {es fs es' fs' : List Event}

lemma nothing : Alongside V base base' [] [] := .nil

lemma cons {e e' : Event} (h : Event.Like V base base' e e') (hs : Alongside V base base' es es') :
    Alongside V base base' (e :: es) (e' :: es') := List.Forall₂.cons h hs

lemma append (h : Alongside V base base' es es') (h' : Alongside V base base' fs fs') :
    Alongside V base base' (es ++ fs) (es' ++ fs') := List.rel_append h h'

lemma single {e e' : Event} (h : Event.Like V base base' e e') :
    Alongside V base base' [e] [e'] := .cons h .nil

lemma inside {f f' : Frame} {body body' : Scopes → List Event} (hf : Frame.Like V f f')
    (hsc : Scopes.Like V base base' sc sc')
    (h : Alongside V base base' (body (f :: sc)) (body' (f' :: sc'))) :
    Alongside V base base' (Tour.inside f sc body) (Tour.inside f' sc' body') := by
  have hin : Scopes.Like V base base' (f :: sc) (f' :: sc') := .frame hf hsc
  simp only [Tour.inside, ← hf.kind_eq]
  exact .cons (.enter _ hin) (h.append (single (.leave _ hin)))

/-- The clauses that have been entered are left. -/
lemma leaves {ws ws' : List WithClause} (hws : List.Forall₂ (WithClause.Like V) ws ws')
    (hsc : Scopes.Like V base base' sc sc') :
    Alongside V base base' (Tour.leaves ws.length (Scopes.within ws sc))
      (Tour.leaves ws'.length (Scopes.within ws' sc')) := by
  induction hws generalizing sc sc' with
  | nil => exact nothing
  | @cons w w' ws ws' hw _ ih =>
    have hin : Scopes.Like V base base' (w.after :: sc) (w'.after :: sc') := .frame hw.after hsc
    change Alongside V base base' (Tour.leaves (ws.length + 1) (Scopes.within ws (w.after :: sc)))
      (Tour.leaves (ws'.length + 1) (Scopes.within ws' (w'.after :: sc')))
    rw [Tour.leaves_within_succ, Tour.leaves_within_succ]
    exact (ih hin).append (single (.leave _ hin))

lemma leavesWith {w w' : Option WithClause} (hw : Option.Rel (WithClause.Like V) w w')
    (hsc : Scopes.Like V base base' sc sc') :
    Alongside V base base' (Tour.leaves w.toList.length (Walk.withScopes w sc))
      (Tour.leaves w'.toList.length (Walk.withScopes w' sc')) := by
  rw [Walk.withScopes_eq, Walk.withScopes_eq]
  exact leaves (forall₂_toList hw) hsc

lemma leavesOperands {l l' r r' : Statement} (hl : Statement.Like V l l')
    (hr : Statement.Like V r r') (hsc : Scopes.Like V base base' sc sc') :
    Alongside V base base'
      (Tour.leaves ((Walk.operandScopes r (Walk.operandScopes l sc)).length - sc.length)
        (Walk.operandScopes r (Walk.operandScopes l sc)))
      (Tour.leaves ((Walk.operandScopes r' (Walk.operandScopes l' sc')).length - sc'.length)
        (Walk.operandScopes r' (Walk.operandScopes l' sc'))) := by
  have hboth : ∀ (l r : Statement) (sc : Scopes), Walk.operandScopes r (Walk.operandScopes l sc) =
      Scopes.within (l.operandWiths ++ r.operandWiths) sc := fun l r sc => by
    rw [Scopes.within, List.foldl_append]
    rfl
  simp only [hboth, Scopes.length_within, Nat.add_sub_cancel]
  exact leaves (List.rel_append hl.operandWiths hr.operandWiths) hsc

lemma again (asOperand : Bool) {e e' : Event} (h : Event.Like V base base' e e') :
    Alongside V base base' (Tour.again asOperand e) (Tour.again asOperand e') := by
  cases asOperand with
  | false => exact single h
  | true => exact .cons h (single h)

end Alongside

namespace Tour

mutual
lemma alongside_expr (role : Role) {sc sc' : Scopes} (hsc : Scopes.Like V base base' sc sc') :
    (x : Expr) → {y : Expr} → (h : Expr.Like V x y) →
    Alongside V base base' (expr role x sc) (expr role y sc')
  | .column _ _, _, .column q n => .single (.value role (.column q n) hsc)
  | .literal _, _, .literal v => .single (.value role (.literal v) hsc)
  | .parameter _ _, _, .parameter hv => .single (.value role (.parameter hv) hsc)
  | .call _ args _ f w, _, .call hargs hf hw =>
    .cons (.value role (.call hargs hf hw) hsc)
      (((alongside_exprs hsc args hargs).append (alongside_option hsc f hf)).append
        (alongside_window hsc w hw))
  | .binary l _ r, _, .binary hl hr =>
    .cons (.value role (.binary hl hr) hsc)
      ((alongside_expr .plain hsc l hl).append (alongside_expr .plain hsc r hr))
  | .unary _ e, _, .unary he =>
    .cons (.value role (.unary he) hsc) (alongside_expr .plain hsc e he)
  | .tuple es, _, .tuple hes => .cons (.value role (.tuple hes) hsc) (alongside_exprs hsc es hes)
  | .array es, _, .array hes => .cons (.value role (.array hes) hsc) (alongside_exprs hsc es hes)
  | .inList e es _, _, .inList he hes =>
    .cons (.value role (.inList he hes) hsc)
      ((alongside_expr .plain hsc e he).append (alongside_exprs hsc es hes))
  | .wildcard _, _, .wildcard q => .single (.value role (.wildcard q) hsc)
  | .case o bs e, _, .case ho hbs he =>
    .cons (.value role (.case ho hbs he) hsc)
      (((alongside_option hsc o ho).append (alongside_branches hsc bs hbs)).append
        (alongside_option hsc e he))
  | .subquery q, _, .subquery hq =>
    .cons (.value role (.subquery hq) hsc)
      (Alongside.inside (.subquery none) hsc (alongside_statement false (.frame (.subquery none) hsc) q hq))
  | .exists q, _, .exists hq =>
    .cons (.value role (.exists hq) hsc)
      (Alongside.inside (.subquery none) hsc (alongside_statement false (.frame (.subquery none) hsc) q hq))
  | .inSubquery e q _, _, .inSubquery he hq =>
    .cons (.value role (.inSubquery he hq) hsc)
      ((alongside_expr .plain hsc e he).append (Alongside.inside (.subquery none) hsc
        (alongside_statement false (.frame (.subquery none) hsc) q hq)))
  | .between e l h _, _, .between he hl hh =>
    .cons (.value role (.between he hl hh) hsc)
      (((alongside_expr .plain hsc e he).append (alongside_expr .plain hsc l hl)).append
        (alongside_expr .plain hsc h hh))
  | .isNull e _, _, .isNull he =>
    .cons (.value role (.isNull he) hsc) (alongside_expr .plain hsc e he)
  | .cast e _ _, _, .cast he =>
    .cons (.value role (.cast he) hsc) (alongside_expr .plain hsc e he)
  | .nested e, _, .nested he =>
    .cons (.value role (.nested he) hsc) (alongside_expr .plain hsc e he)
  | .raw _, _, .raw s => .single (.value role (.raw s) hsc)
termination_by structural x => x
lemma alongside_exprs {sc sc' : Scopes} (hsc : Scopes.Like V base base' sc sc') :
    (xs : List Expr) → {ys : List Expr} → List.Forall₂ (Expr.Like V) xs ys →
    Alongside V base base' (exprs xs sc) (exprs ys sc')
  | [], _, .nil => .nothing
  | x :: xs, _, .cons h hs => (alongside_expr .plain hsc x h).append (alongside_exprs hsc xs hs)
termination_by structural xs => xs
lemma alongside_option {sc sc' : Scopes} (hsc : Scopes.Like V base base' sc sc') :
    (x : Option Expr) → {y : Option Expr} → Option.Rel (Expr.Like V) x y →
    Alongside V base base' (option x sc) (option y sc')
  | none, _, .none => .nothing
  | some x, _, .some h => alongside_expr .plain hsc x h
termination_by structural x => x
lemma alongside_branches {sc sc' : Scopes} (hsc : Scopes.Like V base base' sc sc') :
    (xs : List (Expr × Expr)) → {ys : List (Expr × Expr)} → List.Forall₂ (Branch.Like V) xs ys →
    Alongside V base base' (branches xs sc) (branches ys sc')
  | [], _, .nil => .nothing
  | (c, r) :: xs, _, .cons (.mk hc hr) hs =>
    ((alongside_expr .plain hsc c hc).append (alongside_expr .plain hsc r hr)).append
      (alongside_branches hsc xs hs)
termination_by structural xs => xs
lemma alongside_window {sc sc' : Scopes} (hsc : Scopes.Like V base base' sc sc') :
    (x : Option Window) → {y : Option Window} → Option.Rel (Window.Like V) x y →
    Alongside V base base' (window x sc) (window y sc')
  | none, _, .none => .nothing
  | some ⟨_, p, o, _⟩, _, .some (.mk hp ho) =>
    (alongside_exprs hsc p hp).append (alongside_order .plain hsc o ho)
termination_by structural x => x
lemma alongside_order (role : Role) {sc sc' : Scopes} (hsc : Scopes.Like V base base' sc sc') :
    (xs : List OrderItem) → {ys : List OrderItem} → List.Forall₂ (OrderItem.Like V) xs ys →
    Alongside V base base' (order role xs sc) (order role ys sc')
  | [], _, .nil => .nothing
  | ⟨v, _, _⟩ :: xs, _, .cons (.mk hv) hs =>
    (alongside_expr role hsc v hv).append (alongside_order role hsc xs hs)
termination_by structural xs => xs
lemma alongside_items {sc sc' : Scopes} (hsc : Scopes.Like V base base' sc sc') :
    (xs : List SelectItem) → {ys : List SelectItem} → List.Forall₂ (SelectItem.Like V) xs ys →
    Alongside V base base' (items xs sc) (items ys sc')
  | [], _, .nil => .nothing
  | ⟨v, _⟩ :: xs, _, .cons (.mk hv) hs =>
    (alongside_expr .plain hsc v hv).append (alongside_items hsc xs hs)
termination_by structural xs => xs
lemma alongside_source {sc sc' : Scopes} (hsc : Scopes.Like V base base' sc sc') :
    (x : Source) → {y : Source} → Source.Like V x y →
    Alongside V base base' (source x sc) (source y sc')
  | .table _ _ _, _, .table s n a => .single (.source (.table s n a) hsc)
  | .subquery q a _ _, _, .subquery hq =>
    .cons (.source (.subquery hq) hsc) (Alongside.inside (.subquery (some a)) hsc
      (alongside_statement false (.frame (.subquery (some a)) hsc) q hq))
  | .function _ args _, _, .function hargs =>
    .cons (.source (.function hargs) hsc) (alongside_exprs hsc args hargs)
termination_by structural x => x
lemma alongside_sources {sc sc' : Scopes} (hsc : Scopes.Like V base base' sc sc') :
    (xs : List Source) → {ys : List Source} → List.Forall₂ (Source.Like V) xs ys →
    Alongside V base base' (sources xs sc) (sources ys sc')
  | [], _, .nil => .nothing
  | x :: xs, _, .cons h hs => (alongside_source hsc x h).append (alongside_sources hsc xs hs)
termination_by structural xs => xs
lemma alongside_condition {sc sc' : Scopes} (hsc : Scopes.Like V base base' sc sc') :
    (x : Option JoinCondition) → {y : Option JoinCondition} →
    Option.Rel (JoinCondition.Like V) x y →
    Alongside V base base' (condition x sc) (condition y sc')
  | none, _, .none => .nothing
  | some (.predicate e), _, .some (.predicate he) => alongside_expr .plain hsc e he
  | some (.shared _), _, .some (.shared _) => .nothing
  | some .natural, _, .some .natural => .nothing
termination_by structural x => x
lemma alongside_joins {sc sc' : Scopes} (hsc : Scopes.Like V base base' sc sc') :
    (xs : List Join) → {ys : List Join} → List.Forall₂ (Join.Like V) xs ys →
    Alongside V base base' (joins xs sc) (joins ys sc')
  | [], _, .nil => .nothing
  | ⟨_, s, c⟩ :: xs, _, .cons (.mk hs hc) h =>
    ((alongside_source hsc s hs).append (alongside_condition hsc c hc)).append
      (alongside_joins hsc xs h)
termination_by structural xs => xs
lemma alongside_rows {sc sc' : Scopes} (hsc : Scopes.Like V base base' sc sc') :
    (xs : List (List Expr)) → {ys : List (List Expr)} →
    List.Forall₂ (List.Forall₂ (Expr.Like V)) xs ys →
    Alongside V base base' (rows xs sc) (rows ys sc')
  | [], _, .nil => .nothing
  | x :: xs, _, .cons h hs => (alongside_exprs hsc x h).append (alongside_rows hsc xs hs)
termination_by structural xs => xs
lemma alongside_assignments {sc sc' : Scopes} (hsc : Scopes.Like V base base' sc sc') :
    (xs : List Assignment) → {ys : List Assignment} → List.Forall₂ (Assignment.Like V) xs ys →
    Alongside V base base' (assignments xs sc) (assignments ys sc')
  | [], _, .nil => .nothing
  | ⟨_, v⟩ :: xs, _, .cons (.mk hv) hs =>
    (alongside_expr .plain hsc v hv).append (alongside_assignments hsc xs hs)
termination_by structural xs => xs
lemma alongside_tables {frame frame' : Nat → Frame} (hframe : ∀ n, Frame.Like V (frame n) (frame' n))
    (total : Option Nat) (index : Nat) {sc sc' : Scopes} (hsc : Scopes.Like V base base' sc sc') :
    (xs : List CommonTable) → {ys : List CommonTable} → List.Forall₂ (CommonTable.Like V) xs ys →
    Alongside V base base' (tables frame total index xs sc) (tables frame' total index ys sc')
  | [], _, .nil => .nothing
  | ⟨n, _, b⟩ :: xs, _, .cons (.mk hb) hs =>
    have hin : Scopes.Like V base base' (frame (total.getD index) :: sc)
        (frame' (total.getD index) :: sc') := .frame (hframe _) hsc
    (Alongside.cons (.table index (.mk hb) hin) (Alongside.inside (.body n) hin
      (alongside_statement false (.frame (.body n) hin) b hb))).append
      (.cons (.endTable (.mk hb) hin) (alongside_tables hframe total (index + 1) hsc xs hs))
termination_by structural xs => xs
lemma alongside_withClause {sc sc' : Scopes} (hsc : Scopes.Like V base base' sc sc') :
    (x : Option WithClause) → {y : Option WithClause} → Option.Rel (WithClause.Like V) x y →
    Alongside V base base' (withClause x sc) (withClause y sc')
  | none, _, .none => .nothing
  | some ⟨r, ts⟩, some ⟨_, ts'⟩, .some (.mk hts) => by
    have hlen := hts.length_eq
    have hall := alongside_tables (fun n => .tables n hts)
      (if r then some ts.length else none) 0 hsc ts hts
    simp only [withClause, ← hlen]
    exact .cons (.enter _ (.frame (.tables 0 hts) hsc)) hall
termination_by structural x => x
lemma alongside_operandWiths {sc sc' : Scopes} (hsc : Scopes.Like V base base' sc sc') :
    (x : Statement) → {y : Statement} → Statement.Like V x y →
    Alongside V base base' (operandWiths x sc) (operandWiths y sc')
  | .select ⟨w, _, _, _, _, _, _, _, _, _, _⟩, _, .select hw _ _ _ _ _ _ _ _ _ =>
    alongside_withClause hsc w hw
  | .setOp ⟨l, _, _, r, _, _, _⟩, _, .setOp hl hr _ _ _ =>
    (alongside_operandWiths hsc l hl).append (alongside_operandWiths (hsc.operandScopes hl) r hr)
  | .values _, _, .values _ => .nothing
  | .insert _, _, .insert _ _ => .nothing
  | .createTable _, _, .createTable _ => .nothing
  | .update _, _, .update _ _ _ _ _ _ => .nothing
  | .delete _, _, .delete _ _ _ _ _ => .nothing
termination_by structural x => x
/-- Like trees are walked alike. -/
lemma alongside_statement (asOperand : Bool) {sc sc' : Scopes}
    (hsc : Scopes.Like V base base' sc sc') : (x : Statement) → {y : Statement} →
    Statement.Like V x y →
    Alongside V base base' (statement asOperand x sc) (statement asOperand y sc')
  | .select ⟨w, d, is, fs, js, f, g, h, o, l, k⟩, .select ⟨w', _, is', fs', js', f', g', h', o', l', k'⟩,
      .select hw his hfs hjs hf hg hh ho hl hk => by
    have hs : Statement.Like V (.select ⟨w, d, is, fs, js, f, g, h, o, l, k⟩)
        (.select ⟨w', d, is', fs', js', f', g', h', o', l', k'⟩) :=
      .select hw his hfs hjs hf hg hh ho hl hk
    have hq : Frame.Like V (.query (fs ++ js.map (·.source))) (.query (fs' ++ js'.map (·.source))) :=
      .query (List.rel_append hfs (Join.Like.sources hjs))
    have hbody : ∀ {sc sc' : Scopes}, Scopes.Like V base base' sc sc' →
        Alongside V base base'
          (.select ⟨w, d, is, fs, js, f, g, h, o, l, k⟩ sc :: (items is sc ++ sources fs sc ++
            joins js sc ++ option f sc ++ exprs g sc ++ option h sc ++ order .ordering o sc ++
            option l sc ++ option k sc))
          (.select ⟨w', d, is', fs', js', f', g', h', o', l', k'⟩ sc' :: (items is' sc' ++
            sources fs' sc' ++ joins js' sc' ++ option f' sc' ++ exprs g' sc' ++ option h' sc' ++
            order .ordering o' sc' ++ option l' sc' ++ option k' sc')) := fun hsc =>
      .cons (.select hs hsc) (((((((((alongside_items hsc is his).append
        (alongside_sources hsc fs hfs)).append (alongside_joins hsc js hjs)).append
        (alongside_option hsc f hf)).append (alongside_exprs hsc g hg)).append
        (alongside_option hsc h hh)).append (alongside_order .ordering hsc o ho)).append
        (alongside_option hsc l hl)).append (alongside_option hsc k hk))
    cases asOperand with
    | true => exact .cons (.statement hs hsc) (((Alongside.nothing.append
        (Alongside.inside hq hsc (hbody (.frame hq hsc)))).append .nothing))
    | false =>
      have hin := hsc.withScopes hw
      exact .cons (.statement hs hsc) (((alongside_withClause hsc w hw).append
        (Alongside.inside hq hin (hbody (.frame hq hin)))).append (.leavesWith hw hsc))
  | .setOp ⟨l, op, a, r, o, m, k⟩, .setOp ⟨l', _, _, r', o', m', k'⟩, .setOp hl hr ho hm hk => by
    have hs : Statement.Like V (.setOp ⟨l, op, a, r, o, m, k⟩)
        (.setOp ⟨l', op, a, r', o', m', k'⟩) := .setOp hl hr ho hm hk
    have htail : ∀ {sc sc' : Scopes}, Scopes.Like V base base' sc sc' →
        Alongside V base base'
          (statement true l sc ++ statement true r sc ++ order .plain o sc ++ option m sc ++
            option k sc)
          (statement true l' sc' ++ statement true r' sc' ++ order .plain o' sc' ++ option m' sc' ++
            option k' sc') := fun hsc =>
      ((((alongside_statement true hsc l hl).append (alongside_statement true hsc r hr)).append
        (alongside_order .plain hsc o ho)).append (alongside_option hsc m hm)).append
        (alongside_option hsc k hk)
    cases asOperand with
    | true => exact .cons (.statement hs hsc) (htail hsc)
    | false =>
      have hin := (hsc.operandScopes hl).operandScopes hr
      exact .cons (.statement hs hsc) ((((alongside_operandWiths hsc l hl).append
        (alongside_operandWiths (hsc.operandScopes hl) r hr)).append (htail hin)).append
        (.leavesOperands hl hr hsc))
  | .values ⟨rs, _⟩, _, .values hrs =>
    .cons (.statement (.values hrs) hsc) (alongside_rows hsc rs hrs)
  | .insert ⟨_, _, .rows rs, is⟩, _, .insert (.rows hrs) his =>
    ((Alongside.again asOperand (.statement (.insert (.rows hrs) his) hsc)).append
      (alongside_rows hsc rs hrs)).append (alongside_items hsc is his)
  | .insert ⟨_, _, .query q, is⟩, _, .insert (.query hq) his =>
    ((Alongside.again asOperand (.statement (.insert (.query hq) his) hsc)).append
      (alongside_statement false hsc q hq)).append (alongside_items hsc is his)
  | .createTable ⟨_, _, _, _, some q⟩, _, .createTable (.some hq) =>
    (Alongside.again asOperand (.statement (.createTable (.some hq)) hsc)).append
      (alongside_statement false hsc q hq)
  | .createTable ⟨_, _, _, _, none⟩, _, .createTable .none =>
    .again asOperand (.statement (.createTable .none) hsc)
  | .update ⟨w, t, as, fs, f, is⟩, _, .update hw ht has hfs hf his =>
    have hin := hsc.withScopes hw
    have hq : Frame.Like V _ _ := .query (.cons ht hfs)
    have hbody := .frame hq hin
    (((Alongside.again asOperand (.statement (.update hw ht has hfs hf his) hsc)).append
      (alongside_withClause hsc w hw)).append (Alongside.inside hq hin
        (((((alongside_source hbody t ht).append (alongside_assignments hbody as has)).append
          (alongside_sources hbody fs hfs)).append (alongside_option hbody f hf)).append
          (alongside_items hbody is his)))).append (.leavesWith hw hsc)
  | .delete ⟨w, t, us, f, is⟩, _, .delete hw ht hus hf his =>
    have hin := hsc.withScopes hw
    have hq : Frame.Like V _ _ := .query (.cons ht hus)
    have hbody := .frame hq hin
    (((Alongside.again asOperand (.statement (.delete hw ht hus hf his) hsc)).append
      (alongside_withClause hsc w hw)).append (Alongside.inside hq hin
        ((((alongside_source hbody t ht).append (alongside_sources hbody us hus)).append
          (alongside_option hbody f hf)).append (alongside_items hbody is his)))).append
      (.leavesWith hw hsc)
termination_by structural x => x
end

end Tour

end

end SqlLoom
