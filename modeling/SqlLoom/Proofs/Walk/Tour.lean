import Mathlib.Tactic.Lemma
import SqlLoom.Walk

/-! The reports of a walk that leaves nothing out, the oldest first. Each part of a statement
contributes a list that depends on the scopes alone, and the trace is their concatenation. -/
namespace SqlLoom

lemma Walk.operandScopes_setOp (b : SetOperation) (sc : Scopes) :
    Walk.operandScopes (.setOp b) sc =
      Walk.operandScopes b.right (Walk.operandScopes b.left sc) := by
  obtain ⟨l, op, a, r, o, m, k⟩ := b
  simp [Walk.operandScopes, Statement.operandWiths, List.foldl_append]

lemma Walk.operandScopes_select (s : Select) (sc : Scopes) :
    Walk.operandScopes (.select s) sc = Walk.withScopes s.withClause sc := by
  cases h : s.withClause <;> simp [Walk.operandScopes, Statement.operandWiths, h, Walk.withScopes]

namespace Tour

/-- The reports of a body between those of its frame. -/
def inside (f : Frame) (sc : Scopes) (body : Scopes → List Event) : List Event :=
  .enter f.kind (f :: sc) :: body (f :: sc) ++ [.leave f.kind (f :: sc)]

/-- The reports of popping `n` frames. -/
def leaves : Nat → Scopes → List Event
  | n + 1, f :: sc => .leave f.kind (f :: sc) :: leaves n sc
  | _, _ => []

/-- A data change as an operand of a set operation is reported twice. -/
def again (asOperand : Bool) (e : Event) : List Event := if asOperand then [e, e] else [e]

mutual
def expr (role : Role) : Expr → Scopes → List Event
  | .call n args d f w, sc =>
    .value role (.call n args d f w) sc :: (exprs args sc ++ option f sc ++ window w sc)
  | .binary l op r, sc =>
    .value role (.binary l op r) sc :: (expr .plain l sc ++ expr .plain r sc)
  | .unary op e, sc => .value role (.unary op e) sc :: expr .plain e sc
  | .tuple es, sc => .value role (.tuple es) sc :: exprs es sc
  | .array es, sc => .value role (.array es) sc :: exprs es sc
  | .inList e es neg, sc =>
    .value role (.inList e es neg) sc :: (expr .plain e sc ++ exprs es sc)
  | .case o bs e, sc =>
    .value role (.case o bs e) sc :: (option o sc ++ branches bs sc ++ option e sc)
  | .subquery q, sc =>
    .value role (.subquery q) sc :: inside (.subquery none) sc (statement false q)
  | .exists q, sc =>
    .value role (.exists q) sc :: inside (.subquery none) sc (statement false q)
  | .inSubquery e q neg, sc =>
    .value role (.inSubquery e q neg) sc ::
      (expr .plain e sc ++ inside (.subquery none) sc (statement false q))
  | .between e l h neg, sc =>
    .value role (.between e l h neg) sc ::
      (expr .plain e sc ++ expr .plain l sc ++ expr .plain h sc)
  | .isNull e neg, sc => .value role (.isNull e neg) sc :: expr .plain e sc
  | .cast e ty s, sc => .value role (.cast e ty s) sc :: expr .plain e sc
  | .nested e, sc => .value role (.nested e) sc :: expr .plain e sc
  | .column q n, sc => [.value role (.column q n) sc]
  | .literal v, sc => [.value role (.literal v) sc]
  | .parameter n v, sc => [.value role (.parameter n v) sc]
  | .wildcard q, sc => [.value role (.wildcard q) sc]
  | .raw s, sc => [.value role (.raw s) sc]
def exprs : List Expr → Scopes → List Event
  | [], _ => []
  | e :: es, sc => expr .plain e sc ++ exprs es sc
def option : Option Expr → Scopes → List Event
  | none, _ => []
  | some e, sc => expr .plain e sc
def branches : List (Expr × Expr) → Scopes → List Event
  | [], _ => []
  | (c, r) :: bs, sc => expr .plain c sc ++ expr .plain r sc ++ branches bs sc
def window : Option Window → Scopes → List Event
  | none, _ => []
  | some ⟨_, p, o, _⟩, sc => exprs p sc ++ order .plain o sc
def order (role : Role) : List OrderItem → Scopes → List Event
  | [], _ => []
  | ⟨v, _, _⟩ :: os, sc => expr role v sc ++ order role os sc
def items : List SelectItem → Scopes → List Event
  | [], _ => []
  | ⟨v, _⟩ :: is, sc => expr .plain v sc ++ items is sc
def source : Source → Scopes → List Event
  | .table s n a, sc => [.source (.table s n a) sc]
  | .subquery q a cs l, sc =>
    .source (.subquery q a cs l) sc :: inside (.subquery (some a)) sc (statement false q)
  | .function n args a, sc => .source (.function n args a) sc :: exprs args sc
def sources : List Source → Scopes → List Event
  | [], _ => []
  | s :: ss, sc => source s sc ++ sources ss sc
def condition : Option JoinCondition → Scopes → List Event
  | some (.predicate e), sc => expr .plain e sc
  | some (.shared _), _ => []
  | some .natural, _ => []
  | none, _ => []
def joins : List Join → Scopes → List Event
  | [], _ => []
  | ⟨_, s, c⟩ :: js, sc => source s sc ++ condition c sc ++ joins js sc
def rows : List (List Expr) → Scopes → List Event
  | [], _ => []
  | r :: rs, sc => exprs r sc ++ rows rs sc
def assignments : List Assignment → Scopes → List Event
  | [], _ => []
  | ⟨_, v⟩ :: as, sc => expr .plain v sc ++ assignments as sc
def tables (frame : Nat → Frame) (total : Option Nat) (index : Nat) :
    List CommonTable → Scopes → List Event
  | [], _ => []
  | ⟨n, cs, b⟩ :: ts, sc =>
    .table index ⟨n, cs, b⟩ (frame (total.getD index) :: sc) ::
      inside (.body n) (frame (total.getD index) :: sc) (statement false b) ++
      .endTable ⟨n, cs, b⟩ (frame (total.getD index) :: sc) ::
      tables frame total (index + 1) ts sc
def withClause : Option WithClause → Scopes → List Event
  | none, _ => []
  | some ⟨r, ts⟩, sc =>
    .enter .withClause (.tables ts 0 :: sc) ::
      tables (.tables ts) (if r then some ts.length else none) 0 ts sc
def operandWiths : Statement → Scopes → List Event
  | .select ⟨w, _, _, _, _, _, _, _, _, _, _⟩, sc => withClause w sc
  | .setOp ⟨l, _, _, r, _, _, _⟩, sc =>
    operandWiths l sc ++ operandWiths r (Walk.operandScopes l sc)
  | _, _ => []
def statement (asOperand : Bool) : Statement → Scopes → List Event
  | .select ⟨w, d, is, fs, js, f, g, h, o, l, k⟩, sc =>
    let s : Select := ⟨w, d, is, fs, js, f, g, h, o, l, k⟩
    let own := if asOperand then none else w
    .statement (.select s) sc ::
      ((if asOperand then [] else withClause w sc) ++
        inside (.query s.sources) (Walk.withScopes own sc)
          (fun sc =>
            .select s sc :: (items is sc ++ sources fs sc ++ joins js sc ++ option f sc ++
              exprs g sc ++ option h sc ++ order .ordering o sc ++ option l sc ++ option k sc)) ++
        leaves own.toList.length (Walk.withScopes own sc))
  | .setOp ⟨l, op, a, r, o, m, k⟩, sc =>
    let tail := fun sc =>
      statement true l sc ++ statement true r sc ++ order .plain o sc ++ option m sc ++ option k sc
    .statement (.setOp ⟨l, op, a, r, o, m, k⟩) sc ::
      if asOperand then tail sc
      else
        let hoisted := Walk.operandScopes r (Walk.operandScopes l sc)
        operandWiths l sc ++ operandWiths r (Walk.operandScopes l sc) ++ tail hoisted ++
          leaves (hoisted.length - sc.length) hoisted
  | .values ⟨rs, as⟩, sc => .statement (.values ⟨rs, as⟩) sc :: rows rs sc
  | .insert ⟨tb, cs, .rows rs, is⟩, sc =>
    again asOperand (.statement (.insert ⟨tb, cs, .rows rs, is⟩) sc) ++ rows rs sc ++ items is sc
  | .insert ⟨tb, cs, .query q, is⟩, sc =>
    again asOperand (.statement (.insert ⟨tb, cs, .query q, is⟩) sc) ++ statement false q sc ++
      items is sc
  | .createTable ⟨n, tm, e, cs, some q⟩, sc =>
    again asOperand (.statement (.createTable ⟨n, tm, e, cs, some q⟩) sc) ++ statement false q sc
  | .createTable ⟨n, tm, e, cs, none⟩, sc =>
    again asOperand (.statement (.createTable ⟨n, tm, e, cs, none⟩) sc)
  | .update ⟨w, tg, as, fs, f, is⟩, sc =>
    again asOperand (.statement (.update ⟨w, tg, as, fs, f, is⟩) sc) ++ withClause w sc ++
      inside (.query (tg :: fs)) (Walk.withScopes w sc)
        (fun sc => source tg sc ++ assignments as sc ++ sources fs sc ++ option f sc ++
          items is sc) ++
      leaves w.toList.length (Walk.withScopes w sc)
  | .delete ⟨w, tg, us, f, is⟩, sc =>
    again asOperand (.statement (.delete ⟨w, tg, us, f, is⟩) sc) ++ withClause w sc ++
      inside (.query (tg :: us)) (Walk.withScopes w sc)
        (fun sc => source tg sc ++ sources us sc ++ option f sc ++ items is sc) ++
      leaves w.toList.length (Walk.withScopes w sc)
end

lemma operandWiths_select (s : Select) (sc : Scopes) :
    operandWiths (.select s) sc = withClause s.withClause sc := by
  cases s
  rfl

lemma operandWiths_setOp (b : SetOperation) (sc : Scopes) :
    operandWiths (.setOp b) sc =
      operandWiths b.left sc ++ operandWiths b.right (Walk.operandScopes b.left sc) := by
  cases b
  rfl

/-- A part of a walk adds the list to what has been reported. -/
def Reports (part : Trace → Trace) (es : List Event) : Prop := ∀ t, part t = es.reverse ++ t

namespace Reports

variable {f g : Trace → Trace} {es es' : List Event}

lemma nothing : Reports (fun t => t) [] := fun _ => rfl

lemma single (e : Event) : Reports (fun t => e :: t) [e] := fun _ => rfl

lemma andThen (h : Reports f es) (h' : Reports g es') : Reports (fun t => g (f t)) (es ++ es') := by
  intro t
  change g (f t) = _
  rw [h' (f t), h t, List.reverse_append, List.append_assoc]

lemma visit (e : Event) (h : Reports f es) :
    Reports (Walk.visit (fun _ => false) e f) (e :: es) := by
  intro t
  rw [Walk.visit, if_neg Bool.false_ne_true, h, List.reverse_cons, List.append_assoc]
  rfl

lemma visitAgain (asOperand : Bool) (e : Event) (h : Reports f es)
    (hes : es' = again asOperand e ++ es) :
    Reports (Walk.visitAgain (fun _ => false) asOperand e f) es' := by
  subst hes
  cases asOperand with
  | false => exact h.visit e
  | true => exact (h.visit e).visit e

lemma inside (frame : Frame) (sc : Scopes) {body : Scopes → Trace → Trace}
    (h : Reports (body (frame :: sc)) es) :
    Reports (Walk.inside frame sc body) (Tour.inside frame sc fun _ => es) :=
  ((single (.enter frame.kind (frame :: sc))).andThen h).andThen
    (single (.leave frame.kind (frame :: sc)))

lemma leaves (n : Nat) (sc : Scopes) : Reports (Walk.leaveWiths n sc) (Tour.leaves n sc) := by
  induction n generalizing sc with
  | zero => exact nothing
  | succ n ih =>
    cases sc with
    | nil => exact nothing
    | cons f sc => exact (single (.leave f.kind (f :: sc))).andThen (ih sc)

end Reports

lemma append_front (as bs cs ds : List Event) :
    as ++ bs ++ cs ++ ds = as ++ (bs ++ cs ++ ds) := by
  simp only [List.append_assoc]

mutual
lemma reports_expr (role : Role) (sc : Scopes) : (e : Expr) →
    Reports (Walk.expr (fun _ => false) role e sc) (expr role e sc)
  | .call _ args _ f w =>
    .visit _ (((reports_exprs sc args).andThen (reports_option sc f)).andThen
      (reports_window sc w))
  | .binary l _ r => .visit _ ((reports_expr .plain sc l).andThen (reports_expr .plain sc r))
  | .unary _ e => .visit _ (reports_expr .plain sc e)
  | .tuple es => .visit _ (reports_exprs sc es)
  | .array es => .visit _ (reports_exprs sc es)
  | .inList e es _ => .visit _ ((reports_expr .plain sc e).andThen (reports_exprs sc es))
  | .case o bs e =>
    .visit _ (((reports_option sc o).andThen (reports_branches sc bs)).andThen
      (reports_option sc e))
  | .subquery q => .visit _ (.inside _ sc (reports_statement false _ q))
  | .exists q => .visit _ (.inside _ sc (reports_statement false _ q))
  | .inSubquery e q _ =>
    .visit _ ((reports_expr .plain sc e).andThen (.inside _ sc (reports_statement false _ q)))
  | .between e l h _ =>
    .visit _ (((reports_expr .plain sc e).andThen (reports_expr .plain sc l)).andThen
      (reports_expr .plain sc h))
  | .isNull e _ => .visit _ (reports_expr .plain sc e)
  | .cast e _ _ => .visit _ (reports_expr .plain sc e)
  | .nested e => .visit _ (reports_expr .plain sc e)
  | .column _ _ => .single _
  | .literal _ => .single _
  | .parameter _ _ => .single _
  | .wildcard _ => .single _
  | .raw _ => .single _
lemma reports_exprs (sc : Scopes) : (es : List Expr) →
    Reports (Walk.exprs (fun _ => false) es sc) (exprs es sc)
  | [] => .nothing
  | e :: es => (reports_expr .plain sc e).andThen (reports_exprs sc es)
lemma reports_option (sc : Scopes) : (e : Option Expr) →
    Reports (Walk.option (fun _ => false) e sc) (option e sc)
  | none => .nothing
  | some e => reports_expr .plain sc e
lemma reports_branches (sc : Scopes) : (bs : List (Expr × Expr)) →
    Reports (Walk.branches (fun _ => false) bs sc) (branches bs sc)
  | [] => .nothing
  | (c, r) :: bs =>
    ((reports_expr .plain sc c).andThen (reports_expr .plain sc r)).andThen
      (reports_branches sc bs)
lemma reports_window (sc : Scopes) : (w : Option Window) →
    Reports (Walk.window (fun _ => false) w sc) (window w sc)
  | none => .nothing
  | some ⟨_, p, o, _⟩ => (reports_exprs sc p).andThen (reports_order .plain sc o)
lemma reports_order (role : Role) (sc : Scopes) : (os : List OrderItem) →
    Reports (Walk.order (fun _ => false) role os sc) (order role os sc)
  | [] => .nothing
  | ⟨v, _, _⟩ :: os => (reports_expr role sc v).andThen (reports_order role sc os)
lemma reports_items (sc : Scopes) : (is : List SelectItem) →
    Reports (Walk.items (fun _ => false) is sc) (items is sc)
  | [] => .nothing
  | ⟨v, _⟩ :: is => (reports_expr .plain sc v).andThen (reports_items sc is)
lemma reports_source (sc : Scopes) : (s : Source) →
    Reports (Walk.source (fun _ => false) s sc) (source s sc)
  | .table _ _ _ => .single _
  | .subquery q _ _ _ => .visit _ (.inside _ sc (reports_statement false _ q))
  | .function _ args _ => .visit _ (reports_exprs sc args)
lemma reports_sources (sc : Scopes) : (ss : List Source) →
    Reports (Walk.sources (fun _ => false) ss sc) (sources ss sc)
  | [] => .nothing
  | s :: ss => (reports_source sc s).andThen (reports_sources sc ss)
lemma reports_condition (sc : Scopes) : (c : Option JoinCondition) →
    Reports (Walk.condition (fun _ => false) c sc) (condition c sc)
  | some (.predicate e) => reports_expr .plain sc e
  | some (.shared _) => .nothing
  | some .natural => .nothing
  | none => .nothing
lemma reports_joins (sc : Scopes) : (js : List Join) →
    Reports (Walk.joins (fun _ => false) js sc) (joins js sc)
  | [] => .nothing
  | ⟨_, s, c⟩ :: js =>
    ((reports_source sc s).andThen (reports_condition sc c)).andThen (reports_joins sc js)
lemma reports_rows (sc : Scopes) : (rs : List (List Expr)) →
    Reports (Walk.rows (fun _ => false) rs sc) (rows rs sc)
  | [] => .nothing
  | r :: rs => (reports_exprs sc r).andThen (reports_rows sc rs)
lemma reports_assignments (sc : Scopes) : (as : List Assignment) →
    Reports (Walk.assignments (fun _ => false) as sc) (assignments as sc)
  | [] => .nothing
  | ⟨_, v⟩ :: as => (reports_expr .plain sc v).andThen (reports_assignments sc as)
lemma reports_tables (frame : Nat → Frame) (total : Option Nat) (index : Nat) (sc : Scopes) :
    (ts : List CommonTable) →
    Reports (Walk.tables (fun _ => false) frame total index ts sc)
      (tables frame total index ts sc)
  | [] => .nothing
  | ⟨n, cs, b⟩ :: ts =>
    (Reports.visit (.table index ⟨n, cs, b⟩ (frame (total.getD index) :: sc))
      (.inside (.body n) _ (reports_statement false _ b))).andThen
      ((Reports.single (.endTable ⟨n, cs, b⟩ (frame (total.getD index) :: sc))).andThen
        (reports_tables frame total (index + 1) sc ts))
lemma reports_withClause (sc : Scopes) : (w : Option WithClause) →
    Reports (Walk.withClause (fun _ => false) w sc) (withClause w sc)
  | none => .nothing
  | some ⟨_, _⟩ => (Reports.single _).andThen (reports_tables _ _ 0 sc _)
lemma reports_operandWiths (sc : Scopes) : (s : Statement) →
    Reports (Walk.operandWiths (fun _ => false) s sc) (operandWiths s sc)
  | .select ⟨w, _, _, _, _, _, _, _, _, _, _⟩ => reports_withClause sc w
  | .setOp ⟨l, _, _, r, _, _, _⟩ =>
    (reports_operandWiths sc l).andThen (reports_operandWiths _ r)
  | .values _ => .nothing
  | .insert _ => .nothing
  | .createTable _ => .nothing
  | .update _ => .nothing
  | .delete _ => .nothing
lemma reports_statement (asOperand : Bool) (sc : Scopes) : (s : Statement) →
    Reports (Walk.statement (fun _ => false) asOperand s sc) (statement asOperand s sc)
  | .select ⟨w, d, is, fs, js, f, g, h, o, l, k⟩ => by
    have hbody : ∀ (s : Select) (sc : Scopes), Reports
        (fun t => Walk.option (fun _ => false) k sc <| Walk.option (fun _ => false) l sc <|
          Walk.order (fun _ => false) .ordering o sc <| Walk.option (fun _ => false) h sc <|
          Walk.exprs (fun _ => false) g sc <| Walk.option (fun _ => false) f sc <|
          Walk.joins (fun _ => false) js sc <| Walk.sources (fun _ => false) fs sc <|
          Walk.items (fun _ => false) is sc <| .select s sc :: t)
        (.select s sc :: (items is sc ++ sources fs sc ++ joins js sc ++ option f sc ++
          exprs g sc ++ option h sc ++ order .ordering o sc ++ option l sc ++ option k sc)) :=
      fun s sc => (Reports.single (.select s sc)).andThen
        (((((((((reports_items sc is).andThen (reports_sources sc fs)).andThen
          (reports_joins sc js)).andThen (reports_option sc f)).andThen
          (reports_exprs sc g)).andThen (reports_option sc h)).andThen
          (reports_order .ordering sc o)).andThen (reports_option sc l)).andThen
          (reports_option sc k))
    have hfront : Reports
        (fun t => if asOperand then t else Walk.withClause (fun _ => false) w sc t)
        (if asOperand then [] else withClause w sc) := by
      cases asOperand with
      | true => exact .nothing
      | false => exact reports_withClause sc w
    exact .visit _ ((hfront.andThen (.inside _ _ (hbody _ _))).andThen (.leaves _ _))
  | .setOp ⟨l, op, a, r, o, m, k⟩ => by
    have htail : ∀ sc : Scopes, Reports
        (fun t => Walk.option (fun _ => false) k sc <| Walk.option (fun _ => false) m sc <|
          Walk.order (fun _ => false) .plain o sc <|
          Walk.statement (fun _ => false) true r sc <| Walk.statement (fun _ => false) true l sc t)
        (statement true l sc ++ statement true r sc ++ order .plain o sc ++ option m sc ++
          option k sc) := fun sc =>
      ((((reports_statement true sc l).andThen (reports_statement true sc r)).andThen
        (reports_order .plain sc o)).andThen (reports_option sc m)).andThen (reports_option sc k)
    cases asOperand with
    | true => exact .visit _ (htail sc)
    | false =>
      exact .visit _ ((((reports_operandWiths sc l).andThen (reports_operandWiths _ r)).andThen
        (htail _)).andThen (.leaves _ _))
  | .values ⟨rs, _⟩ => .visit _ (reports_rows sc rs)
  | .insert ⟨_, _, .rows rs, is⟩ =>
    .visitAgain asOperand _ ((reports_rows sc rs).andThen (reports_items sc is))
      (List.append_assoc _ _ _)
  | .insert ⟨_, _, .query q, is⟩ =>
    .visitAgain asOperand _ ((reports_statement false sc q).andThen (reports_items sc is))
      (List.append_assoc _ _ _)
  | .createTable ⟨_, _, _, _, some q⟩ =>
    .visitAgain asOperand _ (reports_statement false sc q) rfl
  | .createTable ⟨_, _, _, _, none⟩ =>
    .visitAgain asOperand _ .nothing (List.append_nil _).symm
  | .update ⟨w, tg, as, fs, f, is⟩ =>
    .visitAgain asOperand _ (((reports_withClause sc w).andThen (.inside _ _
        (((((reports_source _ tg).andThen (reports_assignments _ as)).andThen
          (reports_sources _ fs)).andThen (reports_option _ f)).andThen
          (reports_items _ is)))).andThen (.leaves _ _))
      (append_front _ _ _ _)
  | .delete ⟨w, tg, us, f, is⟩ =>
    .visitAgain asOperand _ (((reports_withClause sc w).andThen (.inside _ _
        ((((reports_source _ tg).andThen (reports_sources _ us)).andThen
          (reports_option _ f)).andThen (reports_items _ is)))).andThen (.leaves _ _))
      (append_front _ _ _ _)
end

/-- What the walk of a statement adds is its tour. -/
lemma statement_eq_of_walk {asOperand : Bool} {s : Statement} {sc : Scopes} {es : List Event}
    {t : Trace} (h : Walk.statement (fun _ => false) asOperand s sc t = es.reverse ++ t) :
    statement asOperand s sc = es := by
  rw [reports_statement asOperand sc s t] at h
  exact List.reverse_inj.mp (List.append_cancel_right h)

/-- A walk that leaves nothing out reports the tour of the statement. -/
theorem trace_reverse (s : Statement) : s.trace.reverse = statement false s [] := by
  rw [Statement.trace, Statement.walk, reports_statement, List.append_nil, List.reverse_reverse]

lemma mem_trace {s : Statement} {e : Event} : e ∈ s.trace ↔ e ∈ statement false s [] := by
  rw [← trace_reverse, List.mem_reverse]

lemma source_subset_sources {e : Source} {ss : List Source} (h : e ∈ ss) (sc : Scopes) :
    source e sc ⊆ sources ss sc := by
  induction ss with
  | nil => simp at h
  | cons s ss ih =>
    rw [sources]
    rcases List.mem_cons.mp h with rfl | h
    · exact List.subset_append_left _ _
    · exact List.Subset.trans (ih h) (List.subset_append_right _ _)

lemma source_subset_joins {e : Source} {js : List Join} (h : e ∈ js.map (·.source))
    (sc : Scopes) : source e sc ⊆ joins js sc := by
  induction js with
  | nil => simp at h
  | cons j js ih =>
    obtain ⟨ty, s, c⟩ := j
    rw [joins]
    rcases List.mem_cons.mp h with rfl | h
    · exact List.Subset.trans (List.subset_append_left _ _) (List.subset_append_left _ _)
    · exact List.Subset.trans (ih h) (List.subset_append_right _ _)

/-- The walk of a select goes through its entries. -/
lemma source_subset_statement (asOperand : Bool) (s : Select) (sc : Scopes) {e : Source}
    (h : e ∈ s.sources) :
    source e (.query s.sources :: Walk.withScopes (if asOperand then none else s.withClause) sc) ⊆
      statement asOperand (.select s) sc := by
  obtain ⟨w, d, is, fs, js, f, g, hv, o, l, k⟩ := s
  intro ev hev
  rcases List.mem_append.mp h with h | h
  · simp [statement, inside, source_subset_sources h _ hev]
  · simp [statement, inside, source_subset_joins h _ hev]

end Tour

end SqlLoom
