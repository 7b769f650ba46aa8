import SqlLoom.Proofs.Statement.Trimming
import SqlLoom.Proofs.Walk.Likeness

/-! The walk of a trimmed tree reports what the walk of the whole tree reports, without the names
that have been left out. Each of these stands in the ORDER BY of a set operation, and the entries in
scope for it are those of the query around that operation. -/
namespace SqlLoom

inductive Frame.Trims : Frame → Frame → Prop
  | tables {all all'} (visible) : List.Forall₂ CommonTable.Trims all all' →
    Frame.Trims (.tables all visible) (.tables all' visible)
  | body (n) : Frame.Trims (.body n) (.body n)
  | query {ss ss'} : List.Forall₂ Source.Trims ss ss' → Frame.Trims (.query ss) (.query ss')
  | subquery (n) : Frame.Trims (.subquery n) (.subquery n)

abbrev Scopes.Trims : Scopes → Scopes → Prop := List.Forall₂ Frame.Trims

/-- The same report about a node and what is left of it. -/
inductive Event.Trims : Event → Event → Prop
  | enter (kind) {sc sc'} : Scopes.Trims sc sc' → Event.Trims (.enter kind sc) (.enter kind sc')
  | leave (kind) {sc sc'} : Scopes.Trims sc sc' → Event.Trims (.leave kind sc) (.leave kind sc')
  | statement {s s' sc sc'} : Statement.Trims s s' → Scopes.Trims sc sc' →
    Event.Trims (.statement s sc) (.statement s' sc')
  | select {s s' sc sc'} : Statement.Trims (.select s) (.select s') → Scopes.Trims sc sc' →
    Event.Trims (.select s sc) (.select s' sc')
  | table (index) {t t' sc sc'} : CommonTable.Trims t t' → Scopes.Trims sc sc' →
    Event.Trims (.table index t sc) (.table index t' sc')
  | endTable {t t' sc sc'} : CommonTable.Trims t t' → Scopes.Trims sc sc' →
    Event.Trims (.endTable t sc) (.endTable t' sc')
  | source {s s' sc sc'} : Source.Trims s s' → Scopes.Trims sc sc' →
    Event.Trims (.source s sc) (.source s' sc')
  | value (role) {e e' sc sc'} : Expr.Trims e e' → Scopes.Trims sc sc' →
    Event.Trims (.value role e sc) (.value role e' sc')

/-- An unqualified column that is left out of an ORDER BY, and the scopes it would be read in. -/
structure Omission where
  name : String
  scopes : Scopes

namespace Omission

def report (x : Omission) : Event := .value .plain (.column none x.name) x.scopes

/-- It is one of these entries, read in these scopes. -/
def Trails (os : List OrderItem) (sc : Scopes) (x : Omission) : Prop :=
  x.scopes = sc ∧ ∃ i ∈ os, i.value = .column none x.name

/-- It is an entry of a set operation that stands in some scopes, and sees the entries of the query
around that operation. -/
def Ends (b : SetOperation) (around : Scopes) (x : Omission) : Prop :=
  (∃ i ∈ b.orderBy, i.value = .column none x.name) ∧
    x.scopes.currentSources = around.currentSources

/-- It is an entry of a set operation among the reports. -/
def In (es : List Event) (x : Omission) : Prop :=
  ∃ b around, .statement (.setOp b) around ∈ es ∧ x.Ends b around

variable {x : Omission}

lemma In.subset {es fs : List Event} (hsub : es ⊆ fs) (h : x.In es) : x.In fs :=
  have ⟨b, around, hmem, hends⟩ := h
  ⟨b, around, hsub hmem, hends⟩

end Omission

/-- Reports, and the same reports without omissions. -/
inductive Thinned : List Event → List Event → List Omission → Prop
  | nil : Thinned [] [] []
  | keep {e e' es es' xs} : Event.Trims e e' → Thinned es es' xs →
    Thinned (e :: es) (e' :: es') xs
  | drop (x) {es es' xs} : Thinned es es' xs → Thinned (x.report :: es) es' (x :: xs)

lemma Thinned.append {es es' fs fs' : List Event} {xs ys : List Omission}
    (h : Thinned es es' xs) (h' : Thinned fs fs' ys) :
    Thinned (es ++ fs) (es' ++ fs') (xs ++ ys) := by
  induction h with
  | nil => exact h'
  | keep he _ ih => exact .keep he ih
  | drop x _ ih => exact .drop x ih

/-- One walk is the other without omissions, each of which is known or an entry of a set operation
in the walk. -/
def Thins (P : Omission → Prop) (es es' : List Event) : Prop :=
  ∃ xs, Thinned es es' xs ∧ ∀ x ∈ xs, P x ∨ x.In es

lemma Frame.Trims.kind_eq {f f' : Frame} (h : Frame.Trims f f') : f.kind = f'.kind := by
  cases h <;> rfl

lemma Join.Trims.sources {js js' : List Join} (h : List.Forall₂ Join.Trims js js') :
    List.Forall₂ Source.Trims (js.map (·.source)) (js'.map (·.source)) := by
  induction h with
  | nil => exact .nil
  | cons hj _ ih =>
    obtain ⟨hs, _⟩ := hj
    exact .cons hs ih

lemma Statement.Trims.operandWiths : {s s' : Statement} → Statement.Trims s s' →
    List.Forall₂ WithClause.Trims s.operandWiths s'.operandWiths
  | .select _, _, .select hw _ _ _ _ _ _ _ _ _ => forall₂_toList hw
  | .setOp _, _, .setOp hl hr _ _ _ => List.rel_append (Trims.operandWiths hl) (Trims.operandWiths hr)
  | .values _, _, .values _ => .nil
  | .insert _, _, .insert _ _ => .nil
  | .createTable _, _, .createTable _ => .nil
  | .update _, _, .update _ _ _ _ _ _ => .nil
  | .delete _, _, .delete _ _ _ _ _ => .nil

lemma WithClause.Trims.after {w w' : WithClause} (h : WithClause.Trims w w') :
    Frame.Trims w.after w'.after := by
  obtain ⟨hts⟩ := h
  have hlen := hts.length_eq
  simp only [WithClause.after, hlen]
  exact .tables _ hts

namespace Scopes

variable {sc sc' : Scopes}

lemma currentSources_within (ws : List WithClause) (sc : Scopes) :
    (within ws sc).currentSources = sc.currentSources := by
  induction ws generalizing sc with
  | nil => rfl
  | cons w ws ih => exact ih (w.after :: sc)

lemma currentSources_operandScopes (s : Statement) (sc : Scopes) :
    (Walk.operandScopes s sc).currentSources = sc.currentSources :=
  currentSources_within s.operandWiths sc

lemma Trims.within {ws ws' : List WithClause} (hws : List.Forall₂ WithClause.Trims ws ws')
    (h : Trims sc sc') : Trims (Scopes.within ws sc) (Scopes.within ws' sc') := by
  induction hws generalizing sc sc' with
  | nil => exact h
  | cons hw _ ih => exact ih (.cons hw.after h)

lemma Trims.withScopes {w w' : Option WithClause} (hw : Option.Rel WithClause.Trims w w')
    (h : Trims sc sc') : Trims (Walk.withScopes w sc) (Walk.withScopes w' sc') := by
  rw [Walk.withScopes_eq, Walk.withScopes_eq]
  exact within (forall₂_toList hw) h

lemma Trims.operandScopes {s s' : Statement} (hs : s.Trims s') (h : Trims sc sc') :
    Trims (Walk.operandScopes s sc) (Walk.operandScopes s' sc') :=
  within hs.operandWiths h

end Scopes

section
variable {P : Omission → Prop} {sc sc' : Scopes}

namespace Thins

variable {es es' fs fs' : List Event}

lemma nothing : Thins P [] [] := ⟨[], .nil, by simp⟩

lemma mono {Q : Omission → Prop} (h : Thins P es es') (hPQ : ∀ x, P x → Q x) : Thins Q es es' :=
  have ⟨xs, ht, hxs⟩ := h
  ⟨xs, ht, fun x hx => (hxs x hx).imp_left (hPQ x)⟩

lemma known {Q : Omission → Prop} (h : Thins P es es') : Thins (fun x => P x ∨ Q x) es es' :=
  h.mono fun _ => .inl

lemma later {os : List OrderItem} (i : OrderItem)
    (h : Thins (fun x => P x ∨ x.Trails os sc) es es') :
    Thins (fun x => P x ∨ x.Trails (i :: os) sc) es es' :=
  h.mono fun _ => Or.imp_right fun ⟨hsc, i', hi, hv⟩ => ⟨hsc, i', List.mem_cons_of_mem _ hi, hv⟩

lemma cons {e e' : Event} (he : Event.Trims e e') (h : Thins P es es') :
    Thins P (e :: es) (e' :: es') := by
  obtain ⟨xs, ht, hxs⟩ := h
  exact ⟨xs, .keep he ht, fun x hx => (hxs x hx).imp_right (.subset (List.subset_cons_self _ _))⟩

lemma drop {os : List OrderItem} (name : String) (a n : Option Bool)
    (h : Thins (fun x => P x ∨ x.Trails os sc) es es') :
    Thins (fun x => P x ∨ x.Trails (⟨.column none name, a, n⟩ :: os) sc)
      (.value .plain (.column none name) sc :: es) es' := by
  obtain ⟨xs, ht, hxs⟩ := h.later ⟨.column none name, a, n⟩
  refine ⟨⟨name, sc⟩ :: xs, .drop ⟨name, sc⟩ ht, fun y hy => ?_⟩
  rcases List.mem_cons.mp hy with rfl | hy
  · exact .inl (.inr ⟨rfl, _, List.mem_cons_self, rfl⟩)
  · exact (hxs y hy).imp_right (.subset (List.subset_cons_self _ _))

lemma append (h : Thins P es es') (h' : Thins P fs fs') : Thins P (es ++ fs) (es' ++ fs') := by
  obtain ⟨xs, ht, hxs⟩ := h
  obtain ⟨ys, ht', hys⟩ := h'
  refine ⟨xs ++ ys, ht.append ht', fun x hx => ?_⟩
  rcases List.mem_append.mp hx with hx | hx
  · exact (hxs x hx).imp_right (.subset (List.subset_append_left _ _))
  · exact (hys x hx).imp_right (.subset (List.subset_append_right _ _))

/-- An entry of the set operation that is reported first is among the reports. -/
lemma operation {b : SetOperation} {s' : Statement} (hs : Statement.Trims (.setOp b) s')
    (hsc : Scopes.Trims sc sc') (h : Thins (fun x => P x ∨ x.Ends b sc) es es') :
    Thins P (.statement (.setOp b) sc :: es) (.statement s' sc' :: es') := by
  obtain ⟨xs, ht, hxs⟩ := h
  refine ⟨xs, .keep (.statement hs hsc) ht, fun x hx => ?_⟩
  rcases hxs x hx with (hx | hx) | hx
  · exact .inl hx
  · exact .inr ⟨b, sc, List.mem_cons_self, hx⟩
  · exact .inr (hx.subset (List.subset_cons_self _ _))

lemma single {e e' : Event} (h : Event.Trims e e') : Thins P [e] [e'] := cons h nothing

lemma inside {f f' : Frame} {body body' : Scopes → List Event} (hf : Frame.Trims f f')
    (hsc : Scopes.Trims sc sc') (h : Thins P (body (f :: sc)) (body' (f' :: sc'))) :
    Thins P (Tour.inside f sc body) (Tour.inside f' sc' body') := by
  have hin : Scopes.Trims (f :: sc) (f' :: sc') := .cons hf hsc
  simp only [Tour.inside, ← hf.kind_eq]
  exact cons (.enter _ hin) (h.append (single (.leave _ hin)))

lemma leaves {ws ws' : List WithClause} (hws : List.Forall₂ WithClause.Trims ws ws')
    (hsc : Scopes.Trims sc sc') :
    Thins P (Tour.leaves ws.length (Scopes.within ws sc))
      (Tour.leaves ws'.length (Scopes.within ws' sc')) := by
  induction hws generalizing sc sc' with
  | nil => exact nothing
  | @cons w w' ws ws' hw _ ih =>
    have hin : Scopes.Trims (w.after :: sc) (w'.after :: sc') := .cons hw.after hsc
    change Thins P (Tour.leaves (ws.length + 1) (Scopes.within ws (w.after :: sc)))
      (Tour.leaves (ws'.length + 1) (Scopes.within ws' (w'.after :: sc')))
    rw [Tour.leaves_within_succ, Tour.leaves_within_succ]
    exact (ih hin).append (single (.leave _ hin))

lemma leavesWith {w w' : Option WithClause} (hw : Option.Rel WithClause.Trims w w')
    (hsc : Scopes.Trims sc sc') :
    Thins P (Tour.leaves w.toList.length (Walk.withScopes w sc))
      (Tour.leaves w'.toList.length (Walk.withScopes w' sc')) := by
  rw [Walk.withScopes_eq, Walk.withScopes_eq]
  exact leaves (forall₂_toList hw) hsc

lemma leavesOperands {l l' r r' : Statement} (hl : l.Trims l') (hr : r.Trims r')
    (hsc : Scopes.Trims sc sc') :
    Thins P
      (Tour.leaves ((Walk.operandScopes r (Walk.operandScopes l sc)).length - sc.length)
        (Walk.operandScopes r (Walk.operandScopes l sc)))
      (Tour.leaves ((Walk.operandScopes r' (Walk.operandScopes l' sc')).length - sc'.length)
        (Walk.operandScopes r' (Walk.operandScopes l' sc'))) := by
  have hboth : ∀ (l r : Statement) (sc : Scopes), Walk.operandScopes r (Walk.operandScopes l sc) =
      Scopes.within (l.operandWiths ++ r.operandWiths) sc := fun l r sc => by
    rw [Scopes.within, List.foldl_append]
    rfl
  simp only [hboth, Scopes.length_within, Nat.add_sub_cancel]
  exact leaves (List.rel_append hl.operandWiths hr.operandWiths) hsc

lemma again (asOperand : Bool) {e e' : Event} (h : Event.Trims e e') :
    Thins P (Tour.again asOperand e) (Tour.again asOperand e') := by
  cases asOperand with
  | false => exact single h
  | true => exact cons h (single h)

end Thins

namespace Tour

mutual
lemma thins_expr (role : Role) {sc sc' : Scopes} (hsc : Scopes.Trims sc sc') :
    (x : Expr) → {y : Expr} → Expr.Trims x y →
    Thins P (expr role x sc) (expr role y sc')
  | .column _ _, _, .column q n => .single (.value role (.column q n) hsc)
  | .literal _, _, .literal v => .single (.value role (.literal v) hsc)
  | .parameter _ _, _, .parameter n v => .single (.value role (.parameter n v) hsc)
  | .call _ args _ f w, _, .call hargs hf hw =>
    .cons (.value role (.call hargs hf hw) hsc)
      (((thins_exprs hsc args hargs).append (thins_option hsc f hf)).append
        (thins_window hsc w hw))
  | .binary l _ r, _, .binary hl hr =>
    .cons (.value role (.binary hl hr) hsc)
      ((thins_expr .plain hsc l hl).append (thins_expr .plain hsc r hr))
  | .unary _ e, _, .unary he =>
    .cons (.value role (.unary he) hsc) (thins_expr .plain hsc e he)
  | .tuple es, _, .tuple hes => .cons (.value role (.tuple hes) hsc) (thins_exprs hsc es hes)
  | .array es, _, .array hes => .cons (.value role (.array hes) hsc) (thins_exprs hsc es hes)
  | .inList e es _, _, .inList he hes =>
    .cons (.value role (.inList he hes) hsc)
      ((thins_expr .plain hsc e he).append (thins_exprs hsc es hes))
  | .wildcard _, _, .wildcard q => .single (.value role (.wildcard q) hsc)
  | .case o bs e, _, .case ho hbs he =>
    .cons (.value role (.case ho hbs he) hsc)
      (((thins_option hsc o ho).append (thins_branches hsc bs hbs)).append
        (thins_option hsc e he))
  | .subquery q, _, .subquery hq =>
    .cons (.value role (.subquery hq) hsc)
      (Thins.inside (.subquery none) hsc (thins_statement false (.cons (.subquery none) hsc) q hq))
  | .exists q, _, .exists hq =>
    .cons (.value role (.exists hq) hsc)
      (Thins.inside (.subquery none) hsc (thins_statement false (.cons (.subquery none) hsc) q hq))
  | .inSubquery e q _, _, .inSubquery he hq =>
    .cons (.value role (.inSubquery he hq) hsc)
      ((thins_expr .plain hsc e he).append (Thins.inside (.subquery none) hsc
        (thins_statement false (.cons (.subquery none) hsc) q hq)))
  | .between e l h _, _, .between he hl hh =>
    .cons (.value role (.between he hl hh) hsc)
      (((thins_expr .plain hsc e he).append (thins_expr .plain hsc l hl)).append
        (thins_expr .plain hsc h hh))
  | .isNull e _, _, .isNull he =>
    .cons (.value role (.isNull he) hsc) (thins_expr .plain hsc e he)
  | .cast e _ _, _, .cast he =>
    .cons (.value role (.cast he) hsc) (thins_expr .plain hsc e he)
  | .nested e, _, .nested he =>
    .cons (.value role (.nested he) hsc) (thins_expr .plain hsc e he)
  | .raw _, _, .raw s => .single (.value role (.raw s) hsc)
termination_by structural x => x
lemma thins_exprs {sc sc' : Scopes} (hsc : Scopes.Trims sc sc') :
    (xs : List Expr) → {ys : List Expr} → List.Forall₂ Expr.Trims xs ys →
    Thins P (exprs xs sc) (exprs ys sc')
  | [], _, .nil => .nothing
  | x :: xs, _, .cons h hs => (thins_expr .plain hsc x h).append (thins_exprs hsc xs hs)
termination_by structural xs => xs
lemma thins_option {sc sc' : Scopes} (hsc : Scopes.Trims sc sc') :
    (x : Option Expr) → {y : Option Expr} → Option.Rel Expr.Trims x y →
    Thins P (option x sc) (option y sc')
  | none, _, .none => .nothing
  | some x, _, .some h => thins_expr .plain hsc x h
termination_by structural x => x
lemma thins_branches {sc sc' : Scopes} (hsc : Scopes.Trims sc sc') :
    (xs : List (Expr × Expr)) → {ys : List (Expr × Expr)} → List.Forall₂ Branch.Trims xs ys →
    Thins P (branches xs sc) (branches ys sc')
  | [], _, .nil => .nothing
  | (c, r) :: xs, _, .cons (.mk hc hr) hs =>
    ((thins_expr .plain hsc c hc).append (thins_expr .plain hsc r hr)).append
      (thins_branches hsc xs hs)
termination_by structural xs => xs
lemma thins_window {sc sc' : Scopes} (hsc : Scopes.Trims sc sc') :
    (x : Option Window) → {y : Option Window} → Option.Rel Window.Trims x y →
    Thins P (window x sc) (window y sc')
  | none, _, .none => .nothing
  | some ⟨_, p, o, _⟩, _, .some (.mk hp ho) =>
    (thins_exprs hsc p hp).append (thins_order .plain hsc o ho)
termination_by structural x => x
lemma thins_order (role : Role) {sc sc' : Scopes} (hsc : Scopes.Trims sc sc') :
    (xs : List OrderItem) → {ys : List OrderItem} → List.Forall₂ OrderItem.Trims xs ys →
    Thins P (order role xs sc) (order role ys sc')
  | [], _, .nil => .nothing
  | ⟨v, _, _⟩ :: xs, _, .cons (.mk hv) hs =>
    (thins_expr role hsc v hv).append (thins_order role hsc xs hs)
termination_by structural xs => xs
lemma thins_trailing {sc sc' : Scopes} (hsc : Scopes.Trims sc sc') :
    (xs : List OrderItem) → {ys : List OrderItem} → Trailing.Trims xs ys →
    Thins (fun x => P x ∨ x.Trails xs sc) (order .plain xs sc) (order .plain ys sc')
  | [], _, .nil => .nothing
  | ⟨v, _, _⟩ :: xs, _, .keep (.mk hv) hs =>
    (thins_expr .plain hsc v hv).known.append
      ((thins_trailing hsc xs hs).later _)
  | _ :: xs, _, .drop name a n hs => .drop name a n (thins_trailing hsc xs hs)
termination_by structural xs => xs
lemma thins_items {sc sc' : Scopes} (hsc : Scopes.Trims sc sc') :
    (xs : List SelectItem) → {ys : List SelectItem} → List.Forall₂ SelectItem.Trims xs ys →
    Thins P (items xs sc) (items ys sc')
  | [], _, .nil => .nothing
  | ⟨v, _⟩ :: xs, _, .cons (.mk hv) hs =>
    (thins_expr .plain hsc v hv).append (thins_items hsc xs hs)
termination_by structural xs => xs
lemma thins_source {sc sc' : Scopes} (hsc : Scopes.Trims sc sc') :
    (x : Source) → {y : Source} → Source.Trims x y →
    Thins P (source x sc) (source y sc')
  | .table _ _ _, _, .table s n a => .single (.source (.table s n a) hsc)
  | .subquery q a _ _, _, .subquery hq =>
    .cons (.source (.subquery hq) hsc) (Thins.inside (.subquery (some a)) hsc
      (thins_statement false (.cons (.subquery (some a)) hsc) q hq))
  | .function _ args _, _, .function hargs =>
    .cons (.source (.function hargs) hsc) (thins_exprs hsc args hargs)
termination_by structural x => x
lemma thins_sources {sc sc' : Scopes} (hsc : Scopes.Trims sc sc') :
    (xs : List Source) → {ys : List Source} → List.Forall₂ Source.Trims xs ys →
    Thins P (sources xs sc) (sources ys sc')
  | [], _, .nil => .nothing
  | x :: xs, _, .cons h hs => (thins_source hsc x h).append (thins_sources hsc xs hs)
termination_by structural xs => xs
lemma thins_condition {sc sc' : Scopes} (hsc : Scopes.Trims sc sc') :
    (x : Option JoinCondition) → {y : Option JoinCondition} →
    Option.Rel JoinCondition.Trims x y →
    Thins P (condition x sc) (condition y sc')
  | none, _, .none => .nothing
  | some (.predicate e), _, .some (.predicate he) => thins_expr .plain hsc e he
  | some (.shared _), _, .some (.shared _) => .nothing
  | some .natural, _, .some .natural => .nothing
termination_by structural x => x
lemma thins_joins {sc sc' : Scopes} (hsc : Scopes.Trims sc sc') :
    (xs : List Join) → {ys : List Join} → List.Forall₂ Join.Trims xs ys →
    Thins P (joins xs sc) (joins ys sc')
  | [], _, .nil => .nothing
  | ⟨_, s, c⟩ :: xs, _, .cons (.mk hs hc) h =>
    ((thins_source hsc s hs).append (thins_condition hsc c hc)).append
      (thins_joins hsc xs h)
termination_by structural xs => xs
lemma thins_rows {sc sc' : Scopes} (hsc : Scopes.Trims sc sc') :
    (xs : List (List Expr)) → {ys : List (List Expr)} →
    List.Forall₂ (List.Forall₂ Expr.Trims) xs ys →
    Thins P (rows xs sc) (rows ys sc')
  | [], _, .nil => .nothing
  | x :: xs, _, .cons h hs => (thins_exprs hsc x h).append (thins_rows hsc xs hs)
termination_by structural xs => xs
lemma thins_assignments {sc sc' : Scopes} (hsc : Scopes.Trims sc sc') :
    (xs : List Assignment) → {ys : List Assignment} → List.Forall₂ Assignment.Trims xs ys →
    Thins P (assignments xs sc) (assignments ys sc')
  | [], _, .nil => .nothing
  | ⟨_, v⟩ :: xs, _, .cons (.mk hv) hs =>
    (thins_expr .plain hsc v hv).append (thins_assignments hsc xs hs)
termination_by structural xs => xs
lemma thins_tables {frame frame' : Nat → Frame} (hframe : ∀ n, Frame.Trims (frame n) (frame' n))
    (total : Option Nat) (index : Nat) {sc sc' : Scopes} (hsc : Scopes.Trims sc sc') :
    (xs : List CommonTable) → {ys : List CommonTable} → List.Forall₂ CommonTable.Trims xs ys →
    Thins P (tables frame total index xs sc) (tables frame' total index ys sc')
  | [], _, .nil => .nothing
  | ⟨n, _, b⟩ :: xs, _, .cons (.mk hb) hs =>
    have hin : Scopes.Trims (frame (total.getD index) :: sc)
        (frame' (total.getD index) :: sc') := .cons (hframe _) hsc
    (Thins.cons (.table index (.mk hb) hin) (Thins.inside (.body n) hin
      (thins_statement false (.cons (.body n) hin) b hb))).append
      (.cons (.endTable (.mk hb) hin) (thins_tables hframe total (index + 1) hsc xs hs))
termination_by structural xs => xs
lemma thins_withClause {sc sc' : Scopes} (hsc : Scopes.Trims sc sc') :
    (x : Option WithClause) → {y : Option WithClause} → Option.Rel WithClause.Trims x y →
    Thins P (withClause x sc) (withClause y sc')
  | none, _, .none => .nothing
  | some ⟨r, ts⟩, some ⟨_, ts'⟩, .some (.mk hts) => by
    have hlen := hts.length_eq
    have hall := thins_tables (fun n => .tables n hts)
      (if r then some ts.length else none) 0 hsc ts hts
    simp only [withClause, ← hlen]
    exact .cons (.enter _ (.cons (.tables 0 hts) hsc)) hall
termination_by structural x => x
lemma thins_operandWiths {sc sc' : Scopes} (hsc : Scopes.Trims sc sc') :
    (x : Statement) → {y : Statement} → Statement.Trims x y →
    Thins P (operandWiths x sc) (operandWiths y sc')
  | .select ⟨w, _, _, _, _, _, _, _, _, _, _⟩, _, .select hw _ _ _ _ _ _ _ _ _ =>
    thins_withClause hsc w hw
  | .setOp ⟨l, _, _, r, _, _, _⟩, _, .setOp hl hr _ _ _ =>
    (thins_operandWiths hsc l hl).append (thins_operandWiths (Scopes.Trims.operandScopes hl hsc) r hr)
  | .values _, _, .values _ => .nothing
  | .insert _, _, .insert _ _ => .nothing
  | .createTable _, _, .createTable _ => .nothing
  | .update _, _, .update _ _ _ _ _ _ => .nothing
  | .delete _, _, .delete _ _ _ _ _ => .nothing
termination_by structural x => x
/-- Like trees are walked alike. -/
lemma thins_statement (asOperand : Bool) {sc sc' : Scopes}
    (hsc : Scopes.Trims sc sc') : (x : Statement) → {y : Statement} →
    Statement.Trims x y →
    Thins P (statement asOperand x sc) (statement asOperand y sc')
  | .select ⟨w, d, is, fs, js, f, g, h, o, l, k⟩, .select ⟨w', _, is', fs', js', f', g', h', o', l', k'⟩,
      .select hw his hfs hjs hf hg hh ho hl hk => by
    have hs : Statement.Trims (.select ⟨w, d, is, fs, js, f, g, h, o, l, k⟩)
        (.select ⟨w', d, is', fs', js', f', g', h', o', l', k'⟩) :=
      .select hw his hfs hjs hf hg hh ho hl hk
    have hq : Frame.Trims (.query (fs ++ js.map (·.source))) (.query (fs' ++ js'.map (·.source))) :=
      .query (List.rel_append hfs (Join.Trims.sources hjs))
    have hbody : ∀ {sc sc' : Scopes}, Scopes.Trims sc sc' →
        Thins P
          (.select ⟨w, d, is, fs, js, f, g, h, o, l, k⟩ sc :: (items is sc ++ sources fs sc ++
            joins js sc ++ option f sc ++ exprs g sc ++ option h sc ++ order .ordering o sc ++
            option l sc ++ option k sc))
          (.select ⟨w', d, is', fs', js', f', g', h', o', l', k'⟩ sc' :: (items is' sc' ++
            sources fs' sc' ++ joins js' sc' ++ option f' sc' ++ exprs g' sc' ++ option h' sc' ++
            order .ordering o' sc' ++ option l' sc' ++ option k' sc')) := fun hsc =>
      .cons (.select hs hsc) (((((((((thins_items hsc is his).append
        (thins_sources hsc fs hfs)).append (thins_joins hsc js hjs)).append
        (thins_option hsc f hf)).append (thins_exprs hsc g hg)).append
        (thins_option hsc h hh)).append (thins_order .ordering hsc o ho)).append
        (thins_option hsc l hl)).append (thins_option hsc k hk))
    cases asOperand with
    | true => exact .cons (.statement hs hsc) (((Thins.nothing.append
        (Thins.inside hq hsc (hbody (.cons hq hsc)))).append .nothing))
    | false =>
      have hin := Scopes.Trims.withScopes hw hsc
      exact .cons (.statement hs hsc) (((thins_withClause hsc w hw).append
        (Thins.inside hq hin (hbody (.cons hq hin)))).append (.leavesWith hw hsc))
  | .setOp ⟨l, op, a, r, o, m, k⟩, .setOp ⟨l', _, _, r', o', m', k'⟩, .setOp hl hr ho hm hk => by
    have hs : Statement.Trims (.setOp ⟨l, op, a, r, o, m, k⟩)
        (.setOp ⟨l', op, a, r', o', m', k'⟩) := .setOp hl hr ho hm hk
    -- The names that this ORDER BY loses are known to stand in it before the operation is reported.
    have htail : ∀ {inner inner' : Scopes}, Scopes.Trims inner inner' →
        inner.currentSources = sc.currentSources →
        Thins (fun x => P x ∨ x.Ends ⟨l, op, a, r, o, m, k⟩ sc)
          (statement true l inner ++ statement true r inner ++ order .plain o inner ++
            option m inner ++ option k inner)
          (statement true l' inner' ++ statement true r' inner' ++ order .plain o' inner' ++
            option m' inner' ++ option k' inner') := fun hin hcurrent =>
      have ho := (thins_trailing hin o ho).mono fun _ => Or.imp_right fun ⟨hsc, hmem⟩ =>
        ⟨hmem, hsc ▸ hcurrent⟩
      ((((thins_statement true hin l hl).append (thins_statement true hin r hr)).known.append
        ho).append (thins_option hin m hm).known).append (thins_option hin k hk).known
    cases asOperand with
    | true => exact .operation hs hsc (htail hsc rfl)
    | false =>
      have hin := Scopes.Trims.operandScopes hr (Scopes.Trims.operandScopes hl hsc)
      have hcurrent := (Scopes.currentSources_operandScopes r _).trans
        (Scopes.currentSources_operandScopes l sc)
      exact .operation hs hsc ((((thins_operandWiths hsc l hl).append
        (thins_operandWiths (Scopes.Trims.operandScopes hl hsc) r hr)).known.append
        (htail hin hcurrent)).append (Thins.leavesOperands hl hr hsc))
  | .values ⟨rs, _⟩, _, .values hrs =>
    .cons (.statement (.values hrs) hsc) (thins_rows hsc rs hrs)
  | .insert ⟨_, _, .rows rs, is⟩, _, .insert (.rows hrs) his =>
    ((Thins.again asOperand (.statement (.insert (.rows hrs) his) hsc)).append
      (thins_rows hsc rs hrs)).append (thins_items hsc is his)
  | .insert ⟨_, _, .query q, is⟩, _, .insert (.query hq) his =>
    ((Thins.again asOperand (.statement (.insert (.query hq) his) hsc)).append
      (thins_statement false hsc q hq)).append (thins_items hsc is his)
  | .createTable ⟨_, _, _, _, some q⟩, _, .createTable (.some hq) =>
    (Thins.again asOperand (.statement (.createTable (.some hq)) hsc)).append
      (thins_statement false hsc q hq)
  | .createTable ⟨_, _, _, _, none⟩, _, .createTable .none =>
    .again asOperand (.statement (.createTable .none) hsc)
  | .update ⟨w, t, as, fs, f, is⟩, _, .update hw ht has hfs hf his =>
    have hin := Scopes.Trims.withScopes hw hsc
    have hq : Frame.Trims _ _ := .query (.cons ht hfs)
    have hbody : Scopes.Trims _ _ := .cons hq hin
    (((Thins.again asOperand (.statement (.update hw ht has hfs hf his) hsc)).append
      (thins_withClause hsc w hw)).append (Thins.inside hq hin
        (((((thins_source hbody t ht).append (thins_assignments hbody as has)).append
          (thins_sources hbody fs hfs)).append (thins_option hbody f hf)).append
          (thins_items hbody is his)))).append (.leavesWith hw hsc)
  | .delete ⟨w, t, us, f, is⟩, _, .delete hw ht hus hf his =>
    have hin := Scopes.Trims.withScopes hw hsc
    have hq : Frame.Trims _ _ := .query (.cons ht hus)
    have hbody : Scopes.Trims _ _ := .cons hq hin
    (((Thins.again asOperand (.statement (.delete hw ht hus hf his) hsc)).append
      (thins_withClause hsc w hw)).append (Thins.inside hq hin
        ((((thins_source hbody t ht).append (thins_sources hbody us hus)).append
          (thins_option hbody f hf)).append (thins_items hbody is his)))).append
      (.leavesWith hw hsc)
termination_by structural x => x
end

end Tour

end

/-- The walk of a trimmed statement lacks nothing but names of ORDER BYs of set operations. -/
theorem Statement.Trims.thinned {s s' : Statement} (h : s.Trims s') :
    ∃ xs, Thinned s.trace.reverse s'.trace.reverse xs ∧ ∀ x ∈ xs, x.In s.trace := by
  obtain ⟨xs, hthin, hxs⟩ := Tour.thins_statement (P := fun _ => False) false .nil s h
  rw [Tour.trace_reverse, Tour.trace_reverse]
  refine ⟨xs, hthin, fun x hx => ?_⟩
  obtain hno | hin := hxs x hx
  · exact hno.elim
  · exact hin.subset fun e he => Tour.mem_trace.mpr he

end SqlLoom
