import SqlLoom.Proofs.Walk.Contents
import SqlLoom.Statement.Exprs

/-! Binding a value to the placeholders of a name. Where every DELETE has a plain table as its
target, the values that are listed and replaced are those that a walk reports, so that every
placeholder of the name is bound and nothing else changes. -/
namespace SqlLoom

/-- Every DELETE that is reported has a plain table as its target. -/
def PlainTargets (es : List Event) : Prop :=
  ∀ d sc, .statement (.delete d) sc ∈ es → ∃ schema name a, d.target = .table schema name a

/-- A placeholder of another name keeps its value. -/
def Bound (name : String) (value : Scalar) : String → Option Scalar → Option Scalar → Prop :=
  fun n v v' => v' = if n = name then some value else v

/-- If targets are plain, the reports hold the values of a list, in some order, and `P`. -/
def Covers (es : List Event) (xs : List Expr) (P : Prop) : Prop :=
  PlainTargets es → (values es).Perm xs ∧ P

namespace Covers

variable {es es' : List Event} {xs xs' : List Expr} {P Q : Prop}

lemma nothing (h : P) : Covers [] [] P := fun _ => ⟨.nil, h⟩

lemma imp (h : Covers es xs P) (hPQ : P → Q) : Covers es xs Q := fun ht => (h ht).imp_right hPQ

lemma reorder (h : Covers es xs P) (hes : es.Perm es') (hxs : xs.Perm xs') : Covers es' xs' P := by
  intro ht
  obtain ⟨hv, hP⟩ := h fun d sc hd => ht d sc (hes.subset hd)
  exact ⟨((hes.symm.filterMap _).trans hv).trans hxs, hP⟩

lemma andThen (h : Covers es xs P) (h' : Covers es' xs' Q) :
    Covers (es ++ es') (xs ++ xs') (P ∧ Q) := by
  intro ht
  obtain ⟨hv, hP⟩ := h fun d sc hd => ht d sc (List.mem_append_left _ hd)
  obtain ⟨hv', hQ⟩ := h' fun d sc hd => ht d sc (List.mem_append_right _ hd)
  rw [values, List.filterMap_append]
  exact ⟨hv.append hv', hP, hQ⟩

lemma value (role : Role) (e : Expr) (sc : Scopes) (h : Covers es xs P) :
    Covers (.value role e sc :: es) (e :: xs) P := by
  intro ht
  obtain ⟨hv, hP⟩ := h fun d sc hd => ht d sc (List.mem_cons_of_mem _ hd)
  exact ⟨hv.cons e, hP⟩

lemma leaf (role : Role) (e : Expr) (sc : Scopes) (h : P) : Covers [.value role e sc] [e] P :=
  (nothing h).value role e sc

/-- Reports that are no values are passed over. -/
lemma silent (hes : ∀ e ∈ es, e.value? = none) : Covers es [] True := fun _ =>
  ⟨.of_eq (List.filterMap_eq_nil_iff.mpr hes), trivial⟩

lemma again (asOperand : Bool) (s : Statement) (sc : Scopes) :
    Covers (Tour.again asOperand (.statement s sc)) [] True := by
  cases asOperand <;> exact silent (by simp [Tour.again, Event.value?])

lemma node {e : Event} (he : e.value? = none) (h : Covers es xs P) : Covers (e :: es) xs P := by
  have hone : Covers [e] [] True := silent (by simpa using he)
  exact (hone.andThen h).imp And.right

lemma inside (f : Frame) (sc : Scopes) (h : Covers es xs P) :
    Covers (Tour.inside f sc fun _ => es) xs P := by
  have hleave : Covers [.leave f.kind (f :: sc)] [] True := silent (by simp [Event.value?])
  have hall := (node (e := .enter f.kind (f :: sc)) rfl h).andThen hleave
  rw [List.append_nil] at hall
  exact hall.imp And.left

lemma left (n : Nat) (sc : Scopes) (h : Covers es xs P) :
    Covers (es ++ Tour.leaves n sc) xs P := by
  have hleaves : Covers (Tour.leaves n sc) [] True := silent fun e he => by
    induction n generalizing sc with
    | zero => simp [Tour.leaves] at he
    | succ n ih =>
      cases sc with
      | nil => simp [Tour.leaves] at he
      | cons f sc =>
        rcases List.mem_cons.mp he with rfl | he
        · rfl
        · exact ih sc he
  have hall := h.andThen hleaves
  rw [List.append_nil] at hall
  exact hall.imp And.left

/-- Nothing is claimed of a DELETE with another target. -/
lemma unplain (d : Delete) (sc : Scopes) (hd : .statement (.delete d) sc ∈ es)
    (hne : ∀ schema name a, d.target ≠ .table schema name a) : Covers es xs P := by
  intro ht
  obtain ⟨schema, name, a, htarget⟩ := ht d sc hd
  exact absurd htarget (hne schema name a)

end Covers

/-- A statement, or an operand after its WITH clauses, which are walked before. -/
def Tour.standing (asOperand : Bool) (s : Statement) (before sc : Scopes) : List Event :=
  if asOperand then operandWiths s before ++ statement true s sc else statement false s sc

/-- The clauses of two operands are walked before either of them. -/
lemma perm_operands {α : Type} (w w' s s' o m k : List α) :
    ((w ++ s) ++ (w' ++ s') ++ o ++ m ++ k).Perm (w ++ w' ++ (s ++ s' ++ o ++ m ++ k)) := by
  have hmid : (s ++ w').Perm (w' ++ s) := List.perm_append_comm
  simpa only [List.append_assoc] using (hmid.append_right (s' ++ (o ++ (m ++ k)))).append_left w

namespace SetParameter

open Tour

section
variable (name : String) (bound : Scalar)

mutual
lemma covers_expr (role : Role) (sc : Scopes) : (e : Expr) →
    Covers (expr role e sc) e.exprs
      (Expr.Like (Bound name bound) e (e.mapExprs (.bind name bound)))
  | .column q n => .leaf role _ sc (.column q n)
  | .literal v => .leaf role _ sc (.literal v)
  | .parameter _ _ => .leaf role _ sc (.parameter rfl)
  | .call _ args _ f w =>
    (Covers.value role _ sc (((covers_exprs sc args).andThen (covers_option sc f)).andThen
      (covers_window sc w))).imp fun ⟨⟨hargs, hf⟩, hw⟩ => .call hargs hf hw
  | .binary l _ r =>
    (Covers.value role _ sc ((covers_expr .plain sc l).andThen (covers_expr .plain sc r))).imp
      fun ⟨hl, hr⟩ => .binary hl hr
  | .unary _ e => (Covers.value role _ sc (covers_expr .plain sc e)).imp .unary
  | .tuple es => (Covers.value role _ sc (covers_exprs sc es)).imp .tuple
  | .array es => (Covers.value role _ sc (covers_exprs sc es)).imp .array
  | .inList e es _ =>
    (Covers.value role _ sc ((covers_expr .plain sc e).andThen (covers_exprs sc es))).imp
      fun ⟨he, hes⟩ => .inList he hes
  | .wildcard q => .leaf role _ sc (.wildcard q)
  | .case o bs e =>
    (Covers.value role _ sc (((covers_option sc o).andThen (covers_branches sc bs)).andThen
      (covers_option sc e))).imp fun ⟨⟨ho, hbs⟩, he⟩ => .case ho hbs he
  | .subquery q =>
    (Covers.value role _ sc (.inside (.subquery none) sc (covers_statement false sc _ q))).imp
      .subquery
  | .exists q =>
    (Covers.value role _ sc (.inside (.subquery none) sc (covers_statement false sc _ q))).imp
      .exists
  | .inSubquery e q _ =>
    (Covers.value role _ sc ((covers_expr .plain sc e).andThen
      (.inside (.subquery none) sc (covers_statement false sc _ q)))).imp
      fun ⟨he, hq⟩ => .inSubquery he hq
  | .between e l h _ =>
    (Covers.value role _ sc (((covers_expr .plain sc e).andThen (covers_expr .plain sc l)).andThen
      (covers_expr .plain sc h))).imp fun ⟨⟨he, hl⟩, hh⟩ => .between he hl hh
  | .isNull e _ => (Covers.value role _ sc (covers_expr .plain sc e)).imp .isNull
  | .cast e _ _ => (Covers.value role _ sc (covers_expr .plain sc e)).imp .cast
  | .nested e => (Covers.value role _ sc (covers_expr .plain sc e)).imp .nested
  | .raw s => .leaf role _ sc (.raw s)
lemma covers_exprs (sc : Scopes) : (es : List Expr) →
    Covers (exprs es sc) (listExprs es)
      (List.Forall₂ (Expr.Like (Bound name bound)) es (mapList (.bind name bound) es))
  | [] => .nothing .nil
  | e :: es =>
    ((covers_expr .plain sc e).andThen (covers_exprs sc es)).imp fun ⟨he, hes⟩ => .cons he hes
lemma covers_option (sc : Scopes) : (e : Option Expr) →
    Covers (option e sc) (optionExprs e)
      (Option.Rel (Expr.Like (Bound name bound)) e (mapOption (.bind name bound) e))
  | none => .nothing .none
  | some e => (covers_expr .plain sc e).imp .some
lemma covers_branches (sc : Scopes) : (bs : List (Expr × Expr)) →
    Covers (branches bs sc) (branchExprs bs)
      (List.Forall₂ (Branch.Like (Bound name bound)) bs (mapBranches (.bind name bound) bs))
  | [] => .nothing .nil
  | (c, r) :: bs =>
    (((covers_expr .plain sc c).andThen (covers_expr .plain sc r)).andThen
      (covers_branches sc bs)).imp fun ⟨⟨hc, hr⟩, hbs⟩ => .cons (.mk hc hr) hbs
lemma covers_window (sc : Scopes) : (w : Option Window) →
    Covers (window w sc) (windowExprs w)
      (Option.Rel (Window.Like (Bound name bound)) w (mapWindow (.bind name bound) w))
  | none => .nothing .none
  | some ⟨_, p, o, _⟩ =>
    ((covers_exprs sc p).andThen (covers_order .plain sc o)).imp fun ⟨hp, ho⟩ => .some (.mk hp ho)
lemma covers_order (role : Role) (sc : Scopes) : (os : List OrderItem) →
    Covers (order role os sc) (orderExprs os)
      (List.Forall₂ (OrderItem.Like (Bound name bound)) os (mapOrder (.bind name bound) os))
  | [] => .nothing .nil
  | ⟨v, _, _⟩ :: os =>
    ((covers_expr role sc v).andThen (covers_order role sc os)).imp
      fun ⟨hv, hos⟩ => .cons (.mk hv) hos
lemma covers_items (sc : Scopes) : (is : List SelectItem) →
    Covers (items is sc) (itemExprs is)
      (List.Forall₂ (SelectItem.Like (Bound name bound)) is (mapItems (.bind name bound) is))
  | [] => .nothing .nil
  | ⟨v, _⟩ :: is =>
    ((covers_expr .plain sc v).andThen (covers_items sc is)).imp
      fun ⟨hv, his⟩ => .cons (.mk hv) his
lemma covers_source (sc : Scopes) : (x : Source) →
    Covers (source x sc) x.exprs
      (Source.Like (Bound name bound) x (x.mapExprs (.bind name bound)))
  | .table s n a => .node rfl (.nothing (.table s n a))
  | .subquery q a _ _ =>
    (Covers.node rfl (.inside (.subquery (some a)) sc (covers_statement false sc _ q))).imp
      .subquery
  | .function _ args _ => (Covers.node rfl (covers_exprs sc args)).imp .function
lemma covers_sources (sc : Scopes) : (xs : List Source) →
    Covers (sources xs sc) (sourceExprs xs)
      (List.Forall₂ (Source.Like (Bound name bound)) xs (mapEntries (.bind name bound) xs))
  | [] => .nothing .nil
  | x :: xs => ((covers_source sc x).andThen (covers_sources sc xs)).imp fun ⟨hx, hxs⟩ => .cons hx hxs
lemma covers_condition (sc : Scopes) : (c : Option JoinCondition) →
    Covers (condition c sc) (conditionExprs c)
      (Option.Rel (JoinCondition.Like (Bound name bound)) c (mapCondition (.bind name bound) c))
  | some (.predicate e) => (covers_expr .plain sc e).imp fun he => .some (.predicate he)
  | some (.shared cs) => .nothing (.some (.shared cs))
  | some .natural => .nothing (.some .natural)
  | none => .nothing .none
lemma covers_joins (sc : Scopes) : (js : List Join) →
    Covers (joins js sc) (joinExprs js)
      (List.Forall₂ (Join.Like (Bound name bound)) js (mapJoins (.bind name bound) js))
  | [] => .nothing .nil
  | ⟨_, s, c⟩ :: js =>
    (((covers_source sc s).andThen (covers_condition sc c)).andThen (covers_joins sc js)).imp
      fun ⟨⟨hs, hc⟩, hjs⟩ => .cons (.mk hs hc) hjs
lemma covers_rows (sc : Scopes) : (rs : List (List Expr)) →
    Covers (rows rs sc) (rowExprs rs)
      (List.Forall₂ (List.Forall₂ (Expr.Like (Bound name bound))) rs
        (mapRows (.bind name bound) rs))
  | [] => .nothing .nil
  | r :: rs => ((covers_exprs sc r).andThen (covers_rows sc rs)).imp fun ⟨hr, hrs⟩ => .cons hr hrs
lemma covers_assignments (sc : Scopes) : (as : List Assignment) →
    Covers (assignments as sc) (assignmentExprs as)
      (List.Forall₂ (Assignment.Like (Bound name bound)) as
        (mapAssignments (.bind name bound) as))
  | [] => .nothing .nil
  | ⟨_, v⟩ :: as =>
    ((covers_expr .plain sc v).andThen (covers_assignments sc as)).imp
      fun ⟨hv, has⟩ => .cons (.mk hv) has
lemma covers_tables (frame : Nat → Frame) (total : Option Nat) (index : Nat) (sc : Scopes) :
    (ts : List CommonTable) →
    Covers (tables frame total index ts sc) (tableExprs ts)
      (List.Forall₂ (CommonTable.Like (Bound name bound)) ts (mapTables (.bind name bound) ts))
  | [] => .nothing .nil
  | ⟨n, _, b⟩ :: ts =>
    ((Covers.node rfl (.inside (.body n) _ (covers_statement false sc _ b))).andThen
      (.node rfl (covers_tables frame total (index + 1) sc ts))).imp
      fun ⟨hb, hts⟩ => .cons (.mk hb) hts
lemma covers_withClause (sc : Scopes) : (w : Option WithClause) →
    Covers (withClause w sc) (withExprs w)
      (Option.Rel (WithClause.Like (Bound name bound)) w (mapWith (.bind name bound) w))
  | none => .nothing .none
  | some ⟨_, ts⟩ => (Covers.node rfl (covers_tables _ _ 0 sc ts)).imp fun hts => .some (.mk hts)
lemma covers_statement (asOperand : Bool) (before sc : Scopes) : (s : Statement) →
    Covers (standing asOperand s before sc) s.exprs
      (Statement.Like (Bound name bound) s (s.mapExprs (.bind name bound)))
  | .select ⟨w, d, is, fs, js, f, g, h, o, l, k⟩ => by
    have hbody := fun (s : Select) sc => Covers.node (e := .select s sc) rfl
      (((((((((covers_items sc is).andThen (covers_sources sc fs)).andThen
        (covers_joins sc js)).andThen (covers_option sc f)).andThen (covers_exprs sc g)).andThen
        (covers_option sc h)).andThen (covers_order .ordering sc o)).andThen
        (covers_option sc l)).andThen (covers_option sc k))
    have hxs : (withExprs w ++ (itemExprs is ++ sourceExprs fs ++ joinExprs js ++ optionExprs f ++
        listExprs g ++ optionExprs h ++ orderExprs o ++ optionExprs l ++ optionExprs k)).Perm
        (withExprs w ++ itemExprs is ++ sourceExprs fs ++ joinExprs js ++ optionExprs f ++
          listExprs g ++ optionExprs h ++ orderExprs o ++ optionExprs l ++ optionExprs k) :=
      .of_eq (by simp only [List.append_assoc])
    let q : Frame := .query (fs ++ js.map (·.source))
    have hwhole := fun before sc n => ((covers_withClause before w).andThen
      ((Covers.inside q sc (hbody ⟨w, d, is, fs, js, f, g, h, o, l, k⟩ (q :: sc))).left n sc)).imp
      fun ⟨hw, ⟨⟨⟨⟨⟨⟨⟨⟨his, hfs⟩, hjs⟩, hf⟩, hg⟩, hh⟩, ho⟩, hl⟩, hk⟩⟩ =>
        (.select hw his hfs hjs hf hg hh ho hl hk :
          Statement.Like _ (.select ⟨w, d, is, fs, js, f, g, h, o, l, k⟩) _)
    have hnode := fun before sc n sc' => (hwhole before sc n).node
      (e := .statement (.select ⟨w, d, is, fs, js, f, g, h, o, l, k⟩) sc') rfl
    cases asOperand with
    | true => exact (hnode before sc 0 sc).reorder List.perm_middle.symm hxs
    | false =>
      exact (hnode sc (Walk.withScopes w sc) w.toList.length sc).reorder
        (.cons _ (.of_eq (List.append_assoc _ _ _).symm)) hxs
  | .setOp ⟨l, op, a, r, o, m, k⟩ => by
    have hboth := fun before between sc =>
      (((((covers_statement true before sc l).andThen (covers_statement true between sc r)).andThen
        (covers_order .plain sc o)).andThen (covers_option sc m)).andThen
        (covers_option sc k)).imp
        fun ⟨⟨⟨⟨hl, hr⟩, ho⟩, hm⟩, hk⟩ =>
          (.setOp hl hr ho hm hk : Statement.Like _ (.setOp ⟨l, op, a, r, o, m, k⟩) _)
    have hnode := fun before between sc sc' =>
      ((hboth before between sc).reorder (perm_operands _ _ _ _ _ _ _) .rfl).node
        (e := .statement (.setOp ⟨l, op, a, r, o, m, k⟩) sc') rfl
    cases asOperand with
    | true => exact (hnode before _ sc sc).reorder List.perm_middle.symm .rfl
    | false => exact (hnode sc _ _ sc).left _ _
  | .values ⟨rs, as⟩ => by
    have h := (Covers.node (e := .statement (.values ⟨rs, as⟩) sc) rfl (covers_rows sc rs)).imp
      fun hrs => (.values hrs : Statement.Like _ (.values ⟨rs, as⟩) _)
    cases asOperand <;> exact h
  | .insert ⟨t, cs, .rows rs, is⟩ => by
    have h := (((Covers.again asOperand (.insert ⟨t, cs, .rows rs, is⟩) sc).andThen
      (covers_rows sc rs)).andThen (covers_items sc is)).imp
      fun ⟨⟨_, hrs⟩, his⟩ =>
        (.insert (.rows hrs) his : Statement.Like _ (.insert ⟨t, cs, .rows rs, is⟩) _)
    cases asOperand <;> exact h
  | .insert ⟨t, cs, .query q, is⟩ => by
    have h := (((Covers.again asOperand (.insert ⟨t, cs, .query q, is⟩) sc).andThen
      (covers_statement false sc sc q)).andThen (covers_items sc is)).imp
      fun ⟨⟨_, hq⟩, his⟩ =>
        (.insert (.query hq) his : Statement.Like _ (.insert ⟨t, cs, .query q, is⟩) _)
    cases asOperand <;> exact h
  | .createTable ⟨n, t, e, cs, some q⟩ => by
    have h := ((Covers.again asOperand (.createTable ⟨n, t, e, cs, some q⟩) sc).andThen
      (covers_statement false sc sc q)).imp
      fun ⟨_, hq⟩ =>
        (.createTable (.some hq) : Statement.Like _ (.createTable ⟨n, t, e, cs, some q⟩) _)
    cases asOperand <;> exact h
  | .createTable ⟨n, t, e, cs, none⟩ => by
    have h := (Covers.again asOperand (.createTable ⟨n, t, e, cs, none⟩) sc).imp
      fun _ => (.createTable .none : Statement.Like (Bound name bound)
        (.createTable ⟨n, t, e, cs, none⟩) (.createTable ⟨n, t, e, cs, none⟩))
    cases asOperand <;> exact h
  | .update ⟨w, t, as, fs, f, is⟩ => by
    have hbody := fun sc => ((((covers_source sc t).andThen (covers_assignments sc as)).andThen
      (covers_sources sc fs)).andThen (covers_option sc f)).andThen (covers_items sc is)
    let q : Frame := .query (t :: fs)
    have h := ((((Covers.again asOperand (.update ⟨w, t, as, fs, f, is⟩) sc).andThen
      (covers_withClause sc w)).andThen (.inside q (Walk.withScopes w sc)
        (hbody (q :: Walk.withScopes w sc)))).left w.toList.length (Walk.withScopes w sc)).imp
      fun ⟨⟨_, hw⟩, ⟨⟨⟨⟨ht, has⟩, hfs⟩, hf⟩, his⟩⟩ => Statement.Like.update hw ht has hfs hf his
    have hxs : ([] ++ withExprs w ++ (t.exprs ++ assignmentExprs as ++ sourceExprs fs ++
        optionExprs f ++ itemExprs is)).Perm
        (withExprs w ++ t.exprs ++ sourceExprs fs ++ assignmentExprs as ++ optionExprs f ++
          itemExprs is) := by
      have hmid : (assignmentExprs as ++ sourceExprs fs).Perm
          (sourceExprs fs ++ assignmentExprs as) := List.perm_append_comm
      simpa only [List.nil_append, List.append_assoc] using
        ((hmid.append_right (optionExprs f ++ itemExprs is)).append_left t.exprs).append_left
          (withExprs w)
    cases asOperand <;> exact h.reorder .rfl hxs
  | .delete ⟨w, .table n s a, us, f, is⟩ => by
    have hbody := fun sc => (((covers_source sc (.table n s a)).andThen
      (covers_sources sc us)).andThen (covers_option sc f)).andThen (covers_items sc is)
    let q : Frame := .query (.table n s a :: us)
    have h := ((((Covers.again asOperand (.delete ⟨w, .table n s a, us, f, is⟩) sc).andThen
      (covers_withClause sc w)).andThen (.inside q (Walk.withScopes w sc)
        (hbody (q :: Walk.withScopes w sc)))).left w.toList.length (Walk.withScopes w sc)).imp
      fun ⟨⟨_, hw⟩, ⟨⟨⟨ht, hus⟩, hf⟩, his⟩⟩ => Statement.Like.delete hw ht hus hf his
    have hxs : ([] ++ withExprs w ++ ([] ++ sourceExprs us ++ optionExprs f ++ itemExprs is)).Perm
        (withExprs w ++ sourceExprs us ++ optionExprs f ++ itemExprs is) :=
      .of_eq (by simp only [List.nil_append, List.append_assoc])
    cases asOperand <;> exact h.reorder .rfl hxs
  | .delete ⟨w, .subquery q a cs l, us, f, is⟩ =>
    .unplain ⟨w, .subquery q a cs l, us, f, is⟩ sc
      (by cases asOperand <;> exact List.mem_cons_self) nofun
  | .delete ⟨w, .function n args a, us, f, is⟩ =>
    .unplain ⟨w, .function n args a, us, f, is⟩ sc
      (by cases asOperand <;> exact List.mem_cons_self) nofun
end

end

end SetParameter

/-- The placeholders are found among the values. -/
lemma countP_placeholders (name : String) (es : List Event) :
    (placeholders es).countP (·.name == name) = (values es).countP (Expr.isParameter name) := by
  induction es with
  | nil => rfl
  | cons e es ih =>
    rw [placeholders_cons, values_cons, List.countP_append, List.countP_append, ih]
    cases e with
    | value _ x _ => cases x <;> simp [Report.placeholder, Event.value?, Expr.isParameter]
    | _ => simp [Report.placeholder, Event.value?]

/-- Of the placeholders, exactly those of the name get the value. -/
lemma placeholders_bound {name : String} {value : Scalar} {os os' : List Occurrence}
    (h : List.Forall₂ (Occurrence.Like (Bound name value)) os os') :
    os' = os.map fun o => if o.name = name then { o with value := some value } else o := by
  induction h with
  | nil => rfl
  | @cons o o' os os' ho _ ih =>
    obtain ⟨n, w⟩ := o
    obtain ⟨n', w'⟩ := o'
    obtain ⟨hn, hw⟩ := ho
    simp only [Bound] at hn hw
    subst hn hw
    rw [List.map_cons, ← ih]
    split <;> simp_all

/-- Where every DELETE has a plain table as its target, as many placeholders are counted as a walk
reports under the name; the placeholders of the outcome are those of the statement with exactly
these values replaced; and nothing else of the statement changes. -/
theorem Statement.parameters_setParameter (name : String) (value : Scalar) {s : Statement}
    (hs : PlainTargets s.trace) :
    (s.setParameter name value).2 = (Report.parameters s).countP (·.name == name) ∧
      Report.parameters (s.setParameter name value).1 = (Report.parameters s).map
        (fun o => if o.name = name then { o with value := some value } else o) ∧
      Statement.Like (Bound name value) s (s.setParameter name value).1 := by
  have hparameters : ∀ s, Report.parameters s = placeholders (Tour.statement false s []) :=
    fun s => by rw [Report.parameters, Tour.trace_reverse, placeholders]
  obtain ⟨hvalues, hlike⟩ := SetParameter.covers_statement name value false [] [] s
    fun d sc hd => hs d sc (Tour.mem_trace.mpr hd)
  refine ⟨?_, ?_, hlike⟩
  · rw [hparameters, countP_placeholders]
    exact (hvalues.countP_eq _).symm
  · have hbase : Scopes.Like (Bound name value) [] [] [] [] := .base
    rw [hparameters, hparameters]
    exact placeholders_bound (Tour.alongside_statement false hbase s hlike).placeholders

/-- Both operands have clauses of their own, a DELETE in one of them, and a placeholder occurs in
both and again behind LIMIT. -/
theorem Statement.parameters_setParameter_union :
    let id : Scalar := .int 7
    let old : CommonTable :=
      { name := "old"
        body := .delete
          { target := .table none "items" none
            filter := some (.binary (.column none "id") .eq (.parameter "id" none))
            returning := [{ value := .parameter "label" (some (.text "gone")) }] } }
    let left : Select :=
      { withClause := some { tables := [old] }
        items := [{ value := .wildcard none }]
        froms := [.table none "old" none] }
    let right : Select :=
      { items := [{ value := .cast (.parameter "id" (some .null)) "text" true }]
        froms := [.function "series" [.parameter "size" none] none] }
    let s : Statement := .setOp
      { left := .select left, op := .union, right := .select right
        limit := some (.parameter "id" none) }
    PlainTargets s.trace ∧ (s.setParameter "id" id).2 = 3 ∧
      Report.parameters (s.setParameter "id" id).1 =
        [⟨"id", some id⟩, ⟨"label", some (.text "gone")⟩, ⟨"id", some id⟩, ⟨"size", none⟩,
          ⟨"id", some id⟩] ∧
      Statement.Like (Bound "id" id) s (s.setParameter "id" id).1 := by
  intro id old left right s
  have hs : PlainTargets s.trace := by
    intro d sc hd
    rw [Tour.mem_trace] at hd
    simp [s, left, right, old, Tour.statement, Tour.operandWiths, Tour.withClause, Tour.tables,
      Tour.inside, Tour.items, Tour.expr, Tour.sources, Tour.source, Tour.joins, Tour.option,
      Tour.exprs, Tour.order, Tour.leaves, Tour.again, Walk.operandScopes, Walk.withScopes,
      Statement.operandWiths] at hd
    exact ⟨none, "items", none, by rw [hd.1]⟩
  obtain ⟨hcount, hparameters, hlike⟩ := parameters_setParameter "id" id hs
  refine ⟨hs, hcount.trans ?_, hparameters.trans ?_, hlike⟩
  · simp only [s, left, right, old]
    rfl
  · simp only [s, left, right, old]
    rfl

end SqlLoom
