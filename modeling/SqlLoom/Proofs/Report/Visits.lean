import SqlLoom.Proofs.Report.Expansion
import SqlLoom.Proofs.Walk.Tour

/-! A search for output columns stays on the ground of the walk: wherever it looks up a name, the
walk reports the entry with that name in the same scopes. -/
namespace SqlLoom

namespace Statement

/-- The WITH clauses in front of a statement. -/
def clauses : Statement → List WithClause
  | .update u => u.withClause.toList
  | .delete d => d.withClause.toList
  | s => s.operandWiths

end Statement

variable (T : List Event)

/-- The walk goes through the body of the table. -/
def Declared.Toured (t : Declared) : Prop := Tour.statement false t.table.body t.inner ⊆ T

/-- The walk goes on to the entries of a select, and goes through the tables in scope. -/
def Event.Settled : Event → Prop
  | .select s sc => (∃ below, sc = .query s.sources :: below) ∧
      (∀ t ∈ sc.declared, t.Toured T) ∧ ∀ e ∈ s.sources, Tour.source e sc ⊆ T
  | _ => True

/-- Every clause in front of a statement that the walk reports is a plain one. -/
def PlainClauses : Prop :=
  ∀ q sc, .statement q sc ∈ T → ∀ w ∈ q.clauses, w.recursive = false

/-- The reports of a part of a statement are settled, if they are among those of the walk. -/
def Settles (sc : Scopes) (es : List Event) : Prop :=
  PlainClauses T → es ⊆ T → (∀ t ∈ sc.declared, t.Toured T) → ∀ e ∈ es, e.Settled T

variable {T}

namespace Settles

variable {sc : Scopes} {e : Event} {es es' : List Event}

lemma of_subset (h : PlainClauses T → es ⊆ T → Settles T sc es) : Settles T sc es :=
  fun hp hT => h hp hT hp hT

lemma nil : Settles T sc [] := fun _ _ _ _ h => absurd h List.not_mem_nil

lemma append (h : Settles T sc es) (h' : Settles T sc es') : Settles T sc (es ++ es') := by
  intro hp hT hd e he
  rw [List.append_subset] at hT
  exact (List.mem_append.mp he).elim (h hp hT.1 hd e) (h' hp hT.2 hd e)

lemma cons (he : e.Settled T) (h : Settles T sc es) : Settles T sc (e :: es) := by
  intro hp hT hd
  exact List.forall_mem_cons.mpr ⟨he, h hp (List.cons_subset.mp hT).2 hd⟩

lemma inside {f : Frame} {body : Scopes → List Event}
    (hf : Scopes.declared (f :: sc) = sc.declared) (h : Settles T (f :: sc) (body (f :: sc))) :
    Settles T sc (Tour.inside f sc body) := by
  have hall : Settles T (f :: sc) (Tour.inside f sc body) := by
    refine append (cons ?_ h) (cons ?_ nil) <;> trivial
  intro hp hT hd
  rw [← hf] at hd
  exact hall hp hT hd

/-- What comes after a clause sees its tables. -/
lemma after {sc' : Scopes} (h : Settles T sc es)
    (hd : es ⊆ T → ∀ t ∈ sc'.declared, t ∈ sc.declared ∨ t.Toured T) (h' : Settles T sc' es') :
    Settles T sc (es ++ es') := by
  intro hp hT hsc e he
  rw [List.append_subset] at hT
  refine (List.mem_append.mp he).elim (h hp hT.1 hsc e) (h' hp hT.2 (fun t ht => ?_) e)
  exact (hd hT.1 t ht).elim (hsc t) id

/-- A select is settled where the walk goes on to its entries. -/
lemma select {s : Select} {below : Scopes} (hs : ∀ e ∈ s.sources,
    Tour.source e (.query s.sources :: below) ⊆ T) (h : Settles T (.query s.sources :: below) es) :
    Settles T (.query s.sources :: below) (.select s (.query s.sources :: below) :: es) := by
  intro hp hT hd
  refine List.forall_mem_cons.mpr ⟨⟨⟨below, rfl⟩, hd, hs⟩, ?_⟩
  exact h hp (List.cons_subset.mp hT).2 hd

lemma again (asOperand : Bool) (s : Statement) :
    Settles T sc (Tour.again asOperand (.statement s sc)) := by
  cases asOperand
  · exact cons trivial nil
  · exact cons trivial (cons trivial nil)

lemma leaves (n : Nat) (scopes : Scopes) : Settles T sc (Tour.leaves n scopes) := by
  induction n generalizing scopes with
  | zero => exact nil
  | succ n ih =>
    cases scopes with
    | nil => exact nil
    | cons f below => exact cons trivial (ih below)

end Settles

lemma toured_tables {ts : List CommonTable} {sc : Scopes} (us : List CommonTable) (k : Nat)
    (h : Tour.tables (.tables ts) none k us sc ⊆ T) {i : Nat} {u : CommonTable}
    (hu : us[i]? = some u) : (⟨ts, k + i, u, sc⟩ : Declared).Toured T := by
  induction us generalizing k i with
  | nil => simp at hu
  | cons v us ih =>
    obtain ⟨n, cs, b⟩ := v
    rw [Tour.tables, List.append_subset, List.cons_subset, List.cons_subset] at h
    cases i with
    | zero =>
      cases hu
      intro e he
      exact h.1.2 (by simp [Tour.inside, Declared.inner] at he ⊢; simp [he])
    | succ i =>
      have hk : k + (i + 1) = k + 1 + i := by omega
      rw [hk]
      exact ih (k + 1) h.2.2 hu

lemma toured_ofClause {w : WithClause} (hr : w.recursive = false) {sc : Scopes}
    (h : Tour.withClause (some w) sc ⊆ T) :
    ∀ t ∈ Declared.ofClause w.tables w.tables.length sc, t.Toured T := by
  obtain ⟨isRecursive, ts⟩ := w
  cases hr
  rintro ⟨clause, i, u, below⟩ ht
  obtain ⟨rfl, rfl, -, hu⟩ := Declared.mem_ofClause.mp ht
  have := toured_tables clause 0 (List.cons_subset.mp h).2 hu
  rwa [Nat.zero_add] at this

lemma toured_withScopes {w : Option WithClause} (hr : ∀ c ∈ w, c.recursive = false) {sc : Scopes}
    (h : Tour.withClause w sc ⊆ T) :
    ∀ t ∈ (Walk.withScopes w sc).declared, t ∈ sc.declared ∨ t.Toured T := by
  cases w with
  | none => exact fun t ht => .inl ht
  | some w =>
    intro t ht
    exact (List.mem_append.mp ht).symm.imp id (toured_ofClause (hr w rfl) h t)

lemma toured_operandScopes : (s : Statement) → (∀ w ∈ s.operandWiths, w.recursive = false) →
    {sc : Scopes} → Tour.operandWiths s sc ⊆ T →
    ∀ t ∈ (Walk.operandScopes s sc).declared, t ∈ sc.declared ∨ t.Toured T
  | .select ⟨w, _, _, _, _, _, _, _, _, _, _⟩, hr, sc, h => by
    rw [Walk.operandScopes_select]
    exact toured_withScopes (fun c hc => hr c (by simpa [Statement.operandWiths] using hc)) h
  | .setOp ⟨l, _, _, r, _, _, _⟩, hr, sc, h => by
    intro t ht
    rw [Walk.operandScopes_setOp] at ht
    rw [Tour.operandWiths, List.append_subset] at h
    simp only [Statement.operandWiths, List.mem_append] at hr
    rcases toured_operandScopes r (fun w hw => hr w (.inr hw)) h.2 t ht with ht | ht
    · exact toured_operandScopes l (fun w hw => hr w (.inl hw)) h.1 t ht
    · exact .inr ht
  | .values _, _, _, _ => fun _ ht => .inl ht
  | .insert _, _, _, _ => fun _ ht => .inl ht
  | .createTable _, _, _, _ => fun _ ht => .inl ht
  | .update _, _, _, _ => fun _ ht => .inl ht
  | .delete _, _, _, _ => fun _ ht => .inl ht

mutual
lemma settles_expr (role : Role) (sc : Scopes) : (e : Expr) → Settles T sc (Tour.expr role e sc)
  | .call _ args _ f w =>
    .cons trivial (((settles_exprs sc args).append (settles_option sc f)).append
      (settles_window sc w))
  | .binary l _ r => .cons trivial ((settles_expr .plain sc l).append (settles_expr .plain sc r))
  | .unary _ e => .cons trivial (settles_expr .plain sc e)
  | .tuple es => .cons trivial (settles_exprs sc es)
  | .array es => .cons trivial (settles_exprs sc es)
  | .inList e es _ => .cons trivial ((settles_expr .plain sc e).append (settles_exprs sc es))
  | .case o bs e =>
    .cons trivial (((settles_option sc o).append (settles_branches sc bs)).append
      (settles_option sc e))
  | .subquery q => .cons trivial (.inside rfl (settles_statement false _ q))
  | .exists q => .cons trivial (.inside rfl (settles_statement false _ q))
  | .inSubquery e q _ =>
    .cons trivial ((settles_expr .plain sc e).append
      (.inside rfl (settles_statement false _ q)))
  | .between e l h _ =>
    .cons trivial (((settles_expr .plain sc e).append (settles_expr .plain sc l)).append
      (settles_expr .plain sc h))
  | .isNull e _ => .cons trivial (settles_expr .plain sc e)
  | .cast e _ _ => .cons trivial (settles_expr .plain sc e)
  | .nested e => .cons trivial (settles_expr .plain sc e)
  | .column _ _ => .cons trivial .nil
  | .literal _ => .cons trivial .nil
  | .parameter _ _ => .cons trivial .nil
  | .wildcard _ => .cons trivial .nil
  | .raw _ => .cons trivial .nil
lemma settles_exprs (sc : Scopes) : (es : List Expr) → Settles T sc (Tour.exprs es sc)
  | [] => .nil
  | e :: es => (settles_expr .plain sc e).append (settles_exprs sc es)
lemma settles_option (sc : Scopes) : (e : Option Expr) → Settles T sc (Tour.option e sc)
  | none => .nil
  | some e => settles_expr .plain sc e
lemma settles_branches (sc : Scopes) : (bs : List (Expr × Expr)) →
    Settles T sc (Tour.branches bs sc)
  | [] => .nil
  | (c, r) :: bs =>
    ((settles_expr .plain sc c).append (settles_expr .plain sc r)).append (settles_branches sc bs)
lemma settles_window (sc : Scopes) : (w : Option Window) → Settles T sc (Tour.window w sc)
  | none => .nil
  | some ⟨_, p, o, _⟩ => (settles_exprs sc p).append (settles_order .plain sc o)
lemma settles_order (role : Role) (sc : Scopes) : (os : List OrderItem) →
    Settles T sc (Tour.order role os sc)
  | [] => .nil
  | ⟨v, _, _⟩ :: os => (settles_expr role sc v).append (settles_order role sc os)
lemma settles_items (sc : Scopes) : (is : List SelectItem) → Settles T sc (Tour.items is sc)
  | [] => .nil
  | ⟨v, _⟩ :: is => (settles_expr .plain sc v).append (settles_items sc is)
lemma settles_source (sc : Scopes) : (s : Source) → Settles T sc (Tour.source s sc)
  | .table _ _ _ => .cons trivial .nil
  | .subquery q _ _ _ => .cons trivial (.inside rfl (settles_statement false _ q))
  | .function _ args _ => .cons trivial (settles_exprs sc args)
lemma settles_sources (sc : Scopes) : (ss : List Source) → Settles T sc (Tour.sources ss sc)
  | [] => .nil
  | s :: ss => (settles_source sc s).append (settles_sources sc ss)
lemma settles_condition (sc : Scopes) : (c : Option JoinCondition) →
    Settles T sc (Tour.condition c sc)
  | some (.predicate e) => settles_expr .plain sc e
  | some (.shared _) => .nil
  | some .natural => .nil
  | none => .nil
lemma settles_joins (sc : Scopes) : (js : List Join) → Settles T sc (Tour.joins js sc)
  | [] => .nil
  | ⟨_, s, c⟩ :: js =>
    ((settles_source sc s).append (settles_condition sc c)).append (settles_joins sc js)
lemma settles_rows (sc : Scopes) : (rs : List (List Expr)) → Settles T sc (Tour.rows rs sc)
  | [] => .nil
  | r :: rs => (settles_exprs sc r).append (settles_rows sc rs)
lemma settles_assignments (sc : Scopes) : (as : List Assignment) →
    Settles T sc (Tour.assignments as sc)
  | [] => .nil
  | ⟨_, v⟩ :: as => (settles_expr .plain sc v).append (settles_assignments sc as)
lemma settles_tables {ts : List CommonTable} {sc : Scopes}
    (h : ∀ t ∈ Declared.ofClause ts ts.length sc, t.Toured T) (k : Nat) :
    (us : List CommonTable) → Settles T sc (Tour.tables (.tables ts) none k us sc)
  | [] => .nil
  | ⟨n, cs, b⟩ :: us => by
    have hbody : Settles T (.tables ts k :: sc)
        (Tour.inside (.body n) (.tables ts k :: sc) (Tour.statement false b)) :=
      .inside rfl (settles_statement false _ b)
    have hhere : ∀ t ∈ Scopes.declared (.tables ts k :: sc), t ∈ sc.declared ∨ t.Toured T := by
      intro t ht
      refine (List.mem_append.mp ht).symm.imp id fun ht => h t ?_
      obtain ⟨hc, hb, -, hget⟩ := Declared.mem_ofClause.mp ht
      exact Declared.mem_ofClause.mpr ⟨hc, hb, hc ▸ (List.getElem?_eq_some_iff.mp hget).1, hget⟩
    have htable : Settles T sc [.table k ⟨n, cs, b⟩ (.tables ts k :: sc)] := .cons trivial .nil
    exact (htable.after (fun _ => hhere) hbody).append
      (.cons trivial (settles_tables h (k + 1) us))
lemma settles_withClause (sc : Scopes) : (w : Option WithClause) →
    (∀ c ∈ w, c.recursive = false) → Settles T sc (Tour.withClause w sc)
  | none, _ => .nil
  | some ⟨r, ts⟩, hr => by
    cases hr _ rfl
    refine .of_subset fun _ hT => .cons trivial (settles_tables ?_ 0 ts)
    exact toured_ofClause (w := ⟨false, ts⟩) rfl hT
lemma settles_operandWiths (sc : Scopes) : (s : Statement) →
    (∀ w ∈ s.operandWiths, w.recursive = false) → Settles T sc (Tour.operandWiths s sc)
  | .select ⟨w, _, _, _, _, _, _, _, _, _, _⟩, hr =>
    settles_withClause sc w fun c hc => hr c (by simpa [Statement.operandWiths] using hc)
  | .setOp ⟨l, _, _, r, _, _, _⟩, hr =>
    have hl : ∀ w ∈ l.operandWiths, w.recursive = false :=
      fun w hw => hr w (by simp [Statement.operandWiths, hw])
    have hr : ∀ w ∈ r.operandWiths, w.recursive = false :=
      fun w hw => hr w (by simp [Statement.operandWiths, hw])
    (settles_operandWiths sc l hl).after (toured_operandScopes l hl) (settles_operandWiths _ r hr)
  | .values _, _ => .nil
  | .insert _, _ => .nil
  | .createTable _, _ => .nil
  | .update _, _ => .nil
  | .delete _, _ => .nil
lemma settles_statement (asOperand : Bool) (sc : Scopes) : (s : Statement) →
    Settles T sc (Tour.statement asOperand s sc)
  | .select ⟨w, d, is, fs, js, f, g, h, o, l, k⟩ => by
    refine .of_subset fun hp hT => ?_
    have hplain : ∀ c ∈ w, c.recursive = false := fun c hc =>
      hp _ sc (hT List.mem_cons_self) c (by simpa [Statement.clauses, Statement.operandWiths])
    have hrest : ∀ sc : Scopes, Settles T sc
        (Tour.items is sc ++ Tour.sources fs sc ++ Tour.joins js sc ++ Tour.option f sc ++
          Tour.exprs g sc ++ Tour.option h sc ++ Tour.order .ordering o sc ++ Tour.option l sc ++
          Tour.option k sc) := fun sc =>
      ((((((((settles_items sc is).append (settles_sources sc fs)).append
        (settles_joins sc js)).append (settles_option sc f)).append (settles_exprs sc g)).append
        (settles_option sc h)).append (settles_order .ordering sc o)).append
        (settles_option sc l)).append (settles_option sc k)
    have hbody := Settles.select
      (fun e he => List.Subset.trans (Tour.source_subset_statement asOperand _ sc he) hT) (hrest _)
    refine .cons trivial (.append ?_ (.leaves _ _))
    cases asOperand with
    | true => exact .append .nil (.inside rfl hbody)
    | false =>
      exact (settles_withClause sc w hplain).after (toured_withScopes hplain) (.inside rfl hbody)
  | .setOp ⟨l, op, a, r, o, m, k⟩ => by
    refine .of_subset fun hp hT => ?_
    have hplain : ∀ c ∈ Statement.operandWiths (.setOp ⟨l, op, a, r, o, m, k⟩),
        c.recursive = false := hp _ sc (hT List.mem_cons_self)
    have htail : ∀ sc : Scopes, Settles T sc
        (Tour.statement true l sc ++ Tour.statement true r sc ++ Tour.order .plain o sc ++
          Tour.option m sc ++ Tour.option k sc) := fun sc =>
      ((((settles_statement true sc l).append (settles_statement true sc r)).append
        (settles_order .plain sc o)).append (settles_option sc m)).append (settles_option sc k)
    refine .cons trivial ?_
    cases asOperand with
    | true => exact htail sc
    | false =>
      have hl : ∀ w ∈ l.operandWiths, w.recursive = false :=
        fun w hw => hplain w (by simp [Statement.operandWiths, hw])
      have hr : ∀ w ∈ r.operandWiths, w.recursive = false :=
        fun w hw => hplain w (by simp [Statement.operandWiths, hw])
      have hwiths := (settles_operandWiths sc l hl).after (toured_operandScopes l hl)
        (settles_operandWiths _ r hr)
      refine (hwiths.after (fun h => ?_) (htail _)).append (.leaves _ _)
      have := toured_operandScopes (.setOp ⟨l, op, a, r, o, m, k⟩) hplain h
      rwa [Walk.operandScopes_setOp] at this
  | .values ⟨rs, _⟩ => .cons trivial (settles_rows sc rs)
  | .insert ⟨_, _, .rows rs, is⟩ =>
    ((Settles.again asOperand _).append (settles_rows sc rs)).append (settles_items sc is)
  | .insert ⟨_, _, .query q, is⟩ =>
    ((Settles.again asOperand _).append (settles_statement false sc q)).append
      (settles_items sc is)
  | .createTable ⟨_, _, _, _, some q⟩ =>
    (Settles.again asOperand _).append (settles_statement false sc q)
  | .createTable ⟨_, _, _, _, none⟩ => Settles.again asOperand _
  | .update ⟨w, tg, as, fs, f, is⟩ => by
    refine .of_subset fun hp hT => ?_
    have hplain : ∀ c ∈ w, c.recursive = false := fun c hc =>
      hp (.update ⟨w, tg, as, fs, f, is⟩) sc
        (hT (by cases asOperand <;> simp [Tour.statement, Tour.again])) c
        (by simpa [Statement.clauses])
    have hrest : ∀ sc : Scopes, Settles T sc
        (Tour.source tg sc ++ Tour.assignments as sc ++ Tour.sources fs sc ++ Tour.option f sc ++
          Tour.items is sc) := fun sc =>
      ((((settles_source sc tg).append (settles_assignments sc as)).append
        (settles_sources sc fs)).append (settles_option sc f)).append (settles_items sc is)
    have hclause := (Settles.again asOperand (.update ⟨w, tg, as, fs, f, is⟩)).append
      (settles_withClause sc w hplain)
    refine (hclause.after (fun h => ?_) (.inside rfl (hrest _))).append (.leaves _ _)
    exact toured_withScopes hplain (List.append_subset.mp h).2
  | .delete ⟨w, tg, us, f, is⟩ => by
    refine .of_subset fun hp hT => ?_
    have hplain : ∀ c ∈ w, c.recursive = false := fun c hc =>
      hp (.delete ⟨w, tg, us, f, is⟩) sc
        (hT (by cases asOperand <;> simp [Tour.statement, Tour.again])) c
        (by simpa [Statement.clauses])
    have hrest : ∀ sc : Scopes, Settles T sc
        (Tour.source tg sc ++ Tour.sources us sc ++ Tour.option f sc ++ Tour.items is sc) :=
      fun sc => (((settles_source sc tg).append (settles_sources sc us)).append
        (settles_option sc f)).append (settles_items sc is)
    have hclause := (Settles.again asOperand (.delete ⟨w, tg, us, f, is⟩)).append
      (settles_withClause sc w hplain)
    refine (hclause.after (fun h => ?_) (.inside rfl (hrest _))).append (.leaves _ _)
    exact toured_withScopes hplain (List.append_subset.mp h).2
end

/-- No clause of a statement, or of one anywhere inside, is recursive. -/
def Statement.Plain (s : Statement) : Prop := PlainClauses s.trace

/-- Every select that the walk reports is settled. -/
lemma settled_of_mem_trace {s : Statement} (hp : s.Plain) {e : Event} (he : e ∈ s.trace) :
    e.Settled s.trace :=
  settles_statement false [] s hp (fun _ h => Tour.mem_trace.mpr h) (by simp [Scopes.declared]) e
    (Tour.mem_trace.mp he)

namespace Expansion

variable (T) in
/-- The walk goes through the statement at its place, and through every table known there. -/
structure Walked (known : List Declared) (p : Place) (s : Statement) : Prop where
  toured : ∀ t ∈ known, t.Toured T
  walked : Tour.statement p.hoisted.isSome s (p.hoisted.getD p.around) ⊆ T
  clauses : p.hoisted.isSome → Tour.operandWiths s p.around ⊆ T

namespace Walked

variable {known : List Declared} {p : Place}

lemma left {b : SetOperation} (h : Walked T known p (.setOp b)) :
    Walked T known (p.left b) b.left := by
  obtain ⟨l, op, a, r, o, m, k⟩ := b
  obtain ⟨around, _ | hoisted⟩ := p
  · have hw := h.walked
    rw [Tour.statement, List.cons_subset] at hw
    have hw := (List.append_subset.mp hw.2).1
    obtain ⟨hclauses, htail⟩ := List.append_subset.mp hw
    refine ⟨h.toured, ?_, fun _ => (List.append_subset.mp hclauses).1⟩
    simp only [List.append_subset] at htail
    exact htail.1.1.1.1
  · have hw := h.walked
    rw [Tour.statement, List.cons_subset] at hw
    simp only [Option.isSome_some, if_true, List.append_subset] at hw
    refine ⟨h.toured, hw.2.1.1.1.1, fun _ => ?_⟩
    exact (List.append_subset.mp (h.clauses rfl)).1

variable {s : Select} (h : Walked T known p (.select s))
include h

lemma source {e : Source} (he : e ∈ s.sources) : Tour.source e (p.query s) ⊆ T := by
  obtain ⟨around, _ | hoisted⟩ := p
  · exact List.Subset.trans (Tour.source_subset_statement false s around he) h.walked
  · exact List.Subset.trans (Tour.source_subset_statement true s hoisted he) h.walked

lemma own (hp : PlainClauses T) :
    ∀ t ∈ Expansion.own p.around s.withClause ++ known, t.Toured T := by
  obtain ⟨w, d, is, fs, js, f, g, hv, o, l, k⟩ := s
  intro t ht
  rcases List.mem_append.mp ht with ht | ht
  · cases w with
    | none => simp [Expansion.own] at ht
    | some w =>
      have hreport : .statement (.select ⟨w, d, is, fs, js, f, g, hv, o, l, k⟩)
          (p.hoisted.getD p.around) ∈ T := h.walked List.mem_cons_self
      have hplain : w.recursive = false :=
        hp _ _ hreport w (by simp [Statement.clauses, Statement.operandWiths])
      refine toured_ofClause hplain ?_ t (List.mem_reverse.mp ht)
      obtain ⟨around, _ | hoisted⟩ := p
      · have hw := h.walked
        rw [Tour.statement, List.cons_subset, List.append_subset, List.append_subset] at hw
        exact hw.2.1.1
      · exact h.clauses rfl
  · exact h.toured t ht

end Walked

/-- A search never leaves what the walk goes through. -/
lemma carried_walked (hp : PlainClauses T) : Carried (fun _ => True) (Walked T)
    fun m => (∀ t ∈ m.known, t.Toured T) ∧ ∃ a, .source (.table none m.name a) m.scopes ∈ T where
  left _ _ _ h := h.left
  derived known p s q a columns lateral h he := by
    refine ⟨h.own hp, ?_, nofun⟩
    have hsource := h.source he
    rw [Tour.source, Tour.inside, List.cons_subset, List.append_subset, List.cons_subset] at hsource
    exact hsource.2.1.2
  name known p s name a h he := ⟨h.own hp, a, h.source he List.mem_cons_self⟩
  table m t hm _ ht := ⟨hm.1, hm.1 t (List.mem_of_find?_eq_some ht), nofun⟩

/-- Wherever a search looks up a name, the walk reports it. -/
lemma visited_of_mem_lookups {s : Statement} (hp : s.Plain) {sel : Select} {sc : Scopes}
    (hsel : .select sel sc ∈ s.trace) {e : Source} (he : e ∈ sel.sources)
    (resolver : Option ColumnResolver) :
    ∀ m ∈ (ofSource ⟨resolver, sc⟩ e).lookups,
      ∃ a, .source (.table none m.name a) m.scopes ∈ s.trace := by
  obtain ⟨-, htoured, hsources⟩ := settled_of_mem_trace hp hsel
  intro m hm
  refine ((carried_walked hp).ofSource (x := ⟨resolver, sc⟩)
    (fun t ht => ⟨htoured, htoured t ht, by simp⟩) ?_ (fun _ _ => trivial) m hm).2
  rintro q a columns lateral rfl
  have hsource := hsources _ he
  rw [Tour.source, Tour.inside, List.cons_subset, List.append_subset, List.cons_subset] at hsource
  exact ⟨htoured, hsource.2.1.2, by simp⟩

end Expansion

end SqlLoom
