import Mathlib.Data.List.Induction
import SqlLoom.Proofs.Walk.Lexical

/-! The scopes of every walk are lexical, whatever the visitor leaves out. Each part of a statement
adds reports that leave the scopes as it found them, and the WITH clauses in front of a statement
are entered and left one inside the other. -/
namespace SqlLoom

lemma Lexical.append {sc : Scopes} {es es' : List Event} :
    Lexical sc es → Lexical sc es' → Lexical sc (es ++ es')
  | .nil, h => h
  | .node he hes, h => .node he (hes.append h)
  | .frame hk hin hes, h => by simpa using Lexical.frame hk hin (hes.append h)
  | .fronted hin hes, h => by simpa using Lexical.fronted hin (hes.append h)

/-- The scopes inside WITH clauses whose tables have been walked. -/
def Scopes.within (ws : List WithClause) (sc : Scopes) : Scopes :=
  ws.foldl (fun sc w => w.after :: sc) sc

lemma Scopes.length_within (ws : List WithClause) (sc : Scopes) :
    (within ws sc).length = ws.length + sc.length := by
  induction ws generalizing sc with
  | nil => simp [within]
  | cons w ws ih =>
    change (within ws (w.after :: sc)).length = _
    rw [ih, List.length_cons, List.length_cons]
    omega

/-- The reports of entering WITH clauses and walking their tables, one clause inside the other. -/
def Entered : List WithClause → Scopes → List Event → Prop
  | [], _, es => es = []
  | w :: ws, sc, es => ∃ own rest, Sections w sc 0 own ∧ Entered ws (w.after :: sc) rest ∧
      es = .enter .withClause (.tables w.tables 0 :: sc) :: own ++ rest

lemma Entered.append {ws ws' : List WithClause} {sc : Scopes} {es es' : List Event}
    (h : Entered ws sc es) (h' : Entered ws' (Scopes.within ws sc) es') :
    Entered (ws ++ ws') sc (es ++ es') := by
  induction ws generalizing sc es with
  | nil =>
    cases h
    exact h'
  | cons w ws ih =>
    obtain ⟨own, rest, hown, hrest, rfl⟩ := h
    exact ⟨own, rest ++ es', hown, ih hrest h', by simp⟩

/-- The clauses are left from the innermost outwards. -/
lemma Tour.leaves_within_succ (ws : List WithClause) (f : Frame) (sc : Scopes) :
    leaves (ws.length + 1) (Scopes.within ws (f :: sc)) =
      leaves ws.length (Scopes.within ws (f :: sc)) ++ [.leave f.kind (f :: sc)] := by
  induction ws using List.reverseRecOn with
  | nil => simp [Scopes.within, leaves]
  | append_singleton ws w ih =>
    have hw : Scopes.within (ws ++ [w]) (f :: sc) = w.after :: Scopes.within ws (f :: sc) := by
      simp [Scopes.within]
    rw [hw, List.length_append, List.length_singleton, leaves, leaves, ih, List.cons_append]

lemma Entered.fronted {ws : List WithClause} {sc : Scopes} {es body : List Event}
    (h : Entered ws sc es) (hb : Lexical (Scopes.within ws sc) body) :
    Fronted ws sc (es ++ body ++ Tour.leaves ws.length (Scopes.within ws sc)) := by
  induction ws generalizing sc es with
  | nil =>
    cases h
    change Fronted [] sc (body ++ [])
    rw [List.append_nil]
    exact .nil hb
  | cons w ws ih =>
    obtain ⟨own, rest, hown, hrest, rfl⟩ := h
    have hin := Fronted.clause hown (ih hrest hb) (ih hrest hb).around
    change Fronted _ _ (_ ++ Tour.leaves (ws.length + 1) (Scopes.within ws (w.after :: sc)))
    rw [Tour.leaves_within_succ ws w.after sc]
    simpa using hin

/-- A part of a walk adds reports of a kind to what has been reported. -/
def Adds (P : List Event → Prop) (part : Trace → Trace) : Prop :=
  ∀ t, ∃ es, P es ∧ part t = es.reverse ++ t

/-- A part of a walk whose scopes are lexical from a place on, and those of the place in the end. -/
abbrev Stays (sc : Scopes) (part : Trace → Trace) : Prop := Adds (Lexical sc) part

variable {skips : Trace → Bool} {f g : Trace → Trace} {sc : Scopes} {ws : List WithClause}

namespace Adds

variable {P Q R : List Event → Prop}

lemma andThen (h : Adds P f) (h' : Adds Q g) (hR : ∀ a b, P a → Q b → R (a ++ b)) :
    Adds R fun t => g (f t) := by
  intro t
  obtain ⟨es, hes, hf⟩ := h t
  obtain ⟨es', hes', hg⟩ := h' (f t)
  refine ⟨es ++ es', hR es es' hes hes', ?_⟩
  rw [List.reverse_append, List.append_assoc, ← hf, ← hg]

lemma single (e : Event) : Adds (· = [e]) fun t => e :: t := fun _ => ⟨[e], rfl, rfl⟩

lemma leaves (n : Nat) (sc : Scopes) :
    Adds (· = Tour.leaves n sc) (Walk.leaveWiths n sc) :=
  fun t => ⟨_, rfl, Tour.Reports.leaves n sc t⟩

/-- The visitor may leave out what comes below a report. -/
lemma visit (e : Event) (h : Adds P f) (hskip : R [e]) (hR : ∀ es, P es → R (e :: es)) :
    Adds R (Walk.visit skips e f) := by
  intro t
  cases hs : skips (e :: t) with
  | true => exact ⟨[e], hskip, by simp [Walk.visit, hs]⟩
  | false =>
    obtain ⟨es, hes, hf⟩ := h (e :: t)
    exact ⟨e :: es, hR es hes, by simp [Walk.visit, hs, hf]⟩

/-- Entering clauses, walking what they stand in front of, and leaving them. -/
lemma fronted (h : Adds (Entered ws sc) f) (hb : Stays (Scopes.within ws sc) g) :
    Adds (Fronted ws sc) fun t =>
      Walk.leaveWiths ws.length (Scopes.within ws sc) (g (f t)) := by
  have hopen : Adds (fun es => Fronted ws sc (es ++ Tour.leaves ws.length (Scopes.within ws sc)))
      fun t => g (f t) := h.andThen hb fun _ _ => Entered.fronted
  exact hopen.andThen (leaves _ _) (by rintro a _ ha rfl; exact ha)

/-- The same with at most one clause. -/
lemma frontedWith (w : Option WithClause) (h : Adds (Entered w.toList sc) f)
    (hb : Stays (Walk.withScopes w sc) g) :
    Adds (Fronted w.toList sc) fun t =>
      Walk.leaveWiths w.toList.length (Walk.withScopes w sc) (g (f t)) := by
  cases w with
  | none => exact h.fronted hb
  | some w => exact h.fronted hb

/-- The same with the clauses of the operands of a set operation. -/
lemma frontedOperands (l r : Statement)
    (h : Adds (Entered (l.operandWiths ++ r.operandWiths) sc) f)
    (hb : Stays (Walk.operandScopes r (Walk.operandScopes l sc)) g) :
    Adds (Fronted (l.operandWiths ++ r.operandWiths) sc) fun t =>
      Walk.leaveWiths ((Walk.operandScopes r (Walk.operandScopes l sc)).length - sc.length)
        (Walk.operandScopes r (Walk.operandScopes l sc)) (g (f t)) := by
  have hsc : Walk.operandScopes r (Walk.operandScopes l sc) =
      Scopes.within (l.operandWiths ++ r.operandWiths) sc := by
    rw [Scopes.within, List.foldl_append]
    rfl
  rw [hsc] at hb ⊢
  rw [Scopes.length_within, Nat.add_sub_cancel]
  exact h.fronted hb

lemma entered_nil : Adds (Entered [] sc) fun t => t := fun _ => ⟨[], rfl, rfl⟩

lemma entered_append {ws' : List WithClause} (h : Adds (Entered ws sc) f)
    (h' : Adds (Entered ws' (Scopes.within ws sc)) g) :
    Adds (Entered (ws ++ ws') sc) fun t => g (f t) :=
  h.andThen h' fun _ _ => Entered.append

lemma entered_clause (w : WithClause) (h : Adds (Sections w sc 0) f) :
    Adds (Entered [w] sc) fun t => f (.enter .withClause (.tables w.tables 0 :: sc) :: t) :=
  (single _).andThen h fun _ b ha hb => ⟨b, [], hb, rfl, by simp [ha]⟩

lemma sections_nil {w : WithClause} : Adds (Sections w sc w.tables.length) fun t => t :=
  fun _ => ⟨[], .nil, rfl⟩

/-- The table of a clause, whose body the visitor may leave out, and the tables after it. -/
lemma sections_table (skips : Trace → Bool) {w : WithClause} {index : Nat} {t : CommonTable}
    (ht : w.tables[index]? = some t) (hb : Stays (w.during index :: sc) f)
    (hts : Adds (Sections w sc (index + 1)) g) :
    Adds (Sections w sc index) fun trace =>
      g (.endTable t (w.during index :: sc) ::
        Walk.visit skips (.table index t (w.during index :: sc)) f trace) := by
  have hbody : Adds (fun es => ∃ inner, Lexical (w.during index :: sc) inner ∧
        es = .table index t (w.during index :: sc) :: inner)
      (Walk.visit skips (.table index t (w.during index :: sc)) f) :=
    hb.visit _ ⟨[], .nil, rfl⟩ fun es hes => ⟨es, hes, rfl⟩
  have hrest : Adds (fun es => ∃ rest, Sections w sc (index + 1) rest ∧
        es = .endTable t (w.during index :: sc) :: rest)
      (fun trace => g (.endTable t (w.during index :: sc) :: trace)) :=
    (single _).andThen hts fun _ rest ha hr => ⟨rest, hr, by simp [ha]⟩
  refine hbody.andThen hrest ?_
  rintro _ _ ⟨inner, hinner, rfl⟩ ⟨rest, hr, rfl⟩
  exact .table ht hinner hinner.around hr

end Adds

namespace Stays

lemma nothing : Stays sc fun t => t := fun _ => ⟨[], .nil, rfl⟩

lemma andThen (h : Stays sc f) (h' : Stays sc g) : Stays sc fun t => g (f t) :=
  Adds.andThen h h' fun _ _ => Lexical.append

variable {e : Event}

lemma single (he : e.IsNode) (hsc : e.scopes = sc) : Stays sc fun t => e :: t :=
  fun _ => ⟨[e], hsc ▸ .node he .nil, rfl⟩

lemma visit (he : e.IsNode) (hsc : e.scopes = sc) (h : Stays sc f) :
    Stays sc (Walk.visit skips e f) := by
  subst hsc
  exact Adds.visit e h (.node he .nil) fun _ => .node he

lemma visitAgain (asOperand : Bool) (he : e.IsNode) (hsc : e.scopes = sc) (h : Stays sc f) :
    Stays sc (Walk.visitAgain skips asOperand e f) := by
  cases asOperand with
  | false => exact h.visit he hsc
  | true => exact (h.visit he hsc).visit he hsc

lemma inside (frame : Frame) (hk : frame.isTables = false) {body : Scopes → Trace → Trace}
    (h : Stays (frame :: sc) (body (frame :: sc))) : Stays sc (Walk.inside frame sc body) := by
  intro t
  obtain ⟨es, hes, hf⟩ := h (.enter frame.kind (frame :: sc) :: t)
  exact ⟨_, .frame hk hes .nil, by simp [Walk.inside, hf]⟩

/-- A statement is left out whole, or walked behind the clauses in front of it. -/
lemma visitFronted (s : Statement) (h : Adds (Fronted s.fronts sc) f) :
    Stays sc (Walk.visit skips (.statement s sc) f) := by
  have hskip : Lexical sc [.statement s sc] := .node (e := .statement s sc) trivial .nil
  refine Adds.visit _ h hskip fun es hes => ?_
  simpa using Lexical.fronted hes .nil

lemma visitFrontedAgain (asOperand : Bool) (s : Statement) (h : Adds (Fronted s.fronts sc) f) :
    Stays sc (Walk.visitAgain skips asOperand (.statement s sc) f) := by
  cases asOperand with
  | false => exact visitFronted s h
  | true => exact (visitFronted s h).visit (e := .statement s sc) trivial rfl

end Stays

mutual
lemma stays_expr (skips : Trace → Bool) (role : Role) (sc : Scopes) : (e : Expr) →
    Stays sc (Walk.expr skips role e sc)
  | .call _ args _ f w =>
    .visit trivial rfl (((stays_exprs skips sc args).andThen (stays_option skips sc f)).andThen
      (stays_window skips sc w))
  | .binary l _ r =>
    .visit trivial rfl ((stays_expr skips .plain sc l).andThen (stays_expr skips .plain sc r))
  | .unary _ e => .visit trivial rfl (stays_expr skips .plain sc e)
  | .tuple es => .visit trivial rfl (stays_exprs skips sc es)
  | .array es => .visit trivial rfl (stays_exprs skips sc es)
  | .inList e es _ =>
    .visit trivial rfl ((stays_expr skips .plain sc e).andThen (stays_exprs skips sc es))
  | .case o bs e =>
    .visit trivial rfl (((stays_option skips sc o).andThen (stays_branches skips sc bs)).andThen
      (stays_option skips sc e))
  | .subquery q => .visit trivial rfl (.inside _ rfl (stays_statement skips false _ q))
  | .exists q => .visit trivial rfl (.inside _ rfl (stays_statement skips false _ q))
  | .inSubquery e q _ =>
    .visit trivial rfl ((stays_expr skips .plain sc e).andThen
      (.inside _ rfl (stays_statement skips false _ q)))
  | .between e l h _ =>
    .visit trivial rfl (((stays_expr skips .plain sc e).andThen
      (stays_expr skips .plain sc l)).andThen (stays_expr skips .plain sc h))
  | .isNull e _ => .visit trivial rfl (stays_expr skips .plain sc e)
  | .cast e _ _ => .visit trivial rfl (stays_expr skips .plain sc e)
  | .nested e => .visit trivial rfl (stays_expr skips .plain sc e)
  | .column _ _ => .single trivial rfl
  | .literal _ => .single trivial rfl
  | .parameter _ _ => .single trivial rfl
  | .wildcard _ => .single trivial rfl
  | .raw _ => .single trivial rfl
lemma stays_exprs (skips : Trace → Bool) (sc : Scopes) : (es : List Expr) →
    Stays sc (Walk.exprs skips es sc)
  | [] => .nothing
  | e :: es => (stays_expr skips .plain sc e).andThen (stays_exprs skips sc es)
lemma stays_option (skips : Trace → Bool) (sc : Scopes) : (e : Option Expr) →
    Stays sc (Walk.option skips e sc)
  | none => .nothing
  | some e => stays_expr skips .plain sc e
lemma stays_branches (skips : Trace → Bool) (sc : Scopes) : (bs : List (Expr × Expr)) →
    Stays sc (Walk.branches skips bs sc)
  | [] => .nothing
  | (c, r) :: bs =>
    ((stays_expr skips .plain sc c).andThen (stays_expr skips .plain sc r)).andThen
      (stays_branches skips sc bs)
lemma stays_window (skips : Trace → Bool) (sc : Scopes) : (w : Option Window) →
    Stays sc (Walk.window skips w sc)
  | none => .nothing
  | some ⟨_, p, o, _⟩ => (stays_exprs skips sc p).andThen (stays_order skips .plain sc o)
lemma stays_order (skips : Trace → Bool) (role : Role) (sc : Scopes) : (os : List OrderItem) →
    Stays sc (Walk.order skips role os sc)
  | [] => .nothing
  | ⟨v, _, _⟩ :: os => (stays_expr skips role sc v).andThen (stays_order skips role sc os)
lemma stays_items (skips : Trace → Bool) (sc : Scopes) : (is : List SelectItem) →
    Stays sc (Walk.items skips is sc)
  | [] => .nothing
  | ⟨v, _⟩ :: is => (stays_expr skips .plain sc v).andThen (stays_items skips sc is)
lemma stays_source (skips : Trace → Bool) (sc : Scopes) : (s : Source) →
    Stays sc (Walk.source skips s sc)
  | .table _ _ _ => .single trivial rfl
  | .subquery q _ _ _ => .visit trivial rfl (.inside _ rfl (stays_statement skips false _ q))
  | .function _ args _ => .visit trivial rfl (stays_exprs skips sc args)
lemma stays_sources (skips : Trace → Bool) (sc : Scopes) : (ss : List Source) →
    Stays sc (Walk.sources skips ss sc)
  | [] => .nothing
  | s :: ss => (stays_source skips sc s).andThen (stays_sources skips sc ss)
lemma stays_condition (skips : Trace → Bool) (sc : Scopes) : (c : Option JoinCondition) →
    Stays sc (Walk.condition skips c sc)
  | some (.predicate e) => stays_expr skips .plain sc e
  | some (.shared _) => .nothing
  | some .natural => .nothing
  | none => .nothing
lemma stays_joins (skips : Trace → Bool) (sc : Scopes) : (js : List Join) →
    Stays sc (Walk.joins skips js sc)
  | [] => .nothing
  | ⟨_, s, c⟩ :: js =>
    ((stays_source skips sc s).andThen (stays_condition skips sc c)).andThen
      (stays_joins skips sc js)
lemma stays_rows (skips : Trace → Bool) (sc : Scopes) : (rs : List (List Expr)) →
    Stays sc (Walk.rows skips rs sc)
  | [] => .nothing
  | r :: rs => (stays_exprs skips sc r).andThen (stays_rows skips sc rs)
lemma stays_assignments (skips : Trace → Bool) (sc : Scopes) : (as : List Assignment) →
    Stays sc (Walk.assignments skips as sc)
  | [] => .nothing
  | ⟨_, v⟩ :: as => (stays_expr skips .plain sc v).andThen (stays_assignments skips sc as)
lemma sections_tables (skips : Trace → Bool) (w : WithClause) (sc : Scopes) (index : Nat) :
    (ts : List CommonTable) → w.tables.drop index = ts → index + ts.length = w.tables.length →
    Adds (Sections w sc index)
      (Walk.tables skips (.tables w.tables) (if w.recursive then some w.tables.length else none)
        index ts sc)
  | [], _, hlen => by
    rw [List.length_nil, Nat.add_zero] at hlen
    subst hlen
    exact .sections_nil
  | ⟨n, cs, b⟩ :: ts, hdrop, hlen => by
    have ht : w.tables[index]? = some ⟨n, cs, b⟩ := by
      rw [← List.head?_drop, hdrop, List.head?_cons]
    have hrest : w.tables.drop (index + 1) = ts := by
      rw [← List.drop_drop, hdrop, List.drop_one, List.tail_cons]
    have hhere : Frame.tables w.tables
        ((if w.recursive then some w.tables.length else none).getD index) = w.during index := by
      cases h : w.recursive <;> simp [WithClause.during, h]
    have h := Adds.sections_table skips ht
      (.inside (.body n) rfl (stays_statement skips false _ b))
      (sections_tables skips w sc (index + 1) ts hrest (by rw [← hlen, List.length_cons]; omega))
    rwa [← hhere] at h
lemma entered_withClause (skips : Trace → Bool) (sc : Scopes) : (w : Option WithClause) →
    Adds (Entered w.toList sc) (Walk.withClause skips w sc)
  | none => .entered_nil
  | some ⟨r, ts⟩ =>
    .entered_clause ⟨r, ts⟩ (sections_tables skips ⟨r, ts⟩ sc 0 ts rfl (Nat.zero_add _))
lemma entered_operandWiths (skips : Trace → Bool) (sc : Scopes) : (s : Statement) →
    Adds (Entered s.operandWiths sc) (Walk.operandWiths skips s sc)
  | .select ⟨w, _, _, _, _, _, _, _, _, _, _⟩ => entered_withClause skips sc w
  | .setOp ⟨l, _, _, r, _, _, _⟩ =>
    (entered_operandWiths skips sc l).entered_append (entered_operandWiths skips _ r)
  | .values _ => .entered_nil
  | .insert _ => .entered_nil
  | .createTable _ => .entered_nil
  | .update _ => .entered_nil
  | .delete _ => .entered_nil
lemma stays_statement (skips : Trace → Bool) (asOperand : Bool) (sc : Scopes) : (s : Statement) →
    Stays sc (Walk.statement skips asOperand s sc)
  | .select ⟨w, d, is, fs, js, f, g, h, o, l, k⟩ => by
    have hbody : ∀ (s : Select) (sc : Scopes), Stays sc
        (fun t => Walk.option skips k sc <| Walk.option skips l sc <|
          Walk.order skips .ordering o sc <| Walk.option skips h sc <| Walk.exprs skips g sc <|
          Walk.option skips f sc <| Walk.joins skips js sc <| Walk.sources skips fs sc <|
          Walk.items skips is sc <| .select s sc :: t) := fun s sc =>
      (((((((((Stays.single (e := .select s sc) trivial rfl).andThen
        (stays_items skips sc is)).andThen (stays_sources skips sc fs)).andThen
        (stays_joins skips sc js)).andThen (stays_option skips sc f)).andThen
        (stays_exprs skips sc g)).andThen (stays_option skips sc h)).andThen
        (stays_order skips .ordering sc o)).andThen (stays_option skips sc l)).andThen
        (stays_option skips sc k)
    cases asOperand with
    | true =>
      exact Stays.visit (e := .statement (.select ⟨w, d, is, fs, js, f, g, h, o, l, k⟩) sc)
        trivial rfl (.inside (.query _) rfl (hbody _ _))
    | false =>
      exact .visitFronted (.select ⟨w, d, is, fs, js, f, g, h, o, l, k⟩)
        (.frontedWith w (entered_withClause skips sc w) (.inside (.query _) rfl (hbody _ _)))
  | .setOp ⟨l, op, a, r, o, m, k⟩ => by
    have htail : ∀ sc : Scopes, Stays sc
        (fun t => Walk.option skips k sc <| Walk.option skips m sc <| Walk.order skips .plain o sc <|
          Walk.statement skips true r sc <| Walk.statement skips true l sc t) := fun sc =>
      ((((stays_statement skips true sc l).andThen (stays_statement skips true sc r)).andThen
        (stays_order skips .plain sc o)).andThen (stays_option skips sc m)).andThen
        (stays_option skips sc k)
    cases asOperand with
    | true =>
      exact Stays.visit (e := .statement (.setOp ⟨l, op, a, r, o, m, k⟩) sc) trivial rfl (htail sc)
    | false =>
      exact .visitFronted (.setOp ⟨l, op, a, r, o, m, k⟩)
        (.frontedOperands l r
          ((entered_operandWiths skips sc l).entered_append (entered_operandWiths skips _ r))
          (htail _))
  | .values ⟨rs, _⟩ => .visit trivial rfl (stays_rows skips sc rs)
  | .insert ⟨_, _, .rows rs, is⟩ =>
    .visitAgain asOperand trivial rfl ((stays_rows skips sc rs).andThen (stays_items skips sc is))
  | .insert ⟨_, _, .query q, is⟩ =>
    .visitAgain asOperand trivial rfl
      ((stays_statement skips false sc q).andThen (stays_items skips sc is))
  | .createTable ⟨_, _, _, _, some q⟩ =>
    .visitAgain asOperand trivial rfl (stays_statement skips false sc q)
  | .createTable ⟨_, _, _, _, none⟩ => .visitAgain asOperand trivial rfl .nothing
  | .update ⟨w, tg, as, fs, f, is⟩ =>
    .visitFrontedAgain asOperand (.update ⟨w, tg, as, fs, f, is⟩)
      (.frontedWith w (entered_withClause skips sc w) (.inside (.query (tg :: fs)) rfl
        (((((stays_source skips _ tg).andThen (stays_assignments skips _ as)).andThen
          (stays_sources skips _ fs)).andThen (stays_option skips _ f)).andThen
          (stays_items skips _ is))))
  | .delete ⟨w, tg, us, f, is⟩ =>
    .visitFrontedAgain asOperand (.delete ⟨w, tg, us, f, is⟩)
      (.frontedWith w (entered_withClause skips sc w) (.inside (.query (tg :: us)) rfl
        ((((stays_source skips _ tg).andThen (stays_sources skips _ us)).andThen
          (stays_option skips _ f)).andThen (stays_items skips _ is))))
end

/-- Whatever a visitor leaves out, the scopes of a walk are lexical. -/
lemma Statement.lexical (skips : Trace → Bool) (s : Statement) :
    Lexical [] (s.walk skips).reverse := by
  obtain ⟨es, hes, hw⟩ := stays_statement skips false [] s []
  rwa [Statement.walk, hw, List.append_nil, List.reverse_reverse]

/-- The frames of a walk are those of one stack that is pushed, popped and adjusted. -/
theorem Statement.threads_walk (skips : Trace → Bool) (s : Statement) :
    Threads [] (s.walk skips).reverse :=
  (s.lexical skips).threads_nil

/-- Whatever a visitor leaves out, the scopes of a walk nest like brackets and none is open in the
end. While the `index`-th table of a WITH clause is walked, the frame of the clause shows the tables
before it, or all of them if the clause is recursive; from the last table on until the frame is left
it shows all. -/
theorem Statement.lexical_walk (skips : Trace → Bool) (s : Statement) :
    Nests [] (s.walk skips).reverse ∧ Lexical [] (s.walk skips).reverse :=
  ⟨(s.threads_walk skips).nests, s.lexical skips⟩

end SqlLoom
