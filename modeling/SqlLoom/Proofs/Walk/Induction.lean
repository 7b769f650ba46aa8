import SqlLoom.Proofs.Walk.Balance

/-! Induction over walks. A property of reports that holds of every walk is shown for the ways in
which a walk puts the parts of a statement together. It may speak of the place the reports are made
from and of the FROM entries reported from this very place, and it may not depend on what the
visitor leaves out. -/
namespace SqlLoom

/-- An element of two lists one behind the other is in the first or in the second. -/
lemma append_split {α : Type} {as bs before after : List α} {x : α}
    (h : as ++ bs = before ++ x :: after) :
    (∃ rest, as = before ++ x :: rest ∧ after = rest ++ bs) ∨
      ∃ front, before = as ++ front ∧ bs = front ++ x :: after := by
  rcases List.append_eq_append_iff.mp h with ⟨front, hb, ha⟩ | ⟨cs, ha, hb⟩
  · exact .inr ⟨front, hb, ha⟩
  · cases cs with
    | nil => exact .inr ⟨[], by simpa using ha.symm, hb.symm⟩
    | cons c cs =>
      obtain ⟨rfl, rfl⟩ := List.cons.inj hb
      exact .inl ⟨cs, ha, rfl⟩

/-- The report of a value or of a frame, which promises nothing about the reports after it. -/
def Event.IsPlain : Event → Prop
  | .enter _ _ | .leave _ _ | .value _ _ _ => True
  | _ => False

/-- Walks the clauses of a select, whose entries are in scope. -/
def Walk.clauses (skips : Trace → Bool) (s : Select) (sc : Scopes) (t : Trace) : Trace :=
  option skips s.offset sc <| option skips s.limit sc <| order skips .ordering s.orderBy sc <|
  option skips s.having sc <| exprs skips s.groupBy sc <| option skips s.filter sc <|
  joins skips s.joins sc <| sources skips s.froms sc <| items skips s.items sc t

/-- A property `P sc xs es` of the reports `es` of a part of a statement from the scopes `sc`, which
reports the entries `xs` from these very scopes, is kept by everything that a walk does. Where the
reports are those of a whole statement or of the clauses of a select, they are known as such. -/
structure Walk.Law (skips : Trace → Bool) (P : Scopes → List Source → List Event → Prop) :
    Prop where
  nil sc : P sc [] []
  append {sc xs ys es es'} : P sc xs es → P sc ys es' → P sc (xs ++ ys) (es ++ es')
  plain {e} : e.IsPlain → P e.scopes [] [e]
  entry x sc : P sc [x] [.source x sc]
  /-- A statement is reported before its parts. -/
  whole {asOperand s sc es t} : P sc [] es →
    Walk.statement skips asOperand s sc t = (.statement s sc :: es).reverse ++ t →
    P sc [] (.statement s sc :: es)
  /-- The body of a common table is walked between the reports of the table and of its end. -/
  table index {t sc es tr} : P (.body t.name :: sc) [] es →
    Walk.statement skips false t.body (.body t.name :: sc) tr = es.reverse ++ tr →
    P sc [] (.table index t sc :: Tour.inside (.body t.name) sc (fun _ => es) ++ [.endTable t sc])
  /-- The visitor leaves the body out. -/
  pass {index t sc tr} : skips (.table index t sc :: tr) = true →
    P sc [] [.table index t sc, .endTable t sc]
  /-- A frame without entries is entered. -/
  inward {f sc es} : (f.kind == .query) = false → P (f :: sc) [] es → P sc [] es
  /-- The entries of a data change are those of its frame. -/
  change {xs sc es} : P (.query xs :: sc) xs es → P sc [] (Tour.inside (.query xs) sc fun _ => es)
  /-- So are the entries of a select, whose clauses are walked once it has been reported. -/
  select {s sc es t} : P (.query s.sources :: sc) s.sources es →
    Walk.clauses skips s (.query s.sources :: sc) t = es.reverse ++ t →
    P sc [] (Tour.inside (.query s.sources) sc fun inner => .select s inner :: es)

namespace Walk.Law

variable {skips : Trace → Bool} {P : Scopes → List Source → List Event → Prop}

/-- A part of a walk whose reports from the scopes have the property. -/
def Part (_ : Law skips P) (sc : Scopes) (xs : List Source) (part : Trace → Trace) : Prop :=
  Adds (P sc xs) part

namespace Part

variable {law : Law skips P} {sc : Scopes} {xs ys : List Source} {f g : Trace → Trace} {e : Event}

lemma nothing : law.Part sc [] fun t => t := fun _ => ⟨[], law.nil sc, rfl⟩

lemma both (h : law.Part sc xs f) (h' : law.Part sc ys g) :
    law.Part sc (xs ++ ys) fun t => g (f t) :=
  Adds.andThen h h' fun _ _ => law.append

lemma andThen (h : law.Part sc [] f) (h' : law.Part sc [] g) : law.Part sc [] fun t => g (f t) :=
  h.both h'

lemma single (he : e.IsPlain) (hsc : e.scopes = sc) : law.Part sc [] fun t => e :: t :=
  fun _ => ⟨[e], hsc ▸ law.plain he, rfl⟩

lemma visit (he : e.IsPlain) (hsc : e.scopes = sc) (h : law.Part sc [] f) :
    law.Part sc [] (Walk.visit skips e f) :=
  Adds.visit e h (hsc ▸ law.plain he) fun _ hes => law.append (hsc ▸ law.plain he) hes

lemma visitStatement {asOperand : Bool} {s : Statement}
    (hwalk : ∀ t, Walk.statement skips asOperand s sc t = Walk.visit skips (.statement s sc) f t)
    (h : law.Part sc [] f) : law.Part sc [] (Walk.statement skips asOperand s sc) := by
  intro t
  have hreports : ∃ es, P sc [] es ∧
      Walk.statement skips asOperand s sc t = (.statement s sc :: es).reverse ++ t := by
    rw [hwalk, Walk.visit]
    split
    · exact ⟨[], law.nil sc, rfl⟩
    · obtain ⟨es, hes, heq⟩ := h (.statement s sc :: t)
      exact ⟨es, hes, by simp [heq]⟩
  obtain ⟨es, hes, heq⟩ := hreports
  exact ⟨_, law.whole hes heq, heq⟩

/-- A data change that is an operand is visited once more, around the visit of the statement. -/
lemma visitChange {asOperand : Bool} {s : Statement}
    (hwalk : ∀ asOperand t, Walk.statement skips asOperand s sc t =
      Walk.visitAgain skips asOperand (.statement s sc) f t)
    (h : law.Part sc [] f) : law.Part sc [] (Walk.statement skips asOperand s sc) := by
  have hown : law.Part sc [] (Walk.statement skips false s sc) := visitStatement (hwalk false) h
  cases asOperand with
  | false => exact hown
  | true =>
    refine visitStatement (fun t => ?_) hown
    rw [hwalk true, funext (hwalk false)]
    rfl

lemma entry (x : Source) : law.Part sc [x] fun t => .source x sc :: t :=
  fun _ => ⟨_, law.entry x sc, rfl⟩

lemma visitEntry (x : Source) (h : law.Part sc [] f) :
    law.Part sc [x] (Walk.visit skips (.source x sc) f) :=
  Adds.visit _ h (law.entry x sc) fun _ hes => law.append (law.entry x sc) hes

lemma enter {frame : Frame} (hf : (frame.kind == .query) = false)
    (h : law.Part (frame :: sc) [] f) : law.Part sc [] f := by
  intro t
  obtain ⟨es, hes, heq⟩ := h t
  exact ⟨es, law.inward hf hes, heq⟩

lemma inside {frame : Frame} (hf : (frame.kind == .query) = false) {body : Scopes → Trace → Trace}
    (h : law.Part (frame :: sc) [] (body (frame :: sc))) :
    law.Part sc [] (Walk.inside frame sc body) := by
  have hopen : law.Part (frame :: sc) [] fun t => .enter frame.kind (frame :: sc) :: t :=
    single trivial rfl
  have hclose : law.Part (frame :: sc) [] fun t => .leave frame.kind (frame :: sc) :: t :=
    single trivial rfl
  exact ((hopen.andThen h).andThen hclose).enter hf

lemma table (index : Nat) (t : CommonTable)
    (h : law.Part (.body t.name :: sc) [] (Walk.statement skips false t.body (.body t.name :: sc))) :
    law.Part sc [] fun tr => .endTable t sc :: Walk.visit skips (.table index t sc)
      (Walk.inside (.body t.name) sc (Walk.statement skips false t.body)) tr := by
  intro tr
  simp only [Walk.visit]
  split
  · next hs => exact ⟨_, law.pass hs, rfl⟩
  · obtain ⟨es, hes, heq⟩ := h (.enter .commonTable (.body t.name :: sc) :: .table index t sc :: tr)
    exact ⟨_, law.table index hes heq, by simp [Walk.inside, Tour.inside, Frame.kind, heq]⟩

lemma insideChange {body : Scopes → Trace → Trace}
    (h : law.Part (.query xs :: sc) xs (body (.query xs :: sc))) :
    law.Part sc [] (Walk.inside (.query xs) sc body) := by
  intro t
  obtain ⟨es, hes, heq⟩ := h (.enter .query (.query xs :: sc) :: t)
  exact ⟨_, law.change hes, by simp [Walk.inside, Tour.inside, Frame.kind, heq]⟩

lemma insideSelect (s : Select)
    (h : law.Part (.query s.sources :: sc) s.sources
      (Walk.clauses skips s (.query s.sources :: sc))) :
    law.Part sc [] (Walk.inside (.query s.sources) sc fun inner t =>
      Walk.clauses skips s inner (.select s inner :: t)) := by
  intro t
  obtain ⟨es, hes, heq⟩ := h (.select s (.query s.sources :: sc) ::
    .enter .query (.query s.sources :: sc) :: t)
  exact ⟨_, law.select hes heq, by simp [Walk.inside, Tour.inside, Frame.kind, heq]⟩

/-- WITH clauses have been entered. -/
lemma enterWithin (ws : List WithClause) (h : law.Part (Scopes.within ws sc) [] f) :
    law.Part sc [] f := by
  induction ws generalizing sc with
  | nil => exact h
  | cons w ws ih =>
    have hw : law.Part (w.after :: sc) [] f := ih h
    exact hw.enter rfl

/-- The clauses are left one after the other. -/
lemma leaves (ws : List WithClause) :
    law.Part sc [] (Walk.leaveWiths ws.length (Scopes.within ws sc)) := by
  have hes : P sc [] (Tour.leaves ws.length (Scopes.within ws sc)) := by
    induction ws generalizing sc with
    | nil => exact law.nil sc
    | cons w ws ih =>
      have hleave : P (w.after :: sc) [] [.leave .withClause (w.after :: sc)] :=
        law.plain (e := .leave .withClause (w.after :: sc)) trivial
      have hall := law.inward rfl (law.append (@ih (w.after :: sc)) hleave)
      rw [List.length_cons]
      exact Tour.leaves_within_succ ws w.after sc ▸ hall
  exact fun t => ⟨_, hes, Tour.Reports.leaves _ _ t⟩

/-- Entering WITH clauses, walking what they stand in front of, and leaving them. -/
lemma fronted (ws : List WithClause) (h : law.Part sc [] f)
    (hb : law.Part (Scopes.within ws sc) [] g) :
    law.Part sc [] fun t => Walk.leaveWiths ws.length (Scopes.within ws sc) (g (f t)) :=
  (h.andThen (hb.enterWithin ws)).andThen (leaves ws)

lemma frontedWith (w : Option WithClause) (h : law.Part sc [] f)
    (hb : law.Part (Walk.withScopes w sc) [] g) :
    law.Part sc [] fun t =>
      Walk.leaveWiths w.toList.length (Walk.withScopes w sc) (g (f t)) := by
  cases w with
  | none => exact h.fronted [] hb
  | some w => exact h.fronted [w] hb

lemma frontedOperands (l r : Statement) (h : law.Part sc [] f)
    (hb : law.Part (Walk.operandScopes r (Walk.operandScopes l sc)) [] g) :
    law.Part sc [] fun t =>
      Walk.leaveWiths ((Walk.operandScopes r (Walk.operandScopes l sc)).length - sc.length)
        (Walk.operandScopes r (Walk.operandScopes l sc)) (g (f t)) := by
  have hsc : Walk.operandScopes r (Walk.operandScopes l sc) =
      Scopes.within (l.operandWiths ++ r.operandWiths) sc := by
    rw [Scopes.within, List.foldl_append]
    rfl
  rw [hsc] at hb ⊢
  rw [Scopes.length_within, Nat.add_sub_cancel]
  exact h.fronted _ hb

end Part

mutual
lemma expr (law : Law skips P) (role : Role) (sc : Scopes) : (e : Expr) →
    law.Part sc [] (Walk.expr skips role e sc)
  | .call _ args _ f w =>
    .visit trivial rfl (((law.exprs sc args).andThen (law.option sc f)).andThen (law.window sc w))
  | .binary l _ r => .visit trivial rfl ((law.expr .plain sc l).andThen (law.expr .plain sc r))
  | .unary _ e => .visit trivial rfl (law.expr .plain sc e)
  | .tuple es => .visit trivial rfl (law.exprs sc es)
  | .array es => .visit trivial rfl (law.exprs sc es)
  | .inList e es _ => .visit trivial rfl ((law.expr .plain sc e).andThen (law.exprs sc es))
  | .case o bs e =>
    .visit trivial rfl (((law.option sc o).andThen (law.branches sc bs)).andThen (law.option sc e))
  | .subquery q => .visit trivial rfl (.inside rfl (law.statement false _ q))
  | .exists q => .visit trivial rfl (.inside rfl (law.statement false _ q))
  | .inSubquery e q _ =>
    .visit trivial rfl ((law.expr .plain sc e).andThen (.inside rfl (law.statement false _ q)))
  | .between e l h _ =>
    .visit trivial rfl (((law.expr .plain sc e).andThen (law.expr .plain sc l)).andThen
      (law.expr .plain sc h))
  | .isNull e _ => .visit trivial rfl (law.expr .plain sc e)
  | .cast e _ _ => .visit trivial rfl (law.expr .plain sc e)
  | .nested e => .visit trivial rfl (law.expr .plain sc e)
  | .column _ _ => .single trivial rfl
  | .literal _ => .single trivial rfl
  | .parameter _ _ => .single trivial rfl
  | .wildcard _ => .single trivial rfl
  | .raw _ => .single trivial rfl
lemma exprs (law : Law skips P) (sc : Scopes) : (es : List Expr) →
    law.Part sc [] (Walk.exprs skips es sc)
  | [] => .nothing
  | e :: es => (law.expr .plain sc e).andThen (law.exprs sc es)
lemma option (law : Law skips P) (sc : Scopes) : (e : Option Expr) →
    law.Part sc [] (Walk.option skips e sc)
  | none => .nothing
  | some e => law.expr .plain sc e
lemma branches (law : Law skips P) (sc : Scopes) : (bs : List (Expr × Expr)) →
    law.Part sc [] (Walk.branches skips bs sc)
  | [] => .nothing
  | (c, r) :: bs =>
    ((law.expr .plain sc c).andThen (law.expr .plain sc r)).andThen (law.branches sc bs)
lemma window (law : Law skips P) (sc : Scopes) : (w : Option Window) →
    law.Part sc [] (Walk.window skips w sc)
  | none => .nothing
  | some ⟨_, p, o, _⟩ => (law.exprs sc p).andThen (law.order .plain sc o)
lemma order (law : Law skips P) (role : Role) (sc : Scopes) : (os : List OrderItem) →
    law.Part sc [] (Walk.order skips role os sc)
  | [] => .nothing
  | ⟨v, _, _⟩ :: os => (law.expr role sc v).andThen (law.order role sc os)
lemma items (law : Law skips P) (sc : Scopes) : (is : List SelectItem) →
    law.Part sc [] (Walk.items skips is sc)
  | [] => .nothing
  | ⟨v, _⟩ :: is => (law.expr .plain sc v).andThen (law.items sc is)
lemma source (law : Law skips P) (sc : Scopes) : (x : Source) →
    law.Part sc [x] (Walk.source skips x sc)
  | .table _ _ _ => .entry _
  | .subquery q _ _ _ => .visitEntry _ (.inside rfl (law.statement false _ q))
  | .function _ args _ => .visitEntry _ (law.exprs sc args)
lemma sources (law : Law skips P) (sc : Scopes) : (xs : List Source) →
    law.Part sc xs (Walk.sources skips xs sc)
  | [] => .nothing
  | x :: xs => (law.source sc x).both (law.sources sc xs)
lemma condition (law : Law skips P) (sc : Scopes) : (c : Option JoinCondition) →
    law.Part sc [] (Walk.condition skips c sc)
  | some (.predicate e) => law.expr .plain sc e
  | some (.shared _) => .nothing
  | some .natural => .nothing
  | none => .nothing
lemma joins (law : Law skips P) (sc : Scopes) : (js : List Join) →
    law.Part sc (js.map (·.source)) (Walk.joins skips js sc)
  | [] => .nothing
  | ⟨_, x, c⟩ :: js => ((law.source sc x).both (law.condition sc c)).both (law.joins sc js)
lemma rows (law : Law skips P) (sc : Scopes) : (rs : List (List Expr)) →
    law.Part sc [] (Walk.rows skips rs sc)
  | [] => .nothing
  | r :: rs => (law.exprs sc r).andThen (law.rows sc rs)
lemma assignments (law : Law skips P) (sc : Scopes) : (as : List Assignment) →
    law.Part sc [] (Walk.assignments skips as sc)
  | [] => .nothing
  | ⟨_, v⟩ :: as => (law.expr .plain sc v).andThen (law.assignments sc as)
lemma tables (law : Law skips P) (all : List CommonTable) (total : Option Nat) (index : Nat)
    (sc : Scopes) : (ts : List CommonTable) →
    law.Part sc [] (Walk.tables skips (.tables all) total index ts sc)
  | [] => .nothing
  | ⟨n, cs, b⟩ :: ts => by
    have htable := Part.table index ⟨n, cs, b⟩
      (law.statement false (.body n :: .tables all (total.getD index) :: sc) b)
    exact (htable.enter rfl).andThen (law.tables all total (index + 1) sc ts)
lemma withClause (law : Law skips P) (sc : Scopes) : (w : Option WithClause) →
    law.Part sc [] (Walk.withClause skips w sc)
  | none => .nothing
  | some ⟨_, ts⟩ => by
    have hopen : law.Part (.tables ts 0 :: sc) [] fun t =>
        .enter .withClause (.tables ts 0 :: sc) :: t := .single trivial rfl
    exact (hopen.enter rfl).andThen (law.tables ts _ 0 sc ts)
lemma operandWiths (law : Law skips P) (sc : Scopes) : (s : Statement) →
    law.Part sc [] (Walk.operandWiths skips s sc)
  | .select ⟨w, _, _, _, _, _, _, _, _, _, _⟩ => law.withClause sc w
  | .setOp ⟨l, _, _, r, _, _, _⟩ =>
    (law.operandWiths sc l).andThen
      (.enterWithin l.operandWiths (law.operandWiths (Walk.operandScopes l sc) r))
  | .values _ => .nothing
  | .insert _ => .nothing
  | .createTable _ => .nothing
  | .update _ => .nothing
  | .delete _ => .nothing
lemma statement (law : Law skips P) (asOperand : Bool) (sc : Scopes) : (s : Statement) →
    law.Part sc [] (Walk.statement skips asOperand s sc)
  | .select ⟨w, d, is, fs, js, f, g, h, o, l, k⟩ => by
    have hclauses : ∀ sc : Scopes, law.Part sc (fs ++ js.map (·.source))
        (Walk.clauses skips ⟨w, d, is, fs, js, f, g, h, o, l, k⟩ sc) := fun sc => by
      have hall := ((((((((law.items sc is).both (law.sources sc fs)).both (law.joins sc js)).both
        (law.option sc f)).both (law.exprs sc g)).both (law.option sc h)).both
        (law.order .ordering sc o)).both (law.option sc l)).both (law.option sc k)
      simp only [List.nil_append, List.append_nil] at hall
      exact hall
    have hbody := fun sc : Scopes =>
      @Part.insideSelect skips P law sc ⟨w, d, is, fs, js, f, g, h, o, l, k⟩ (hclauses _)
    cases asOperand with
    | true => exact .visitStatement (fun _ => rfl) (hbody sc)
    | false => exact .visitStatement (fun _ => rfl) (.frontedWith w (law.withClause sc w) (hbody _))
  | .setOp ⟨l, op, a, r, o, m, k⟩ => by
    have htail : ∀ sc : Scopes, law.Part sc []
        (fun t => Walk.option skips k sc <| Walk.option skips m sc <|
          Walk.order skips .plain o sc <| Walk.statement skips true r sc <|
          Walk.statement skips true l sc t) := fun sc =>
      ((((law.statement true sc l).andThen (law.statement true sc r)).andThen
        (law.order .plain sc o)).andThen (law.option sc m)).andThen (law.option sc k)
    cases asOperand with
    | true => exact .visitStatement (fun _ => rfl) (htail sc)
    | false =>
      exact .visitStatement (fun _ => rfl) (.frontedOperands l r ((law.operandWiths sc l).andThen
        (.enterWithin l.operandWiths (law.operandWiths _ r))) (htail _))
  | .values ⟨rs, _⟩ => .visitStatement (fun _ => rfl) (law.rows sc rs)
  | .insert ⟨_, _, .rows rs, is⟩ =>
    .visitChange (fun _ _ => rfl) ((law.rows sc rs).andThen (law.items sc is))
  | .insert ⟨_, _, .query q, is⟩ =>
    .visitChange (fun _ _ => rfl) ((law.statement false sc q).andThen (law.items sc is))
  | .createTable ⟨_, _, _, _, some q⟩ =>
    .visitChange (fun _ _ => rfl) (law.statement false sc q)
  | .createTable ⟨_, _, _, _, none⟩ => .visitChange (fun _ _ => rfl) .nothing
  | .update ⟨w, tg, as, fs, f, is⟩ => by
    have hbody : ∀ sc : Scopes, law.Part sc (tg :: fs)
        (fun t => Walk.items skips is sc <| Walk.option skips f sc <| Walk.sources skips fs sc <|
          Walk.assignments skips as sc <| Walk.source skips tg sc t) := fun sc => by
      simpa using ((((law.source sc tg).both (law.assignments sc as)).both
        (law.sources sc fs)).both (law.option sc f)).both (law.items sc is)
    exact .visitChange (fun _ _ => rfl)
      (.frontedWith w (law.withClause sc w) (.insideChange (hbody _)))
  | .delete ⟨w, tg, us, f, is⟩ => by
    have hbody : ∀ sc : Scopes, law.Part sc (tg :: us)
        (fun t => Walk.items skips is sc <| Walk.option skips f sc <| Walk.sources skips us sc <|
          Walk.source skips tg sc t) := fun sc => by
      simpa using (((law.source sc tg).both (law.sources sc us)).both (law.option sc f)).both
        (law.items sc is)
    exact .visitChange (fun _ _ => rfl)
      (.frontedWith w (law.withClause sc w) (.insideChange (hbody _)))
end

/-- What is kept by everything that a walk does holds of all its reports. -/
theorem walk (law : Law skips P) (s : Statement) : P [] [] (s.walk skips).reverse := by
  obtain ⟨es, hes, heq⟩ := law.statement false [] s []
  rw [List.append_nil] at heq
  have hwalk : (s.walk skips).reverse = es := by rw [Statement.walk, heq, List.reverse_reverse]
  exact hwalk ▸ hes

end Walk.Law

end SqlLoom
