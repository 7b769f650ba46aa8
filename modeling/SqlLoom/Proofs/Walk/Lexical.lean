import SqlLoom.Proofs.Walk.Tour

/-! Reports whose scopes are lexical: frames nest like brackets, and the frame of a WITH clause
shows as many of its tables as the place allows. The walk gives each part scopes of its own; they
are those of one stack, on which a frame is pushed and popped and shows ever more of its tables. -/
namespace SqlLoom

/-- The WITH clauses in front of a statement, in the order they are entered. -/
def Statement.fronts : Statement → List WithClause
  | .select s => s.withClause.toList
  | .setOp b => (Statement.setOp b).operandWiths
  | .update u => u.withClause.toList
  | .delete d => d.withClause.toList
  | .values _ | .insert _ | .createTable _ => []

namespace WithClause

/-- The frame while the `index`-th table is walked: a recursive clause shows all its tables, a plain
one the tables before. -/
def during (w : WithClause) (index : Nat) : Frame :=
  .tables w.tables (if w.recursive then w.tables.length else index)

/-- The frame once all tables have been walked. -/
def after (w : WithClause) : Frame := .tables w.tables w.tables.length

@[simp] lemma kind_after (w : WithClause) : w.after.kind = .withClause := rfl

end WithClause

namespace Event

/-- The report of a node, and not of the start or the end of a scope or of a table. -/
def IsNode : Event → Prop
  | .statement _ _ | .select _ _ | .source _ _ | .value _ _ _ => True
  | .enter _ _ | .leave _ _ | .table _ _ _ | .endTable _ _ => False

end Event

/-- Every report is made from within the scopes. -/
def Scopes.Around (sc : Scopes) (es : List Event) : Prop := ∀ e ∈ es, sc <:+ e.scopes

mutual
/-- Reports from a place whose scopes are `sc`, before the first of them and after the last. -/
inductive Lexical : Scopes → List Event → Prop
  | nil {sc} : Lexical sc []
  | node {e es} : e.IsNode → Lexical e.scopes es → Lexical e.scopes (e :: es)
  /-- A frame that is no WITH clause is left as it was entered. -/
  | frame {f sc inner es} : f.isTables = false → Lexical (f :: sc) inner → Lexical sc es →
    Lexical sc (.enter f.kind (f :: sc) :: inner ++ .leave f.kind (f :: sc) :: es)
  | fronted {s sc inner es} : Fronted s.fronts sc inner → Lexical sc es →
    Lexical sc (.statement s sc :: inner ++ es)
/-- The reports of WITH clauses, one inside the other, and of what they stand in front of. -/
inductive Fronted : List WithClause → Scopes → List Event → Prop
  | nil {sc es} : Lexical sc es → Fronted [] sc es
  | clause {w ws sc own es} : Sections w sc 0 own →
    Fronted ws (w.after :: sc) es → Scopes.Around (w.after :: sc) es →
    Fronted (w :: ws) sc
      (.enter .withClause (.tables w.tables 0 :: sc) :: own ++ es ++
        [.leave .withClause (w.after :: sc)])
/-- The reports of the tables of a clause from the `index`-th on. -/
inductive Sections : WithClause → Scopes → Nat → List Event → Prop
  | nil {w sc} : Sections w sc w.tables.length []
  | table {w sc index t inner es} : w.tables[index]? = some t →
    Lexical (w.during index :: sc) inner → Scopes.Around (w.during index :: sc) inner →
    Sections w sc (index + 1) es →
    Sections w sc index
      (.table index t (w.during index :: sc) :: inner ++
        .endTable t (w.during index :: sc) :: es)
end

mutual
/-- Whatever is entered in between, the scopes of a place stay below. -/
lemma Lexical.around {sc : Scopes} {es : List Event} : Lexical sc es → sc.Around es
  | .nil => by simp [Scopes.Around]
  | .node _ hes => by
    simp only [Scopes.Around, List.mem_cons, forall_eq_or_imp]
    exact ⟨List.suffix_rfl, hes.around⟩
  | .frame _ hin hes => by
    simp only [Scopes.Around, List.mem_cons, List.mem_append, List.cons_append]
    rintro e (rfl | he | rfl | he)
    · exact List.suffix_cons _ _
    · exact (List.suffix_cons _ _).trans (hin.around e he)
    · exact List.suffix_cons _ _
    · exact hes.around e he
  | .fronted hin hes => by
    simp only [Scopes.Around, List.mem_cons, List.mem_append, List.cons_append]
    rintro e (rfl | he | he)
    · exact List.suffix_rfl
    · exact hin.around e he
    · exact hes.around e he
lemma Fronted.around {ws : List WithClause} {sc : Scopes} {es : List Event} :
    Fronted ws sc es → sc.Around es
  | .nil hes => hes.around
  | .clause hown _ hes => by
    simp only [Scopes.Around, List.mem_cons, List.mem_append, List.cons_append, List.not_mem_nil,
      or_false]
    rintro e (rfl | (he | he) | rfl)
    · exact List.suffix_cons _ _
    · exact hown.around e he
    · exact (List.suffix_cons _ _).trans (hes e he)
    · exact List.suffix_cons _ _
lemma Sections.around {w : WithClause} {sc : Scopes} {index : Nat} {es : List Event} :
    Sections w sc index es → sc.Around es
  | .nil => by simp [Scopes.Around]
  | .table _ _ hin hes => by
    simp only [Scopes.Around, List.mem_cons, List.mem_append, List.cons_append]
    rintro e (rfl | he | rfl | he)
    · exact List.suffix_cons _ _
    · exact (List.suffix_cons _ _).trans (hin e he)
    · exact List.suffix_cons _ _
    · exact hes.around e he
end

/-- A frame without the number of tables it shows. -/
def Frame.base : Frame → Frame
  | .tables all _ => .tables all 0
  | f => f

/-- Reports that nest like brackets while frames are open: an entered frame lies on the open ones,
a frame is left while it is the innermost of them, every report finds exactly the open frames, and
none is open in the end. -/
def Nests : List Frame → List Event → Prop
  | frames, [] => frames = []
  | frames, e :: es =>
    match e with
    | .enter kind sc => ∃ f, f.kind = kind ∧ sc.map Frame.base = f :: frames ∧ Nests (f :: frames) es
    | .leave kind sc => ∃ f below, f.kind = kind ∧ frames = f :: below ∧
        sc.map Frame.base = frames ∧ Nests below es
    | e => e.scopes.map Frame.base = frames ∧ Nests frames es

lemma Frame.kind_base (f : Frame) : f.base.kind = f.kind := by cases f <;> rfl

namespace Scopes

/-- The same stack, or with another number of tables of the nearest WITH clause in view. -/
def Adjusts (sc sc' : Scopes) : Prop := sc' = sc ∨ ∃ count, sc' = sc.setVisible count

lemma Adjusts.refl (sc : Scopes) : sc.Adjusts sc := .inl rfl

lemma map_base_setVisible (count : Nat) (sc : Scopes) :
    (sc.setVisible count).map Frame.base = sc.map Frame.base := by
  induction sc with
  | nil => rfl
  | cons f sc ih =>
    cases f with
    | tables all visible => rfl
    | body _ | query _ | subquery _ => exact congrArg (_ :: ·) ih

lemma Adjusts.map_base {sc sc' : Scopes} (h : sc.Adjusts sc') :
    sc'.map Frame.base = sc.map Frame.base := by
  rcases h with rfl | ⟨count, rfl⟩
  · rfl
  · exact map_base_setVisible count sc

/-- A clause in front can be made to show any number of its tables. -/
lemma adjusts_tables {all : List CommonTable} (visible : Nat) {count : Nat} (sc : Scopes)
    (h : count ≤ all.length) : Adjusts (.tables all visible :: sc) (.tables all count :: sc) :=
  .inr ⟨count, by rw [setVisible, Nat.min_eq_left h]⟩

lemma Adjusts.eq_nil {sc : Scopes} (h : sc.Adjusts []) : sc = [] := by
  have := h.map_base
  rwa [List.map_nil, eq_comm, List.map_eq_nil_iff] at this

end Scopes

/-- Reports of one stack of frames. It changes in three ways: a frame is pushed before the report
that enters it, a WITH clause with none of its tables in view, and popped after the report that
leaves it, and before any report another number of tables may come into view in the nearest WITH
clause. It is empty in the end. -/
def Threads : Scopes → List Event → Prop
  | stack, [] => stack = []
  | stack, e :: es =>
    match e with
    | .enter kind sc => ∃ f below, f.kind = kind ∧ f.base = f ∧ sc = f :: below ∧
        stack.Adjusts below ∧ Threads sc es
    | .leave kind sc => ∃ f below, f.kind = kind ∧ sc = f :: below ∧ stack.Adjusts sc ∧
        Threads below es
    | e => stack.Adjusts e.scopes ∧ Threads e.scopes es

/-- However many tables are in view, the pushes and the pops nest. -/
lemma Threads.nests {stack : Scopes} {es : List Event} (h : Threads stack es) :
    Nests (stack.map Frame.base) es := by
  induction es generalizing stack with
  | nil => exact List.map_eq_nil_iff.mpr h
  | cons e es ih =>
    cases e with
    | enter kind sc =>
      obtain ⟨f, below, hk, -, rfl, ha, hes⟩ := h
      have hn := ih hes
      rw [List.map_cons, ha.map_base] at hn
      exact ⟨f.base, f.kind_base.trans hk, by rw [List.map_cons, ha.map_base], hn⟩
    | leave kind sc =>
      obtain ⟨f, below, hk, rfl, ha, hes⟩ := h
      exact ⟨f.base, _, f.kind_base.trans hk, ha.map_base.symm, ha.map_base, ih hes⟩
    | statement _ _ | select _ _ | table _ _ _ | endTable _ _ | source _ _ | value _ _ _ =>
      exact ⟨h.1.map_base, h.1.map_base ▸ ih h.2⟩

namespace Threads

variable {stack sc : Scopes} {es : List Event}

lemma enter {f : Frame} (hf : f.base = f) (ha : stack.Adjusts sc) (h : Threads (f :: sc) es) :
    Threads stack (.enter f.kind (f :: sc) :: es) :=
  ⟨f, sc, rfl, hf, rfl, ha, h⟩

lemma leave {f : Frame} (ha : stack.Adjusts (f :: sc)) (h : Threads sc es) :
    Threads stack (.leave f.kind (f :: sc) :: es) :=
  ⟨f, sc, rfl, rfl, ha, h⟩

lemma node {e : Event} (he : e.IsNode) (ha : stack.Adjusts e.scopes)
    (h : Threads e.scopes es) : Threads stack (e :: es) := by
  cases e with
  | statement _ _ | select _ _ | source _ _ | value _ _ _ => exact ⟨ha, h⟩
  | enter _ _ | leave _ _ | table _ _ _ | endTable _ _ => exact he.elim

end Threads

lemma WithClause.adjusts_during (w : WithClause) (visible : Nat) {index : Nat}
    (h : index ≤ w.tables.length) (sc : Scopes) :
    Scopes.Adjusts (.tables w.tables visible :: sc) (w.during index :: sc) := by
  unfold during
  split
  · exact Scopes.adjusts_tables visible sc (Nat.le_refl _)
  · exact Scopes.adjusts_tables visible sc h

mutual
lemma Lexical.threads {sc : Scopes} {es rest : List Event}
    (hr : ∀ stack, Scopes.Adjusts stack sc → Threads stack rest) :
    Lexical sc es → ∀ stack, Scopes.Adjusts stack sc → Threads stack (es ++ rest)
  | .nil => hr
  | .node he hes => fun _ ha => .node he ha (hes.threads hr _ (.refl _))
  | .frame (f := f) hf hin hes => fun stack ha => by
    have hbase : f.base = f := by
      cases f with
      | tables _ _ => cases hf
      | body _ | query _ | subquery _ => rfl
    rw [List.append_assoc]
    refine .enter hbase ha (hin.threads (fun _ ha => ?_) _ (.refl _))
    exact .leave ha (hes.threads hr _ (.refl _))
  | .fronted hin hes => fun stack ha => by
    rw [List.append_assoc]
    exact .node (e := .statement _ _) trivial ha (hin.threads (hes.threads hr) _ (.refl _))
lemma Fronted.threads {ws : List WithClause} {sc : Scopes} {es rest : List Event}
    (hr : ∀ stack, Scopes.Adjusts stack sc → Threads stack rest) :
    Fronted ws sc es → ∀ stack, Scopes.Adjusts stack sc → Threads stack (es ++ rest)
  | .nil hes => hes.threads hr
  | .clause (w := w) hown hes _ => fun stack ha => by
    rw [List.append_assoc, List.append_assoc]
    refine .enter (f := .tables w.tables 0) rfl ha (hown.threads (fun visible => ?_) 0)
    refine hes.threads (fun _ ha => ?_) _ (Scopes.adjusts_tables visible sc (Nat.le_refl _))
    exact .leave ha (hr _ (.refl _))
/-- Between the tables of a clause the number of those in view changes, and nothing else. -/
lemma Sections.threads {w : WithClause} {sc : Scopes} {index : Nat} {es rest : List Event}
    (hr : ∀ visible, Threads (.tables w.tables visible :: sc) rest) :
    Sections w sc index es →
      ∀ visible, Threads (.tables w.tables visible :: sc) (es ++ rest)
  | .nil => hr
  | .table (t := t) hi hin _ hes => fun visible => by
    have hindex : index ≤ w.tables.length := Nat.le_of_lt (List.getElem?_eq_some_iff.mp hi).1
    have hend : ∀ stack, Scopes.Adjusts stack (w.during index :: sc) →
        Threads stack (.endTable t (w.during index :: sc) :: (_ ++ rest)) :=
      fun _ ha => ⟨ha, hes.threads hr _⟩
    rw [List.append_assoc]
    exact ⟨w.adjusts_during visible hindex sc, hin.threads hend _ (.refl _)⟩
end

lemma Lexical.threads_nil {es : List Event} (h : Lexical [] es) : Threads [] es := by
  have hend : ∀ stack, Scopes.Adjusts stack [] → Threads stack [] := fun _ ha => ha.eq_nil
  simpa using h.threads hend [] (.refl _)

end SqlLoom
