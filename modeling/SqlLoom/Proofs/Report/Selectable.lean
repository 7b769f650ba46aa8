import SqlLoom.Proofs.Report.ColumnGroups
import SqlLoom.Proofs.Result
import SqlLoom.Proofs.Walk.Induction
import SqlLoom.Report.SelectValues

/-! The selectable columns of a statement are those of its root select. Its groups are opened when
its entries come into scope, and then every column that its own clauses refer to is added, in the
order of the text. Queries inside it, those of its WITH clause included, add nothing. -/
namespace SqlLoom

namespace Scopes

lemma atRootQuery_iff {sc : Scopes} :
    sc.atRootQuery = true ↔
      ∃ xs below, sc = .query xs :: below ∧ below.filter (fun f => !f.isTables) = [] := by
  cases sc with
  | nil => simp [atRootQuery]
  | cons f sc =>
    cases f <;> simp [atRootQuery, kind?, Frame.kind, Frame.isTables, List.filter_eq_nil_iff]

/-- Around a root query nothing but the root query itself is one. -/
lemma eq_of_atRootQuery {sc inner : Scopes} (h : sc.atRootQuery = true) (hs : sc <:+ inner)
    (hi : inner.atRootQuery = true) : inner = sc := by
  obtain ⟨xs, below, rfl, hbelow⟩ := atRootQuery_iff.mp hi
  rcases List.suffix_cons_iff.mp hs with rfl | hs
  · rfl
  · obtain ⟨ys, below', rfl, -⟩ := atRootQuery_iff.mp h
    rw [List.filter_eq_nil_iff] at hbelow
    have := hbelow _ (hs.subset List.mem_cons_self)
    simp [Frame.isTables, Frame.kind] at this

lemma atRootQuery_of_body {name : String} {sc inner : Scopes} (h : .body name :: sc <:+ inner) :
    inner.atRootQuery = false := by
  rw [Bool.eq_false_iff]
  intro hi
  obtain ⟨xs, below, rfl, hbelow⟩ := atRootQuery_iff.mp hi
  rcases List.suffix_cons_iff.mp h with h | h
  · simp at h
  · rw [List.filter_eq_nil_iff] at hbelow
    have := hbelow _ (h.subset List.mem_cons_self)
    simp [Frame.isTables, Frame.kind] at this

end Scopes

lemma Scopes.Around.ne {f : Frame} {sc : Scopes} {es : List Event} (h : Around (f :: sc) es)
    {e : Event} (he : e ∈ es) : e.scopes ≠ sc := by
  intro hsc
  exact absurd (h e he).length_le (by simp [hsc])

mutual
/-- What is reported from a place itself is a node. -/
lemma Lexical.isNode {sc : Scopes} {es : List Event} : Lexical sc es →
    ∀ e ∈ es, e.scopes = sc → e.IsNode
  | .nil => by simp
  | .node he hes => by
    rw [List.forall_mem_cons]
    exact ⟨fun _ => he, hes.isNode⟩
  | .frame (f := f) _ hin hes => by
    simp only [List.mem_cons, List.mem_append, List.cons_append]
    rintro e (rfl | he | rfl | he) hsc
    · simp [Event.scopes] at hsc
    · exact absurd hsc (hin.around.ne he)
    · simp [Event.scopes] at hsc
    · exact hes.isNode e he hsc
  | .fronted hin hes => by
    simp only [List.mem_cons, List.mem_append, List.cons_append]
    rintro e (rfl | he | he) hsc
    · trivial
    · exact hin.isNode e he hsc
    · exact hes.isNode e he hsc
lemma Fronted.isNode {ws : List WithClause} {sc : Scopes} {es : List Event} : Fronted ws sc es →
    ∀ e ∈ es, e.scopes = sc → e.IsNode
  | .nil hes => hes.isNode
  | .clause hown _ hes => by
    simp only [List.mem_cons, List.mem_append, List.cons_append, List.not_mem_nil, or_false]
    rintro e (rfl | (he | he) | rfl) hsc
    · simp [Event.scopes] at hsc
    · exact hown.isNode e he hsc
    · exact absurd hsc (hes.ne he)
    · simp [Event.scopes] at hsc
lemma Sections.isNode {w : WithClause} {sc : Scopes} {index : Nat} {es : List Event} :
    Sections w sc index es → ∀ e ∈ es, e.scopes = sc → e.IsNode
  | .nil => by simp
  | .table _ _ hin hes => by
    simp only [List.mem_cons, List.mem_append, List.cons_append]
    rintro e (rfl | he | rfl | he) hsc
    · simp [Event.scopes] at hsc
    · exact absurd hsc (hin.ne he)
    · simp [Event.scopes] at hsc
    · exact hes.isNode e he hsc
end

namespace Tour

lemma Reports.lexical {part : Trace → Trace} {es : List Event} {sc : Scopes}
    (h : Reports part es) (hs : Stays sc part) : Lexical sc es := by
  obtain ⟨es', hes', heq⟩ := hs []
  rw [h [], List.append_nil, List.append_nil, List.reverse_inj] at heq
  exact heq ▸ hes'

/-- The reports of the clauses of a select before its filter. -/
def beforeFilter (s : Select) (sc : Scopes) : List Event :=
  items s.items sc ++ sources s.froms sc ++ joins s.joins sc

/-- The reports of the clauses of a select after its filter. -/
def afterFilter (s : Select) (sc : Scopes) : List Event :=
  exprs s.groupBy sc ++ option s.having sc ++ order .ordering s.orderBy sc ++
    option s.limit sc ++ option s.offset sc

/-- The reports of the clauses of a select. -/
def selectClauses (s : Select) (sc : Scopes) : List Event :=
  beforeFilter s sc ++ option s.filter sc ++ afterFilter s sc

lemma statement_select (s : Select) :
    statement false (.select s) [] =
      .statement (.select s) [] ::
        (withClause s.withClause [] ++
          inside (.query s.sources) (Walk.withScopes s.withClause [])
            (fun sc => .select s sc :: selectClauses s sc) ++
          leaves s.withClause.toList.length (Walk.withScopes s.withClause [])) := by
  obtain ⟨w, d, is, fs, js, f, g, h, o, l, k⟩ := s
  simp [statement, selectClauses, beforeFilter, afterFilter, Select.sources]

lemma lexical_selectClauses (s : Select) (sc : Scopes) : Lexical sc (selectClauses s sc) := by
  have hitems := (reports_items sc s.items).lexical (stays_items _ sc _)
  have hsources := (reports_sources sc s.froms).lexical (stays_sources _ sc _)
  have hjoins := (reports_joins sc s.joins).lexical (stays_joins _ sc _)
  have hexprs := (reports_exprs sc s.groupBy).lexical (stays_exprs _ sc _)
  have horder := (reports_order .ordering sc s.orderBy).lexical (stays_order _ .ordering sc _)
  have hoption := fun e => (reports_option sc e).lexical (stays_option _ sc e)
  exact (((hitems.append hsources).append hjoins).append (hoption _)).append
    ((((hexprs.append (hoption _)).append horder).append (hoption _)).append (hoption _))

lemma reports_clauses (s : Select) (sc : Scopes) :
    Reports (Walk.clauses (fun _ => false) s sc) (selectClauses s sc) := by
  have hall := ((((((((reports_items sc s.items).andThen (reports_sources sc s.froms)).andThen
    (reports_joins sc s.joins)).andThen (reports_option sc s.filter)).andThen
    (reports_exprs sc s.groupBy)).andThen (reports_option sc s.having)).andThen
    (reports_order .ordering sc s.orderBy)).andThen (reports_option sc s.limit)).andThen
    (reports_option sc s.offset)
  simp only [List.append_assoc] at hall
  simp only [selectClauses, beforeFilter, afterFilter, List.append_assoc]
  exact hall

/-- After each select come its clauses, and then its query is left. -/
def Completed (es : List Event) : Prop :=
  ∀ before s sc after, es = before ++ .select s sc :: after → ∃ below rest,
    sc = .query s.sources :: below ∧ after = selectClauses s sc ++ .leave .query sc :: rest

namespace Completed

lemma nil : Completed [] := by simp [Completed]

lemma append {es es' : List Event} (h : Completed es) (h' : Completed es') :
    Completed (es ++ es') := by
  intro before s sc after hsplit
  rcases append_split hsplit with ⟨rest, hes, rfl⟩ | ⟨front, -, hes⟩
  · obtain ⟨below, later, hsc, rfl⟩ := h before s sc rest hes
    exact ⟨below, later ++ es', hsc, by simp⟩
  · exact h' front s sc after hes

lemma single {e : Event} (he : ∀ s sc, e ≠ .select s sc) : Completed [e] := by
  intro before s sc after hsplit
  have hmem : Event.select s sc ∈ [e] := by simp [hsplit]
  exact absurd (List.mem_singleton.mp hmem).symm (he s sc)

lemma inside {f : Frame} {sc : Scopes} {es : List Event} (h : Completed es) :
    Completed (Tour.inside f sc fun _ => es) :=
  ((single (by simp)).append h).append (single (by simp))

/-- The query of a select is entered, and what comes after its report are its clauses. -/
lemma query {s : Select} {sc : Scopes}
    (h : Completed (selectClauses s (.query s.sources :: sc))) :
    Completed (Tour.inside (.query s.sources) sc fun inner =>
      .select s inner :: selectClauses s inner) := by
  intro before s' sc' after hsplit
  have hfront : [.enter .query (.query s.sources :: sc), .select s (.query s.sources :: sc)] ++
      (selectClauses s (.query s.sources :: sc) ++ [.leave .query (.query s.sources :: sc)]) =
      before ++ .select s' sc' :: after := hsplit
  rcases append_split hfront with ⟨rest, hopen, rfl⟩ | ⟨front, -, hrest⟩
  · cases before with
    | nil => simp at hopen
    | cons e before =>
      rcases List.append_eq_singleton_iff.mp (List.cons.inj hopen).2.symm with
        ⟨-, hselect⟩ | ⟨-, hnone⟩
      · cases hselect
        exact ⟨sc, [], rfl, rfl⟩
      · cases hnone
  · exact (h.append (single (by simp))) front s' sc' after hrest

end Completed

/-- A walk that leaves nothing out completes every select. -/
lemma completes : Walk.Law (fun _ => false) fun _ _ es => Completed es where
  nil _ := .nil
  append := .append
  plain {e} he := .single (by rintro s sc rfl; exact he)
  entry _ _ := .single (by simp)
  whole h _ := (Completed.single (by simp)).append h
  table _ {_ _ _ _} h _ := ((Completed.single (by simp)).append h.inside).append (.single (by simp))
  pass h := absurd h Bool.false_ne_true
  inward _ h := h
  change h := h.inside
  select {s sc es t} h hclauses := by
    have hes : es = selectClauses s (.query s.sources :: sc) := by
      simpa [reports_clauses s _ t] using hclauses.symm
    subst hes
    exact h.query

lemma atRootQuery_tables (frame : Nat → Frame) (hf : ∀ n, (frame n).isTables = true)
    (total : Option Nat) (index : Nat) (ts : List CommonTable) (sc : Scopes) :
    ∀ e ∈ tables frame total index ts sc, e.scopes.atRootQuery = false := by
  induction ts generalizing index with
  | nil => simp [tables]
  | cons t ts ih =>
    obtain ⟨n, cs, b⟩ := t
    have hhere : ∀ k, Scopes.atRootQuery (frame k :: sc) = false := by
      intro k
      have hkind : (frame k).kind = .withClause := by simpa [Frame.isTables] using hf k
      simp [Scopes.atRootQuery, Scopes.kind?, hkind]
    have hbody : ∀ sc' : Scopes, ∀ e ∈ inside (.body n) sc' (statement false b),
        e.scopes.atRootQuery = false := by
      intro sc' e he
      have hlex := (reports_statement false (.body n :: sc') b).lexical
        (stays_statement _ false _ b)
      simp only [inside, List.mem_cons, List.mem_append, List.not_mem_nil, or_false,
        List.cons_append] at he
      rcases he with rfl | he | rfl
      · exact Scopes.atRootQuery_of_body List.suffix_rfl
      · exact Scopes.atRootQuery_of_body (hlex.around e he)
      · exact Scopes.atRootQuery_of_body List.suffix_rfl
    simp only [tables, List.mem_cons, List.mem_append, List.cons_append]
    rintro e (rfl | he | rfl | he)
    · exact hhere _
    · exact hbody _ e he
    · exact hhere _
    · exact ih (index + 1) e he

lemma atRootQuery_withClause (w : Option WithClause) (sc : Scopes) :
    ∀ e ∈ withClause w sc, e.scopes.atRootQuery = false := by
  cases w with
  | none => simp [withClause]
  | some w =>
    obtain ⟨r, ts⟩ := w
    rw [withClause, List.forall_mem_cons]
    have hfront : Scopes.atRootQuery (.tables ts 0 :: sc) = false := by
      simp [Scopes.atRootQuery, Scopes.kind?, Frame.kind]
    exact ⟨hfront, atRootQuery_tables _ (fun _ => rfl) _ 0 _ sc⟩

end Tour

namespace Report

open ColumnGroup

/-- The select that a report opens, if it is the root query. -/
def rootOf : Event → Option (Select × Scopes)
  | .select s sc => if sc.atRootQuery then some (s, sc) else none
  | _ => none

lemma rootSelect_eq (s : Statement) :
    rootSelect s = (Tour.statement false s []).findSome? rootOf := by
  rw [rootSelect, Tour.trace_reverse]
  rfl

lemma findSome?_rootOf {es : List Event} (h : ∀ e ∈ es, e.scopes.atRootQuery = false) :
    es.findSome? rootOf = none := by
  refine List.findSome?_eq_none_iff.mpr fun e he => ?_
  cases e with
  | select s sc => exact if_neg (Bool.eq_false_iff.mp (h _ he))
  | _ => rfl

/-- The walk of a statement up to its root select, the clauses of this select, and what follows. -/
lemma trace_of_rootSelect {q : Statement} {s : Select} {sc : Scopes}
    (h : rootSelect q = some (s, sc)) :
    sc.atRootQuery = true ∧ (∃ below, sc = .query s.sources :: below) ∧
      ∃ before after, (∀ e ∈ before, rootOf e = none) ∧ q.trace.reverse =
        before ++ .select s sc :: (Tour.selectClauses s sc ++ .leave .query sc :: after) := by
  obtain ⟨before, e, rest, htrace, he, hbefore⟩ := List.findSome?_eq_some_iff.mp h
  cases e with
  | select s' sc' =>
    by_cases hroot : sc'.atRootQuery = true
    · simp only [hroot, if_true, Option.some.injEq, Prod.mk.injEq] at he
      obtain ⟨rfl, rfl⟩ := he
      obtain ⟨below, after, hsc, rfl⟩ := Tour.completes.walk q before s' sc' rest htrace
      exact ⟨hroot, ⟨below, hsc⟩, before, after, hbefore, htrace⟩
    · simp [hroot] at he
  | _ => cases he

/-- The column that a report of the root query adds to the groups. -/
def mention (aliases references : List String) : Event → Option SelectableColumn
  | .value role (.column qualifier name) sc =>
    if sc.atRootQuery then
      match qualifier with
      | some q =>
        (sc.resolveQualifier q 0).bind fun r =>
          if r.distance = 0 then some ⟨r.source.referenceName, name⟩ else none
      | none =>
        if role == .ordering && aliases.any (fun a => Text.sameName a name) then none
        else
          match references with
          | [reference] => some ⟨reference, name⟩
          | _ => none
    else none
  | _ => none

/-- The columns that reports of the root query add, in order. -/
def mentions (aliases references : List String) (es : List Event) : List SelectableColumn :=
  es.filterMap (mention aliases references)

@[simp] lemma mentions_nil (aliases references : List String) :
    mentions aliases references [] = [] := rfl

@[simp] lemma mentions_cons (aliases references : List String) (e : Event) (es : List Event) :
    mentions aliases references (e :: es) =
      (mention aliases references e).toList ++ mentions aliases references es := by
  cases h : mention aliases references e <;> simp [mentions, h]

@[simp] lemma mentions_append (aliases references : List String) (es es' : List Event) :
    mentions aliases references (es ++ es') =
      mentions aliases references es ++ mentions aliases references es' := by
  simp [mentions]

namespace SelectableState

/-- The state with further columns. -/
def added (cs : List SelectableColumn) (st : SelectableState) : SelectableState :=
  { st with groups := addAll cs st.groups }

variable {resolver : Option ColumnResolver} {st : SelectableState}

/-- Nothing happens before the root query is opened, nor once it has been left. -/
lemma step_idle (ha : st.active = false) {e : Event} (he : st.finished = true ∨ rootOf e = none) :
    step resolver st e = st := by
  cases e with
  | leave kind sc =>
    cases kind with
    | query =>
      obtain ⟨groups, aliases, active, finished, failure⟩ := st
      cases ha
      simp [step]
    | _ => rfl
  | select s sc =>
    rcases he with he | he
    · simp [step, he]
    · have hroot : sc.atRootQuery = false := by simpa [rootOf] using he
      simp [step, hroot]
  | value role e sc => cases e <;> simp [step, ha]
  | _ => rfl

lemma run_idle (ha : st.active = false) {es : List Event}
    (hes : st.finished = true ∨ ∀ e ∈ es, rootOf e = none) :
    es.foldl (step resolver) st = st := by
  induction es with
  | nil => rfl
  | cons e es ih =>
    rw [List.foldl_cons, step_idle ha (hes.imp_right fun h => h e List.mem_cons_self)]
    exact ih (hes.imp_right fun h e he => h e (List.mem_cons_of_mem _ he))

/-- A report of the root query adds what it mentions. -/
lemma step_active (ha : st.active = true) (hf : st.finished = true) {e : Event}
    (he : e.scopes.atRootQuery = true → e.IsNode) :
    step resolver st e =
      st.added (mention st.aliases (st.groups.map (·.reference)) e).toList := by
  obtain ⟨groups, aliases, active, finished, failure⟩ := st
  cases ha
  cases hf
  cases e with
  | leave kind sc =>
    cases kind with
    | query =>
      have hr : sc.atRootQuery = false := Bool.eq_false_iff.mpr he
      simp [step, hr, mention, added, addAll]
    | _ => rfl
  | value role e sc =>
    cases e with
    | column qualifier name =>
      cases hr : sc.atRootQuery with
      | false => simp [step, mention, hr, added, addAll]
      | true =>
        cases qualifier with
        | some q =>
          cases hq : sc.resolveQualifier q 0 with
          | none => simp [step, reference, mention, hr, hq, added, addAll]
          | some r =>
            by_cases hd : r.distance = 0 <;>
              simp [step, reference, mention, hr, hq, hd, added, addAll]
        | none =>
          simp only [step, reference, mention, hr, Bool.and_self, if_true]
          split
          · rfl
          · rcases groups with _ | ⟨g, _ | ⟨g', gs⟩⟩ <;> rfl
    | _ => rfl
  | _ => rfl

lemma run_active (ha : st.active = true) (hf : st.finished = true) {es : List Event}
    (hes : ∀ e ∈ es, e.scopes.atRootQuery = true → e.IsNode) :
    es.foldl (step resolver) st =
      st.added (mentions st.aliases (st.groups.map (·.reference)) es) := by
  induction es generalizing st with
  | nil => rfl
  | cons e es ih =>
    have hrest := fun cs => @ih (st.added cs) ha hf fun e he => hes e (List.mem_cons_of_mem _ he)
    rw [List.foldl_cons, step_active ha hf (hes e List.mem_cons_self), hrest]
    simp only [added, map_reference_addAll, mentions_cons, addAll_append]

end SelectableState

/-- The scopes of the clauses of a select that is the root query. -/
def rootScopes (s : Select) : Scopes := .query s.sources :: Walk.withScopes s.withClause []

lemma atRootQuery_rootScopes (s : Select) : (rootScopes s).atRootQuery = true := by
  rw [Scopes.atRootQuery_iff]
  refine ⟨_, _, rfl, ?_⟩
  cases s.withClause <;> simp [Walk.withScopes, Frame.isTables, Frame.kind]

lemma rootSelect_select (s : Select) : rootSelect (.select s) = some (s, rootScopes s) := by
  have hfront := findSome?_rootOf (Tour.atRootQuery_withClause s.withClause [])
  have hroot := atRootQuery_rootScopes s
  rw [rootScopes] at hroot
  rw [rootSelect_eq, Tour.statement_select, Tour.inside, rootScopes]
  simp [List.findSome?_cons, rootOf, hfront, hroot]

/-- What the groups of a select show before its clauses are read, from the scopes of its clauses. -/
def openedIn (x : Outlook) (s : Select) : Result (List ColumnGroup) := do
  let groups ← x.scopes.currentSources.mapM (ColumnGroup.ofSource x)
  match s.items.findSome? (SelectableState.blockedWildcard x) with
  | some e => .error e
  | none => .ok groups

lemma reference_ofSource {x : Outlook} {r : ResolvedSource} {g : ColumnGroup}
    (h : ofSource x r = .ok g) : g.reference = r.source.referenceName := by
  unfold ofSource at h
  split at h
  · cases h
    rfl
  · cases h
    rfl
  · cases hc : x.ofRelation r.source r.relation with
    | error e => simp [hc, bind, Except.bind] at h
    | ok columns =>
      simp only [hc, bind, Except.bind, pure, Except.pure, Except.ok.injEq] at h
      rw [← h]

/-- There is a group for each entry. -/
lemma forall₂_openedIn {x : Outlook} {s : Select} {gs : List ColumnGroup}
    (h : openedIn x s = .ok gs) :
    List.Forall₂ (fun r g => ofSource x r = .ok g) x.scopes.currentSources gs := by
  unfold openedIn at h
  cases hg : x.scopes.currentSources.mapM (ofSource x) with
  | error e => simp [hg, bind, Except.bind] at h
  | ok gs' =>
    simp only [hg, bind, Except.bind] at h
    split at h
    · simp at h
    · exact Except.ok.inj h ▸ Result.forall₂_of_mapM hg

lemma map_reference_of_forall₂ {x : Outlook} {rs : List ResolvedSource} {gs : List ColumnGroup}
    (h : List.Forall₂ (fun r g => ofSource x r = .ok g) rs gs) :
    gs.map (·.reference) = rs.map (·.source.referenceName) := by
  rw [← List.forall₂_eq_eq_eq, List.forall₂_map_left_iff, List.forall₂_map_right_iff]
  exact (h.imp fun _ _ => reference_ofSource).flip

/-- Which aliases an ORDER BY may refer to. -/
def orderAliases (s : Select) : List String := s.items.filterMap SelectItem.aliasName

/-- The groups of a select once its clauses have been read from its scopes. -/
def filledIn (sc : Scopes) (s : Select) (gs : List ColumnGroup) : List ColumnGroup :=
  addAll (mentions (orderAliases s) (gs.map (·.reference)) (Tour.selectClauses s sc)) gs

/-- A statement shows what the groups of its root select hold once its clauses have been read. -/
lemma selectable_eq (resolver : Option ColumnResolver) (q : Statement) :
    selectable resolver q =
      match rootSelect q with
      | none => .ok []
      | some (s, sc) =>
        (openedIn { resolver, scopes := sc } s).map fun gs => listed (filledIn sc s gs) := by
  have hidle : ∀ st : SelectableState, st.active = false → st.finished = true → ∀ es,
      List.foldl (SelectableState.step resolver) st es = st :=
    fun st ha hf es => SelectableState.run_idle ha (.inl hf)
  cases h : rootSelect q with
  | none =>
    rw [selectable, SelectableState.run_idle rfl (.inr (List.findSome?_eq_none_iff.mp h))]
    rfl
  | some root =>
    obtain ⟨s, sc⟩ := root
    obtain ⟨hroot, -, before, after, hbefore, htrace⟩ := trace_of_rootSelect h
    have hnode : ∀ e ∈ Tour.selectClauses s sc, e.scopes.atRootQuery = true → e.IsNode := by
      intro e he hr
      have hlex := Tour.lexical_selectClauses s sc
      exact hlex.isNode e he (Scopes.eq_of_atRootQuery hroot (hlex.around e he) hr)
    have hopen : SelectableState.step resolver {} (.select s sc) =
        SelectableState.openRoot { resolver, scopes := sc } s {} := by
      simp [SelectableState.step, hroot]
    rw [selectable, htrace, List.foldl_append, SelectableState.run_idle rfl (.inr hbefore),
      List.foldl_cons, hopen, List.foldl_append, SelectableState.openRoot]
    dsimp only [openedIn]
    cases hg : sc.currentSources.mapM (ofSource { resolver, scopes := sc }) with
    | error e =>
      dsimp only
      rw [hidle _ rfl rfl (Tour.selectClauses s sc), hidle _ rfl rfl]
      rfl
    | ok gs =>
      cases hb : s.items.findSome? (SelectableState.blockedWildcard { resolver, scopes := sc }) with
      | some e =>
        dsimp only
        rw [hidle _ rfl rfl (Tour.selectClauses s sc), hidle _ rfl rfl]
        rfl
      | none =>
        dsimp only
        have hleave : ∀ st : SelectableState, SelectableState.step resolver st
            (.leave .query sc) = { st with active := false } := by
          simp [SelectableState.step, hroot]
        rw [SelectableState.run_active rfl rfl hnode, List.foldl_cons, hleave, hidle _ rfl rfl]
        rfl

/-- What the groups of a select that is the whole statement show before its clauses are read. -/
def opened (resolver : Option ColumnResolver) (s : Select) : Result (List ColumnGroup) :=
  openedIn { resolver, scopes := rootScopes s } s

/-- Its groups once its clauses have been read. -/
def filled (s : Select) (gs : List ColumnGroup) : List ColumnGroup :=
  filledIn (rootScopes s) s gs

/-- A select shows what its groups hold once its clauses have been read. -/
lemma selectable_select (resolver : Option ColumnResolver) (s : Select) :
    selectable resolver (.select s) = (opened resolver s).map fun gs => listed (filled s gs) := by
  rw [selectable_eq, rootSelect_select]
  rfl

end Report

end SqlLoom
