import SqlLoom.Proofs.Walk.Contents
import SqlLoom.Proofs.Walk.Frames
import SqlLoom.Proofs.Walk.Induction

/-! The entries of a query mean the same wherever they are referred to. While the frame of a query
is open, the scopes below it stay as they are, and each of its entries is reported once from the
frame itself. So whatever has been entered above, an entry refers to what it refers to where it is
reported. -/
namespace SqlLoom

/-- Reports from a place. The entries `xs` are reported from the place itself, in order; a frame
with entries is entered and left around the reports of its query, which are those of its entries. -/
inductive Attends : Scopes → List Source → List Event → Prop
  | nil {sc} : Attends sc [] []
  | entry {x sc xs es} : Attends sc xs es → Attends sc (x :: xs) (.source x sc :: es)
  | other {e xs es} : e.entry? = none → Attends e.scopes xs es → Attends e.scopes xs (e :: es)
  | inward {f sc inner xs es} : (f.kind == .query) = false → Attends (f :: sc) [] inner →
    Attends sc xs es → Attends sc xs (inner ++ es)
  | query {ys sc inner xs es} : Attends (.query ys :: sc) ys inner → Attends sc xs es →
    Attends sc xs (Tour.inside (.query ys) sc (fun _ => inner) ++ es)

lemma Scopes.Around.inside {f : Frame} {sc : Scopes} {es : List Event} (h : Around (f :: sc) es) :
    Around (f :: sc) (Tour.inside f sc fun _ => es) := by
  simp only [Around, Tour.inside, List.mem_cons, List.mem_append, List.not_mem_nil, or_false,
    List.cons_append]
  rintro e (rfl | he | rfl)
  · exact List.suffix_rfl
  · exact h e he
  · exact List.suffix_rfl

/-- The entry of a report from within so many frames, with what it refers to there. -/
def Event.visit? (depth : Nat) : Event → Option (Source × Relation)
  | .source x sc => if sc.length = depth then some (x, sc.relation x) else none
  | _ => none

/-- The entries that are reported from within so many frames, with what they refer to there. -/
def visitsAt (depth : Nat) (es : List Event) : List (Source × Relation) :=
  es.filterMap (Event.visit? depth)

lemma visitsAt_append (depth : Nat) (es es' : List Event) :
    visitsAt depth (es ++ es') = visitsAt depth es ++ visitsAt depth es' :=
  List.filterMap_append

/-- From further in nothing is reported at the depth. -/
lemma Scopes.Around.visitsAt_eq_nil {f : Frame} {sc : Scopes} {es : List Event}
    (h : Around (f :: sc) es) : visitsAt sc.length es = [] := by
  refine List.filterMap_eq_nil_iff.mpr fun e he => ?_
  cases e with
  | source x inner => exact if_neg (Nat.ne_of_gt (h _ he).length_le)
  | _ => rfl

namespace Attends

variable {sc : Scopes} {xs ys : List Source} {es es' : List Event}

lemma cons {e : Event} (he : e.entry? = none) (hsc : e.scopes = sc) (h : Attends sc xs es) :
    Attends sc xs (e :: es) := by
  subst hsc
  exact .other he h

lemma append (h : Attends sc xs es) (h' : Attends sc ys es') :
    Attends sc (xs ++ ys) (es ++ es') := by
  induction h with
  | nil => exact h'
  | entry _ ih => exact .entry (ih h')
  | other he _ ih => exact .other he (ih h')
  | inward hf hin _ _ ih =>
    rw [List.append_assoc]
    exact .inward hf hin (ih h')
  | query hin _ _ ih =>
    rw [List.append_assoc]
    exact .query hin (ih h')

/-- Whatever is entered in between, the scopes of the place stay below. -/
lemma around (h : Attends sc xs es) : sc.Around es := by
  induction h with
  | nil => exact nofun
  | entry _ ih => exact List.forall_mem_cons.mpr ⟨List.suffix_rfl, ih⟩
  | other _ _ ih => exact List.forall_mem_cons.mpr ⟨List.suffix_rfl, ih⟩
  | inward _ _ _ hin ih =>
    exact List.forall_mem_append.mpr ⟨fun e he => (List.suffix_cons _ _).trans (hin e he), ih⟩
  | query _ _ hin ih =>
    exact List.forall_mem_append.mpr
      ⟨fun e he => (List.suffix_cons _ _).trans (hin.inside e he), ih⟩

/-- Each of the entries is reported from the place itself. -/
lemma source_mem (h : Attends sc xs es) {x : Source} (hx : x ∈ xs) : .source x sc ∈ es := by
  induction h with
  | nil => exact absurd hx List.not_mem_nil
  | entry _ ih =>
    rcases List.mem_cons.mp hx with rfl | hx
    · exact List.mem_cons_self
    · exact List.mem_cons_of_mem _ (ih hx)
  | other _ _ ih => exact List.mem_cons_of_mem _ (ih hx)
  | inward _ _ _ _ ih => exact List.mem_append_right _ (ih hx)
  | query _ _ _ ih => exact List.mem_append_right _ (ih hx)

/-- The entries reported from the place itself refer to what they refer to there. -/
lemma visitsAt_eq (h : Attends sc xs es) :
    visitsAt sc.length es = xs.map fun x => (x, sc.relation x) := by
  induction h with
  | nil => rfl
  | entry _ ih => simpa [visitsAt, Event.visit?] using ih
  | @other e xs es he _ ih =>
    have hnone : e.visit? e.scopes.length = none := by
      cases e with
      | source x sc => cases he
      | _ => rfl
    rwa [visitsAt, List.filterMap_cons_none hnone]
  | inward _ hin _ _ ih => rw [visitsAt_append, hin.around.visitsAt_eq_nil, ih, List.nil_append]
  | query hin _ _ ih => rw [visitsAt_append, hin.around.inside.visitsAt_eq_nil, ih, List.nil_append]

end Attends

/-- The report `e` is made while the frame of a query is open, from where it is entered to where it
is left, and the query is attended to in between. -/
def Enclosed (ys : List Source) (below : Scopes) (before : List Event) (e : Event)
    (after : List Event) : Prop :=
  ∃ front a inner b rest, before = front ++ a ∧ after = b ++ rest ∧
    a ++ e :: b = Tour.inside (.query ys) below (fun _ => inner) ∧
    Attends (.query ys :: below) ys inner

lemma Enclosed.extend {ys : List Source} {below : Scopes} {before after : List Event} {e : Event}
    (h : Enclosed ys below before e after) (earlier later : List Event) :
    Enclosed ys below (earlier ++ before) e (after ++ later) := by
  obtain ⟨front, a, inner, b, rest, rfl, rfl, hab, hin⟩ := h
  exact ⟨earlier ++ front, a, inner, b, rest ++ later, by simp, by simp, hab, hin⟩

/-- A report of a frame is that of its entering or leaving, or one of those in between. -/
lemma inside_split {f : Frame} {sc : Scopes} {inner before after : List Event} {e : Event}
    (h : Tour.inside f sc (fun _ => inner) = before ++ e :: after) :
    e.scopes = f :: sc ∨ ∃ front rest, inner = front ++ e :: rest ∧
      before = [.enter f.kind (f :: sc)] ++ front ∧
      after = rest ++ [.leave f.kind (f :: sc)] := by
  rcases append_split h with ⟨rest, hopen, rfl⟩ | ⟨front, hb, hclose⟩
  · cases before with
    | nil =>
      cases hopen
      exact .inl rfl
    | cons b before =>
      obtain ⟨rfl, hinner⟩ := List.cons.inj hopen
      exact .inr ⟨before, rest, hinner, rfl, rfl⟩
  · have he : e ∈ [Event.leave f.kind (f :: sc)] := by simp [hclose]
    rw [List.mem_singleton.mp he]
    exact .inl rfl

namespace Attends

variable {sc : Scopes} {xs ys : List Source} {es : List Event}

/-- A frame with entries that is open at a report, and was not at the start, has been entered before
the report and is left after it. -/
lemma enclosed (h : Attends sc xs es) {before after : List Event} {e : Event}
    (hes : es = before ++ e :: after) {below : Scopes} (hs : .query ys :: below <:+ e.scopes)
    (hnew : ¬.query ys :: below <:+ sc) : Enclosed ys below before e after := by
  induction h generalizing before after with
  | nil => simp at hes
  | entry _ ih | other _ _ ih =>
    cases before with
    | nil =>
      cases hes
      exact absurd hs hnew
    | cons b before =>
      obtain ⟨rfl, hrest⟩ := List.cons.inj hes
      simpa using (ih hrest hnew).extend [_] []
  | @inward f sc inner xs es hf hin _ ihin ih =>
    rcases append_split hes with ⟨rest, hinner, rfl⟩ | ⟨front, rfl, hrest⟩
    · have hout : ¬.query ys :: below <:+ f :: sc := by
        intro hsuffix
        rcases List.suffix_cons_iff.mp hsuffix with heq | hsuffix
        · obtain ⟨rfl, -⟩ := List.cons.inj heq
          exact absurd hf (by simp [Frame.kind])
        · exact hnew hsuffix
      simpa using (ihin hinner hout).extend [] es
    · simpa using (ih hrest hnew).extend inner []
  | @query zs sc inner xs es hin _ ihin ih =>
    rcases append_split hes with ⟨rest, hinside, rfl⟩ | ⟨front, rfl, hrest⟩
    · by_cases hout : .query ys :: below <:+ .query zs :: sc
      · rcases List.suffix_cons_iff.mp hout with heq | hout
        · obtain ⟨hq, rfl⟩ := List.cons.inj heq
          cases hq
          exact ⟨[], before, inner, rest, es, rfl, rfl, hinside.symm, hin⟩
        · exact absurd hout hnew
      · obtain heq | ⟨front, rest, hinner, rfl, rfl⟩ := inside_split hinside
        · exact absurd (heq ▸ hs) hout
        · simpa using (ihin hinner hout).extend [.enter (Frame.query zs).kind (.query zs :: sc)]
            (.leave (Frame.query zs).kind (.query zs :: sc) :: es)
    · simpa using (ih hrest hnew).extend (Tour.inside (.query zs) sc fun _ => inner) []

end Attends

/-- A walk attends to the entries of every query it enters, whatever the visitor leaves out. -/
lemma Walk.attends (skips : Trace → Bool) : Walk.Law skips Attends where
  nil _ := .nil
  append := .append
  plain {e} he := .other (by cases e <;> first | rfl | exact he.elim) .nil
  entry _ _ := .entry .nil
  whole h _ := .cons rfl rfl h
  table _ {t sc es _} h _ := by
    have hinside : Attends (.body t.name :: sc) [] (Tour.inside (.body t.name) sc fun _ => es) :=
      .cons rfl rfl (h.append (.cons rfl rfl .nil))
    exact .cons rfl rfl (.inward rfl hinside (.cons rfl rfl .nil))
  pass _ := .cons rfl rfl (.cons rfl rfl .nil)
  inward hf h := by simpa using Attends.inward hf h .nil
  change h := by simpa using Attends.query h .nil
  select {s sc es t} h _ := by
    have hselect : Event.entry? (.select s (.query s.sources :: sc)) = none := rfl
    simpa [Tour.inside] using Attends.query (.other hselect h) .nil

namespace Tour

/-- Whatever query lies around a report, its entries are reported from its frame. -/
lemma source_mem_trace {s : Statement} {e : Event} (he : e ∈ s.trace) {xs : List Source}
    {below : Scopes} (hs : .query xs :: below <:+ e.scopes) {x : Source} (hx : x ∈ xs) :
    .source x (.query xs :: below) ∈ s.trace := by
  obtain ⟨before, after, hsplit⟩ := List.append_of_mem (List.mem_reverse.mpr he)
  have hnew : ¬.query xs :: below <:+ ([] : Scopes) := by simp
  obtain ⟨front, a, inner, b, rest, rfl, rfl, hab, hin⟩ :=
    ((Walk.attends _).walk s).enclosed hsplit hs hnew
  have hinside : .source x (.query xs :: below) ∈ a ++ e :: b := by
    rw [hab]
    exact List.mem_append_left _ (List.mem_cons_of_mem _ (hin.source_mem hx))
  rw [← List.mem_reverse, hsplit]
  simp only [List.mem_append, List.mem_cons] at hinside ⊢
  tauto

/-- An entry that is found from a place in a statement is reported where it means the same. -/
lemma source_mem_trace_of_lists {s : Statement} {e : Event} (he : e ∈ s.trace)
    {r : ResolvedSource} (hr : e.scopes.Lists r) :
    ∃ sc, .source r.source sc ∈ s.trace ∧ Scopes.relation sc r.source = r.relation := by
  obtain ⟨xs, below, hs, hx, hrel⟩ := hr
  exact ⟨.query xs :: below, source_mem_trace he hs hx,
    (Scopes.relation_query xs below r.source).trans hrel.symm⟩

end Tour

namespace Scopes

/-- How many queries are open. -/
def queries (sc : Scopes) : Nat := sc.countP (·.kind == .query)

@[simp] lemma queries_query (xs : List Source) (sc : Scopes) :
    queries (.query xs :: sc) = sc.queries + 1 := by
  simp [queries, Frame.kind]

lemma distance_le {q : String} {d : Nat} {sc : Scopes} {r : ResolvedSource}
    (h : sc.resolveQualifier q d = some r) : d ≤ r.distance := by
  induction sc generalizing d with
  | nil => cases h
  | cons f sc ih =>
    cases f with
    | query xs =>
      rw [resolveQualifier] at h
      split at h
      · cases h
        exact Nat.le_refl d
      · exact Nat.le_of_succ_le (ih h)
    | _ => exact ih h

/-- A qualifier is found in a query further out if no nearer one answers to it. -/
lemma resolveQualifier_append_iff {q : String} {d : Nat} {above below : Scopes} {xs : List Source}
    {r : ResolvedSource} :
    (above ++ .query xs :: below).resolveQualifier q d = some r ∧ r.distance = d + above.queries ↔
      (∀ ys, .query ys ∈ above → ys.find? (·.answersTo q) = none) ∧
        xs.find? (·.answersTo q) = some r.source ∧ r.relation = relation below r.source ∧
        r.distance = d + above.queries := by
  induction above generalizing d with
  | nil =>
    simp only [List.nil_append, resolveQualifier]
    cases hx : xs.find? (·.answersTo q) with
    | none =>
      constructor
      · rintro ⟨h, hd⟩
        have := distance_le h
        simp [queries] at hd
        omega
      · simp
    | some x =>
      obtain ⟨source, relation, distance⟩ := r
      simp only [Option.some.injEq, ResolvedSource.mk.injEq, List.not_mem_nil, queries]
      constructor
      · rintro ⟨⟨rfl, rfl, rfl⟩, hd⟩
        simp
      · rintro ⟨-, rfl, rfl, rfl⟩
        simp
  | cons f above ih =>
    cases f with
    | query ys =>
      have hcount : d + queries (.query ys :: above) = d + 1 + queries above := by
        rw [queries_query]
        omega
      rw [hcount]
      simp only [List.cons_append, resolveQualifier, List.mem_cons, Frame.query.injEq,
        forall_eq_or_imp]
      cases hy : ys.find? (·.answersTo q) with
      | none => simpa using ih
      | some y =>
        simp only [Option.some.injEq]
        constructor
        · rintro ⟨rfl, hd⟩
          dsimp only at hd
          omega
        · simp
    | tables _ _ | body _ | subquery _ => simpa [resolveQualifier, queries, Frame.kind] using ih

lemma currentSources_append {above below : Scopes} {xs : List Source} (h : above.queries = 0) :
    (above ++ .query xs :: below).currentSources =
      xs.map fun x => ⟨x, relation below x, 0⟩ := by
  induction above with
  | nil => rfl
  | cons f above ih =>
    cases f with
    | query ys => simp at h
    | _ => exact ih (by simpa [queries, Frame.kind] using h)

end Scopes

/-- **An entry means the same from everywhere in its query.** Whenever the frame of a query is open,
it stays open, with the same scopes below it, from a report that enters it to one that leaves it.
In between each of its entries is reported exactly once from the frame itself. A qualifier that
names an entry of the query, or the list of the entries while no other query is open above, gives
what is found where the entry is reported. -/
theorem Statement.entries_keep_meaning (skips : Trace → Bool) (s : Statement)
    {before after : List Event} {e : Event} (h : (s.walk skips).reverse = before ++ e :: after)
    {above below : Scopes} {xs : List Source} (he : e.scopes = above ++ .query xs :: below) :
    ∃ front a inner b rest, before = front ++ a ∧ after = b ++ rest ∧
      a ++ e :: b = Tour.inside (.query xs) below (fun _ => inner) ∧
      (∀ e' ∈ inner, .query xs :: below <:+ e'.scopes) ∧
      (visitsAt (below.length + 1) inner).map (·.1) = xs ∧
      (∀ q r, (e.scopes.resolveQualifier q 0 = some r ∧ r.distance = above.queries) ↔
        (∀ ys, .query ys ∈ above → ys.find? (·.answersTo q) = none) ∧
          (visitsAt (below.length + 1) inner).find? (·.1.answersTo q) =
            some (r.source, r.relation) ∧ r.distance = above.queries) ∧
      (above.queries = 0 → e.scopes.currentSources.map (fun r => (r.source, r.relation)) =
        visitsAt (below.length + 1) inner) := by
  have hnew : ¬.query xs :: below <:+ ([] : Scopes) := by simp
  have hsuffix : .query xs :: below <:+ e.scopes := he ▸ List.suffix_append above _
  obtain ⟨front, a, inner, b, rest, hb, ha, hab, hin⟩ :=
    ((Walk.attends skips).walk s).enclosed h hsuffix hnew
  have hvisits : visitsAt (below.length + 1) inner =
      xs.map fun x => (x, Scopes.relation below x) := by
    rw [← List.length_cons (a := Frame.query xs), hin.visitsAt_eq]
    simp only [Scopes.relation_query]
  refine ⟨front, a, inner, b, rest, hb, ha, hab, hin.around, ?_, ?_, ?_⟩
  · simp [hvisits, Function.comp_def]
  · intro q r
    have hfound := @Scopes.resolveQualifier_append_iff q 0 above below xs r
    rw [Nat.zero_add] at hfound
    rw [he, hfound, hvisits, List.find?_map]
    simp only [Function.comp_def, Option.map_eq_some_iff, Prod.mk.injEq]
    constructor
    · rintro ⟨hq, hx, hr, hd⟩
      exact ⟨hq, ⟨r.source, hx, rfl, hr.symm⟩, hd⟩
    · rintro ⟨hq, ⟨x, hx, rfl, hr⟩, hd⟩
      exact ⟨hq, hx, hr.symm, hd⟩
  · intro hq
    rw [he, Scopes.currentSources_append hq, hvisits, List.map_map]
    rfl

/-- In the body of a table of an inner WITH clause, whose tables hide the outer ones, a qualifier
still names the entry of the query around as it is reported there. -/
theorem Statement.entries_keep_meaning_correlated :
    let one : Statement := .select { items := [{ value := .literal (.number "1") }] }
    let outer : CommonTable := { name := "a", body := one }
    let nested : CommonTable :=
      { name := "a", body := .select { items := [{ value := .column (some "u") "x" }] } }
    let entry : Source := .table none "a" (some "u")
    let query : Statement := .select {
      withClause := some { tables := [nested] }, items := [{ value := .wildcard none }],
      froms := [.table none "a" none] }
    let s : Statement := .select {
      withClause := some { tables := [outer] }, items := [{ value := .subquery query }],
      froms := [entry] }
    let below : Scopes := [.tables [outer] 1]
    let above : Scopes := [.query [], .body "a", .tables [nested] 0, .subquery none]
    let e : Event := .value .plain (.column (some "u") "x") (above ++ .query [entry] :: below)
    ∃ before after, (s.walk fun _ => false).reverse = before ++ e :: after ∧
      e.scopes.resolveQualifier "u" 0 = some ⟨entry, .common outer, 1⟩ ∧
      ∃ front a inner b rest, before = front ++ a ∧ after = b ++ rest ∧
        a ++ e :: b = Tour.inside (.query [entry]) below (fun _ => inner) ∧
        visitsAt 2 inner = [(entry, .common outer)] := by
  intro one outer nested entry query s below above e
  have hsplit : (s.walk fun _ => false).reverse =
      (s.walk fun _ => false).reverse.take 22 ++ e :: (s.walk fun _ => false).reverse.drop 23 := rfl
  have hu : e.scopes.resolveQualifier "u" 0 = some ⟨entry, .common outer, 1⟩ := by
    simp [e, Event.scopes, above, below, entry, outer, Scopes.resolveQualifier, Source.answersTo,
      Source.referenceName, Scopes.relation, Scopes.resolveTable, Scopes.findTable, Scopes.findIn,
      Text.sameName]
  obtain ⟨front, a, inner, b, rest, hb, ha, hab, -, hentries, hfound, -⟩ :=
    entries_keep_meaning (fun _ => false) s hsplit
      (show e.scopes = above ++ .query [entry] :: below from rfl)
  obtain ⟨-, hvisit, -⟩ := (hfound "u" ⟨entry, .common outer, 1⟩).mp ⟨hu, rfl⟩
  obtain ⟨v, hv, -⟩ := List.map_eq_singleton_iff.mp hentries
  have hmem := List.mem_of_find?_eq_some hvisit
  rw [hv, List.mem_singleton] at hmem
  exact ⟨_, _, hsplit, hu, front, a, inner, b, rest, hb, ha, hab, hmem ▸ hv⟩

end SqlLoom
