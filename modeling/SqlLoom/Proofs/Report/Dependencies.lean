import SqlLoom.Proofs.Report.Selectable
import SqlLoom.Proofs.Report.Visits
import SqlLoom.Proofs.Walk.Tables
import SqlLoom.Report.CommonTables

/-! Which common tables each one reads. While the walk is in the body of a table, the entry of the
table stands where it was put, the entries of tables that have ended come behind it, and it moves
behind them when it ends. -/
namespace SqlLoom

/-- The table that a report in the body of another reads: one that its name means there, and that
is not the one at the given place. -/
def Event.readFrom (depth index : Nat) : Event → Option CommonTable
  | .source (.table none name _) sc =>
    (sc.findTable name).bind fun p =>
      if p.depth = depth ∧ p.index = index then none else some p.table
  | _ => none

namespace TableVisit

/-- The names of the tables that the table itself reads, in the order of first reference. -/
def reads (v : TableVisit) : List String :=
  Text.distinct ((v.own.filterMap (Event.readFrom (v.scopes.length - 1) v.index)).map (·.name))

def entry (v : TableVisit) : TableDependency := ⟨v.table.name, v.reads⟩

end TableVisit

namespace Report

namespace DependencyState

/-- Adds the names that reports in the body of an open table read. -/
def note (o : OpenTable) (es : List Event) (d : TableDependency) : TableDependency :=
  (es.filterMap (Event.readFrom o.depth o.index)).foldl (fun d t => addName t.name d) d

lemma note_cons (o : OpenTable) (e : Event) (es : List Event) (d : TableDependency) :
    note o (e :: es) d = note o es (note o [e] d) := by
  cases h : e.readFrom o.depth o.index <;> simp [note, h]

/-- A new entry collects distinct names. -/
lemma foldl_addName (name : String) (ts : List CommonTable) :
    ts.foldl (fun d t => addName t.name d) ⟨name, []⟩ =
      ⟨name, Text.distinct (ts.map (·.name))⟩ := by
  induction ts using List.reverseRecOn with
  | nil => rfl
  | append_singleton ts t ih =>
    rw [List.foldl_append, ih, List.map_append, List.foldl_cons, List.foldl_nil, addName]
    by_cases h : t.name ∈ Text.distinct (ts.map (·.name))
    · rw [if_pos (by simpa using h), List.map_singleton, Text.distinct_concat_of_mem h]
    · rw [if_neg (by simpa using h), List.map_singleton, Text.distinct_concat_of_not_mem h]

lemma moveToEnd_length (ds es : List TableDependency) (d : TableDependency) :
    moveToEnd ds.length (ds ++ d :: es) = ds ++ es ++ [d] := by
  simp [moveToEnd, List.eraseIdx_append_of_length_le]

lemma step_endTable (t : CommonTable) (sc : Scopes) (o : OpenTable) (os : List OpenTable)
    (ds : List TableDependency) :
    step ⟨o :: os, ds⟩ (.endTable t sc) = ⟨os, moveToEnd o.slot ds⟩ := rfl

/-- Outside of all open tables nothing is noted. -/
lemma step_idle {e : Event} (he : ¬e.BoundsTable) (ds : List TableDependency) :
    step ⟨[], ds⟩ e = ⟨[], ds⟩ := by
  cases e with
  | table _ _ _ => exact absurd trivial he
  | endTable _ _ => exact absurd trivial he
  | source s sc =>
    rcases s with ⟨_ | schema, name, _⟩ | _ | _ <;> rfl
  | _ => rfl

/-- Everything that is read counts for the innermost open table. -/
lemma step_active {e : Event} (he : ¬e.BoundsTable) (o : OpenTable) (os : List OpenTable)
    (ds : List TableDependency) :
    step ⟨o :: os, ds⟩ e = ⟨o :: os, ds.modify o.slot (note o [e])⟩ := by
  have hkeep : ∀ e : Event, e.readFrom o.depth o.index = none →
      step ⟨o :: os, ds⟩ e = ⟨o :: os, ds⟩ →
      step ⟨o :: os, ds⟩ e = ⟨o :: os, ds.modify o.slot (note o [e])⟩ := by
    intro e hread hstep
    have hid : note o [e] = id := funext fun d => by simp [note, hread]
    rw [hstep, hid, List.modify_id]
  cases e with
  | table _ _ _ => exact absurd trivial he
  | endTable _ _ => exact absurd trivial he
  | source s sc =>
    rcases s with ⟨_ | schema, name, a⟩ | _ | _
    · cases hfind : sc.findTable name with
      | none => exact hkeep _ (by simp [Event.readFrom, hfind]) (by simp [step, hfind])
      | some p =>
        by_cases hp : p.depth = o.depth ∧ p.index = o.index
        · exact hkeep _ (by simp [Event.readFrom, hfind, hp]) (by simp [step, hfind, hp])
        · have hnote : note o [.source (.table none name a) sc] = addName p.table.name := by
            funext d
            simp [note, Event.readFrom, hfind, hp]
          rw [hnote]
          simp [step, hfind, hp]
    · exact hkeep _ rfl rfl
    · exact hkeep _ rfl rfl
    · exact hkeep _ rfl rfl
  | enter _ _ => exact hkeep _ rfl rfl
  | leave _ _ => exact hkeep _ rfl rfl
  | statement _ _ => exact hkeep _ rfl rfl
  | select _ _ => exact hkeep _ rfl rfl
  | value _ _ _ => exact hkeep _ rfl rfl

/-- The entries once reports outside of tables have been walked. -/
def noted (os : List OpenTable) (own : List Event) (ds : List TableDependency) :
    List TableDependency :=
  match os with
  | [] => ds
  | o :: _ => ds.modify o.slot (note o own)

lemma length_noted (os : List OpenTable) (own : List Event) (ds : List TableDependency) :
    (noted os own ds).length = ds.length := by
  cases os <;> simp [noted]

lemma step_outside {e : Event} (he : ¬e.BoundsTable) (os : List OpenTable)
    (ds : List TableDependency) : step ⟨os, ds⟩ e = ⟨os, noted os [e] ds⟩ := by
  cases os with
  | nil => exact step_idle he ds
  | cons o os => exact step_active he o os ds

lemma noted_cons (os : List OpenTable) (e : Event) (own : List Event)
    (ds : List TableDependency) : noted os own (noted os [e] ds) = noted os (e :: own) ds := by
  cases os with
  | nil => rfl
  | cons o os =>
    rw [noted, noted, noted, List.modify_modify_eq]
    congr 1
    funext d
    exact (note_cons o e own d).symm

/-- The entry of an open table is not among those of tables that have ended since. -/
lemma noted_append {os : List OpenTable} {ds : List TableDependency}
    (hos : ∀ o ∈ os.head?, o.slot < ds.length) (own : List Event) (es : List TableDependency) :
    noted os own (ds ++ es) = noted os own ds ++ es := by
  cases os with
  | nil => rfl
  | cons o os =>
    have hlt := hos o rfl
    rw [noted, noted, List.modify_eq_take_cons_drop (by simp; omega),
      List.modify_eq_take_cons_drop hlt, List.take_append_of_le_length (Nat.le_of_lt hlt),
      List.drop_append_of_le_length hlt, List.getElem_append_left hlt, List.append_assoc,
      List.cons_append]

lemma foldl_step {es own : List Event} {vs : List TableVisit} (h : Visits es own vs)
    (os : List OpenTable) (ds : List TableDependency) (hos : ∀ o ∈ os.head?, o.slot < ds.length) :
    es.foldl step ⟨os, ds⟩ = ⟨os, noted os own ds ++ vs.map TableVisit.entry⟩ := by
  induction h generalizing os ds with
  | nil =>
    cases os with
    | nil => simp [noted]
    | cons o os =>
      have hid : note o [] = id := rfl
      simp [noted, hid]
  | @outside e es own vs he _ ih =>
    rw [List.foldl_cons, step_outside he, ih os _ (by simpa [length_noted] using hos), noted_cons]
  | @table index t sc inner nested es own vs _ _ hin ih =>
    have hbody := hin (⟨sc.length - 1, index, ds.length⟩ :: os) (ds ++ [⟨t.name, []⟩]) (by simp)
    have hentry : noted (⟨sc.length - 1, index, ds.length⟩ :: os) inner (ds ++ [⟨t.name, []⟩]) =
        ds ++ [TableVisit.entry ⟨index, t, sc, inner⟩] := by
      rw [noted, List.modify_eq_take_drop]
      simp [note, foldl_addName, TableVisit.entry, TableVisit.reads]
    rw [hentry, List.append_assoc, List.singleton_append] at hbody
    have hslot : ∀ o ∈ os.head?, o.slot < (ds ++ nested.map TableVisit.entry ++
        [TableVisit.entry ⟨index, t, sc, inner⟩]).length := by
      intro o ho
      have := hos o ho
      simp only [List.length_append]
      omega
    calc (Event.table index t sc :: Tour.inside (.body t.name) sc (Tour.statement false t.body) ++
            .endTable t sc :: es).foldl step ⟨os, ds⟩
        = es.foldl step (step ((Tour.inside (.body t.name) sc
            (Tour.statement false t.body)).foldl step
              ⟨⟨sc.length - 1, index, ds.length⟩ :: os, ds ++ [⟨t.name, []⟩]⟩)
              (.endTable t sc)) := by
          rw [List.cons_append, List.foldl_cons, List.foldl_append]
          rfl
      _ = es.foldl step ⟨os, ds ++ nested.map TableVisit.entry ++
            [TableVisit.entry ⟨index, t, sc, inner⟩]⟩ := by
          rw [hbody, step_endTable, moveToEnd_length]
      _ = ⟨os, noted os own ds ++
            (nested ++ ⟨index, t, sc, inner⟩ :: vs).map TableVisit.entry⟩ := by
          rw [ih os _ hslot, List.append_assoc, noted_append hos]
          simp

end DependencyState

end Report

/-- The table that has been walked to its end. -/
def Event.ended : Event → Option CommonTable
  | .endTable t _ => some t
  | _ => none

lemma Event.ended_eq_none {e : Event} (he : ¬e.BoundsTable) : e.ended = none := by
  cases e with
  | endTable _ _ => exact absurd trivial he
  | _ => rfl

lemma Visits.filterMap_ended {es own : List Event} {vs : List TableVisit} (h : Visits es own vs) :
    es.filterMap Event.ended = vs.map (·.table) := by
  induction h with
  | nil => rfl
  | outside he _ ih =>
    rw [List.filterMap_cons_none (Event.ended_eq_none he), ih]
  | table _ _ hin ih =>
    rw [List.cons_append, List.filterMap_cons_none rfl, List.filterMap_append, hin,
      List.filterMap_cons_some (f := Event.ended) rfl, ih, List.map_append, List.map_cons]

/-- Every table that can be named from a report has ended before it, or is among those given. -/
def Grounded : List CommonTable → List Event → Prop
  | _, [] => True
  | done, e :: es => e.scopes.visible ⊆ done ∧ Grounded (done ++ e.ended.toList) es

lemma grounded_append {done : List CommonTable} {es es' : List Event} :
    Grounded done (es ++ es') ↔
      Grounded done es ∧ Grounded (done ++ es.filterMap Event.ended) es' := by
  induction es generalizing done with
  | nil => simp [Grounded]
  | cons e es ih =>
    have hended : done ++ (e :: es).filterMap Event.ended =
        done ++ e.ended.toList ++ es.filterMap Event.ended := by
      cases h : e.ended <;> simp [h]
    rw [List.cons_append, Grounded, Grounded, ih, hended, and_assoc]

lemma Grounded.cons {done : List CommonTable} {e : Event} {es : List Event} (he : e.ended = none)
    (hv : e.scopes.visible ⊆ done) (h : Grounded done es) : Grounded done (e :: es) :=
  ⟨hv, by rwa [he, Option.toList_none, List.append_nil]⟩

lemma Scopes.visible_of_isTables {f : Frame} (hf : f.isTables = false) (sc : Scopes) :
    visible (f :: sc) = sc.visible := by
  cases f with
  | tables _ _ => cases hf
  | _ => rfl

/-- The WITH clauses in front of the statement that is reported. -/
def Event.clauses : Event → List WithClause
  | .statement s _ => s.clauses
  | _ => []

lemma PlainClauses.mono {es es' : List Event} (h : PlainClauses es') (hs : es ⊆ es') :
    PlainClauses es := fun q sc hq => h q sc (hs hq)

lemma Statement.clauses_eq_fronts (s : Statement) : s.clauses = s.fronts := by
  cases s with
  | select s => obtain ⟨_ | w, _⟩ := s <;> rfl
  | _ => rfl

mutual
lemma Lexical.grounded {sc : Scopes} {es : List Event} {done : List CommonTable}
    (hp : PlainClauses es) (hv : sc.visible ⊆ done) : Lexical sc es → Grounded done es
  | .nil => trivial
  | .node _ hes =>
    ⟨hv, hes.grounded (hp.mono (List.subset_cons_self _ _))
      (List.subset_append_of_subset_left _ hv)⟩
  | .frame (f := f) hf hin hes => by
    have hvf : Scopes.visible (f :: sc) ⊆ done := Scopes.visible_of_isTables hf sc ▸ hv
    have hbody := hin.grounded (hp.mono fun e he => by simp [he]) hvf
    refine grounded_append.mpr ⟨.cons rfl hvf hbody, ?_⟩
    refine .cons rfl (List.subset_append_of_subset_left _ hvf) ?_
    exact hes.grounded (hp.mono fun e he => by simp [he]) (List.subset_append_of_subset_left _ hv)
  | .fronted (s := s) hin hes => by
    have hws : ∀ w ∈ s.fronts, w.recursive = false :=
      s.clauses_eq_fronts ▸ hp s sc (by simp)
    have hbody := hin.grounded hws (hp.mono fun e he => by simp [he]) hv
    refine grounded_append.mpr ⟨.cons rfl hv hbody, ?_⟩
    exact hes.grounded (hp.mono fun e he => by simp [he]) (List.subset_append_of_subset_left _ hv)
lemma Fronted.grounded {ws : List WithClause} {sc : Scopes} {es : List Event}
    {done : List CommonTable} (hws : ∀ w ∈ ws, w.recursive = false) (hp : PlainClauses es)
    (hv : sc.visible ⊆ done) : Fronted ws sc es → Grounded done es
  | .nil hes => hes.grounded hp hv
  | @Fronted.clause w _ _ own _ hown hes _ => by
    obtain ⟨hw, hws⟩ := List.forall_mem_cons.mp hws
    have hnone : w.tables.take 0 ⊆ done := by simp
    obtain ⟨hwalk, hall⟩ := hown.grounded hw (hp.mono fun e he => by simp [he]) hv hnone
    have hafter : Scopes.visible (w.after :: sc) ⊆ done ++ own.filterMap Event.ended := by
      rw [WithClause.after, Scopes.visible_tables, List.take_length]
      exact List.append_subset.mpr ⟨hall, List.subset_append_of_subset_left _ hv⟩
    have hrest := hes.grounded hws (hp.mono fun e he => by simp [he]) hafter
    have hopen : Scopes.visible (.tables w.tables 0 :: sc) ⊆ done := by simpa using hv
    refine grounded_append.mpr ⟨grounded_append.mpr ⟨.cons rfl hopen hwalk, hrest⟩, ?_⟩
    rw [List.cons_append, List.filterMap_cons_none rfl, List.filterMap_append, ← List.append_assoc]
    exact .cons rfl (List.subset_append_of_subset_left _ hafter) trivial
/-- After the tables of a clause, all of them have ended. -/
lemma Sections.grounded {w : WithClause} {sc : Scopes} {index : Nat} {es : List Event}
    {done : List CommonTable} (hw : w.recursive = false) (hp : PlainClauses es)
    (hv : sc.visible ⊆ done) (hd : w.tables.take index ⊆ done) : Sections w sc index es →
    Grounded done es ∧ w.tables ⊆ done ++ es.filterMap Event.ended
  | .nil => by
    rw [List.take_length] at hd
    exact ⟨trivial, List.subset_append_of_subset_left _ hd⟩
  | @Sections.table _ _ _ t inner _ ht hin _ hes => by
    have hhere : Scopes.visible (w.during index :: sc) ⊆ done := by
      rw [WithClause.during, hw, Scopes.visible_tables]
      exact List.append_subset.mpr ⟨hd, hv⟩
    have hbody := hin.grounded (hp.mono fun e he => by simp [he]) hhere
    have hnext : w.tables.take (index + 1) ⊆ done ++ inner.filterMap Event.ended ++ [t] := by
      rw [List.take_add_one, ht, Option.toList_some]
      refine List.append_subset.mpr ⟨?_, List.subset_append_right _ _⟩
      exact List.subset_append_of_subset_left _ (List.subset_append_of_subset_left _ hd)
    obtain ⟨hrest, hall⟩ := hes.grounded hw (hp.mono fun e he => by simp [he])
      (List.subset_append_of_subset_left _ (List.subset_append_of_subset_left _ hv)) hnext
    constructor
    · refine grounded_append.mpr ⟨.cons rfl hhere hbody, ?_⟩
      rw [List.filterMap_cons_none rfl]
      exact ⟨List.subset_append_of_subset_left _ hhere, hrest⟩
    · rw [List.append_assoc, List.append_assoc] at hall
      rwa [List.filterMap_append, List.filterMap_cons_none rfl]
end

/-- The tables that each of these reads are among those given and those before it. -/
def Supplied : List CommonTable → List TableVisit → Prop
  | _, [] => True
  | done, v :: vs => v.reads ⊆ done.map (·.name) ∧ Supplied (done ++ [v.table]) vs

lemma supplied_append {done : List CommonTable} {vs vs' : List TableVisit} :
    Supplied done (vs ++ vs') ↔ Supplied done vs ∧ Supplied (done ++ vs.map (·.table)) vs' := by
  induction vs generalizing done with
  | nil => simp [Supplied]
  | cons v vs ih => simp [Supplied, ih, and_assoc]

lemma Supplied.reads_subset {done : List CommonTable} {vs : List TableVisit}
    (h : Supplied done vs) {k : Nat} {v : TableVisit} (hv : vs[k]? = some v) :
    v.reads ⊆ (done ++ (vs.take k).map (·.table)).map (·.name) := by
  induction vs generalizing done k with
  | nil => cases hv
  | cons u vs ih =>
    cases k with
    | zero =>
      cases hv
      simpa using h.1
    | succ k => simpa using ih h.2 hv

/-- What is read can be named. -/
lemma Event.mem_visible_of_readFrom {depth index : Nat} {e : Event} {t : CommonTable}
    (h : e.readFrom depth index = some t) : t ∈ e.scopes.visible := by
  cases e with
  | source s sc =>
    rcases s with ⟨_ | schema, name, a⟩ | _ | _
    · obtain ⟨p, hp, h⟩ := Option.bind_eq_some_iff.mp h
      have hresolve : sc.resolveTable name = some t := by
        rw [Scopes.resolveTable, hp]
        split at h
        · cases h
        · exact h
      rw [Scopes.resolveTable_eq, Option.map_eq_some_iff] at hresolve
      obtain ⟨u, hu, rfl⟩ := hresolve
      exact List.mem_map_of_mem (List.mem_of_find?_eq_some hu)
    all_goals cases h
  | _ => cases h

/-- Tables can only be read once they have ended. -/
lemma Visits.supplied {es own : List Event} {vs : List TableVisit} (h : Visits es own vs)
    {done : List CommonTable} (hg : Grounded done es) :
    Supplied done vs ∧ ∀ depth index, ∀ t ∈ own.filterMap (Event.readFrom depth index),
      t ∈ done ++ vs.map (·.table) := by
  induction h generalizing done with
  | nil => exact ⟨trivial, by simp⟩
  | @outside e _ _ _ he _ ih =>
    obtain ⟨hv, hg⟩ := hg
    rw [Event.ended_eq_none he, Option.toList_none, List.append_nil] at hg
    refine ⟨(ih hg).1, fun depth index t ht => ?_⟩
    rw [List.mem_filterMap, List.exists_mem_cons_iff] at ht
    rcases ht with ht | ht
    · exact List.mem_append_left _ (hv (Event.mem_visible_of_readFrom ht))
    · exact (ih hg).2 depth index t (List.mem_filterMap.mpr ht)
  | @table index t sc inner nested es own vs hbody _ hin ih =>
    have hnone : (Event.table index t sc).ended = none := rfl
    rw [List.cons_append, Grounded, grounded_append, hbody.filterMap_ended, hnone,
      Option.toList_none, List.append_nil] at hg
    obtain ⟨-, hwalk, -, hrest⟩ := hg
    obtain ⟨hnested, hinner⟩ := hin hwalk
    obtain ⟨hvs, hown⟩ := ih hrest
    refine ⟨supplied_append.mpr ⟨hnested, ?_, hvs⟩, fun depth index u hu => ?_⟩
    · intro name hname
      rw [TableVisit.reads, Text.mem_distinct] at hname
      obtain ⟨u, hu, rfl⟩ := List.mem_map.mp hname
      exact List.mem_map_of_mem (hinner _ _ u hu)
    · simpa [Event.ended] using hown depth index u hu

namespace Report

/-- With all entries after those they read, the first is always ready. -/
lemma orderFrom_supplied {vs : List TableVisit} {done : List CommonTable} (h : Supplied done vs) :
    orderFrom vs.length (vs.map TableVisit.entry) (done.map (·.name)) =
      (done ++ vs.map (·.table)).map (·.name) := by
  induction vs generalizing done with
  | nil => simp [orderFrom]
  | cons v vs ih =>
    have hready : ready (done.map (·.name)) v.entry = true := by
      rw [ready, List.all_eq_true]
      intro name hname
      exact List.any_eq_true.mpr ⟨name, h.1 hname, by rw [Text.sameName_iff]⟩
    have hnext : done.map (·.name) ++ [v.entry.name] = (done ++ [v.table]).map (·.name) := by
      simp [TableVisit.entry]
    rw [List.length_cons, List.map_cons, orderFrom, List.findIdx?_cons, hready]
    simp only [if_true, Option.getD_some, List.eraseIdx_cons_zero, List.getD_cons_zero]
    rw [hnext, ih h.2, List.append_assoc, List.map_cons, List.singleton_append]

lemma commonTables_eq (s : Statement) :
    commonTables s = s.trace.reverse.filterMap Event.ended := rfl

/-- The tables are visited one inside the other, and each visit leaves one entry. -/
lemma visits_trace (s : Statement) : ∃ own vs, Visits s.trace.reverse own vs ∧
    dependencies s = vs.map TableVisit.entry := by
  have hvisited : Visited s.trace.reverse := Walk.visited.walk s
  obtain ⟨own, vs, h⟩ := hvisited
  refine ⟨own, vs, h, ?_⟩
  rw [dependencies, DependencyState.foldl_step h [] [] (by simp), DependencyState.noted,
    List.nil_append]

/-- Every common table is listed once, right after those declared in its body, and its entry holds
the other tables that it reads itself, in the order of first reference. Where no clause is
recursive, all of them are listed before, and the tables can be computed in the order listed. -/
theorem dependencies_visits (s : Statement) :
    ∃ own vs, Visits s.trace.reverse own vs ∧
      commonTables s = vs.map (·.table) ∧
      dependencies s = vs.map (fun v => ⟨v.table.name, v.reads⟩) ∧
      (s.Plain → (∀ k d, (dependencies s)[k]? = some d →
          ∀ name ∈ d.dependsOn, name ∈ ((dependencies s).take k).map (·.name)) ∧
        materializationOrder s = commonTableNames s) := by
  obtain ⟨own, vs, h, hdeps⟩ := visits_trace s
  have htables : commonTables s = vs.map (·.table) := by rw [commonTables_eq, h.filterMap_ended]
  refine ⟨own, vs, h, htables, hdeps, fun hp => ?_⟩
  have hsupplied : Supplied [] vs := by
    refine (h.supplied ((s.lexical _).grounded (fun q sc hq => ?_) ?_)).1
    · exact hp q sc (List.mem_reverse.mp hq)
    · simp
  constructor
  · intro k d hd name hname
    rw [hdeps, List.getElem?_map, Option.map_eq_some_iff] at hd
    obtain ⟨v, hv, rfl⟩ := hd
    have hmem := hsupplied.reads_subset hv hname
    rw [List.nil_append, List.map_map] at hmem
    rwa [hdeps, ← List.map_take, List.map_map]
  · rw [materializationOrder, hdeps, List.length_map]
    have horder := orderFrom_supplied hsupplied
    simpa [commonTableNames, htables] using horder

/-- A table with one in its body, both of which read a table before them. -/
def layered : Statement :=
  let x : SelectItem := { value := .column none "x" }
  let read (name : String) : Source := .table none name none
  .select
    { withClause := some { tables := [
        ⟨"base", [], .select { items := [x], froms := [read "t"] }⟩,
        ⟨"outer", [], .select
          { withClause := some { tables := [
              ⟨"inner", [], .select { items := [x], froms := [read "base"] }⟩] }
            items := [x], froms := [read "inner", read "base"] }⟩] }
      items := [x], froms := [read "outer"] }

lemma layered_plain : layered.Plain := by
  have hclauses : ∀ e ∈ layered.trace, ∀ w ∈ e.clauses, w.recursive = false := by decide
  exact fun q sc hq => hclauses _ hq

theorem dependencies_visits_layered :
    layered.Plain ∧ materializationOrder layered = ["base", "inner", "outer"] ∧
      dependencies layered = [⟨"base", []⟩, ⟨"inner", ["base"]⟩, ⟨"outer", ["inner", "base"]⟩] := by
  obtain ⟨own, vs, -, -, -, hplain⟩ := dependencies_visits layered
  refine ⟨layered_plain, ?_, ?_⟩
  · rw [(hplain layered_plain).2]
    rfl
  · rfl

end Report

end SqlLoom
