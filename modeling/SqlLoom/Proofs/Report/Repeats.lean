import Mathlib.Data.List.Flatten
import SqlLoom.Proofs.Report.LeftBranch
import SqlLoom.Proofs.Walk.Entries

/-! Which selectable columns are repeated. References add a column to a group only once, and to a
derived entry nothing; but what an entry exposes goes into its group as it is, and entries that
share a reference name have a group each. -/
namespace SqlLoom

/-- A common table or a derived table. -/
def Relation.IsDerived : Relation → Prop
  | .common _ | .subquery _ _ => True
  | .physical _ _ | .function => False

namespace Report

lemma nodup_foldl_addName {seen names : List String} :
    (names.foldl addName seen).Nodup ↔ seen.Nodup := by
  induction names generalizing seen with
  | nil => rfl
  | cons n names ih =>
    rw [List.foldl_cons, ih]
    by_cases hm : n ∈ seen
    · rw [addName_of_mem hm]
    · rw [addName, if_neg (by simpa using hm), ← List.concat_eq_append, List.nodup_concat]
      exact and_iff_right hm

/-- The names that are listed under a reference name. -/
def namesUnder (reference : String) (cs : List SelectableColumn) : List String :=
  (cs.filter (·.qualifier == reference)).map (·.name)

namespace ColumnGroup

/-- The groups share no column under one reference name. -/
def Separate (g g' : ColumnGroup) : Prop :=
  g.reference = g'.reference → g.columns.Disjoint g'.columns

/-- Columns are repeated in a group or between two groups of one reference name. -/
lemma nodup_listed {gs : List ColumnGroup} :
    (listed gs).Nodup ↔ (∀ g ∈ gs, g.columns.Nodup) ∧ gs.Pairwise Separate := by
  have hown : ∀ g : ColumnGroup,
      (g.columns.map fun c => (⟨g.reference, c⟩ : SelectableColumn)).Nodup ↔ g.columns.Nodup :=
    fun g => List.nodup_map_iff fun c c' h => congrArg SelectableColumn.name h
  have hshared : Function.onFun List.Disjoint
      (fun g => g.columns.map fun c => (⟨g.reference, c⟩ : SelectableColumn)) = Separate := by
    funext g g'
    simp only [Function.onFun, Separate, List.disjoint_left, List.mem_map, eq_iff_iff]
    constructor
    · intro h hr c hc hc'
      exact h ⟨c, hc, rfl⟩ ⟨c, hc', by rw [hr]⟩
    · rintro h _ ⟨c, hc, rfl⟩ ⟨c', hc', heq⟩
      obtain ⟨hr, rfl⟩ := SelectableColumn.mk.inj heq
      exact h hr.symm hc hc'
  rw [listed, List.nodup_flatMap, hshared]
  simp only [hown]

lemma nodup_columns_addAll (cs : List SelectableColumn) {gs : List ColumnGroup} :
    (∀ g ∈ addAll cs gs, g.columns.Nodup) ↔ ∀ g ∈ gs, g.columns.Nodup := by
  induction gs generalizing cs with
  | nil => simp
  | cons g gs ih =>
    rw [addAll_cons, List.forall_mem_cons, List.forall_mem_cons, ih, extend, nodup_foldl_addName]

/-- Groups that are closed stay what they are. -/
lemma filter_addAll_of_closed (reference : String) (cs : List SelectableColumn)
    {gs : List ColumnGroup} (h : ∀ g ∈ gs.filter (·.reference == reference), g.isOpen = false) :
    (addAll cs gs).filter (·.reference == reference) = gs.filter (·.reference == reference) := by
  induction gs generalizing cs with
  | nil => simp
  | cons g gs ih =>
    rw [addAll_cons]
    by_cases hr : g.reference = reference
    · simp only [hr, List.filter_cons, beq_self_eq_true, if_true, List.forall_mem_cons] at h
      have hnone : cs.filter g.takes = [] := by simp [takes, h.1]
      have hsame : g.extend [] = g := rfl
      rw [hnone, List.map_nil, hsame]
      simp [hr, ih _ h.2]
    · simp only [List.filter_cons, beq_iff_eq, hr, if_false] at h
      simp [extend, hr, ih _ h]

lemma namesUnder_listed (reference : String) (gs : List ColumnGroup) :
    namesUnder reference (listed gs) =
      (gs.filter (·.reference == reference)).flatMap (·.columns) := by
  induction gs with
  | nil => rfl
  | cons g gs ih =>
    have hcons : listed (g :: gs) = (g.columns.map fun c => ⟨g.reference, c⟩) ++ listed gs := rfl
    rw [namesUnder] at ih ⊢
    rw [hcons, List.filter_append, List.map_append, ih, List.filter_map]
    by_cases hr : g.reference == reference
    · simp [hr, Function.comp_def]
    · simp [hr, Function.comp_def]

lemma separate_of_nodup {gs : List ColumnGroup} (h : (gs.map (·.reference)).Nodup) :
    gs.Pairwise Separate :=
  (List.pairwise_map.mp h).imp fun hne heq => absurd heq hne

end ColumnGroup

open ColumnGroup

/-- The group of a derived entry is closed and shows its outputs. -/
lemma ofSource_eq_ok {x : Outlook} {r : ResolvedSource} {g : ColumnGroup}
    (hr : r.relation.IsDerived) (h : ofSource x r = .ok g) :
    g.isOpen = false ∧ x.ofRelation r.source r.relation = .ok g.columns := by
  unfold ofSource at h
  split at h
  · next hrel => simp [hrel, Relation.IsDerived] at hr
  · next hrel => simp [hrel, Relation.IsDerived] at hr
  · cases hc : x.ofRelation r.source r.relation with
    | error e => simp [hc, bind, Except.bind] at h
    | ok columns =>
      simp only [hc, bind, Except.bind, pure, Except.pure, Except.ok.injEq] at h
      subst h
      exact ⟨rfl, rfl⟩

/-- The group of the only entry of a reference name. -/
lemma filter_groups {x : Outlook} {sc : Scopes} {xs : List Source} {gs : List ColumnGroup}
    (h : List.Forall₂ (fun e g => ofSource x ⟨e, sc.relation e, 0⟩ = .ok g) xs gs) {e : Source}
    (he : e ∈ xs) (hone : (xs.map Source.referenceName).count e.referenceName = 1) :
    ∃ g, gs.filter (·.reference == e.referenceName) = [g] ∧
      ofSource x ⟨e, sc.relation e, 0⟩ = .ok g := by
  have hxs : xs.filter (·.referenceName == e.referenceName) = [e] := by
    rw [List.count, List.countP_map, List.countP_eq_length_filter, List.length_eq_one_iff] at hone
    obtain ⟨y, hy⟩ := hone
    have hmem : e ∈ xs.filter (·.referenceName == e.referenceName) := by simp [he]
    simp only [Function.comp_def] at hy
    rw [hy, List.mem_singleton] at hmem
    rw [hy, hmem]
  have hfilter := List.rel_filter (p := (·.referenceName == e.referenceName))
    (q := (·.reference == e.referenceName)) (fun y g hg => by simp [reference_ofSource hg]) h
  rw [hxs, List.forall₂_cons_left_iff] at hfilter
  obtain ⟨g, rest, hg, hrest, hgs⟩ := hfilter
  rw [List.forall₂_nil_left_iff.mp hrest] at hgs
  exact ⟨g, hgs, hg⟩

/-- **Which selectable columns are repeated.** They are qualified by reference names of the entries
of the root select, and a derived entry whose reference name no other entry has shows exactly its
outputs. A column is repeated if and only if an entry itself exposes it more than once, or two
entries of one reference name both show it. -/
theorem columns_selectable (resolver : Option ColumnResolver) (q : Statement)
    {cs : List SelectableColumn} (h : selectable resolver q = .ok cs) :
    (rootSelect q = none → cs = []) ∧
    ∀ s sc, rootSelect q = some (s, sc) → ∃ gs,
      List.Forall₂ (fun x g => ofSource { resolver, scopes := sc } ⟨x, sc.relation x, 0⟩ = .ok g)
        s.sources gs ∧
      cs = listed (filledIn sc s gs) ∧
      (∀ c ∈ cs, c.qualifier ∈ s.sources.map Source.referenceName) ∧
      (∀ x ∈ s.sources, (sc.relation x).IsDerived →
        (s.sources.map Source.referenceName).count x.referenceName = 1 →
        Outlook.ofRelation { resolver, scopes := sc } x (sc.relation x) =
          .ok (namesUnder x.referenceName cs)) ∧
      (cs.Nodup ↔ (∀ g ∈ gs, g.columns.Nodup) ∧ (filledIn sc s gs).Pairwise Separate) ∧
      ((s.sources.map Source.referenceName).Nodup →
        (cs.Nodup ↔ ∀ g ∈ gs, g.columns.Nodup)) := by
  rw [selectable_eq] at h
  constructor
  · intro hroot
    rw [hroot] at h
    cases h
    rfl
  · intro s sc hroot
    obtain ⟨-, ⟨below, hsc⟩, -⟩ := trace_of_rootSelect hroot
    rw [hroot] at h
    dsimp only at h
    cases hopened : openedIn { resolver, scopes := sc } s with
    | error e => simp [hopened, Except.map] at h
    | ok gs =>
      simp only [hopened, Except.map, Except.ok.injEq] at h
      subst h
      have hall := forall₂_openedIn hopened
      have hrefs : (filledIn sc s gs).map (·.reference) = s.sources.map Source.referenceName := by
        rw [filledIn, map_reference_addAll, map_reference_of_forall₂ hall]
        simp [hsc, Scopes.currentSources, Function.comp_def]
      -- the frame of the query hides no table from its own entries
      have hgroups : List.Forall₂ (fun x g =>
          ofSource { resolver, scopes := sc } ⟨x, sc.relation x, 0⟩ = .ok g) s.sources gs := by
        simpa [hsc, Scopes.currentSources, Scopes.relation_query] using hall
      have hnodup : (listed (filledIn sc s gs)).Nodup ↔
          (∀ g ∈ gs, g.columns.Nodup) ∧ (filledIn sc s gs).Pairwise Separate := by
        rw [nodup_listed]
        exact and_congr_left fun _ => nodup_columns_addAll _
      refine ⟨gs, hgroups, rfl, ?_, ?_, hnodup, ?_⟩
      · intro c hc
        exact hrefs ▸ reference_mem_of_mem_listed hc
      · intro x hx hderived hone
        obtain ⟨g, hg, hsource⟩ := filter_groups hgroups hx hone
        obtain ⟨hclosed, hnames⟩ := ofSource_eq_ok hderived hsource
        rw [namesUnder_listed, filledIn, filter_addAll_of_closed, hg, List.flatMap_singleton]
        · exact hnames
        · simpa [hg] using hclosed
      · intro hdistinct
        rw [hnodup, and_iff_left (separate_of_nodup (hrefs ▸ hdistinct))]

/-- A derived table with two outputs of one name shows both, and two tables of one name in different
schemas both show their column under this name. -/
theorem columns_selectable_repeated :
    let id : SelectItem := { value := .column none "id" }
    let twice : Statement := .select { items := [id, id], froms := [.table none "t" none] }
    let outer : Select := Statement.starOver twice "s"
    let shared : Select := {
      items := [{ value := .wildcard none }]
      froms := [.table (some "a") "t" none, .table (some "b") "t" none] }
    let known : ColumnResolver := fun _ => some ["id"]
    (selectable none (.select outer) = .ok [⟨"s", "id"⟩, ⟨"s", "id"⟩] ∧
      Outlook.ofRelation { resolver := none, scopes := rootScopes outer } (.derived twice "s")
        (.subquery twice []) = .ok ["id", "id"] ∧
      ∃ g, ofSource { resolver := none, scopes := rootScopes outer }
        ⟨.derived twice "s", .subquery twice [], 0⟩ = .ok g ∧ ¬g.columns.Nodup) ∧
    selectable (some known) (.select shared) = .ok [⟨"t", "id"⟩, ⟨"t", "id"⟩] ∧
      ∃ gs, (∀ g ∈ gs, g.columns.Nodup) ∧
        ¬(filledIn (rootScopes shared) shared gs).Pairwise Separate := by
  intro id twice outer shared known
  have houter : selectable none (.select outer) = .ok [⟨"s", "id"⟩, ⟨"s", "id"⟩] := rfl
  have hshared : selectable (some known) (.select shared) = .ok [⟨"t", "id"⟩, ⟨"t", "id"⟩] := rfl
  refine ⟨⟨houter, ?_⟩, hshared, ?_⟩
  · obtain ⟨gs, hgroups, -, -, houtputs, -, hrepeated⟩ :=
      (columns_selectable none (.select outer) houter).2 outer _ (rootSelect_select outer)
    obtain ⟨g, rest, hg, hrest, rfl⟩ := List.forall₂_cons_left_iff.mp hgroups
    cases List.forall₂_nil_left_iff.mp hrest
    refine ⟨houtputs (.derived twice "s") List.mem_cons_self trivial rfl, g, hg, ?_⟩
    have hiff := hrepeated (List.nodup_singleton _)
    simpa using hiff
  · obtain ⟨gs, hgroups, -, -, -, hnodup, -⟩ :=
      (columns_selectable (some known) (.select shared) hshared).2 shared _
        (rootSelect_select shared)
    obtain ⟨g, rest, hg, hrest, rfl⟩ := List.forall₂_cons_left_iff.mp hgroups
    obtain ⟨g', last, hg', hlast, rfl⟩ := List.forall₂_cons_left_iff.mp hrest
    cases List.forall₂_nil_left_iff.mp hlast
    have hcolumns : g.columns = ["id"] ∧ g'.columns = ["id"] := by
      cases hg
      cases hg'
      exact ⟨rfl, rfl⟩
    have hown : ∀ x ∈ [g, g'], x.columns.Nodup := by simp [hcolumns]
    refine ⟨[g, g'], hown, fun hseparate => ?_⟩
    have hrepeated := hnodup.mpr ⟨hown, hseparate⟩
    simp at hrepeated

end Report

end SqlLoom
