import Mathlib.Order.WellFoundedSet
import SqlLoom.Proofs.Report.Dependencies

/-! The order in which common tables can be computed. Every table that another reads has an entry of
its own, also where clauses are recursive and see later tables. As long as no table reads itself
through others, one of the entries that are left reads none of them, so that the order never has to
fall back on the first. -/
namespace SqlLoom

/-- All tables of a clause from some index on end in its reports. -/
lemma Sections.drop_subset_ended {w : WithClause} {sc : Scopes} {index : Nat} {es : List Event}
    (h : Sections w sc index es) : w.tables.drop index ⊆ es.filterMap Event.ended := by
  induction hn : w.tables.length - index generalizing index es with
  | zero => simp [List.drop_eq_nil_of_le (Nat.sub_eq_zero_iff_le.mp hn)]
  | succ n ih =>
    cases h with
    | nil => simp at hn
    | @table _ _ _ t inner es ht _ _ hes =>
      obtain ⟨hlt, hget⟩ := List.getElem?_eq_some_iff.mp ht
      have hended : (.table index t (w.during index :: sc) :: inner ++
          .endTable t (w.during index :: sc) :: es).filterMap Event.ended =
          inner.filterMap Event.ended ++ t :: es.filterMap Event.ended := by
        rw [List.cons_append, List.filterMap_cons_none rfl, List.filterMap_append,
          List.filterMap_cons_some (f := Event.ended) rfl]
      rw [List.drop_eq_getElem_cons hlt, hget, hended, List.cons_subset]
      refine ⟨by simp, List.Subset.trans (ih hes (by omega)) ?_⟩
      exact List.subset_append_of_subset_right _ (List.subset_cons_self _ _)

lemma WithClause.visible_during_subset (w : WithClause) (index : Nat) (sc : Scopes) :
    Scopes.visible (w.during index :: sc) ⊆ w.tables ++ sc.visible := by
  rw [WithClause.during, Scopes.visible_tables]
  exact List.append_subset.mpr ⟨List.subset_append_of_subset_left _ (List.take_subset _ _),
    List.subset_append_right _ _⟩

mutual
/-- Tables that can be named end somewhere in the reports, if they were not visible before. -/
lemma Lexical.visible_subset {sc : Scopes} {es : List Event} {all : List CommonTable}
    (hv : sc.visible ⊆ all) (hended : es.filterMap Event.ended ⊆ all) :
    Lexical sc es → ∀ e ∈ es, e.scopes.visible ⊆ all
  | .nil => by simp
  | .node _ hes => by
    refine List.forall_mem_cons.mpr ⟨hv, hes.visible_subset hv ?_⟩
    exact List.Subset.trans ((List.sublist_cons_self _ _).filterMap _).subset hended
  | @Lexical.frame f _ inner es hf hin hes => by
    have hvf : Scopes.visible (f :: sc) ⊆ all := Scopes.visible_of_isTables hf sc ▸ hv
    rw [List.cons_append, List.filterMap_cons_none rfl, List.filterMap_append,
      List.filterMap_cons_none rfl, List.append_subset] at hended
    rw [List.cons_append, List.forall_mem_cons, List.forall_mem_append, List.forall_mem_cons]
    exact ⟨hvf, hin.visible_subset hvf hended.1, hvf, hes.visible_subset hv hended.2⟩
  | .fronted hin hes => by
    rw [List.cons_append, List.filterMap_cons_none rfl, List.filterMap_append,
      List.append_subset] at hended
    rw [List.cons_append, List.forall_mem_cons, List.forall_mem_append]
    exact ⟨hv, hin.visible_subset hv hended.1, hes.visible_subset hv hended.2⟩
lemma Fronted.visible_subset {ws : List WithClause} {sc : Scopes} {es : List Event}
    {all : List CommonTable} (hv : sc.visible ⊆ all) (hended : es.filterMap Event.ended ⊆ all) :
    Fronted ws sc es → ∀ e ∈ es, e.scopes.visible ⊆ all
  | .nil hes => hes.visible_subset hv hended
  | @Fronted.clause w _ _ own es hown hes _ => by
    rw [List.cons_append, List.cons_append, List.filterMap_cons_none rfl, List.filterMap_append,
      List.filterMap_append, List.append_subset, List.append_subset] at hended
    have hw : w.tables ⊆ all := List.Subset.trans hown.drop_subset_ended hended.1.1
    have hopen : Scopes.visible (.tables w.tables 0 :: sc) ⊆ all := by simpa using hv
    have hafter : Scopes.visible (w.after :: sc) ⊆ all := by
      rw [WithClause.after, Scopes.visible_tables, List.take_length]
      exact List.append_subset.mpr ⟨hw, hv⟩
    rw [List.cons_append, List.cons_append, List.forall_mem_cons, List.forall_mem_append,
      List.forall_mem_append, List.forall_mem_singleton]
    exact ⟨hopen, ⟨hown.visible_subset hw hv hended.1.1, hes.visible_subset hafter hended.1.2⟩,
      hafter⟩
lemma Sections.visible_subset {w : WithClause} {sc : Scopes} {index : Nat} {es : List Event}
    {all : List CommonTable} (hw : w.tables ⊆ all) (hv : sc.visible ⊆ all)
    (hended : es.filterMap Event.ended ⊆ all) :
    Sections w sc index es → ∀ e ∈ es, e.scopes.visible ⊆ all
  | .nil => by simp
  | .table _ hin _ hes => by
    have hhere : Scopes.visible (w.during index :: sc) ⊆ all :=
      List.Subset.trans (w.visible_during_subset index sc) (List.append_subset.mpr ⟨hw, hv⟩)
    rw [List.cons_append, List.filterMap_cons_none rfl, List.filterMap_append,
      List.filterMap_cons_some (f := Event.ended) rfl, List.append_subset, List.cons_subset]
      at hended
    rw [List.cons_append, List.forall_mem_cons, List.forall_mem_append, List.forall_mem_cons]
    exact ⟨hhere, hin.visible_subset hhere hended.1, hhere,
      hes.visible_subset hw hv hended.2.2⟩
end

/-- What a table reads itself is reported by the walk. -/
lemma Visits.own_subset {es own : List Event} {vs : List TableVisit} (h : Visits es own vs) :
    own ⊆ es ∧ ∀ v ∈ vs, v.own ⊆ es := by
  induction h with
  | nil => simp
  | outside _ _ ih =>
    refine ⟨List.cons_subset_cons _ ih.1, fun v hv => ?_⟩
    exact List.subset_cons_of_subset _ (ih.2 v hv)
  | table _ _ hin ih =>
    have hbody : ∀ {l : List Event} {a b : Event} {xs ys : List Event},
        l ⊆ xs → l ⊆ a :: xs ++ b :: ys := fun hl =>
      List.subset_append_of_subset_left _ (List.subset_cons_of_subset _ hl)
    have hrest : ∀ {l : List Event} {a b : Event} {xs ys : List Event},
        l ⊆ ys → l ⊆ a :: xs ++ b :: ys := fun hl =>
      List.subset_append_of_subset_right _ (List.subset_cons_of_subset _ hl)
    refine ⟨hrest ih.1, ?_⟩
    rw [List.forall_mem_append, List.forall_mem_cons]
    exact ⟨fun v hv => hbody (hin.2 v hv), hbody hin.1, fun v hv => hrest (ih.2 v hv)⟩

namespace Report

/-- Only tables with an entry are read. -/
lemma dependsOn_subset {s : Statement} {d : TableDependency} (hd : d ∈ dependencies s) :
    d.dependsOn ⊆ (dependencies s).map (·.name) := by
  obtain ⟨own, vs, h, hdeps⟩ := visits_trace s
  rw [hdeps] at hd ⊢
  obtain ⟨v, hv, rfl⟩ := List.mem_map.mp hd
  intro name hname
  rw [TableVisit.entry, TableVisit.reads, Text.mem_distinct] at hname
  obtain ⟨t, ht, rfl⟩ := List.mem_map.mp hname
  obtain ⟨e, he, hread⟩ := List.mem_filterMap.mp ht
  have hvisible : t ∈ vs.map (·.table) := by
    have hended : s.trace.reverse.filterMap Event.ended ⊆ vs.map (·.table) :=
      h.filterMap_ended ▸ List.Subset.refl _
    have hall := (s.lexical _).visible_subset (List.nil_subset _) hended
    exact hall e (h.own_subset.2 v hv he) (Event.mem_visible_of_readFrom hread)
  obtain ⟨u, hu, rfl⟩ := List.mem_map.mp hvisible
  rw [List.map_map]
  exact List.mem_map_of_mem hu

/-- One round puts out an entry that is ready, unless none is. -/
lemma orderFrom_round {ds : List TableDependency} (hne : ds ≠ []) (ordered : List String) :
    ∃ (i : Nat) (h : i < ds.length),
      (∀ n, orderFrom (n + 1) ds ordered =
        orderFrom n (ds.eraseIdx i) (ordered ++ [ds[i].name])) ∧
      (ready ordered ds[i] = true ∨ ∀ d ∈ ds, ready ordered d = false) := by
  obtain ⟨d, ds, rfl⟩ := List.exists_cons_of_ne_nil hne
  cases hfind : (d :: ds).findIdx? (ready ordered) with
  | none =>
    refine ⟨0, by simp, fun n => ?_, .inr (List.findIdx?_eq_none_iff.mp hfind)⟩
    rw [orderFrom, hfind]
    rfl
  | some i =>
    obtain ⟨hlt, hready, -⟩ := List.findIdx?_eq_some_iff_getElem.mp hfind
    refine ⟨i, hlt, fun n => ?_, .inl hready⟩
    rw [orderFrom, hfind, Option.getD_some, List.getD_eq_getElem?_getD,
      List.getElem?_eq_getElem hlt, Option.getD_some]

/-- Every entry is put out once, and with as many rounds as entries none is left. -/
lemma orderFrom_perm {n : Nat} {ds : List TableDependency} (h : ds.length ≤ n)
    (ordered : List String) :
    (orderFrom n ds ordered).Perm (ordered ++ ds.map (·.name)) := by
  induction n generalizing ds ordered with
  | zero =>
    rw [List.length_eq_zero_iff.mp (Nat.le_zero.mp h), orderFrom]
    simp
  | succ n ih =>
    by_cases hne : ds = []
    · simp [hne, orderFrom]
    obtain ⟨i, hlt, hround, -⟩ := orderFrom_round hne ordered
    have hlength := List.length_eraseIdx_of_lt hlt
    have hrest := (List.getElem_cons_eraseIdx_perm hlt).map (·.name)
    rw [hround]
    refine (ih (by omega) _).trans ?_
    rw [List.append_assoc]
    exact hrest.append_left ordered

/-- Further rounds change nothing. -/
lemma orderFrom_of_le {n : Nat} {ds : List TableDependency} (h : ds.length ≤ n)
    (ordered : List String) : orderFrom n ds ordered = orderFrom ds.length ds ordered := by
  induction n generalizing ds ordered with
  | zero => rw [Nat.le_zero.mp h]
  | succ n ih =>
    by_cases hne : ds = []
    · simp [hne, orderFrom]
    obtain ⟨i, hlt, hround, -⟩ := orderFrom_round hne ordered
    have hlength := List.length_eraseIdx_of_lt hlt
    obtain ⟨m, hm⟩ : ∃ m, ds.length = m + 1 := Nat.exists_eq_succ_of_ne_zero (by omega)
    rw [hm, hround, hround, ih (by omega), hlength, hm, Nat.add_sub_cancel]

/-- One of the entries reads the other. -/
def Reads (ds : List TableDependency) (reader name : String) : Prop :=
  ∃ d ∈ ds, d.name = reader ∧ name ∈ d.dependsOn

/-- Each name comes after those that its entry reads. -/
def AfterReads (ds : List TableDependency) (names : List String) : Prop :=
  ∀ d ∈ ds, ∀ before after, names = before ++ d.name :: after → d.dependsOn ⊆ before

section
variable {all : List TableDependency}

/-- Of finitely many entries that do not read in a circle, one reads none of them. -/
lemma exists_reads_none (hacyclic : ∀ name, ¬Relation.TransGen (Reads all) name name)
    {ds : List TableDependency} (hne : ds ≠ []) :
    ∃ d ∈ ds, ∀ u ∈ ds, ¬Reads all d.name u.name := by
  let below (a b : String) : Prop := Relation.TransGen (Reads all) b a
  have : IsStrictOrder String below :=
    { irrefl := hacyclic
      trans := fun _ _ _ hab hbc => hbc.trans hab }
  have hfinite : {name | name ∈ ds.map (·.name)}.Finite := List.finite_toSet _
  have hwf := hfinite.wellFoundedOn (r := below)
  obtain ⟨d, hd⟩ := List.exists_mem_of_ne_nil ds hne
  obtain ⟨⟨name, hname⟩, -, hmin⟩ := WellFounded.has_min hwf Set.univ
    ⟨⟨d.name, List.mem_map_of_mem hd⟩, trivial⟩
  obtain ⟨m, hm, rfl⟩ := List.mem_map.mp hname
  exact ⟨m, hm, fun u hu hread => hmin ⟨u.name, List.mem_map_of_mem hu⟩ trivial (.single hread)⟩

variable (hnames : (all.map (·.name)).Pairwise fun a b => Text.sameName a b = false)
include hnames

/-- Names of entries that agree up to ASCII case are equal. -/
lemma eq_of_sameName {a b : String} (ha : a ∈ all.map (·.name)) (hb : b ∈ all.map (·.name))
    (h : Text.sameName a b = true) : a = b := by
  by_contra hne
  have hsymm : Std.Symm fun a b : String => Text.sameName a b = false :=
    ⟨fun a b hab => by rwa [Text.sameName, Bool.beq_comm]⟩
  exact absurd (hnames.forall ha hb hne) (by simp [h])

lemma AfterReads.concat {ordered : List String} (h : AfterReads all ordered)
    (hordered : ordered ⊆ all.map (·.name)) {d : TableDependency} (hd : d ∈ all)
    (hdeps : d.dependsOn ⊆ all.map (·.name)) (hready : ready ordered d = true) :
    AfterReads all (ordered ++ [d.name]) := by
  intro u hu before after hsplit
  rcases List.eq_nil_or_concat after with rfl | ⟨rest, last, rfl⟩
  · obtain ⟨rfl, hname⟩ := List.append_inj' hsplit rfl
    have hnodup : (all.map (·.name)).Nodup := hnames.imp fun hab heq => by
      subst heq
      rw [Text.sameName, beq_self_eq_true] at hab
      cases hab
    obtain rfl := List.inj_on_of_nodup_map hnodup hd hu (List.singleton_inj.mp hname)
    intro name hname
    rw [ready, List.all_eq_true] at hready
    obtain ⟨o, ho, hsame⟩ := List.any_eq_true.mp (hready name hname)
    exact eq_of_sameName hnames (hordered ho) (hdeps hname) hsame ▸ ho
  · rw [List.concat_eq_append, ← List.cons_append, ← List.append_assoc] at hsplit
    exact h u hu before rest (List.append_inj' hsplit rfl).1

/-- As long as the entries that are left do not read in a circle, what is put out comes after what
it reads. -/
lemma AfterReads.orderFrom (hdeps : ∀ d ∈ all, d.dependsOn ⊆ all.map (·.name))
    (hacyclic : ∀ name, ¬Relation.TransGen (Reads all) name name) (n : Nat)
    {ds : List TableDependency} {ordered : List String} (h : AfterReads all ordered)
    (hds : ds ⊆ all) (hperm : (ordered ++ ds.map (·.name)).Perm (all.map (·.name))) :
    AfterReads all (Report.orderFrom n ds ordered) := by
  induction n generalizing ds ordered with
  | zero => exact h
  | succ n ih =>
    by_cases hne : ds = []
    · rwa [hne, Report.orderFrom]
    obtain ⟨i, hlt, hround, hready⟩ := orderFrom_round hne ordered
    have hordered : ordered ⊆ all.map (·.name) := fun o ho =>
      hperm.subset (List.mem_append_left _ ho)
    -- An entry that reads none of those left finds all that it reads put out.
    have hsome : ready ordered ds[i] = true := by
      refine hready.resolve_right fun hnone => ?_
      obtain ⟨d, hd, hreads⟩ := exists_reads_none hacyclic hne
      refine absurd (hnone d hd) (Bool.not_eq_false _ ▸ ?_)
      rw [ready, List.all_eq_true]
      intro name hname
      rcases List.mem_append.mp (hperm.symm.subset (hdeps d (hds hd) hname)) with ho | hu
      · exact List.any_eq_true.mpr ⟨name, ho, Text.sameName_iff.mpr rfl⟩
      · obtain ⟨u, hleft, rfl⟩ := List.mem_map.mp hu
        exact absurd ⟨d, hds hd, rfl, hname⟩ (hreads u hleft)
    have hd : ds[i] ∈ all := hds (List.getElem_mem hlt)
    rw [hround]
    refine ih (h.concat hnames hordered hd (hdeps _ hd) hsome) ?_ ?_
    · exact List.Subset.trans List.eraseIdx_subset hds
    · rw [List.append_assoc]
      exact (((List.getElem_cons_eraseIdx_perm hlt).map (·.name)).append_left ordered).trans hperm

end

/-- The order holds the name of every entry once, and more rounds add nothing. If the names differ
and no table reads itself through others, every table comes after all those that it reads, wherever
these stand in the statement. -/
theorem materializationOrder_afterReads (s : Statement) :
    (materializationOrder s).Perm ((dependencies s).map (·.name)) ∧
    (∀ n, (dependencies s).length ≤ n →
      orderFrom n (dependencies s) [] = materializationOrder s) ∧
    (((dependencies s).map (·.name)).Pairwise (fun a b => Text.sameName a b = false) →
      (∀ name, ¬Relation.TransGen (Reads (dependencies s)) name name) →
      AfterReads (dependencies s) (materializationOrder s)) := by
  refine ⟨orderFrom_perm (Nat.le_refl _) [], fun n hn => orderFrom_of_le hn [], ?_⟩
  intro hnames hacyclic
  have hstart : AfterReads (dependencies s) [] := fun _ _ _ _ hsplit => by simp at hsplit
  exact hstart.orderFrom hnames (fun _ hd => dependsOn_subset hd) hacyclic _
    (List.Subset.refl _) (.refl _)

/-- A recursive clause whose first table reads the second. -/
def forward : Statement :=
  let x : SelectItem := { value := .column none "x" }
  let read (name : String) : Source := .table none name none
  .select
    { withClause := some
        { recursive := true
          tables := [
            ⟨"a", [], .select { items := [x], froms := [read "b", read "a"] }⟩,
            ⟨"b", [], .select { items := [x], froms := [read "t"] }⟩] }
      items := [x]
      froms := [read "a"] }

theorem materializationOrder_afterReads_forward :
    dependencies forward = [⟨"a", ["b"]⟩, ⟨"b", []⟩] ∧
      materializationOrder forward = ["b", "a"] ∧
      AfterReads (dependencies forward) ["b", "a"] := by
  have hdeps : dependencies forward = [⟨"a", ["b"]⟩, ⟨"b", []⟩] := rfl
  have horder : materializationOrder forward = ["b", "a"] := rfl
  have hnames : ((dependencies forward).map (·.name)).Pairwise
      fun a b => Text.sameName a b = false := by
    rw [hdeps]
    decide
  have hreads : ∀ a b, Reads (dependencies forward) a b → a = "a" ∧ b = "b" := by
    rintro a b ⟨d, hd, rfl, hb⟩
    simp only [hdeps, List.mem_cons, List.not_mem_nil, or_false] at hd
    rcases hd with rfl | rfl
    · exact ⟨rfl, List.mem_singleton.mp hb⟩
    · exact absurd hb List.not_mem_nil
  have hacyclic : ∀ name, ¬Relation.TransGen (Reads (dependencies forward)) name name := by
    intro name h
    obtain ⟨b, hab, -⟩ := Relation.TransGen.head'_iff.mp h
    obtain ⟨c, -, hca⟩ := Relation.TransGen.tail'_iff.mp h
    have := (hreads _ _ hab).1.symm.trans (hreads _ _ hca).2
    exact absurd this (by decide)
  refine ⟨hdeps, horder, ?_⟩
  have hafter := (materializationOrder_afterReads forward).2.2 hnames hacyclic
  rwa [horder] at hafter

end Report

end SqlLoom
