import SqlLoom.Proofs.Report.Order
import SqlLoom.Proofs.Report.Visits
import SqlLoom.Report.SelectValues

/-! Whether the search for output columns follows lexical scope. It keeps every clause it has met
on the way, also when it goes on to the body of a table from which they cannot be seen. In such a
body it agrees with the scopes exactly as long as it takes no name for a table out of scope. -/
namespace SqlLoom

namespace Walk

lemma suffix_withScopes (w : Option WithClause) (sc : Scopes) : sc <:+ withScopes w sc := by
  cases w with
  | none => exact List.suffix_rfl
  | some w => exact List.suffix_cons _ _

lemma suffix_operandScopes (s : Statement) (sc : Scopes) : sc <:+ operandScopes s sc := by
  unfold operandScopes
  generalize s.operandWiths = ws
  induction ws generalizing sc with
  | nil => exact List.suffix_rfl
  | cons w ws ih => exact (suffix_withScopes (some w) sc).trans (ih _)

end Walk

namespace Expansion

/-- What has been met before a statement is in order, and it is in scope outside of all bodies. -/
structure InOrder (known : List Declared) (p : Place) (s : Statement) : Prop where
  ordered : Ordered known p.around
  hoisted : ∀ sc ∈ p.hoisted, Walk.operandScopes s p.around <:+ sc
  reach : 0 < p.around.tableNesting ∨ known ⊆ p.around.declared

namespace InOrder

variable {known : List Declared} {p : Place}

lemma left {b : SetOperation} (h : InOrder known p (.setOp b)) :
    InOrder known (p.left b) b.left := by
  refine ⟨h.ordered, ?_, h.reach⟩
  rintro sc ⟨⟩
  have hright := Walk.suffix_operandScopes b.right (Walk.operandScopes b.left p.around)
  rw [← Walk.operandScopes_setOp] at hright
  cases hh : p.hoisted with
  | none =>
    rw [Option.getD_none, ← Walk.operandScopes_setOp]
    exact hright
  | some sc => exact hright.trans (h.hoisted sc hh)

variable {s : Select} (h : InOrder known p (.select s))
include h

lemma withScopes_suffix : Walk.withScopes s.withClause p.around <:+ p.query s := by
  refine List.IsSuffix.trans ?_ (List.suffix_cons _ _)
  cases hh : p.hoisted with
  | none => exact List.suffix_rfl
  | some sc =>
    have := h.hoisted sc hh
    rwa [Walk.operandScopes_select] at this

lemma around_suffix : p.around <:+ p.query s :=
  (Walk.suffix_withScopes _ _).trans h.withScopes_suffix

/-- Among the entries of a select, or further in. -/
lemma ordered_query {sc : Scopes} (hs : p.query s <:+ sc) :
    Ordered (own p.around s.withClause ++ known) sc := by
  have hlt : p.around.length < (p.query s).length := by
    have htail : p.around <:+ p.hoisted.getD (Walk.withScopes s.withClause p.around) := by
      cases hh : p.hoisted with
      | none => exact Walk.suffix_withScopes _ _
      | some sc => exact (Walk.suffix_operandScopes (.select s) _).trans (h.hoisted sc hh)
    exact Nat.lt_succ_of_le htail.length_le
  refine h.ordered.extend (h.around_suffix.trans hs) (Nat.lt_of_lt_of_le hlt hs.length_le) ?_
  intro t ht
  cases hw : s.withClause with
  | none => simp [own, hw] at ht
  | some w =>
    rw [hw, own, List.mem_reverse, Declared.mem_ofClause] at ht
    exact ht.2.1

lemma reach_query : 0 < (p.query s).tableNesting ∨
    own p.around s.withClause ++ known ⊆ (p.query s).declared := by
  refine h.reach.imp (fun hn => ?_) fun hk => List.append_subset.mpr ⟨?_, ?_⟩
  · exact Nat.lt_of_lt_of_le hn h.around_suffix.sublist.countP_le
  · refine List.Subset.trans ?_ (Scopes.declared_subset h.withScopes_suffix)
    cases s.withClause with
    | none => exact List.nil_subset _
    | some w => exact fun t ht => List.mem_append_left _ (List.mem_reverse.mp ht)
  · exact List.Subset.trans hk (Scopes.declared_subset h.around_suffix)

end InOrder

/-- As long as a search takes the names in bodies for tables in scope, it stays in order. -/
lemma carried_inOrder : Carried (fun m => m.InBody → m.InScope) InOrder
    fun m => Ordered m.known m.scopes ∧ (m.InBody ∨ m.known ⊆ m.scopes.declared) where
  left _ _ _ h := h.left
  derived _ _ _ _ _ _ _ h _ := ⟨h.ordered_query (List.suffix_cons _ _), nofun, h.reach_query⟩
  name _ _ _ _ _ h _ := ⟨h.ordered_query List.suffix_rfl, h.reach_query⟩
  table m t hm hg ht := by
    have hvis : t ∈ m.scopes.declared :=
      hm.2.elim (fun hb => ((hg hb).visible t ht).1) fun hk => hk (List.mem_of_find?_eq_some ht)
    exact ⟨hm.1.follow hvis, nofun, .inl (by simp [Declared.inner, Scopes.tableNesting, Frame.kind])⟩

/-- The names that a search looks up are in order as long as those in bodies mean tables in
scope. -/
lemma ordered_of_mem_lookups {x : Outlook} {e : Source}
    (hg : ∀ m ∈ (ofSource x e).lookups, m.InBody → m.InScope) :
    ∀ m ∈ (ofSource x e).lookups, Ordered m.known m.scopes := by
  have hs := Ordered.start x.scopes
  intro m hm
  refine (carried_inOrder.ofSource (fun t ht => ?_) ?_ hg m hm).1
  · exact ⟨hs.follow ht, by simp, .inl (by simp [Declared.inner, Scopes.tableNesting, Frame.kind])⟩
  · rintro q a columns lateral -
    have hin : Ordered ([] ++ x.scopes.declared) (.subquery (some a) :: x.scopes) :=
      hs.extend (List.suffix_cons _ _) (Nat.lt_succ_self _) (by simp)
    exact ⟨hin, by simp, .inr (List.Subset.refl _)⟩

/-- The outputs of an entry of any select are searched for in the way recorded, and the walk
reports every name that is looked up. In the bodies of common tables the search resolves all names
as the scopes do if and only if it takes none for a table out of scope or behind one of the same
clause, and knows every table that a name means. -/
theorem taken_eq_shown_iff {s : Statement} (hp : s.Plain) {sel : Select} {sc : Scopes}
    (hsel : .select sel sc ∈ s.trace) (resolver : Option ColumnResolver) {r : ResolvedSource}
    (hr : r ∈ sc.currentSources) :
    (ofSource ⟨resolver, sc⟩ r.source).result =
      Outlook.ofRelation ⟨resolver, sc⟩ r.source r.relation ∧
    (∀ m ∈ (ofSource ⟨resolver, sc⟩ r.source).lookups,
      (∃ a, .source (.table none m.name a) m.scopes ∈ s.trace) ∧
      m.shown.map (·.table) = m.scopes.resolveTable m.name) ∧
    ((∀ m ∈ (ofSource ⟨resolver, sc⟩ r.source).lookups, m.InBody → m.taken = m.shown) ↔
      ∀ m ∈ (ofSource ⟨resolver, sc⟩ r.source).lookups, m.InBody → m.InScope) := by
  obtain ⟨⟨below, rfl⟩, -, -⟩ := settled_of_mem_trace hp hsel
  obtain ⟨e, he, rfl⟩ := List.mem_map.mp hr
  refine ⟨result_ofSource rfl e, fun m hm => ⟨?_, m.shown_map_table⟩, fun h m hm hb => ?_,
    fun h m hm hb => ?_⟩
  · exact visited_of_mem_lookups hp hsel he resolver m hm
  · exact Lookup.inScope_of_eq (h m hm hb)
  · exact Lookup.eq_of_inScope (ordered_of_mem_lookups h m hm) (h m hm hb)

/-- A common table that reads from a physical table of its own name is taken for that table. -/
theorem taken_eq_shown_iff_self :
    let resolver : Option ColumnResolver := some (.exact [("users", ["id", "name"])])
    let everything : SelectItem := { value := .wildcard none }
    let users : CommonTable :=
      ⟨"users", [], .select { items := [everything], froms := [.table none "users" none] }⟩
    let sel : Select :=
      { withClause := some { tables := [users] }
        items := [everything]
        froms := [.table none "users" (some "u")] }
    let sc : Scopes := [.query sel.sources, .tables [users] 1]
    Report.rootSelect (.select sel) = some (sel, sc) ∧
      ∃ r ∈ sc.currentSources, (∃ m ∈ (ofSource ⟨resolver, sc⟩ r.source).lookups, m.InBody ∧
          m.taken.map (·.table) = some users ∧ m.scopes.resolveTable m.name = none) ∧
        ¬∀ m ∈ (ofSource ⟨resolver, sc⟩ r.source).lookups, m.InBody → m.InScope := by
  intro resolver everything users sel sc
  have hname : Text.sameName "users" "users" = true := by decide
  have hroot : Report.rootSelect (.select sel) = some (sel, sc) := by
    rw [Report.rootSelect, Tour.trace_reverse]
    simp [Tour.statement, Tour.withClause, Tour.tables, Tour.inside, Tour.items, Tour.sources,
      Tour.source, Tour.joins, Tour.option, Tour.exprs, Tour.order, Tour.leaves, Tour.expr, sel,
      users, everything, Walk.withScopes, Select.sources, sc, Scopes.atRootQuery, Frame.isTables,
      Frame.kind, Scopes.kind?]
  have hsel : .select sel sc ∈ (Statement.select sel).trace := by
    obtain ⟨e, he, hf⟩ := List.exists_of_findSome?_eq_some hroot
    cases e with
    | select sel' sc' =>
      simp only [Option.ite_none_right_eq_some, Option.some.injEq, Prod.mk.injEq] at hf
      obtain ⟨-, rfl, rfl⟩ := hf
      exact List.mem_reverse.mp he
    | _ => simp at hf
  have hplain : (Statement.select sel).Plain := by
    intro q sc' hq w hw
    rw [Tour.mem_trace] at hq
    simp [Tour.statement, Tour.withClause, Tour.tables, Tour.inside, Tour.items, Tour.sources,
      Tour.source, Tour.joins, Tour.option, Tour.exprs, Tour.order, Tour.leaves, Tour.expr, sel,
      users, everything, Walk.withScopes, Select.sources] at hq
    rcases hq with ⟨rfl, -⟩ | ⟨rfl, -⟩
    · simp [Statement.clauses, Statement.operandWiths] at hw
      rw [hw]
    · simp [Statement.clauses, Statement.operandWiths] at hw
  let r : ResolvedSource := ⟨.table none "users" (some "u"), .common users, 0⟩
  have hr : r ∈ sc.currentSources := by
    simp [sc, r, sel, Select.sources, Scopes.currentSources, Scopes.relation,
      Scopes.resolveTable, Scopes.findTable, Scopes.findIn, users, hname]
  let t : Declared := ⟨[users], 0, users, []⟩
  let m : Lookup := ⟨"users", [t], .query [.table none "users" none] :: t.inner⟩
  have htaken : m.taken = some t := by
    simp [m, t, users, Lookup.taken, Declared.named, hname]
  have hstep : ∀ query body : Descent,
      m ∈ (step ⟨resolver, sc⟩ query body [t] ⟨t.inner, none⟩ users.body).lookups := by
    intro query body
    have hsource : m ∈ (source ⟨resolver, sc⟩ query body m.known m.scopes
        (.table none m.name none)).lookups := by simp [source, htaken]
    simp only [step, select, users, everything, own, Place.query, Option.getD_none,
      Walk.withScopes, Select.sources, List.nil_append, List.map_nil, List.append_nil]
    refine lookups_subset_each _ _ _ ?_
    simp only [item, Outlook.covered]
    exact lookups_subset_each _ _ _ hsource
  have hm : m ∈ (ofSource ⟨resolver, sc⟩ r.source).lookups := by
    have hfind : sc.declared.find? (·.named "users") = some t := htaken
    simp only [ofSource, r, hfind]
    exact hstep _ _
  have hbody : m.InBody := by
    simp [m, t, Lookup.InBody, Declared.inner, Scopes.tableNesting, Frame.kind]
  have hshown : m.shown = none := by
    simp [m, t, Lookup.shown, Declared.inner, Scopes.declared, Declared.ofClause]
  refine ⟨hroot, r, hr, ⟨m, hm, hbody, by rw [htaken]; rfl, ?_⟩, ?_⟩
  · rw [← m.shown_map_table, hshown]
    rfl
  · rw [← (taken_eq_shown_iff hplain hsel resolver hr).2.2]
    intro h
    have := h m hm hbody
    simp [htaken, hshown] at this

end Expansion

end SqlLoom
