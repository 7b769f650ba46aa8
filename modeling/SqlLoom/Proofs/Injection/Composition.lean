import Mathlib.Data.List.Pairwise
import SqlLoom.Proofs.Fixture.Tables
import SqlLoom.Proofs.Injection.Conditions
import SqlLoom.Proofs.Report.Selectable

/-! Injections one after the other. A predicate refers to columns that were selectable before it was
added, each the first of its name in its entry, or to what a select item refers to already. So it
changes no later search for a column. -/
namespace SqlLoom

lemma Source.answersTo_referenceName (x : Source) : x.answersTo x.referenceName = true := by
  cases x with
  | table schema name a => cases a <;> simp [answersTo, referenceName, Text.sameName]
  | _ => simp [answersTo, Text.sameName]

/-- Neither entry is reached by the reference name of the other. -/
def Source.Apart (x y : Source) : Prop :=
  x.answersTo y.referenceName = false ∧ y.answersTo x.referenceName = false

instance : Std.Symm Source.Apart := ⟨fun _ _ => And.symm⟩

/-- No entry is reached by the reference name of another. -/
def Select.SeparateEntries (s : Select) : Prop := s.sources.Pairwise Source.Apart

namespace Select.SeparateEntries

variable {s : Select}

lemma find?_answersTo (h : s.SeparateEntries) {x : Source} (hx : x ∈ s.sources) :
    s.sources.find? (·.answersTo x.referenceName) = some x := by
  cases hy : s.sources.find? (·.answersTo x.referenceName) with
  | none =>
    have := List.find?_eq_none.mp hy x hx
    simp [x.answersTo_referenceName] at this
  | some y =>
    by_contra hne
    have hyx : y ≠ x := fun he => hne (he ▸ rfl)
    have hapart : Source.Apart y x := h.forall (List.mem_of_find?_eq_some hy) hx hyx
    have hanswers := List.find?_some hy
    simp [hapart.1] at hanswers

lemma nodup_referenceName (h : s.SeparateEntries) :
    (s.sources.map Source.referenceName).Nodup := by
  rw [List.Nodup, List.pairwise_map]
  refine h.imp fun {x y} hxy he => ?_
  have hself := y.answersTo_referenceName
  rw [← he, hxy.2] at hself
  simp at hself

end Select.SeparateEntries

namespace Report

open ColumnGroup

variable {resolver : Option ColumnResolver} {aliases references : List String} {sc : Scopes}

lemma map_reference_opened {s : Select} {gs : List ColumnGroup}
    (h : opened resolver s = .ok gs) :
    gs.map (·.reference) = s.sources.map Source.referenceName := by
  have hall := forall₂_openedIn (x := { resolver, scopes := rootScopes s }) h
  rw [map_reference_of_forall₂ hall]
  simp [rootScopes, Scopes.currentSources, Function.comp_def]

lemma collects_mentions :
    Expr.Collects fun e => mentions aliases references (Tour.expr .plain e sc) where
  conj l r := by simp [Expr.conj, Tour.expr, mention]
  nested e := by simp [Tour.expr, mention]

lemma mentions_option (e : Option Expr) :
    mentions aliases references (Tour.option e sc) =
      e.toList.flatMap fun e => mentions aliases references (Tour.expr .plain e sc) := by
  cases e <;> simp [Tour.option]

lemma mentions_parameters (os : List Occurrence) :
    mentions aliases references
      (Tour.exprs (os.map fun o => .parameter o.name o.value) sc) = [] := by
  induction os with
  | nil => simp [Tour.exprs]
  | cons o os ih => simp [Tour.exprs, Tour.expr, mention, ih]

lemma mentions_asks (key : String) (target : Expr) (o : Operator) :
    mentions aliases references (Tour.expr .plain (o.asks key target) sc) =
      mentions aliases references (Tour.expr .plain target sc) := by
  cases o with
  | compare c v => simp [Operator.asks, Expr.bound, Tour.expr, mention]
  | member vs => simp [Operator.asks, Tour.expr, mention, mentions_parameters]

/-- Conjuncts mention what the targets of their conditions mention. -/
lemma mentions_conjuncts {resolve : String → Result Expr} {es : List (String × Condition)}
    {ps : List Expr} (h : Injection.conjuncts resolve es = .ok ps) {c : SelectableColumn}
    (hc : c ∈ ps.flatMap fun p => mentions aliases references (Tour.expr .plain p sc)) :
    ∃ name target, resolve name = .ok target ∧
      c ∈ mentions aliases references (Tour.expr .plain target sc) := by
  induction es generalizing ps with
  | nil =>
    cases h
    simp at hc
  | cons e es ih =>
    obtain ⟨key, cond⟩ := e
    obtain ⟨qs, rs, hqs, hrs, rfl⟩ := Injection.conjuncts_cons_eq_ok.mp h
    rw [List.flatMap_append, collects_mentions.grouped, List.mem_append] at hc
    rcases hc with hc | hc
    · rcases Injection.predicates_eq_ok hqs with ⟨target, ht, rfl⟩ | ⟨-, -, rfl⟩
      · simp only [List.mem_flatMap, List.mem_map] at hc
        obtain ⟨_, ⟨o, -, rfl⟩, hc⟩ := hc
        exact ⟨_, target, ht, by rwa [mentions_asks] at hc⟩
      · simp at hc
    · exact ih hrs hc

/-- What a select item refers to comes before its filter. -/
lemma mentions_behindAlias {items : List SelectItem} {i : SelectItem} (hi : i ∈ items) :
    mentions aliases references (Tour.expr .plain (Injection.behindAlias i.value) sc) ⊆
      mentions aliases references (Tour.items items sc) := by
  rw [collects_mentions.behindAlias]
  induction items with
  | nil => simp at hi
  | cons j items ih =>
    obtain ⟨v, a⟩ := j
    rw [Tour.items, mentions_append]
    rcases List.mem_cons.mp hi with rfl | hi
    · exact List.subset_append_left _ _
    · exact List.Subset.trans (ih hi) (List.subset_append_right _ _)

/-- The column of an entry that is apart from the others is that column. -/
lemma mentions_toExpr {s : Select} (hs : s.SeparateEntries) {c : SelectableColumn}
    (hc : c.qualifier ∈ s.sources.map Source.referenceName) :
    mentions aliases references (Tour.expr .plain c.toExpr (rootScopes s)) = [c] := by
  obtain ⟨x, hx, hq⟩ := List.mem_map.mp hc
  have hfind := hs.find?_answersTo hx
  rw [hq] at hfind
  have hresolve : (rootScopes s).resolveQualifier c.qualifier 0 =
      some ⟨x, Scopes.relation (Walk.withScopes s.withClause []) x, 0⟩ := by
    rw [rootScopes, Scopes.resolveQualifier, hfind]
  simp [SelectableColumn.toExpr, Tour.expr, mention, atRootQuery_rootScopes, hresolve, hq]

lemma find?_of_imp {p q : SelectableColumn → Bool} {c : SelectableColumn}
    {cs : List SelectableColumn} (hpq : ∀ x, q x = true → p x = true) (hq : q c = true)
    (h : cs.find? p = some c) : cs.find? q = some c := by
  rw [List.find?_eq_some_iff_append] at h ⊢
  obtain ⟨-, before, after, rfl, hbefore⟩ := h
  refine ⟨hq, before, after, rfl, fun x hx => ?_⟩
  have := hbefore x hx
  cases hqx : q x with
  | false => rfl
  | true => simp [hpq x hqx] at this

/-- A target is the first column of its name in an entry or what an alias stands for. -/
lemma first_or_alias {items : List SelectItem} {gs : List ColumnGroup} {name : String}
    {target : Expr} (h : Injection.resolveTarget items (listed gs) name = .ok target) :
    (∃ c, target = c.toExpr ∧ First c gs) ∨
      ∃ i ∈ items, target = Injection.behindAlias i.value := by
  have first : ∀ (p : String → Bool) (column : String) (c : SelectableColumn),
      (listed gs).find? (fun c => p c.qualifier && Text.sameName c.name column) = some c →
        First c gs := by
    intro p column c hc
    have hp := List.find?_some hc
    simp only [Bool.and_eq_true] at hp
    refine find?_of_imp (fun x hx => ?_) (by simp [Text.sameName]) hc
    simp only [Bool.and_eq_true, beq_iff_eq] at hx ⊢
    rw [hx.1]
    refine ⟨hp.1, ?_⟩
    rw [Text.sameName_iff] at hp hx ⊢
    rw [hx.2, hp.2]
  unfold Injection.resolveTarget at h
  split at h
  · split at h
    · next c hc =>
      cases h
      exact .inl ⟨c, rfl, first (Text.sameName · _) _ c hc⟩
    · simp at h
  · split at h
    · next i hi =>
      cases h
      exact .inr ⟨i, List.mem_of_find?_eq_some hi, rfl⟩
    · split at h
      · next c hc =>
        cases h
        refine .inl ⟨c, rfl, first (fun _ => true) name c ?_⟩
        simp [← List.head?_filter, hc]
      · simp at h
      · simp at h

/-- Whether a name is found depends on what the groups show under it. -/
lemma resolveTarget_same {gs gs' : List ColumnGroup} (h : List.Forall₂ Same gs gs')
    (items : List SelectItem) :
    Injection.resolveTarget items (listed gs) = Injection.resolveTarget items (listed gs') := by
  funext name
  have hall := filter_listed_same h (fun _ => true) name
  simp only [Bool.true_and] at hall
  have hfind : ∀ qualifier column,
      (listed gs).find? (fun c =>
        Text.sameName c.qualifier qualifier && Text.sameName c.name column) =
      (listed gs').find? fun c =>
        Text.sameName c.qualifier qualifier && Text.sameName c.name column := by
    intro qualifier column
    rw [← List.head?_filter, ← List.head?_filter,
      filter_listed_same h (Text.sameName · qualifier) column]
  simp only [Injection.resolveTarget, hall, hfind]

/-- Predicates on targets of a select whose entries are apart change no search for a target. -/
lemma target_foldl_appendWhere {s : Select} (hs : s.SeparateEntries)
    {columns : List SelectableColumn} (hc : selectable resolver (.select s) = .ok columns)
    {es : List (String × Condition)} {ps : List Expr}
    (hps : Injection.conjuncts (s.target resolver) es = .ok ps) :
    (∃ columns', selectable resolver
        (.select (ps.foldl (fun s p => s.appendWhere p) s)) = .ok columns') ∧
      (ps.foldl (fun s p => s.appendWhere p) s).target resolver = s.target resolver := by
  have htarget := Select.target_eq hc
  rw [selectable_select] at hc
  cases hopened : opened resolver s with
  | error e => simp [hopened, Except.map] at hc
  | ok gs =>
    simp only [hopened, Except.map, Except.ok.injEq] at hc
    subst hc
    have hrefs := map_reference_opened hopened
    let listing := mentions (orderAliases s) (gs.map (·.reference))
    let early := listing (Tour.beforeFilter s (rootScopes s)) ++
      listing (Tour.option s.filter (rootScopes s))
    let late := listing (Tour.afterFilter s (rootScopes s))
    let new := ps.flatMap fun p => listing (Tour.expr .plain p (rootScopes s))
    have hbefore : filled s gs = addAll (early ++ late) gs := by
      simp only [filled, filledIn, early, late, listing, Tour.selectClauses, mentions_append]
    have hafter : filled (ps.foldl (fun s p => s.appendWhere p) s) gs =
        addAll (early ++ (new ++ late)) gs := by
      have hfilter : listing (Tour.option (ps.foldl (fun s p => s.appendWhere p) s).filter
          (rootScopes s)) = listing (Tour.option s.filter (rootScopes s)) ++ new := by
        simp only [listing, mentions_option]
        exact collects_mentions.foldl_appendWhere s ps
      rw [Select.foldl_appendWhere_eq]
      change addAll (listing (Tour.beforeFilter s (rootScopes s) ++ Tour.option _ (rootScopes s) ++
        Tour.afterFilter s (rootScopes s))) gs = _
      simp only [listing, mentions_append]
      simp only [early, late, new, listing, hfilter, List.append_assoc]
    have hsettled : ∀ c ∈ new, c ∈ early ∨ Leads c (addAll (early ++ late) gs) := by
      intro c hc
      obtain ⟨name, target, ht, hmention⟩ := mentions_conjuncts hps hc
      rw [htarget] at ht
      rcases first_or_alias ht with ⟨d, rfl, hd⟩ | ⟨i, hi, rfl⟩
      · have hq := reference_mem_of_mem_listed (List.mem_of_find?_eq_some hd)
        rw [filled, filledIn, map_reference_addAll, hrefs] at hq
        rw [mentions_toExpr hs hq, List.mem_singleton] at hmention
        subst hmention
        rw [← hbefore]
        refine .inr (hd.leads ?_)
        rw [filled, filledIn, map_reference_addAll, hrefs]
        exact hs.nodup_referenceName
      · have := mentions_behindAlias hi hmention
        exact .inl (by simp [early, listing, Tour.beforeFilter, this])
    have hsame := same_addAll_between early late hsettled
    have hcolumns : selectable resolver (.select (ps.foldl (fun s p => s.appendWhere p) s)) =
        .ok (listed (addAll (early ++ (new ++ late)) gs)) := by
      have hopened' : opened resolver (ps.foldl (fun s p => s.appendWhere p) s) = .ok gs := by
        rw [Select.foldl_appendWhere_eq]
        exact hopened
      rw [selectable_select, hopened', ← hafter]
      rfl
    have hitems : (ps.foldl (fun s p => s.appendWhere p) s).items = s.items := by
      rw [Select.foldl_appendWhere_eq]
    refine ⟨⟨_, hcolumns⟩, ?_⟩
    rw [Select.target_eq hcolumns, htarget, hbefore, hitems, resolveTarget_same hsame]

end Report

open Injection

/-- Where the entries of the root are apart, conditions may be injected one part after the other.
The first part leaves the later targets what they were, so the result is that of injecting all. -/
theorem ConditionMap.inject_append (m₁ m₂ : ConditionMap) (resolver : Option ColumnResolver)
    (allowAllNull : Bool) (s t : Statement)
    (hs : ∀ q, s.normalize = .ok q → q.SeparateEntries)
    (h₁ : m₁.entries = [] ∨ m₁.IsLive ∨ allowAllNull = true)
    (h₂ : m₂.entries = [] ∨ m₂.IsLive ∨ allowAllNull = true)
    (h : ConditionMap.inject ⟨m₁.entries ++ m₂.entries⟩ resolver allowAllNull s = .ok t) :
    ∃ u, m₁.inject resolver allowAllNull s = .ok u ∧ m₂.inject resolver allowAllNull u = .ok t := by
  obtain ⟨es⟩ := m₁
  obtain ⟨fs⟩ := m₂
  by_cases hes : es = []
  · subst hes
    exact ⟨s, rfl, h⟩
  · by_cases hfs : fs = []
    · subst hfs
      simp only [List.append_nil] at h
      exact ⟨t, h, rfl⟩
    · have hne : es ++ fs ≠ [] := by simp [hes]
      obtain ⟨q, columns, rs, hq, hcolumns, hrs, -, rfl⟩ := (inject_eq_ok hne).mp h
      obtain ⟨ps, qs, hps, hqs, rfl⟩ := conjuncts_append_eq_ok.mp hrs
      have allowed : ∀ {es : List (String × Condition)} {ps : List Expr}, es ≠ [] →
          es = [] ∨ ConditionMap.IsLive ⟨es⟩ ∨ allowAllNull = true →
          conjuncts (q.target resolver) es = .ok ps → ps = [] → allowAllNull = true := by
        intro es ps hes hlive hps hnil
        rcases hlive with hempty | hlive | hallow
        · exact absurd hempty hes
        · exact absurd hlive (isLive_iff.mpr ((conjuncts_eq_ok_nil hps).mp hnil))
        · exact hallow
      have hapart := hs q (Statement.asRoot_eq_ok.mp hq)
      obtain ⟨⟨columns', hcolumns'⟩, htarget⟩ := Report.target_foldl_appendWhere hapart hcolumns hps
      refine ⟨_, (inject_eq_ok hes).mpr ⟨q, _, ps, hq, hcolumns, hps, allowed hes h₁ hps, rfl⟩, ?_⟩
      refine (inject_eq_ok hfs).mpr ⟨_, columns', qs, rfl, hcolumns', ?_, allowed hfs h₂ hqs, ?_⟩
      · rw [htarget]
        exact hqs
      · rw [List.foldl_append]

/-- The second call looks `total` up among the columns of `o` and finds `name` behind an alias. -/
theorem ConditionMap.inject_append_join :
    let name : Expr := .column (some "u") "full_name"
    let total : Expr := .column (some "o") "total"
    let owner : Expr := .binary (.column (some "o") "user_id") .eq (.column (some "u") "id")
    let orders : Source := .table none "orders" (some "o")
    let s : Select :=
      { items := [{ value := name, aliasName := some "name" }, { value := total }]
        froms := [.table none "users" (some "u")]
        joins := [{ type := .inner, source := orders, condition := some (.predicate owner) }] }
    let m₁ : ConditionMap := ⟨[("u.id", .value (.int 1)), ("note", .value .null)]⟩
    let m₂ : ConditionMap :=
      ⟨[("total", .operators none [.compare .min (.int 5)]), ("name", .value (.text "A"))]⟩
    ∃ t, ConditionMap.inject ⟨m₁.entries ++ m₂.entries⟩ none false (.select s) = .ok t ∧
      ∃ u, m₁.inject none false (.select s) = .ok u ∧ m₂.inject none false u = .ok t := by
  intro name total owner orders s m₁ m₂
  have hcolumns : Report.selectable none (.select s) =
      .ok [⟨"u", "full_name"⟩, ⟨"u", "id"⟩, ⟨"o", "total"⟩, ⟨"o", "user_id"⟩] := by rfl
  have hconjuncts : conjuncts (s.target none) (m₁.entries ++ m₂.entries) = .ok
      [.binary (.column (some "u") "id") .eq (.bound "u.id" (.int 1)),
        .binary total .gtEq (.bound "total_min" (.int 5)),
        .binary name .eq (.bound "name" (.text "A"))] := by
    rw [Select.target_eq hcolumns]
    rfl
  have h : ConditionMap.inject ⟨m₁.entries ++ m₂.entries⟩ none false (.select s) = .ok _ :=
    (inject_eq_ok (by simp [m₁])).mpr ⟨s, _, _, rfl, hcolumns, hconjuncts, by simp, rfl⟩
  have happart : s.SeparateEntries := by
    simp [Select.SeparateEntries, Select.sources, s, orders, Source.Apart, Source.answersTo,
      Source.referenceName]
    decide
  refine ⟨_, h, inject_append m₁ m₂ none false (.select s) _ ?_ ?_ ?_ h⟩
  · rintro q hq
    cases hq
    exact happart
  · exact .inr (.inl ⟨("u.id", .value (.int 1)), List.mem_cons_self, rfl⟩)
  · exact .inr (.inl ⟨("name", .value (.text "A")), by simp [m₂], rfl⟩)

end SqlLoom
