import Mathlib.Data.List.Forall2
import SqlLoom.Proofs.Report.Records
import SqlLoom.Proofs.Scope
import SqlLoom.Proofs.Walk.Trimming

/-! Names in the ORDER BY of set operations are nothing that a look-up or the outputs of a query
depend on: in a trimmed tree all names mean what they meant, all queries have the outputs they had,
and the report of schemas makes the same of every node that is left. -/
namespace SqlLoom

lemma forall₂_find? {α β : Type} {R : α → β → Prop} {p : α → Bool} {q : β → Bool} {as : List α}
    {bs : List β} (h : List.Forall₂ R as bs) (hpq : ∀ a b, R a b → p a = q b) :
    Option.Rel R (as.find? p) (bs.find? q) := by
  induction h with
  | nil => exact .none
  | @cons a b as bs hab _ ih =>
    rw [List.find?_cons, List.find?_cons, hpq a b hab]
    cases q b with
    | true => exact .some hab
    | false => exact ih

lemma rel_cases {α β : Type} {R : α → β → Prop} {x : Option α} {y : Option β}
    (h : Option.Rel R x y) : (x = none ∧ y = none) ∨ ∃ a b, x = some a ∧ y = some b ∧ R a b := by
  cases h with
  | none => exact .inl ⟨rfl, rfl⟩
  | some hab => exact .inr ⟨_, _, rfl, rfl, hab⟩

lemma map_congr_of_forall₂ {α β γ : Type} {R : α → β → Prop} {f : α → γ} {g : β → γ} {as : List α}
    {bs : List β} (h : List.Forall₂ R as bs) (hfg : ∀ a b, R a b → f a = g b) :
    as.map f = bs.map g := by
  induction h with
  | nil => rfl
  | cons hab _ ih => rw [List.map_cons, List.map_cons, hfg _ _ hab, ih]

lemma filterMap_congr_of_forall₂ {α β γ : Type} {R : α → β → Prop} {f : α → Option γ}
    {g : β → Option γ} {as : List α} {bs : List β} (h : List.Forall₂ R as bs)
    (hfg : ∀ a b, R a b → f a = g b) : as.filterMap f = bs.filterMap g := by
  induction h with
  | nil => rfl
  | cons hab _ ih => rw [List.filterMap_cons, List.filterMap_cons, hfg _ _ hab, ih]

lemma mapM_congr_of_forall₂ {α β γ : Type} {R : α → β → Prop} {f : α → Result γ} {g : β → Result γ}
    {as : List α} {bs : List β} (h : List.Forall₂ R as bs) (hfg : ∀ a b, R a b → f a = g b) :
    as.mapM f = bs.mapM g := by
  induction h with
  | nil => rfl
  | cons hab _ ih => rw [List.mapM_cons, List.mapM_cons, hfg _ _ hab, ih]

lemma Source.Trims.answersTo_eq {s s' : Source} (h : Source.Trims s s') (qualifier : String) :
    s.answersTo qualifier = s'.answersTo qualifier := by
  cases h <;> rfl

lemma Source.Trims.referenceName_eq {s s' : Source} (h : Source.Trims s s') :
    s.referenceName = s'.referenceName := by
  cases h <;> rfl

lemma CommonTable.Trims.name_eq {t t' : CommonTable} (h : CommonTable.Trims t t') :
    t.name = t'.name := by
  cases h; rfl

lemma SelectItem.Trims.outputName_eq {i i' : SelectItem} (h : SelectItem.Trims i i') :
    i.outputName = i'.outputName := by
  obtain @⟨a, _, _, hv⟩ := h
  cases a with
  | none => cases hv <;> rfl
  | some _ => rfl

lemma SelectItem.Trims.aliasName_eq {i i' : SelectItem} (h : SelectItem.Trims i i') :
    i.aliasName = i'.aliasName := by
  cases h; rfl

lemma Assignment.Trims.column_eq {a a' : Assignment} (h : Assignment.Trims a a') :
    a.column = a'.column := by
  cases h; rfl

namespace Statement.Trims

lemma sources {s s' : Select} (h : Statement.Trims (.select s) (.select s')) :
    List.Forall₂ Source.Trims s.sources s'.sources := by
  cases h with
  | select _ _ hfs hjs _ _ _ _ _ _ => exact List.rel_append hfs (Join.Trims.sources hjs)

lemma items {s s' : Select} (h : Statement.Trims (.select s) (.select s')) :
    List.Forall₂ SelectItem.Trims s.items s'.items := by
  cases h with
  | select _ his _ _ _ _ _ _ _ _ => exact his

end Statement.Trims

inductive Relation.Trims : Relation → Relation → Prop
  | physical (schema name) : Relation.Trims (.physical schema name) (.physical schema name)
  | common {t t'} : CommonTable.Trims t t' → Relation.Trims (.common t) (.common t')
  | subquery {q q'} (cs) : Statement.Trims q q' → Relation.Trims (.subquery q cs) (.subquery q' cs)
  | function : Relation.Trims .function .function

lemma Relation.Trims.hasKey {r r' : Relation} (h : Relation.Trims r r') {key : String}
    (hk : r.HasKey key) : r'.HasKey key := by
  obtain ⟨schema, name, rfl, rfl⟩ := hk
  cases h
  exact ⟨schema, name, rfl, rfl⟩

structure ResolvedSource.Trims (r r' : ResolvedSource) : Prop where
  source : Source.Trims r.source r'.source
  relation : Relation.Trims r.relation r'.relation

namespace Scopes.Trims

variable {sc sc' : Scopes}

lemma declared (h : Scopes.Trims sc sc') :
    List.Forall₂ CommonTable.Trims (sc.declared.map (·.table)) (sc'.declared.map (·.table)) := by
  induction h with
  | nil => exact .nil
  | cons hf _ ih =>
    cases hf with
    | tables visible hts =>
      simp only [Scopes.declared, List.map_append, Declared.map_table_ofClause]
      exact List.rel_append (List.forall₂_take visible hts) ih
    | body _ => exact ih
    | query _ => exact ih
    | subquery _ => exact ih

lemma resolveTable (h : Scopes.Trims sc sc') (name : String) :
    Option.Rel CommonTable.Trims (sc.resolveTable name) (sc'.resolveTable name) := by
  have hfind : ∀ sc : Scopes, sc.resolveTable name =
      (sc.declared.map (·.table)).find? fun t => Text.sameName t.name name := fun sc => by
    rw [resolveTable_eq, List.find?_map]
    rfl
  rw [hfind, hfind]
  exact forall₂_find? h.declared fun t t' ht => by rw [ht.name_eq]

lemma relation (h : Scopes.Trims sc sc') {s s' : Source} (hs : Source.Trims s s') :
    Relation.Trims (sc.relation s) (sc'.relation s') := by
  cases hs with
  | table schema name a =>
    cases schema with
    | some schema => exact .physical _ _
    | none =>
      simp only [Scopes.relation]
      rcases rel_cases (h.resolveTable name) with ⟨hn, hn'⟩ | ⟨t, t', hn, hn', ht⟩
      · simpa only [hn, hn'] using .physical none name
      · simpa only [hn, hn'] using .common ht
  | subquery hq => exact .subquery _ hq
  | function _ => exact .function

lemma resolveQualifier (h : Scopes.Trims sc sc') (qualifier : String) (distance : Nat) :
    Option.Rel ResolvedSource.Trims (sc.resolveQualifier qualifier distance)
      (sc'.resolveQualifier qualifier distance) := by
  induction h generalizing distance with
  | nil => exact .none
  | cons hf hsc ih =>
    cases hf with
    | query hss =>
      simp only [Scopes.resolveQualifier]
      rcases rel_cases (forall₂_find? hss fun s s' hs => hs.answersTo_eq qualifier) with
        ⟨hf, hf'⟩ | ⟨s, s', hf, hf', hs⟩
      · simpa only [hf, hf'] using ih (distance + 1)
      · simpa only [hf, hf'] using .some ⟨hs, relation hsc hs⟩
    | tables _ _ => exact ih distance
    | body _ => exact ih distance
    | subquery _ => exact ih distance

lemma currentSources (h : Scopes.Trims sc sc') :
    List.Forall₂ ResolvedSource.Trims sc.currentSources sc'.currentSources := by
  induction h with
  | nil => exact .nil
  | cons hf hsc ih =>
    cases hf with
    | query hss => exact List.rel_map (fun s s' hs => ⟨hs, relation hsc hs⟩) hss
    | tables _ _ => exact ih
    | body _ => exact ih
    | subquery _ => exact ih

end Scopes.Trims

namespace Outlook

/-- Two ways to find outputs find the same for a statement and what is left of it. -/
def Agree (f g : Descent) : Prop :=
  ∀ ⦃env env' s s'⦄, List.Forall₂ CommonTable.Trims env env' → Statement.Trims s s' →
    f env s = g env' s'

variable {resolver : Option ColumnResolver} {sc sc' : Scopes} {query query' body body' : Descent}
  {env env' : List CommonTable}

lemma commonTable_trims (hb : Agree body body') (henv : List.Forall₂ CommonTable.Trims env env')
    {t t' : CommonTable} (ht : CommonTable.Trims t t') :
    commonTable body env t = commonTable body' env' t' := by
  obtain ⟨hbody⟩ := ht
  simp only [commonTable, hb henv hbody]

lemma extend_trims (henv : List.Forall₂ CommonTable.Trims env env') {w w' : Option WithClause}
    (hw : Option.Rel WithClause.Trims w w') :
    List.Forall₂ CommonTable.Trims (extend env w) (extend env' w') := by
  rcases hw with ⟨⟨hts⟩⟩ | _
  · exact List.rel_append (List.rel_reverse hts) henv
  · exact henv

lemma itemNames_trims {is is' : List SelectItem} (h : List.Forall₂ SelectItem.Trims is is') :
    itemNames is = itemNames is' :=
  filterMap_congr_of_forall₂ h fun _ _ hi => hi.outputName_eq

section
variable (hsc : Scopes.Trims sc sc')
include hsc

lemma lookup_trims (henv : List.Forall₂ CommonTable.Trims env env') (name : String) :
    Option.Rel CommonTable.Trims (lookup ⟨resolver, sc⟩ env name)
      (lookup ⟨resolver, sc'⟩ env' name) := by
  have hfind : Option.Rel CommonTable.Trims (env.find? fun t => Text.sameName t.name name)
      (env'.find? fun t => Text.sameName t.name name) :=
    forall₂_find? henv fun t t' ht => by rw [ht.name_eq]
  simp only [lookup]
  rcases rel_cases hfind with ⟨hf, hf'⟩ | ⟨t, t', hf, hf', ht⟩
  · rw [hf, hf']
    exact hsc.resolveTable name
  · rw [hf, hf']
    exact .some ht

variable (hq : Agree query query') (hb : Agree body body')
  (henv : List.Forall₂ CommonTable.Trims env env')
include hq hb henv

lemma source_trims {s s' : Source} (hs : Source.Trims s s') :
    source ⟨resolver, sc⟩ query body env s = source ⟨resolver, sc'⟩ query' body' env' s' := by
  cases hs with
  | table schema name a =>
    cases schema with
    | some schema => rfl
    | none =>
      have hrel : Option.Rel CommonTable.Trims (lookup ⟨resolver, sc⟩ env name)
          (lookup ⟨resolver, sc'⟩ env' name) := lookup_trims hsc henv name
      simp only [source]
      rcases rel_cases hrel with ⟨hl, hl'⟩ | ⟨t, t', hl, hl', ht⟩
      · simp only [hl, hl', physical]
      · simp only [hl, hl', commonTable_trims hb henv ht]
  | subquery hs => simp only [source, hq henv hs]
  | function _ => rfl

lemma item_trims {ss ss' : List Source} (hss : List.Forall₂ Source.Trims ss ss')
    {i i' : SelectItem} (hi : SelectItem.Trims i i') :
    item ⟨resolver, sc⟩ query body env ss i = item ⟨resolver, sc'⟩ query' body' env' ss' i' := by
  have hname := hi.outputName_eq
  obtain ⟨hv⟩ := hi
  cases hv with
  | wildcard qualifier =>
    have hcovered : List.Forall₂ Source.Trims (covered qualifier ss) (covered qualifier ss') := by
      cases qualifier with
      | none => exact hss
      | some q => exact List.rel_filter (fun s s' hs => Bool.eq_iff_iff.mp (hs.answersTo_eq q)) hss
    simp only [item, mapM_congr_of_forall₂ hcovered fun s s' hs => source_trims hsc hq hb henv hs]
  | _ => simp only [item, hname]

lemma select_trims {s s' : Select} (hs : Statement.Trims (.select s) (.select s')) :
    select ⟨resolver, sc⟩ query body env s = select ⟨resolver, sc'⟩ query' body' env' s' := by
  simp only [select, mapM_congr_of_forall₂ hs.items fun i i' hi =>
    item_trims hsc hq hb henv hs.sources hi]

lemma step_trims {s s' : Statement} (hs : s.Trims s') :
    step ⟨resolver, sc⟩ query body env s = step ⟨resolver, sc'⟩ query' body' env' s' := by
  cases hs with
  | select hw his hfs hjs hf hg hh ho hl hk =>
    exact select_trims hsc hq hb (extend_trims henv hw) (.select hw his hfs hjs hf hg hh ho hl hk)
  | setOp hl _ _ _ _ => exact hq henv hl
  | @values as rs rs' hrs =>
    have hcount : rs.head?.map List.length = rs'.head?.map List.length := by
      cases hrs with
      | nil => rfl
      | cons hr _ => exact congrArg some hr.length_eq
    simp only [step, valuesNames, hcount]
  | insert _ his => simp only [step, itemNames_trims his]
  | createTable _ => rfl
  | update _ _ _ _ _ his => simp only [step, itemNames_trims his]
  | delete _ _ _ _ his => simp only [step, itemNames_trims his]

end

/-- A statement has the outputs of what is left of it, to any depth. -/
lemma statement_trims (hsc : Scopes.Trims sc sc') (n : Nat) :
    Agree (statement ⟨resolver, sc⟩ n) (statement ⟨resolver, sc'⟩ n) := by
  induction n using Nat.twoStepInduction with
  | zero => exact fun _ _ _ _ _ _ => rfl
  | one =>
    have hdeep : Agree (fun _ _ => .error tooDeep) (fun _ _ => .error tooDeep) :=
      fun _ _ _ _ _ _ => rfl
    exact fun _ _ _ _ henv hs => step_trims hsc hdeep hdeep henv hs
  | more n ih ih' => exact fun _ _ _ _ henv hs => step_trims hsc ih' ih henv hs

lemma ofRelation_trims (hsc : Scopes.Trims sc sc') {s s' : Source} (hs : Source.Trims s s')
    {r r' : Relation} (hr : Relation.Trims r r') :
    ofRelation ⟨resolver, sc⟩ s r = ofRelation ⟨resolver, sc'⟩ s' r' := by
  cases hr with
  | physical schema name => simp only [ofRelation, physical, hs.referenceName_eq]
  | common ht => exact commonTable_trims (statement_trims hsc _) .nil ht
  | subquery cs hq => simp only [ofRelation, statement_trims hsc depthLimit .nil hq]
  | function => rfl

end Outlook

namespace Report.SchemaState

variable {resolver : Option ColumnResolver} {sc sc' : Scopes}

lemma recordIn_trims {r r' : Relation} (h : Relation.Trims r r') (st : SchemaState)
    (name : String) : st.recordIn r name = st.recordIn r' name := by
  cases h <;> rfl

lemma record_trims (st : SchemaState) (columns : List String) {r r' : Relation} :
    Relation.Trims r r' →
      (match r with
        | .physical schema name => st.record schema name columns
        | _ => st) =
      (match r' with
        | .physical schema name => st.record schema name columns
        | _ => st) := by
  rintro (_ | _ | _ | _) <;> rfl

lemma sourceList_trims {rs rs' : List ResolvedSource}
    (h : List.Forall₂ ResolvedSource.Trims rs rs') : sourceList rs = sourceList rs' := by
  rw [sourceList, sourceList, map_congr_of_forall₂ h fun r r' hr => hr.source.referenceName_eq]

lemma wildcardOver_trims {r r' : ResolvedSource} (h : ResolvedSource.Trims r r')
    (st : SchemaState) :
    wildcardOver ⟨resolver, sc⟩ st r = wildcardOver ⟨resolver, sc'⟩ st r' := by
  obtain ⟨s, rel, d⟩ := r
  obtain ⟨s', rel', d'⟩ := r'
  obtain ⟨hs, hrel⟩ := h
  dsimp only at hs hrel
  cases hrel with
  | physical schema name => simp only [wildcardOver, Outlook.physical, hs.referenceName_eq]
  | _ => rfl

lemma foldlM_wildcardOver_trims {rs rs' : List ResolvedSource}
    (h : List.Forall₂ ResolvedSource.Trims rs rs') (st : SchemaState) :
    rs.foldlM (wildcardOver ⟨resolver, sc⟩) st = rs'.foldlM (wildcardOver ⟨resolver, sc'⟩) st := by
  induction h generalizing st with
  | nil => rfl
  | cons hr _ ih =>
    have hfirst : wildcardOver ⟨resolver, sc⟩ st _ = wildcardOver ⟨resolver, sc'⟩ st _ :=
      wildcardOver_trims hr st
    simp only [List.foldlM_cons, hfirst, ih]

section
variable (hsc : Scopes.Trims sc sc')
include hsc

lemma declares_trims {r r' : ResolvedSource} (h : ResolvedSource.Trims r r') (name : String) :
    declares ⟨resolver, sc⟩ name r = declares ⟨resolver, sc'⟩ name r' := by
  obtain ⟨s, rel, d⟩ := r
  obtain ⟨s', rel', d'⟩ := r'
  obtain ⟨hs, hrel⟩ := h
  have hof : Outlook.ofRelation ⟨resolver, sc⟩ s rel = Outlook.ofRelation ⟨resolver, sc'⟩ s' rel' :=
    Outlook.ofRelation_trims hsc hs hrel
  dsimp only at hrel
  cases hrel with
  | physical schema table => rfl
  | function => rfl
  | common ht => simp only [declares, hof]
  | subquery cs hq => simp only [declares, hof]

lemma bareColumn_trims (name : String) (st : SchemaState) :
    bareColumn ⟨resolver, sc⟩ name st = bareColumn ⟨resolver, sc'⟩ name st := by
  have hcurrent := hsc.currentSources
  have hfilter := List.rel_filter (p := declares ⟨resolver, sc⟩ name)
    (q := declares ⟨resolver, sc'⟩ name)
    (fun r r' hr => Bool.eq_iff_iff.mp (declares_trims hsc hr name)) hcurrent
  simp only [bareColumn]
  generalize sc.currentSources = rs, sc'.currentSources = rs' at hcurrent hfilter ⊢
  rcases hcurrent with _ | ⟨hr, _ | ⟨hr', hrs⟩⟩
  · rfl
  · exact recordIn_trims hr.relation st name
  · simp only [sourceList_trims (.cons hr (.cons hr' hrs))]
    generalize List.filter (declares ⟨resolver, sc⟩ name) _ = owners at hfilter ⊢
    generalize List.filter (declares ⟨resolver, sc'⟩ name) _ = owners' at hfilter ⊢
    rcases hfilter with _ | ⟨howner, _ | _⟩
    · rfl
    · exact recordIn_trims howner.relation st name
    · rfl

lemma column_trims (role : Role) (qualifier : Option String) (name : String) (st : SchemaState) :
    column ⟨resolver, sc⟩ role qualifier name st =
      column ⟨resolver, sc'⟩ role qualifier name st := by
  cases qualifier with
  | none => simp only [column, bareColumn_trims hsc name st]
  | some q =>
    simp only [column]
    rcases rel_cases (hsc.resolveQualifier q 0) with ⟨hr, hr'⟩ | ⟨r, r', hr, hr', hrel⟩
    · simp only [hr, hr']
    · simp only [hr, hr', recordIn_trims hrel.relation st name]

lemma wildcardItem_trims {i i' : SelectItem} (h : SelectItem.Trims i i') (st : SchemaState) :
    wildcardItem ⟨resolver, sc⟩ st i = wildcardItem ⟨resolver, sc'⟩ st i' := by
  obtain ⟨hv⟩ := h
  cases hv with
  | wildcard qualifier =>
    refine foldlM_wildcardOver_trims (List.rel_filter (fun r r' hr => ?_) hsc.currentSources) st
    cases qualifier with
    | none => exact Iff.rfl
    | some q => exact Bool.eq_iff_iff.mp (hr.source.answersTo_eq q)
  | _ => rfl

lemma wildcards_trims {is is' : List SelectItem} (h : List.Forall₂ SelectItem.Trims is is')
    (st : SchemaState) :
    wildcards ⟨resolver, sc⟩ st is = wildcards ⟨resolver, sc'⟩ st is' := by
  induction h generalizing st with
  | nil => rfl
  | cons hi _ ih => simp only [wildcards, wildcardItem_trims hsc hi st, ih]

end

lemma step_trims {e e' : Event} (h : Event.Trims e e') (st : SchemaState) :
    step resolver st e = step resolver st e' := by
  cases h with
  | enter kind _ => cases kind <;> rfl
  | leave kind _ => cases kind <;> rfl
  | table _ _ _ => rfl
  | endTable _ _ => rfl
  | statement hs hsc =>
    cases hs with
    | update _ ht has _ _ _ =>
      rw [step_update, step_update]
      dsimp only
      rw [map_congr_of_forall₂ has fun a a' ha => ha.column_eq]
      exact record_trims st _ (hsc.relation ht)
    | _ => rfl
  | select hs hsc =>
    have haliases := filterMap_congr_of_forall₂ hs.items fun _ _ hi => hi.aliasName_eq
    simp only [step, haliases]
    exact wildcards_trims hsc hs.items _
  | source hs hsc =>
    exact record_trims st [] (hsc.relation hs)
  | value role he hsc =>
    cases he with
    | column q n => exact column_trims hsc role q n st
    | _ => rfl

end Report.SchemaState

end SqlLoom
