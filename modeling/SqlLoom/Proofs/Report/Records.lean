import Mathlib.Data.String.Basic
import SqlLoom.Proofs.Report.Keys
import SqlLoom.Report.SelectValues

/-! What the report of schemas holds. Each report of the walk gives some columns to some tables, or
refuses; the entries in the end hold exactly what was given, whatever the order. -/
namespace SqlLoom

/-- The key of the physical table that is meant. -/
def Relation.HasKey (r : Relation) (key : String) : Prop :=
  ∃ schema name, r = .physical schema name ∧ key = Report.tableKey schema name

/-- The output aliases of the queries that are open after a report. -/
def Event.openAliases (aliases : List (List String)) : Event → List (List String)
  | .enter .query _ => [] :: aliases
  | .leave .query _ => aliases.tail
  | .select s _ => s.items.filterMap SelectItem.aliasName :: aliases.tail
  | _ => aliases

namespace Report

/-- Reports, each with the aliases of the queries that are open before it. -/
def annotated (aliases : List (List String)) : List Event → List (List (List String) × Event)
  | [] => []
  | e :: es => (aliases, e) :: annotated (e.openAliases aliases) es

/-- The one entry that an unqualified column can belong to: the only one in scope, or the only one
of several that declares it. -/
def Owns (x : Outlook) (name : String) (r : ResolvedSource) : Prop :=
  x.scopes.currentSources = [r] ∨
    1 < x.scopes.currentSources.length ∧
      x.scopes.currentSources.filter (SchemaState.declares x name) = [r]

/-- The entries that the wildcards among select items stand for. -/
def starred (x : Outlook) (is : List SelectItem) : List ResolvedSource :=
  is.flatMap fun i =>
    match i.value with
    | .wildcard qualifier => coveredSources qualifier x.scopes.currentSources
    | _ => []

/-- Whether an ORDER BY entry of a select is one of its output aliases. -/
def IsAlias (aliases : List (List String)) (role : Role) (name : String) : Prop :=
  role = .ordering ∧ ∃ a ∈ aliases.headD [], Text.sameName a name = true

section
variable (resolver : Option ColumnResolver) (aliases : List (List String))

/-- The columns that a report gives to the entry of a table. -/
inductive Records : Event → String → List String → Prop
  | inserted (i sc) : Records (.statement (.insert i) sc) (tableKey i.table.schema i.table.name)
      i.columns
  | assigned {u sc key} : (sc.relation u.target).HasKey key →
    Records (.statement (.update u) sc) key (u.assignments.map (·.column))
  | starred {s sc r schema name cs} : r ∈ starred ⟨resolver, sc⟩ s.items →
    r.relation = .physical schema name →
    Outlook.physical ⟨resolver, sc⟩ schema name r.source.referenceName = .ok cs →
    Records (.select s sc) (tableKey schema name) cs
  | source {s sc key} : (sc.relation s).HasKey key → Records (.source s sc) key []
  | qualified {role q c sc r key} : sc.resolveQualifier q 0 = some r → r.relation.HasKey key →
    Records (.value role (.column (some q) c) sc) key [c]
  | bare {role c sc r key} : ¬IsAlias aliases role c → Owns ⟨resolver, sc⟩ c r →
    r.relation.HasKey key → Records (.value role (.column none c) sc) key [c]

/-- Whether a report makes the collection fail: a wildcard over a table of unknown columns, or an
unqualified column that not exactly one of several entries declares. -/
inductive Refuses : Event → Prop
  | starred {s sc r schema name e} : r ∈ starred ⟨resolver, sc⟩ s.items →
    r.relation = .physical schema name →
    Outlook.physical ⟨resolver, sc⟩ schema name r.source.referenceName = .error e →
    Refuses (.select s sc)
  | bare {role c sc} : ¬IsAlias aliases role c → 1 < sc.currentSources.length →
    (∀ r, sc.currentSources.filter (SchemaState.declares ⟨resolver, sc⟩ c) ≠ [r]) →
    Refuses (.value role (.column none c) sc)

end

/-- Whether the entry of a table holds a column. -/
def Holds (ts : List (String × List String)) (key column : String) : Prop :=
  ∃ cs, (key, cs) ∈ ts ∧ column ∈ cs

lemma holds_cons {k key column : String} {cs : List String} {ts : List (String × List String)} :
    Holds ((k, cs) :: ts) key column ↔ (key = k ∧ column ∈ cs) ∨ Holds ts key column := by
  simp only [Holds, List.mem_cons, Prod.mk.injEq, or_and_right, exists_or]
  refine or_congr_left ⟨?_, ?_⟩
  · rintro ⟨_, ⟨rfl, rfl⟩, hc⟩
    exact ⟨rfl, hc⟩
  · rintro ⟨rfl, hc⟩
    exact ⟨cs, ⟨rfl, rfl⟩, hc⟩

lemma mem_insertColumn {c column : String} {cs : List String} :
    c ∈ insertColumn column cs ↔ c = column ∨ c ∈ cs := by
  induction cs with
  | nil => simp [insertColumn]
  | cons d cs ih =>
    simp only [insertColumn]
    split
    · simp
    · split
      · next h => simp [h]
      · rw [List.mem_cons, ih, List.mem_cons, or_left_comm]

lemma mem_foldl_insertColumn {c : String} (columns cs : List String) :
    c ∈ columns.foldl (fun cs c => insertColumn c cs) cs ↔ c ∈ columns ∨ c ∈ cs := by
  induction columns generalizing cs with
  | nil => simp
  | cons d columns ih =>
    rw [List.foldl_cons, ih, mem_insertColumn, List.mem_cons, or_left_comm, or_assoc]

lemma holds_touch {key k c : String} {columns : List String} {ts : List (String × List String)} :
    Holds (touch key columns ts) k c ↔ (k = key ∧ c ∈ columns) ∨ Holds ts k c := by
  induction ts with
  | nil => simp [touch, holds_cons, mem_foldl_insertColumn]
  | cons t ts ih =>
    obtain ⟨key', cs⟩ := t
    simp only [touch]
    split
    · simp [holds_cons, mem_foldl_insertColumn]
    · split
      · next h =>
        simp only [holds_cons, mem_foldl_insertColumn, h, and_or_left, or_assoc]
      · rw [holds_cons, ih, holds_cons, or_left_comm]

/-- Entries in increasing order of their keys. -/
def Sorted (ts : List (String × List String)) : Prop := (ts.map (·.1)).Pairwise (· < ·)

lemma Sorted.touch {ts : List (String × List String)} (h : Sorted ts) (key : String)
    (columns : List String) : Sorted (touch key columns ts) := by
  induction ts with
  | nil => simp [Report.touch, Sorted]
  | cons t ts ih =>
    obtain ⟨k, cs⟩ := t
    obtain ⟨hk, hts⟩ := List.pairwise_cons.mp h
    simp only [Report.touch]
    split
    · next hlt =>
      refine List.pairwise_cons.mpr ⟨?_, h⟩
      rintro k' hk'
      rcases List.mem_cons.mp hk' with rfl | hk'
      · exact hlt
      · exact hlt.trans (hk k' hk')
    · next hnlt =>
      split
      · exact h
      · next hne =>
        refine List.pairwise_cons.mpr ⟨?_, ih hts⟩
        intro k' hk'
        rcases mem_keys_touch.mp hk' with rfl | hk'
        · exact lt_of_le_of_ne (not_lt.mp hnlt) hne
        · exact hk k' hk'

/-- No two entries have one key. -/
lemma Sorted.mem_iff_holds {ts : List (String × List String)} (h : Sorted ts) {key : String}
    {cs : List String} (hm : (key, cs) ∈ ts) (c : String) : c ∈ cs ↔ Holds ts key c := by
  have hnodup : (ts.map (·.1)).Nodup := h.imp fun hlt => ne_of_lt hlt
  constructor
  · exact fun hc => ⟨cs, hm, hc⟩
  · rintro ⟨cs', hm', hc⟩
    obtain rfl := (Prod.mk.inj (List.inj_on_of_nodup_map hnodup hm hm' rfl)).2
    exact hc

/-- Besides what the first entries hold, the second ones hold what `R` gives, and nothing else. -/
structure Gains (R : String → List String → Prop) (ts ts' : List (String × List String)) : Prop where
  keys : ∀ key, key ∈ ts'.map (·.1) ↔ key ∈ ts.map (·.1) ∨ ∃ cs, R key cs
  holds : ∀ key c, Holds ts' key c ↔ Holds ts key c ∨ ∃ cs, R key cs ∧ c ∈ cs
  sorted : Sorted ts → Sorted ts'

namespace Gains
variable {R R' : String → List String → Prop} {ts ts' ts'' : List (String × List String)}

lemma refl (h : ∀ key cs, ¬R key cs) : Gains R ts ts := by
  constructor <;> simp [h]

lemma congr (h : ∀ key cs, R key cs ↔ R' key cs) (hg : Gains R ts ts') : Gains R' ts ts' := by
  obtain rfl : R = R' := funext fun key => funext fun cs => propext (h key cs)
  exact hg

lemma touch (key : String) (columns : List String) :
    Gains (fun k cs => k = key ∧ cs = columns) ts (touch key columns ts) where
  keys k := by rw [mem_keys_touch, or_comm]; simp
  holds k c := by rw [holds_touch, or_comm]; simp
  sorted h := h.touch key columns

lemma trans (h : Gains R ts ts') (h' : Gains R' ts' ts'') :
    Gains (fun key cs => R key cs ∨ R' key cs) ts ts'' where
  keys key := by rw [h'.keys, h.keys, or_assoc, exists_or]
  holds key c := by simp only [h'.holds, h.holds, or_assoc, or_and_right, exists_or]
  sorted hs := h'.sorted (h.sorted hs)

end Gains

open SchemaState

variable {resolver : Option ColumnResolver} {sc : Scopes} {st st' : SchemaState}

@[simp] lemma recordIn_aliases (r : Relation) (column : String) :
    (st.recordIn r column).aliases = st.aliases := by cases r <;> rfl

@[simp] lemma recordIn_failure (r : Relation) (column : String) :
    (st.recordIn r column).failure = st.failure := by cases r <;> rfl

lemma gains_recordIn (r : Relation) (column : String) :
    Gains (fun key cs => r.HasKey key ∧ cs = [column]) st.tables (st.recordIn r column).tables := by
  cases r with
  | physical schema name =>
    refine (Gains.touch (tableKey schema name) [column]).congr fun key cs => ?_
    simp [Relation.HasKey]
  | _ => exact .refl (by simp [Relation.HasKey])

/-- What becomes of the state when something is reported. -/
structure Becomes (aliases : List (List String)) (refuses : Prop)
    (records : String → List String → Prop) (st st' : SchemaState) : Prop where
  aliases : st'.aliases = aliases
  failure : st'.failure = none ↔ st.failure = none ∧ ¬refuses
  tables : st'.failure = none → Gains records st.tables st'.tables

namespace Becomes
variable {aliases : List (List String)} {refuses refuses' : Prop}
  {records records' : String → List String → Prop}

/-- Without a refusal. -/
lemma gains (ha : st'.aliases = aliases) (hf : st'.failure = st.failure) (hr : ¬refuses)
    (ht : Gains records st.tables st'.tables) : Becomes aliases refuses records st st' where
  aliases := ha
  failure := by rw [hf]; exact (and_iff_left hr).symm
  tables _ := ht

lemma fails (h : refuses) (e : Error) : Becomes st.aliases refuses records st (st.fail e) where
  aliases := rfl
  failure := by cases hf : st.failure <;> simp [fail, hf, h]
  tables hn := by cases hf : st.failure <;> simp [fail, hf] at hn

lemma trans {aliases' : List (List String)} {st'' : SchemaState}
    (h : Becomes aliases refuses records st st')
    (h' : Becomes aliases' refuses' records' st' st'') :
    Becomes aliases' (refuses ∨ refuses') (fun key cs => records key cs ∨ records' key cs) st st'' where
  aliases := h'.aliases
  failure := by rw [h'.failure, h.failure, not_or, and_assoc]
  tables hn := (h.tables (h'.failure.mp hn).1).trans (h'.tables hn)

lemma congr (h : Becomes aliases refuses records st st') (hf : refuses ↔ refuses')
    (hr : ∀ key cs, records key cs ↔ records' key cs) : Becomes aliases refuses' records' st st' where
  aliases := h.aliases
  failure := by rw [h.failure, hf]
  tables hn := (h.tables hn).congr hr

end Becomes

/-- The columns of the entries under wildcards. -/
def Gives (x : Outlook) (rs : List ResolvedSource) (key : String) (cs : List String) : Prop :=
  ∃ r ∈ rs, ∃ schema name, r.relation = .physical schema name ∧ key = tableKey schema name ∧
    x.physical schema name r.source.referenceName = .ok cs

/-- Whether the columns of some entry under a wildcard are unknown. -/
def Lacks (x : Outlook) (rs : List ResolvedSource) : Prop :=
  ∃ r ∈ rs, ∃ schema name e, r.relation = .physical schema name ∧
    x.physical schema name r.source.referenceName = .error e

lemma gives_append (x : Outlook) (rs rs' : List ResolvedSource) (key : String) (cs : List String) :
    Gives x (rs ++ rs') key cs ↔ Gives x rs key cs ∨ Gives x rs' key cs := by
  simp only [Gives, List.mem_append, or_and_right, exists_or]

lemma lacks_append (x : Outlook) (rs rs' : List ResolvedSource) :
    Lacks x (rs ++ rs') ↔ Lacks x rs ∨ Lacks x rs' := by
  simp only [Lacks, List.mem_append, or_and_right, exists_or]

/-- One entry under a wildcard: its columns are recorded, or they are unknown. -/
lemma wildcardOver_cases (x : Outlook) (st : SchemaState) (r : ResolvedSource) :
    (∃ st', wildcardOver x st r = .ok st' ∧
      Becomes st.aliases (Lacks x [r]) (Gives x [r]) st st' ∧ ¬Lacks x [r]) ∨
    (∃ e, wildcardOver x st r = .error e) ∧ Lacks x [r] := by
  cases hrel : r.relation with
  | physical schema name =>
    cases hcols : x.physical schema name r.source.referenceName with
    | error e =>
      refine .inr ⟨⟨e, ?_⟩, r, by simp, schema, name, e, hrel, hcols⟩
      simp only [wildcardOver, hrel, hcols]
      rfl
    | ok cs =>
      have hlacks : ¬Lacks x [r] := by simp [Lacks, hrel, hcols]
      refine .inl ⟨st.record schema name cs, ?_, .gains rfl rfl hlacks ?_, hlacks⟩
      · simp only [wildcardOver, hrel, hcols]
        rfl
      · refine (Gains.touch (tableKey schema name) cs).congr fun key cs' => ?_
        simp [Gives, hrel, hcols, eq_comm]
  | _ =>
    have hlacks : ¬Lacks x [r] := by simp [Lacks, hrel]
    refine .inl ⟨st, by simp only [wildcardOver, hrel], .gains rfl rfl hlacks ?_, hlacks⟩
    exact .refl (by simp [Gives, hrel])

lemma foldlM_cases (x : Outlook) (rs : List ResolvedSource) (st : SchemaState) :
    (∃ st', rs.foldlM (wildcardOver x) st = .ok st' ∧
      Becomes st.aliases (Lacks x rs) (Gives x rs) st st' ∧ ¬Lacks x rs) ∨
    (∃ e, rs.foldlM (wildcardOver x) st = .error e) ∧ Lacks x rs := by
  induction rs generalizing st with
  | nil =>
    have hlacks : ¬Lacks x [] := by simp [Lacks]
    exact .inl ⟨st, rfl, .gains rfl rfl hlacks (.refl (by simp [Gives])), hlacks⟩
  | cons r rs ih =>
    rw [List.foldlM_cons, ← List.singleton_append, lacks_append]
    rcases wildcardOver_cases x st r with ⟨mid, hr, hmid, hlacks⟩ | ⟨⟨e, hr⟩, hlacks⟩
    · rcases ih mid with ⟨st', hrs, hst, hlacks'⟩ | ⟨⟨e, hrs⟩, hlacks'⟩
      · refine .inl ⟨st', by rw [hr]; exact hrs, ?_, not_or.mpr ⟨hlacks, hlacks'⟩⟩
        rw [hmid.aliases] at hst
        exact (hmid.trans hst).congr Iff.rfl fun key cs => (gives_append x [r] rs key cs).symm
      · exact .inr ⟨⟨e, by rw [hr]; exact hrs⟩, .inr hlacks'⟩
    · exact .inr ⟨⟨e, by rw [hr]; rfl⟩, .inl hlacks⟩

lemma wildcardItem_eq (x : Outlook) (st : SchemaState) (i : SelectItem) :
    wildcardItem x st i = (starred x [i]).foldlM (wildcardOver x) st := by
  obtain ⟨value, a⟩ := i
  cases value with
  | wildcard q => cases q <;> simp [wildcardItem, starred, coveredSources]
  | _ => rfl

/-- The wildcards of a select record the columns of all entries under them, or the first unknown
ones refuse. -/
lemma becomes_wildcards (x : Outlook) (is : List SelectItem) (st : SchemaState) :
    Becomes st.aliases (Lacks x (starred x is)) (Gives x (starred x is)) st
      (wildcards x st is) := by
  induction is generalizing st with
  | nil => exact .gains rfl rfl (by simp [Lacks, starred]) (.refl (by simp [Gives, starred]))
  | cons i is ih =>
    have hstarred : starred x (i :: is) = starred x [i] ++ starred x is := by simp [starred]
    rw [hstarred, wildcards, wildcardItem_eq]
    rcases foldlM_cases x (starred x [i]) st with ⟨mid, hi, hmid, -⟩ | ⟨⟨e, hi⟩, hlacks⟩
    · rw [hi]
      have hrest := ih mid
      rw [hmid.aliases] at hrest
      exact (hmid.trans hrest).congr (lacks_append _ _ _).symm
        fun key cs => (gives_append _ _ _ key cs).symm
    · rw [hi]
      exact .fails ((lacks_append _ _ _).mpr (.inl hlacks)) e

lemma Owns.mem {x : Outlook} {name : String} {r : ResolvedSource} (h : Owns x name r) :
    r ∈ x.scopes.currentSources := by
  rcases h with h | ⟨_, h⟩
  · simp [h]
  · exact List.mem_of_mem_filter (h ▸ List.mem_singleton_self r)

lemma Owns.unique {x : Outlook} {name : String} {r r' : ResolvedSource} (h : Owns x name r)
    (h' : Owns x name r') : r = r' := by
  rcases h with h | ⟨hlen, h⟩ <;> rcases h' with h' | ⟨hlen', h'⟩
  · exact List.singleton_inj.mp (h.symm.trans h')
  · simp [h] at hlen'
  · simp [h'] at hlen
  · exact List.singleton_inj.mp (h.symm.trans h')

/-- An unqualified column reads nothing, or its owner, or has none of several entries. -/
lemma bareColumn_cases (x : Outlook) (name : String) (st : SchemaState) :
    (x.scopes.currentSources = [] ∧ bareColumn x name st = st) ∨
    (∃ r, Owns x name r ∧ bareColumn x name st = st.recordIn r.relation name) ∨
    (1 < x.scopes.currentSources.length ∧
      (∀ r, x.scopes.currentSources.filter (declares x name) ≠ [r]) ∧
      ∃ e, bareColumn x name st = st.fail e) := by
  rcases hcs : x.scopes.currentSources with _ | ⟨a, _ | ⟨b, rest⟩⟩
  · exact .inl ⟨rfl, by simp only [bareColumn, hcs]⟩
  · exact .inr (.inl ⟨a, .inl hcs, by simp only [bareColumn, hcs]⟩)
  · rcases hf : (a :: b :: rest).filter (declares x name) with _ | ⟨owner, _ | ⟨other, more⟩⟩
    · refine .inr (.inr ⟨by simp, by simp, ?_⟩)
      simp only [bareColumn, hcs, hf]
      exact ⟨_, rfl⟩
    · refine .inr (.inl ⟨owner, .inr ⟨by simp [hcs], by rw [hcs, hf]⟩, ?_⟩)
      simp only [bareColumn, hcs, hf]
    · refine .inr (.inr ⟨by simp, by simp, ?_⟩)
      simp only [bareColumn, hcs, hf]
      exact ⟨_, rfl⟩

lemma isAliasReference_iff (role : Role) (name : String) (st : SchemaState) :
    st.isAliasReference role name = true ↔ IsAlias st.aliases role name := by
  simp [isAliasReference, IsAlias]

/-- A column gives itself to the table behind its entry, or has none of several entries. -/
lemma becomes_column (role : Role) (qualifier : Option String) (name : String)
    (st : SchemaState) :
    Becomes st.aliases
      (Refuses resolver st.aliases (.value role (.column qualifier name) sc))
      (Records resolver st.aliases (.value role (.column qualifier name) sc)) st
      (column ⟨resolver, sc⟩ role qualifier name st) := by
  cases qualifier with
  | some q =>
    have hok : ¬Refuses resolver st.aliases (.value role (.column (some q) name) sc) := nofun
    cases hq : sc.resolveQualifier q 0 with
    | none =>
      simp only [column, hq]
      refine .gains rfl rfl hok (.refl ?_)
      rintro _ _ (_ | _ | _ | _ | ⟨hr, _⟩)
      exact absurd (hq.symm.trans hr) (by simp)
    | some r =>
      simp only [column, hq]
      refine .gains (by simp) (by simp) hok ((gains_recordIn r.relation name).congr ?_)
      refine fun key cs => ⟨?_, ?_⟩
      · rintro ⟨hk, rfl⟩
        exact .qualified hq hk
      · rintro (_ | _ | _ | _ | ⟨hr, hk⟩)
        obtain rfl := Option.some.inj (hq.symm.trans hr)
        exact ⟨hk, rfl⟩
  | none =>
    by_cases halias : IsAlias st.aliases role name
    · simp only [column, (isAliasReference_iff role name st).mpr halias, if_true]
      refine .gains rfl rfl ?_ (.refl ?_)
      · rintro (_ | ⟨h, _, _⟩)
        exact h halias
      · rintro _ _ (_ | _ | _ | _ | _ | ⟨h, _, _⟩)
        exact h halias
    · simp only [column, mt (isAliasReference_iff role name st).mp halias, if_false,
        Bool.false_eq_true]
      rcases bareColumn_cases ⟨resolver, sc⟩ name st with ⟨hnil, h⟩ | ⟨r, hr, h⟩ | ⟨hlen, hf, e, h⟩
      · rw [h]
        dsimp only at hnil
        refine .gains rfl rfl ?_ (.refl ?_)
        · rintro (_ | ⟨_, hlen, _⟩)
          simp [hnil] at hlen
        · rintro _ _ (_ | _ | _ | _ | _ | ⟨_, ho, _⟩)
          simp [Owns, hnil] at ho
      · rw [h]
        refine .gains (by simp) (by simp) ?_ ((gains_recordIn r.relation name).congr ?_)
        · rintro (_ | ⟨_, hlen, hf⟩)
          rcases hr with hr | ⟨_, hr⟩
          · simp only at hr
            simp [hr] at hlen
          · exact hf r hr
        · refine fun key cs => ⟨?_, ?_⟩
          · rintro ⟨hk, rfl⟩
            exact .bare halias hr hk
          · rintro (_ | _ | _ | _ | _ | ⟨_, ho, hk⟩)
            obtain rfl := hr.unique ho
            exact ⟨hk, rfl⟩
      · rw [h]
        exact .fails (.bare halias hlen hf) e

lemma becomes_record (r : Relation) (columns : List String) (st : SchemaState) {refuses : Prop}
    (hr : ¬refuses) :
    Becomes st.aliases refuses (fun key cs => r.HasKey key ∧ cs = columns) st
      (match r with
        | .physical schema name => st.record schema name columns
        | _ => st) := by
  cases r with
  | physical schema name =>
    refine .gains rfl rfl hr ((Gains.touch (tableKey schema name) columns).congr fun key cs => ?_)
    simp [Relation.HasKey]
  | _ => exact .gains rfl rfl hr (.refl (by simp [Relation.HasKey]))

/-- The assignments of an UPDATE go to the physical table behind its target. -/
lemma step_update (resolver : Option ColumnResolver) (st : SchemaState) (u : Update) (sc : Scopes) :
    step resolver st (.statement (.update u) sc) =
      match sc.relation u.target with
      | .physical schema name => st.record schema name (u.assignments.map (·.column))
      | _ => st := by
  obtain ⟨w, target, as, fs, f, is⟩ := u
  cases target with
  | table schema name a =>
    cases schema with
    | none => cases h : sc.resolveTable name <;> simp [step, Scopes.relation, h]
    | some schema => simp [step, Scopes.relation]
  | _ => rfl

variable (resolver) in
/-- What a step makes of the state. -/
lemma becomes_step (e : Event) (st : SchemaState) :
    Becomes (e.openAliases st.aliases) (Refuses resolver st.aliases e)
      (Records resolver st.aliases e) st (step resolver st e) := by
  cases e with
  | enter kind sc => cases kind <;> exact .gains rfl rfl nofun (.refl nofun)
  | leave kind sc => cases kind <;> exact .gains rfl rfl nofun (.refl nofun)
  | table i t sc => exact .gains rfl rfl nofun (.refl nofun)
  | endTable t sc => exact .gains rfl rfl nofun (.refl nofun)
  | statement s sc =>
    cases s with
    | insert i =>
      refine .gains rfl rfl nofun ((Gains.touch _ i.columns).congr fun key cs => ⟨?_, ?_⟩)
      · rintro ⟨rfl, rfl⟩
        exact .inserted i sc
      · rintro (_ | _)
        exact ⟨rfl, rfl⟩
    | update u =>
      rw [step_update]
      refine (becomes_record _ _ st nofun).congr Iff.rfl fun key cs => ⟨?_, ?_⟩
      · rintro ⟨hk, rfl⟩
        exact .assigned hk
      · rintro (_ | hk)
        exact ⟨hk, rfl⟩
    | _ => exact .gains rfl rfl nofun (.refl nofun)
  | select s sc =>
    have h := becomes_wildcards ⟨resolver, sc⟩ s.items
      { st with aliases := s.items.filterMap SelectItem.aliasName :: st.aliases.tail }
    refine Becomes.congr ⟨h.aliases, h.failure, h.tables⟩ ⟨?_, ?_⟩ fun key cs => ⟨?_, ?_⟩
    · rintro ⟨r, hr, schema, name, e, hrel, he⟩
      exact .starred hr hrel he
    · rintro (⟨hr, hrel, he⟩ | _)
      exact ⟨_, hr, _, _, _, hrel, he⟩
    · rintro ⟨r, hr, schema, name, hrel, rfl, hcs⟩
      exact .starred hr hrel hcs
    · rintro (_ | _ | ⟨hr, hrel, hcs⟩)
      exact ⟨_, hr, _, _, hrel, rfl, hcs⟩
  | source x sc =>
    refine (becomes_record (sc.relation x) [] st nofun).congr Iff.rfl fun key cs => ⟨?_, ?_⟩
    · rintro ⟨hk, rfl⟩
      exact .source hk
    · rintro (_ | _ | _ | hk)
      exact ⟨hk, rfl⟩
  | value role x sc =>
    cases x with
    | column qualifier name => exact becomes_column role qualifier name st
    | _ => exact .gains rfl rfl nofun (.refl nofun)

variable (resolver) in
/-- What a run makes of the state: it fails if some report refuses, and else every report gives its
columns. -/
lemma becomes_run (es : List Event) (st : SchemaState) :
    Becomes (es.foldl Event.openAliases st.aliases)
      (∃ r ∈ annotated st.aliases es, Refuses resolver r.1 r.2)
      (fun key cs => ∃ r ∈ annotated st.aliases es, Records resolver r.1 r.2 key cs) st
      (es.foldl (step resolver) st) := by
  induction es generalizing st with
  | nil => exact .gains rfl rfl (by simp [annotated]) (.refl (by simp [annotated]))
  | cons e es ih =>
    have hstep := becomes_step resolver e st
    have hrest := ih (step resolver st e)
    rw [hstep.aliases] at hrest
    refine (hstep.trans hrest).congr ?_ fun key cs => ?_ <;> simp [annotated]

end Report
end SqlLoom
