import Mathlib.Data.List.Sort
import SqlLoom.Proofs.Report.Columns
import SqlLoom.Proofs.Report.Trimming

/-! What the unqualified names in the ORDER BY of a set operation add to the report of schemas. They
are read like columns of the query around the set operation: each goes to the one entry there that
it can belong to, or is refused where there are several. Without a query around they add nothing. -/
namespace SqlLoom

open Report SchemaState

namespace Omission

section
variable (resolver : Option ColumnResolver) (x : Omission)

/-- The one entry around that the name can belong to is the physical table of the key. -/
def GoesTo (key : String) : Prop :=
  ∃ r, Owns ⟨resolver, x.scopes⟩ x.name r ∧ r.relation.HasKey key

/-- There are several entries around, and not exactly one of them declares the name. -/
def Unclear : Prop :=
  1 < x.scopes.currentSources.length ∧
    ∀ r, x.scopes.currentSources.filter (declares ⟨resolver, x.scopes⟩ x.name) ≠ [r]

/-- The name reads nothing of what is around. -/
def Idle : Prop := ¬x.Unclear resolver ∧ ∀ key, ¬x.GoesTo resolver key

end

variable {resolver : Option ColumnResolver} {x : Omission}

lemma idle_of_currentSources_eq_nil (h : x.scopes.currentSources = []) : x.Idle resolver := by
  constructor
  · rintro ⟨hlen, _⟩
    simp [h] at hlen
  · rintro key ⟨r, howns, _⟩
    simp [Owns, h] at howns

lemma not_isAlias (aliases : List (List String)) : ¬IsAlias aliases .plain x.name :=
  fun h => Role.noConfusion h.1

lemma records_report (aliases : List (List String)) (key : String) (cs : List String) :
    Records resolver aliases x.report key cs ↔ x.GoesTo resolver key ∧ cs = [x.name] := by
  constructor
  · rintro (_ | _ | _ | _ | _ | ⟨_, howns, hk⟩)
    exact ⟨⟨_, howns, hk⟩, rfl⟩
  · rintro ⟨⟨r, howns, hk⟩, rfl⟩
    exact .bare (not_isAlias aliases) howns hk

lemma refuses_report (aliases : List (List String)) :
    Refuses resolver aliases x.report ↔ x.Unclear resolver := by
  constructor
  · rintro (_ | ⟨_, hlen, hf⟩)
    exact ⟨hlen, hf⟩
  · exact fun ⟨hlen, hf⟩ => .bare (not_isAlias aliases) hlen hf

/-- An idle name is passed over. -/
lemma Idle.step_eq (h : x.Idle resolver) (st : SchemaState) : step resolver st x.report = st := by
  have hplain : step resolver st x.report = bareColumn ⟨resolver, x.scopes⟩ x.name st := rfl
  rw [hplain]
  rcases bareColumn_cases ⟨resolver, x.scopes⟩ x.name st with
    ⟨_, heq⟩ | ⟨r, howns, heq⟩ | ⟨hlen, hf, _⟩
  · exact heq
  · rw [heq]
    cases hr : r.relation with
    | physical schema name => exact absurd ⟨r, howns, schema, name, hr, rfl⟩ (h.2 _)
    | _ => rfl
  · exact absurd ⟨hlen, hf⟩ h.1

end Omission

namespace Thinned

variable {es es' : List Event} {xs : List Omission}

lemma report_mem (h : Thinned es es' xs) {x : Omission} (hx : x ∈ xs) : x.report ∈ es := by
  induction h with
  | nil => exact absurd hx List.not_mem_nil
  | keep _ _ ih => exact List.mem_cons_of_mem _ (ih hx)
  | drop y _ ih =>
    rcases List.mem_cons.mp hx with rfl | hx
    · exact List.mem_cons_self
    · exact List.mem_cons_of_mem _ (ih hx)

lemma exists_source (h : Thinned es es' xs) {y : Source} {sc : Scopes}
    (hy : .source y sc ∈ es) :
    ∃ y' sc', .source y' sc' ∈ es' ∧ Source.Trims y y' ∧ Scopes.Trims sc sc' := by
  induction h with
  | nil => exact absurd hy List.not_mem_nil
  | keep he _ ih =>
    rcases List.mem_cons.mp hy with rfl | hy
    · cases he with
      | source hs hsc => exact ⟨_, _, List.mem_cons_self, hs, hsc⟩
    · obtain ⟨y', sc', hmem, htrims⟩ := ih hy
      exact ⟨y', sc', List.mem_cons_of_mem _ hmem, htrims⟩
  | drop x _ ih =>
    rcases List.mem_cons.mp hy with hy | hy
    · cases hy
    · exact ih hy

end Thinned

namespace Report

/-- Besides what the second state holds, the first holds what the omissions give; it has failed if
one of them is unclear. -/
structure Exceeds (resolver : Option ColumnResolver) (xs : List Omission) (st st' : SchemaState) :
    Prop where
  aliases : st.aliases = st'.aliases
  failure : st.failure = none ↔ st'.failure = none ∧ ∀ x ∈ xs, ¬x.Unclear resolver
  keys : st.failure = none → ∀ key, key ∈ st.tables.map (·.1) ↔
    key ∈ st'.tables.map (·.1) ∨ ∃ x ∈ xs, x.GoesTo resolver key
  holds : st.failure = none → ∀ key c, Holds st.tables key c ↔
    Holds st'.tables key c ∨ ∃ x ∈ xs, x.name = c ∧ x.GoesTo resolver key

namespace Exceeds

variable {resolver : Option ColumnResolver} {xs ys : List Omission} {st st' : SchemaState}

lemma refl (resolver : Option ColumnResolver) (st : SchemaState) : Exceeds resolver [] st st := by
  constructor <;> simp

lemma keep (h : Exceeds resolver xs st st') {e e' : Event} (he : Event.Trims e e') :
    Exceeds resolver xs (step resolver st e) (step resolver st' e') := by
  -- The trimmed report is what the whole one is, so both states take the same step.
  have hst := becomes_step resolver e st
  have hst' := becomes_step resolver e st'
  rw [h.aliases] at hst
  rw [← step_trims he st']
  have hfailure : (step resolver st e).failure = none ↔
      (step resolver st' e).failure = none ∧ ∀ x ∈ xs, ¬x.Unclear resolver := by
    rw [hst.failure, hst'.failure, h.failure, and_right_comm]
  refine ⟨hst.aliases.trans hst'.aliases.symm, hfailure, fun hn key => ?_, fun hn key c => ?_⟩
  · rw [(hst.tables hn).keys, (hst'.tables (hfailure.mp hn).1).keys,
      h.keys (hst.failure.mp hn).1, or_right_comm]
  · rw [(hst.tables hn).holds, (hst'.tables (hfailure.mp hn).1).holds,
      h.holds (hst.failure.mp hn).1, or_right_comm]

lemma drop (h : Exceeds resolver xs st st') (x : Omission) :
    Exceeds resolver (xs ++ [x]) (step resolver st x.report) st' := by
  have hst := becomes_step resolver x.report st
  have hfailure := hst.failure
  rw [Omission.refuses_report, h.failure] at hfailure
  refine ⟨hst.aliases.trans h.aliases, ?_, fun hn key => ?_, fun hn key c => ?_⟩
  · rw [hfailure]
    simp [and_assoc, or_imp, forall_and]
  · rw [(hst.tables hn).keys, h.keys (hst.failure.mp hn).1]
    simp [Omission.records_report, or_assoc, or_and_right, exists_or]
  · rw [(hst.tables hn).holds, h.holds (hst.failure.mp hn).1]
    simp [Omission.records_report, or_assoc, or_and_right, exists_or, and_comm, eq_comm]

/-- Runs over a walk and over the same walk without omissions. -/
lemma run {es es' : List Event} (h : Thinned es es' ys) (hst : Exceeds resolver xs st st') :
    Exceeds resolver (xs ++ ys) (es.foldl (step resolver) st) (es'.foldl (step resolver) st') := by
  induction h generalizing xs st st' with
  | nil => simpa using hst
  | keep he _ ih => exact ih (hst.keep he)
  | drop x _ ih => simpa using ih (hst.drop x)

end Exceeds

lemma foldl_eq_of_idle {resolver : Option ColumnResolver} {es es' : List Event}
    {xs : List Omission} (h : Thinned es es' xs) (hidle : ∀ x ∈ xs, x.Idle resolver)
    (st : SchemaState) : es.foldl (step resolver) st = es'.foldl (step resolver) st := by
  induction h generalizing st with
  | nil => rfl
  | keep he _ ih =>
    rw [List.foldl_cons, List.foldl_cons, step_trims he]
    exact ih hidle _
  | drop x _ ih =>
    rw [List.foldl_cons, (hidle x List.mem_cons_self).step_eq]
    exact ih (fun y hy => hidle y (List.mem_cons_of_mem _ hy)) st

/-- What has been collected at the end of the walk. -/
def collected (resolver : Option ColumnResolver) (s : Statement) : SchemaState :=
  s.trace.reverse.foldl (step resolver) {}

section
variable {resolver : Option ColumnResolver} {s s' : Statement}

lemma schemas_eq_ok_iff {ts : List TableSchema} : schemas resolver s = .ok ts ↔
    (collected resolver s).failure = none ∧ (collected resolver s).tables.map
      (fun (name, columns) => TableSchema.ofColumns name columns) = ts := by
  simp only [schemas, collected]
  cases (s.trace.reverse.foldl (step resolver) {}).failure <;> simp

lemma exists_schemas_iff :
    (∃ ts, schemas resolver s = .ok ts) ↔ (collected resolver s).failure = none := by
  simp only [schemas_eq_ok_iff, exists_and_left, exists_eq', and_true]

lemma gains_collected (h : (collected resolver s).failure = none) :
    Gains (Given resolver s) [] (collected resolver s).tables :=
  (becomes_run resolver s.trace.reverse {}).tables h

/-- The tables behind FROM entries have their keys in what has been collected. -/
lemma mem_keys_collected (h : (collected resolver s).failure = none) {y : Source} {sc : Scopes}
    (hy : .source y sc ∈ s.trace) {key : String} (hk : (sc.relation y).HasKey key) :
    key ∈ (collected resolver s).tables.map (·.1) :=
  ((gains_collected h).keys key).mpr (.inr ⟨[], given_of_records hy fun _ => .source hk⟩)

lemma exceeds_collected {xs : List Omission} (h : Thinned s.trace.reverse s'.trace.reverse xs) :
    Exceeds resolver xs (collected resolver s) (collected resolver s') :=
  .run h (.refl resolver {})

/-- The table that an omission goes to is behind a FROM entry, and this entry is not left out. -/
lemma mem_keys_of_goesTo {xs : List Omission} (h : Thinned s.trace.reverse s'.trace.reverse xs)
    (hf : (collected resolver s').failure = none) {x : Omission} (hx : x ∈ xs) {key : String}
    (hk : x.GoesTo resolver key) : key ∈ (collected resolver s').tables.map (·.1) := by
  obtain ⟨r, howns, hkey⟩ := hk
  have hreport : x.report ∈ s.trace := List.mem_reverse.mp (h.report_mem hx)
  obtain ⟨sc, hsource, hrel⟩ :=
    Tour.source_mem_trace_of_lists hreport (Scopes.lists_of_mem_currentSources howns.mem)
  obtain ⟨y', sc', hsource', hs, hsc⟩ := h.exists_source (List.mem_reverse.mpr hsource)
  exact mem_keys_collected hf (List.mem_reverse.mp hsource')
    ((hsc.relation hs).hasKey (hrel ▸ hkey))

/-- The same tables have been collected. -/
lemma keys_collected {xs : List Omission} (h : Thinned s.trace.reverse s'.trace.reverse xs)
    (hf : (collected resolver s).failure = none) :
    (collected resolver s).tables.map (·.1) = (collected resolver s').tables.map (·.1) := by
  have hex : Exceeds resolver xs (collected resolver s) (collected resolver s') :=
    exceeds_collected h
  have hf' := (hex.failure.mp hf).1
  refine List.Pairwise.eq_of_mem_iff ((gains_collected hf).sorted .nil)
    ((gains_collected hf').sorted .nil) fun key => ?_
  rw [hex.keys hf, or_iff_left_iff_imp]
  rintro ⟨x, hx, hk⟩
  exact mem_keys_of_goesTo h hf' hx hk

end

/-- Leaving out names of ORDER BYs of set operations takes from the report of schemas just what
those names add. Each is an entry of a set operation of the statement and is read from the entries
of the query around it: if one of several entries there is not clearly meant, the collection fails
by it; if a physical table is meant, the table has the column of that name; and if none of the names
does either, as where no query is around, the report is the same. -/
theorem schemas_trims {s s' : Statement} (h : s.Trims s') :
    ∃ xs, Thinned s.trace.reverse s'.trace.reverse xs ∧ (∀ x ∈ xs, x.In s.trace) ∧
      ∀ resolver,
        (∀ x ∈ xs, x.scopes.currentSources = [] → x.Idle resolver) ∧
        ((∀ x ∈ xs, x.Idle resolver) → schemas resolver s = schemas resolver s') ∧
        ((∃ ts, schemas resolver s = .ok ts) ↔
          (∃ ts, schemas resolver s' = .ok ts) ∧ ∀ x ∈ xs, ¬x.Unclear resolver) ∧
        ∀ ts ts', schemas resolver s = .ok ts → schemas resolver s' = .ok ts' →
          List.Forall₂ (fun t t' => t.name = t'.name ∧ ∀ c, c ∈ t.columns ↔
            c ∈ t'.columns ∨ ∃ x ∈ xs, x.name = c ∧ x.GoesTo resolver t.name) ts ts' := by
  obtain ⟨xs, hthin, hin⟩ := h.thinned
  refine ⟨xs, hthin, hin, fun resolver => ⟨?_, ?_, ?_, ?_⟩⟩
  · exact fun x _ hnil => Omission.idle_of_currentSources_eq_nil hnil
  · intro hidle
    simp only [schemas, foldl_eq_of_idle hthin hidle]
  · rw [exists_schemas_iff, exists_schemas_iff]
    exact (exceeds_collected hthin).failure
  · intro ts ts' hts hts'
    obtain ⟨hf, rfl⟩ := schemas_eq_ok_iff.mp hts
    obtain ⟨hf', rfl⟩ := schemas_eq_ok_iff.mp hts'
    -- The entries stand in the order of their keys, so the same keys stand at the same places.
    have hsame : List.Forall₂ (fun e e' => e.1 = e'.1) (collected resolver s).tables
        (collected resolver s').tables :=
      List.forall₂_map_right_iff.mp <| List.forall₂_map_left_iff.mp <|
        List.forall₂_eq_eq_eq ▸ keys_collected hthin hf
    rw [List.forall₂_map_left_iff, List.forall₂_map_right_iff]
    refine List.forall₂_iff_zip.mpr ⟨hsame.length_eq, fun {e e'} hzip => ?_⟩
    obtain ⟨hmem, hmem'⟩ := List.of_mem_zip hzip
    have hname : e.1 = e'.1 := List.forall₂_zip hsame hzip
    obtain ⟨name, columns⟩ := e
    obtain ⟨_, columns'⟩ := e'
    obtain rfl := hname
    refine ⟨rfl, fun c => ?_⟩
    simp only [TableSchema.ofColumns, Text.mem_distinct]
    rw [((gains_collected hf).sorted .nil).mem_iff_holds hmem,
      ((gains_collected hf').sorted .nil).mem_iff_holds hmem']
    exact (exceeds_collected hthin).holds hf name c

/-- A name that orders a union inside a condition gives its column to the table of the outer
query. -/
theorem schemas_trims_condition :
    let pick (table : String) : Statement := .select
      { items := [{ value := .column (some table) "a" }], froms := [.table none table none] }
    let union : SetOperation :=
      { left := pick "t"
        op := .union
        right := pick "s"
        orderBy := [{ value := .column none "a" }] }
    let query (b : SetOperation) : Statement := .select
      { items := [{ value := .column (some "u") "id" }]
        froms := [.table none "users" (some "u")]
        filter := some (.inSubquery (.column (some "u") "id") (.setOp b) false) }
    let s := query union
    let s' := query { union with orderBy := [] }
    s.Trims s' ∧
      schemas none s = .ok [⟨"s", ["a"]⟩, ⟨"t", ["a"]⟩, ⟨"users", ["a", "id"]⟩] ∧
      schemas none s' = .ok [⟨"s", ["a"]⟩, ⟨"t", ["a"]⟩, ⟨"users", ["id"]⟩] ∧
      ∃ x : Omission, x.In s.trace ∧ x.name = "a" ∧ x.GoesTo none "users" := by
  intro pick union query s s'
  have htrims : s.Trims s' :=
    .select .none (Trimming.refl_items _) (Trimming.refl_sources _) .nil
      (.some (.inSubquery (.column _ _)
        (Trimming.trims_orderBy union (.drop "a" none none .nil))))
      .nil .none .nil .none .none
  have hs : schemas none s = .ok [⟨"s", ["a"]⟩, ⟨"t", ["a"]⟩, ⟨"users", ["a", "id"]⟩] := by
    simp only [s, query, union, pick]
    rfl
  have hs' : schemas none s' = .ok [⟨"s", ["a"]⟩, ⟨"t", ["a"]⟩, ⟨"users", ["id"]⟩] := by
    simp only [s', query, union, pick]
    rfl
  refine ⟨htrims, hs, hs', ?_⟩
  obtain ⟨xs, -, hin, hxs⟩ := schemas_trims htrims
  have hentries := (hxs none).2.2.2 _ _ hs hs'
  simp only [List.forall₂_cons] at hentries
  obtain ⟨-, -, ⟨-, husers⟩, -⟩ := hentries
  rcases (husers "a").mp (by simp) with hmem | ⟨x, hx, hname, hgoes⟩
  · exact absurd hmem (by decide)
  · exact ⟨x, hin x hx, hname, hgoes⟩

end Report

end SqlLoom
