import SqlLoom.Proofs.Report.Records
import SqlLoom.Proofs.Walk.Parts

/-! The columns in the report of schemas are those that some report of the walk gives to the table.
The columns of an INSERT are among them; the columns of a USING clause and of RETURNING are only
where something gives them. -/
namespace SqlLoom

namespace Tour

lemma value_mem_expr (role : Role) (e : Expr) (sc : Scopes) : .value role e sc ∈ expr role e sc := by
  cases e <;> simp [expr]

lemma value_mem_items {x : SelectItem} {is : List SelectItem} (h : x ∈ is) (sc : Scopes) :
    .value .plain x.value sc ∈ items is sc := by
  induction is with
  | nil => exact absurd h List.not_mem_nil
  | cons i is ih =>
    obtain ⟨v, a⟩ := i
    rw [items]
    rcases List.mem_cons.mp h with rfl | h
    · exact List.mem_append_left _ (value_mem_expr .plain v sc)
    · exact List.mem_append_right _ (ih h)

/-- The columns of RETURNING are reported from where their INSERT stands. -/
lemma returning_mem_trace {s : Statement} {i : Insert} {sc : Scopes}
    (h : .statement (.insert i) sc ∈ s.trace) {x : SelectItem} (hx : x ∈ i.returning) :
    .value .plain x.value sc ∈ s.trace := by
  obtain ⟨asOperand, hT⟩ := followed_of_mem_trace h
  obtain ⟨table, columns, source, returning⟩ := i
  refine List.mem_reverse.mp (hT ?_)
  cases source <;> simp [statement, value_mem_items hx]

/-- The source of a join is reported from the frame of its query. -/
lemma joined_mem_trace {s : Statement} {sel : Select} {sc : Scopes} (h : .select sel sc ∈ s.trace)
    {j : Join} (hj : j ∈ sel.joins) : .source j.source sc ∈ s.trace := by
  obtain ⟨below, rfl⟩ := followed_of_mem_trace h
  exact source_mem_trace h List.suffix_rfl (List.mem_append_right _ (List.mem_map_of_mem hj))

end Tour

namespace Report

/-- The reports of a statement, each with the output aliases that are open before it. -/
def reports (s : Statement) : List (List (List String) × Event) := annotated [] s.trace.reverse

section
variable (resolver : Option ColumnResolver) (s : Statement)

/-- Some report gives the columns to the entry of the table. -/
def Given (key : String) (cs : List String) : Prop :=
  ∃ r ∈ reports s, Records resolver r.1 r.2 key cs

/-- Some report gives the column to the table. -/
def Names (key column : String) : Prop := ∃ cs, Given resolver s key cs ∧ column ∈ cs

end

lemma exists_annotated {e : Event} {es : List Event} (h : e ∈ es) (aliases : List (List String)) :
    ∃ as, (as, e) ∈ annotated aliases es := by
  induction es generalizing aliases with
  | nil => exact absurd h List.not_mem_nil
  | cons e' es ih =>
    rcases List.mem_cons.mp h with rfl | h
    · exact ⟨aliases, List.mem_cons_self⟩
    · obtain ⟨as, has⟩ := ih h (e'.openAliases aliases)
      exact ⟨as, List.mem_cons_of_mem _ has⟩

variable {resolver : Option ColumnResolver} {s : Statement}

lemma given_of_records {e : Event} (he : e ∈ s.trace) {key : String} {cs : List String}
    (h : ∀ aliases, Records resolver aliases e key cs) : Given resolver s key cs := by
  obtain ⟨aliases, hr⟩ := exists_annotated (List.mem_reverse.mpr he) []
  exact ⟨_, hr, h aliases⟩

/-- The collection fails if some report refuses, and else the entries hold what is given. -/
lemma schemas_cases (resolver : Option ColumnResolver) (s : Statement) :
    ((∃ e, schemas resolver s = .error e) ∧ ∃ r ∈ reports s, Refuses resolver r.1 r.2) ∨
    ∃ entries, schemas resolver s =
        .ok (entries.map fun (name, columns) => TableSchema.ofColumns name columns) ∧
      (∀ r ∈ reports s, ¬Refuses resolver r.1 r.2) ∧ Gains (Given resolver s) [] entries := by
  have hrun := becomes_run resolver s.trace.reverse {}
  simp only [schemas]
  cases hf : (s.trace.reverse.foldl (SchemaState.step resolver) {}).failure with
  | some e =>
    refine .inl ⟨⟨e, rfl⟩, ?_⟩
    by_contra hno
    exact Option.some_ne_none e (hf.symm.trans (hrun.failure.mpr ⟨rfl, hno⟩))
  | none =>
    refine .inr ⟨_, rfl, ?_, hrun.tables hf⟩
    exact fun r hr hrefuses => (hrun.failure.mp hf).2 ⟨r, hr, hrefuses⟩

/-- An entry holds the columns that are given to its table. -/
lemma mem_columns {entries : List (String × List String)}
    (h : Gains (Given resolver s) [] entries) {name : String} {columns : List String}
    (hm : (name, columns) ∈ entries) (c : String) : c ∈ columns ↔ Names resolver s name c := by
  rw [(h.sorted List.Pairwise.nil).mem_iff_holds hm, h.holds, or_iff_right (by simp [Holds])]
  rfl

/-- Where the collection succeeds, there is one entry for every table that is given columns, and it
holds the columns that are given and no others. The target of an INSERT has an entry with the
columns of its list; a column of its RETURNING is reported from where the INSERT stands, which gives
nothing if no query is around. The table of a join has an entry; a column of the USING clause is in
there exactly if some report gives it. -/
theorem columns_schemas (resolver : Option ColumnResolver) (s : Statement) {ts : List TableSchema}
    (h : schemas resolver s = .ok ts) :
    (ts.map (·.name)).Nodup ∧
    (∀ key, key ∈ ts.map (·.name) ↔ ∃ cs, Given resolver s key cs) ∧
    (∀ t ∈ ts, ∀ c, c ∈ t.columns ↔ Names resolver s t.name c) ∧
    (∀ i sc, .statement (.insert i) sc ∈ s.trace →
      ∃ t ∈ ts, t.name = tableKey i.table.schema i.table.name ∧ i.columns ⊆ t.columns ∧
        ∀ x ∈ i.returning, ∀ c, x.value = .column none c →
          .value .plain (.column none c) sc ∈ s.trace ∧
          (sc.currentSources = [] → ∀ aliases key cs,
            ¬Records resolver aliases (.value .plain (.column none c) sc) key cs) ∧
          (c ∈ t.columns ↔ Names resolver s t.name c)) ∧
    ∀ sel sc, .select sel sc ∈ s.trace → ∀ j ∈ sel.joins, ∀ cs,
      j.condition = some (.shared cs) → ∀ key, (sc.relation j.source).HasKey key →
        ∃ t ∈ ts, t.name = key ∧ ∀ c ∈ cs, (c ∈ t.columns ↔ Names resolver s key c) := by
  rcases schemas_cases resolver s with ⟨⟨e, he⟩, -⟩ | ⟨entries, hok, -, hgains⟩
  · exact absurd (h.symm.trans he) (by simp)
  obtain rfl := Except.ok.inj (h.symm.trans hok)
  have hname : (entries.map fun (name, columns) => TableSchema.ofColumns name columns).map
      (·.name) = entries.map (·.1) := by simp [TableSchema.ofColumns, Function.comp_def]
  have hsorted : Sorted entries := hgains.sorted List.Pairwise.nil
  have hkeys : ∀ key, key ∈ entries.map (·.1) ↔ ∃ cs, Given resolver s key cs :=
    fun key => (hgains.keys key).trans (or_iff_right List.not_mem_nil)
  have hcolumns : ∀ t ∈ entries.map fun (name, columns) => TableSchema.ofColumns name columns,
      ∀ c, c ∈ t.columns ↔ Names resolver s t.name c := by
    intro t ht c
    obtain ⟨⟨name, columns⟩, hm, rfl⟩ := List.mem_map.mp ht
    exact Text.mem_distinct.trans (mem_columns hgains hm c)
  have hentry : ∀ key cs, Given resolver s key cs →
      ∃ t ∈ entries.map fun (name, columns) => TableSchema.ofColumns name columns,
        t.name = key ∧ cs ⊆ t.columns := by
    intro key cs hgiven
    obtain ⟨⟨name, columns⟩, hm, rfl⟩ := List.mem_map.mp ((hkeys key).mpr ⟨cs, hgiven⟩)
    refine ⟨.ofColumns name columns, List.mem_map_of_mem hm, rfl, fun c hc => ?_⟩
    exact (hcolumns _ (List.mem_map_of_mem hm) c).mpr ⟨cs, hgiven, hc⟩
  rw [hname]
  refine ⟨hsorted.imp fun hlt => ne_of_lt hlt, hkeys, hcolumns, ?_, ?_⟩
  · intro i sc hi
    obtain ⟨t, ht, hkey, hsub⟩ := hentry _ _ (given_of_records hi fun _ => .inserted i sc)
    refine ⟨t, ht, hkey, hsub, fun x hx c hc => ⟨?_, ?_, hcolumns t ht c⟩⟩
    · exact hc ▸ Tour.returning_mem_trace hi hx
    · rintro hnil aliases _ _ (_ | _ | _ | _ | _ | ⟨_, howns, _⟩)
      simp [Owns, hnil] at howns
  · intro sel sc hsel j hj cs _ key hkey
    obtain ⟨t, ht, rfl, -⟩ := hentry key []
      (given_of_records (Tour.joined_mem_trace hsel hj) fun _ => .source hkey)
    exact ⟨t, ht, rfl, fun c _ => hcolumns t ht c⟩

/-- Neither the column of a USING clause nor that of RETURNING is in the entry of its table. -/
theorem columns_schemas_missing :
    let users : Source := .table none "users" (some "u")
    let orders : Source := .table none "orders" (some "o")
    let query : Select :=
      { items := [{ value := .column (some "u") "id" }]
        froms := [users]
        joins := [{ type := .inner, source := orders, condition := some (.shared ["user_id"]) }] }
    let s : Statement := .insert
      { table := ⟨none, "t"⟩
        columns := ["a"]
        source := .query (.select query)
        returning := [{ value := .column none "b" }] }
    schemas none s = .ok [⟨"orders", []⟩, ⟨"t", ["a"]⟩, ⟨"users", ["id"]⟩] ∧
      ¬Names none s "orders" "user_id" ∧ ¬Names none s "t" "b" := by
  intro users orders query s
  have hok : schemas none s = .ok [⟨"orders", []⟩, ⟨"t", ["a"]⟩, ⟨"users", ["id"]⟩] := by
    simp only [s, query, users, orders]
    rfl
  have hcolumns := (columns_schemas none s hok).2.2.1
  refine ⟨hok, ?_, ?_⟩
  · exact fun hnames => List.not_mem_nil ((hcolumns ⟨"orders", []⟩ (by simp) "user_id").mpr hnames)
  · intro hnames
    have hmem := (hcolumns ⟨"t", ["a"]⟩ (by simp) "b").mpr hnames
    exact absurd hmem (by decide)

end Report

end SqlLoom
