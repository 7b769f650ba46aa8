import SqlLoom.Proofs.Layout.Agreement

/-! Parameters of a statement that has been written out: what is reported of the statement is what
is registered while it is written. -/
namespace SqlLoom.Statement

lemma agrees_trace (s : Statement) :
    Layout.Agrees s.trace.reverse (Layout.marks (Layout.statement 0 .whole s)) := by
  rw [Tour.trace_reverse]
  exact (Layout.written_statement 0 .whole [] s).agrees

/-- Every placeholder that is written has been reported. -/
lemma occurrences_subset_parameters (s : Statement) :
    Layout.occurrences (Layout.statement 0 .whole s) ⊆ Report.parameters s := by
  have h := (Layout.written_statement 0 .whole [] s).covered
  rw [Layout.Covered, Layout.occurrences_marks] at h
  rw [Report.parameters, Tour.trace_reverse]
  exact h

lemma format_eq_ok {s : Statement} {o : FormatOptions} {out : Rendered}
    (h : s.format o = .ok out) :
    Layout.clash? (Layout.statement 0 .whole s) = none ∧
      out = { sql := Layout.text o (Layout.statement 0 .whole s)
              params := Registry.reconciled o.preset
                (Layout.occurrences (Layout.statement 0 .whole s)) } := by
  simp only [format, Registry.finish_eq] at h
  cases hc : Layout.clash? (Layout.statement 0 .whole s) with
  | some t => simp [hc] at h
  | none =>
    rw [hc] at h
    cases hr : (Registry.ofOccurrences
        (Layout.occurrences (Layout.statement 0 .whole s))).conflict with
    | some e => simp [hr] at h
    | none =>
      simp only [hr, Except.ok.injEq] at h
      exact ⟨rfl, h.symm⟩

/-- Of a statement that can be written out, the names reported are those of the registry in the
order of their slots. So they are the names of named parameters and the order of numbered ones,
and every number written is the place of its name. What is registered is what is reported,
occurrence by occurrence, unless one set operation hoists two tables of one name. -/
theorem parameters_format (s : Statement) (o : FormatOptions) (out : Rendered)
    (hw : s.PlainWindows) (hf : s.format o = .ok out) :
    let ps := Layout.statement 0 .whole s
    let os := Layout.occurrences ps
    Report.parameterNames s = (Registry.ofOccurrences os).slots.map (·.name) ∧
    out.sql = String.join (ps.map (Layout.pieceText o fun name =>
      (Report.parameterNames s).idxOf name + 1)) ∧
    (∀ bindings, out.params = .named bindings →
      bindings.map (·.1) = Report.parameterNames s) ∧
    (o.preset.style = .dollar →
      out.params = .positional ((Report.parameterNames s).map (Registry.settled os))) ∧
    (s.DistinctHoists → Report.parameters s = os) := by
  intro ps os
  obtain ⟨hc, rfl⟩ := format_eq_ok hf
  obtain ⟨hn, ho⟩ := agrees_trace s (fun e he => hw e (List.mem_reverse.mp he))
    (by rwa [Layout.clash?_marks])
  rw [Layout.occurrences_marks] at hn ho
  have hnames : Report.parameterNames s = Registry.names os := hn
  refine ⟨?_, ?_, ?_, ?_, ?_⟩
  · rw [Registry.slotNames_ofOccurrences, hnames]
  · have ht := Registry.texts_ofOccurrences o [] ps
    rw [List.nil_append] at ht
    rw [hnames, ← ht]
    rfl
  · intro bindings hb
    rw [hnames]
    simp only [Registry.reconciled] at hb
    split at hb <;> cases hb <;> simp [os, ps, Function.comp_def]
  · intro hs
    simp only [Registry.reconciled, hs, hnames]
    rfl
  · exact fun hd => ho fun e he => hd e (List.mem_reverse.mp he)

/-- A hoisted table comes first, although the operand that declares it comes last. -/
theorem parameters_format_hoisted :
    let item (name : String) : List SelectItem := [{ value := .parameter name none }]
    let table : CommonTable := { name := "c", body := .select { items := item "b" } }
    let s : Statement := .setOp
      { left := .select { items := item "a" }
        op := .union
        right := .select
          { withClause := some { tables := [table] }
            items := item "a"
            froms := [.table none "c" none] } }
    s.PlainWindows ∧ s.DistinctHoists ∧ ∃ out, s.format { preset := .postgres } = .ok out ∧
      out.params = .positional [.null, .null] ∧ Report.parameterNames s = ["b", "a"] ∧
      Report.parameters s = [⟨"b", none⟩, ⟨"a", none⟩, ⟨"a", none⟩] := by
  intro item table s
  have events : ∀ e ∈ Tour.statement false s [], e.PlainWindow ∧ e.DistinctHoists := by
    simp [s, item, table, Tour.statement, Tour.operandWiths, Tour.withClause, Tour.tables,
      Tour.inside, Tour.items, Tour.expr, Tour.sources, Tour.source, Tour.joins, Tour.option,
      Tour.exprs, Tour.order, Tour.leaves, Walk.operandScopes, Walk.withScopes,
      Statement.operandWiths, Event.PlainWindow, Event.DistinctHoists]
  have hw : s.PlainWindows := fun e he => (events e (Tour.mem_trace.mp he)).1
  have hd : s.DistinctHoists := fun e he => (events e (Tour.mem_trace.mp he)).2
  have hm : Layout.marks (Layout.statement 0 .whole s) =
      [.slot ⟨"b", none⟩, .slot ⟨"a", none⟩, .slot ⟨"a", none⟩] := by
    simp [s, item, table, Layout.statement, Layout.operandWiths, Layout.hoistedWith, Layout.tables,
      Hoisted.ofTables, Hoisted.add, Layout.items, Layout.expr, Layout.sources, Layout.source,
      Layout.joins, Layout.clause, Layout.exprs, Layout.order, Layout.withClause]
  have hos : Layout.occurrences (Layout.statement 0 .whole s) =
      [⟨"b", none⟩, ⟨"a", none⟩, ⟨"a", none⟩] := by
    rw [← Layout.occurrences_marks, hm]
    rfl
  have hc : Layout.clash? (Layout.statement 0 .whole s) = none := by
    rw [← Layout.clash?_marks, hm]
    rfl
  have hf : s.format { preset := .postgres } = .ok
      { sql := Layout.text { preset := .postgres } (Layout.statement 0 .whole s)
        params := .positional [.null, .null] } := by
    simp only [format, hc, hos]
    rfl
  obtain ⟨hn, -, -, -, ho⟩ := parameters_format s { preset := .postgres } _ hw hf
  simp only [hos] at hn ho
  exact ⟨hw, hd, _, hf, rfl, hn, ho hd⟩

end SqlLoom.Statement
