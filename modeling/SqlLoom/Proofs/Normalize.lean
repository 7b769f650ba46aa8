import SqlLoom.Normalize
import SqlLoom.Proofs.Layout.Depth
import SqlLoom.Proofs.Layout.Front

/-! A query and its normal form are written alike: the clause in front stays where it is, and the
rest becomes a derived table. Both fail for the same clash or conflict. -/
namespace SqlLoom

/-- One text is the other with all that follows the clause in front as a derived table. -/
def Rendered.Wrapped (lead name : String) (r wrapped : Rendered) : Prop :=
  wrapped.params = r.params ∧
    ∃ body, r.sql = lead ++ body ∧
      wrapped.sql = lead ++ "SELECT * FROM (" ++ body ++ ") AS " ++ name

namespace Statement

lemma statement_wrap (d : Nat) (q : Statement) (name : String) (columns : List String)
    (w : Option WithClause) :
    Layout.statement d .whole (.select (wrap q name columns w)) =
      Layout.front d w ++
        (.word "SELECT " :: .word "*" :: .gap d :: .word "FROM " :: .word "" :: .opening d ::
          Layout.deeper (Layout.statement d .whole q)) ++
        .closing d :: .word " AS " :: .name name :: Layout.columnList columns := by
  have hq : Layout.statement (d + 1) .whole q = Layout.deeper (Layout.statement d .whole q) :=
    Layout.statement_succ d .whole q
  have hlist : Layout.items d [{ value := .wildcard none }] = [[.word "*"]] := rfl
  have hfrom : Layout.sources d [.subquery q name columns false] =
      [.word "" :: Layout.nestedAt d (Layout.deeper (Layout.statement d .whole q)) ++
        .word " AS " :: .name name :: Layout.columnList columns] := by
    simp [Layout.sources, Layout.source, hq]
  have hnone : ∀ keyword, Layout.clause d keyword none = [] := fun _ => rfl
  simp only [wrap, Layout.statement, hlist, hfrom, hnone, List.cons_append, Layout.stacked_append]
  simp [Layout.joins, Layout.exprs, Layout.order, Layout.listed, Layout.stacked_cons,
    Layout.commaed, Layout.front, Layout.nestedAt]

/-- A derived table on one line, whose name holds no parameters. -/
lemma texts_derived (o : FormatOptions) (r : Registry) (ps : List Piece) {name : List Piece}
    (h : Layout.occurrences name = []) :
    String.join (Layout.texts { o with pretty := false } r
        ((.word "SELECT " :: .word "*" :: .gap 0 :: .word "FROM " :: .word "" :: .opening 0 ::
          Layout.deeper ps) ++ .closing 0 :: .word " AS " :: name)) =
      "SELECT * FROM (" ++ String.join (Layout.texts { o with pretty := false } r ps) ++ ") AS " ++
        Layout.text { o with pretty := false } name := by
  have hname := fun r' => Layout.texts_of_occurrences_eq_nil { o with pretty := false } r' {} h
  have hopen : "SELECT * FROM (" = "SELECT " ++ "*" ++ " " ++ "FROM " ++ "(" := rfl
  have hclose : ") AS " = ")" ++ " AS " := rfl
  simp only [Layout.texts_append, Layout.texts, Layout.pieceText, Layout.texts_deeper, hname]
  rw [hopen, hclose]
  simp [Layout.text, String.append_assoc, -String.reduceAppend]

lemma marks_wrap (d : Nat) (q : Statement) (name : String) (columns : List String)
    (w : Option WithClause) :
    Layout.marks (Layout.statement d .whole (.select (wrap q name columns w))) =
      Layout.marks (Layout.front d w ++ Layout.statement d .whole q) := by
  simp [statement_wrap]

/-- A query is written like the select that reads from it, up to the select around it. -/
lemma format_wrap (o : FormatOptions) (s q : Statement) (name : String) (columns : List String)
    (w : Option WithClause)
    (hs : Layout.statement 0 .whole s = Layout.front 0 w ++ Layout.statement 0 .whole q) :
    Alike
      (Rendered.Wrapped (Layout.lead { o with pretty := false } w)
        (Layout.text { o with pretty := false } (.name name :: Layout.columnList columns)))
      (s.format { o with pretty := false })
      ((Statement.select (wrap q name columns w)).format { o with pretty := false }) := by
  have hmarks : Layout.marks (Layout.statement 0 .whole s) =
      Layout.marks (Layout.statement 0 .whole (.select (wrap q name columns w))) := by
    rw [hs, marks_wrap]
  have hc := congrArg Layout.clash? hmarks
  have ho := congrArg Layout.occurrences hmarks
  rw [Layout.clash?_marks, Layout.clash?_marks] at hc
  rw [Layout.occurrences_marks, Layout.occurrences_marks] at ho
  refine (format_alike { o with pretty := false } { o with pretty := false } hc ho).imp ?_
  rintro _ _ ⟨rfl, rfl⟩
  refine ⟨rfl, String.join (Layout.texts { o with pretty := false }
    (Layout.registered {} (Layout.front 0 w)) (Layout.statement 0 .whole q)), ?_, ?_⟩
  · rw [hs, Layout.text_append, Layout.text_front]
  · have hname : Layout.occurrences (.name name :: Layout.columnList columns) = [] := by
      rw [← Layout.occurrences_marks]
      simp [Layout.occurrences]
    rw [statement_wrap, List.append_assoc, Layout.text_append, Layout.text_front,
      texts_derived o _ _ hname]
    simp only [String.append_assoc]

lemma normalize_setOp (b : SetOperation) :
    (Statement.setOp b).normalize = (WithClause.merge (Statement.setOp b).operandWiths).map
      (wrap (Statement.setOp b).clearOperandWiths "bq" []) := by
  rw [normalize]
  cases WithClause.merge (Statement.setOp b).operandWiths <;> rfl

/-- The first clash among the operands is what keeps a set operation from being written. -/
lemma format_of_clash (o : FormatOptions) {b : SetOperation} {name : String}
    (h : (Hoisted.ofTables id
      ((Statement.setOp b).operandWiths.flatMap (·.tables))).clashes.head? = some name) :
    (Statement.setOp b).format o = .error (.duplicateTable name) := by
  obtain ⟨names, hnames⟩ := List.head?_eq_some_iff.mp h
  simp [format, Layout.statement_setOp, Layout.clashing, hnames, Layout.clash?]

/-- Without a clash a set operation is the merged clause and what is written without clauses. -/
lemma statement_of_no_clash {b : SetOperation}
    (h : (Hoisted.ofTables id
      ((Statement.setOp b).operandWiths.flatMap (·.tables))).clashes.head? = none) :
    Layout.statement 0 .whole (.setOp b) =
      Layout.front 0 (WithClause.hoisted (Statement.setOp b).operandWiths) ++
        Layout.statement 0 .whole (Statement.setOp b).clearOperandWiths := by
  simp [Layout.statement_setOp, Layout.clashing, List.head?_eq_none_iff.mp h,
    Layout.statement_clearOperandWiths_whole]

/-- What a query is read as holds the parameters of the query. -/
lemma marks_normalize {s : Statement} {q : Select} (h : s.normalize = .ok q) :
    Layout.marks (Layout.statement 0 .whole (.select q)) =
      Layout.marks (Layout.statement 0 .whole s) := by
  cases s with
  | select s =>
    cases h
    rfl
  | setOp b =>
    rw [normalize_setOp, WithClause.merge_eq] at h
    cases hhead : (Hoisted.ofTables id
        ((Statement.setOp b).operandWiths.flatMap (·.tables))).clashes.head? with
    | some n => simp [hhead, Except.map] at h
    | none =>
      simp only [hhead, Except.map, Except.ok.injEq] at h
      rw [← h, marks_wrap, statement_of_no_clash hhead]
  | values v =>
    obtain ⟨rs, as⟩ := v
    simp only [normalize, Except.ok.injEq] at h
    rw [← h, marks_wrap]
    rfl
  | _ => simp [normalize] at h

/-- A set operation has a normal form unless two tables of its operands clash, and then it cannot
be written out either, for the same table. Else both are written alike: the merged clause stays in
front and the set operation becomes the derived table `bq`. A list of rows becomes the derived table
`vq`, with the columns that the list names or `column1`, `column2` and so on. -/
theorem format_normalize (o : FormatOptions) :
    let line := { o with pretty := false }
    (∀ b : SetOperation,
      let s := Statement.setOp b
      (∀ n, s.normalize = .error (.duplicateTable n) ↔
        CommonTable.FirstClash (s.operandWiths.flatMap (·.tables)) n) ∧
      ((∃ n, s.normalize = .error (.duplicateTable n) ∧
          s.format line = .error (.duplicateTable n)) ∨
        ∃ w q, WithClause.merge s.operandWiths = .ok w ∧ s.normalize = .ok q ∧
          Alike (Rendered.Wrapped (Layout.lead line w) (Layout.text line [.name "bq"]))
            (s.format line) ((Statement.select q).format line))) ∧
    ∀ v : ValuesList,
      let width := (v.rows.head?.map List.length).getD 0
      let columns := if v.aliases = [] then
          (List.range width).map fun i => "column" ++ toString (i + 1)
        else v.aliases
      ∃ q, (Statement.values v).normalize = .ok q ∧
        Alike (Rendered.Wrapped "" (Layout.text line (.name "vq" :: Layout.columnList columns)))
          ((Statement.values v).format line) ((Statement.select q).format line) := by
  intro line
  constructor
  · intro b s
    rw [show s.normalize = _ from normalize_setOp b, WithClause.merge_eq]
    simp only [← Hoisted.head?_clashes_iff]
    cases hhead : (Hoisted.ofTables id (s.operandWiths.flatMap (·.tables))).clashes.head? with
    | some n =>
      exact ⟨fun n' => by simp [Except.map], .inl ⟨n, rfl, format_of_clash line hhead⟩⟩
    | none =>
      refine ⟨fun n' => by simp [Except.map], .inr ⟨_, _, rfl, rfl, ?_⟩⟩
      exact format_wrap o s s.clearOperandWiths "bq" [] _ (statement_of_no_clash hhead)
  · intro v width columns
    have hcolumns : Outlook.valuesNames v = columns := by
      simp [Outlook.valuesNames, Outlook.positionalNames, columns, width]
    refine ⟨_, rfl, ?_⟩
    rw [hcolumns]
    obtain ⟨rs, as⟩ := v
    exact format_wrap o (.values ⟨rs, as⟩) (.values { rows := rs }) "vq" columns none rfl

end Statement

end SqlLoom
