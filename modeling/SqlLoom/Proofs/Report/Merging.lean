import SqlLoom.Proofs.Normalize
import SqlLoom.Proofs.Scope
import SqlLoom.Proofs.Statement.Equality
import SqlLoom.Report.Tables

/-! What a set operation reads, and what its normal form reads. The tables of the merged clause see
the same names as before, unless one of the clauses is recursive: then every table sees all names,
and a physical table that a body has read can be hidden by a table of another clause or by the
table itself. -/
namespace SqlLoom

namespace Report

/-- The schema and the name of the table that an entry reads. -/
def pair (e : Event) : Option (Option String × String) :=
  (physicalReference e).map fun t => (t.schema, t.name)

/-- The tables that a statement reads, without aliases. -/
def pairs (s : Statement) : List (Option String × String) :=
  (tables false s).map fun t => (t.schema, t.name)

lemma mem_pairs {s : Statement} {p : Option String × String} :
    p ∈ pairs s ↔ ∃ x sc, .source x sc ∈ Tour.statement false s [] ∧
      pair (.source x sc) = some p := by
  simp only [pairs, tables, Bool.false_eq_true, if_false, List.mem_map, Text.mem_distinct,
    List.mem_filterMap, Tour.trace_reverse]
  constructor
  · rintro ⟨t, ⟨e, he, ht⟩, rfl⟩
    cases e with
    | source x sc => exact ⟨x, sc, he, by simp [pair, ht]⟩
    | _ => simp [physicalReference] at ht
  · rintro ⟨x, sc, he, hp⟩
    obtain ⟨t, ht, rfl⟩ := Option.map_eq_some_iff.mp hp
    exact ⟨t, ⟨_, he, ht⟩, rfl⟩

end Report

namespace Scopes.Like

variable {V : String → Option Scalar → Option Scalar → Prop} {base base' sc sc' : Scopes}

/-- The frames pushed since show tables of the same names. -/
lemma visible (h : Scopes.Like V base base' sc sc') :
    ∃ ts ts', sc.visible = ts ++ base.visible ∧ sc'.visible = ts' ++ base'.visible ∧
      ts.map (·.name) = ts'.map (·.name) := by
  induction h with
  | base => exact ⟨[], [], rfl, rfl, rfl⟩
  | frame hf _ ih =>
    obtain ⟨ts, ts', hv, hv', hn⟩ := ih
    cases hf with
    | @tables all all' count hall =>
      have hnames : all.map (·.name) = all'.map (·.name) := by
        have hname : ∀ t t', CommonTable.Like V t t' → t.name = t'.name := by
          rintro _ _ ⟨_⟩
          rfl
        rw [← List.forall₂_eq_eq_eq]
        exact List.rel_map hname hall
      refine ⟨all.take count ++ ts, all'.take count ++ ts', by simp [hv], by simp [hv'], ?_⟩
      rw [List.map_append, List.map_append, List.map_take, List.map_take, hnames, hn]
    | _ => exact ⟨ts, ts', by simpa using hv, by simpa using hv', hn⟩

lemma base_eq_none {name : String} (h : Scopes.Like V base base' sc sc')
    (hn : sc.resolveTable name = none) : base.resolveTable name = none := by
  obtain ⟨ts, -, hv, -⟩ := h.visible
  rw [resolveTable_eq_none, hv] at hn
  exact resolveTable_eq_none.mpr fun t ht => hn t (List.mem_append_right _ ht)

/-- A name that means no common table on one side means none on the other, if the same holds of
the places where the walks began. -/
lemma resolve_eq_none {name : String} (h : Scopes.Like V base base' sc sc')
    (hbase : base'.resolveTable name = none) (hn : sc.resolveTable name = none) :
    sc'.resolveTable name = none := by
  obtain ⟨ts, ts', hv, hv', hnames⟩ := h.visible
  rw [resolveTable_eq_none, hv] at hn
  rw [resolveTable_eq_none, hv']
  intro t ht
  rcases List.mem_append.mp ht with ht | ht
  · have hmem : t.name ∈ ts.map (·.name) := hnames ▸ List.mem_map_of_mem ht
    obtain ⟨u, hu, hname⟩ := List.mem_map.mp hmem
    rw [← hname]
    exact hn u (List.mem_append_left _ hu)
  · exact resolveTable_eq_none.mp hbase t ht

end Scopes.Like

namespace Report

variable {V : String → Option Scalar → Option Scalar → Prop} {base base' : Scopes}

/-- Like entries read the same, if the names without schemas stay physical. -/
lemma pair_of_like {x x' : Source} {sc sc' : Scopes} {p : Option String × String}
    (hx : Source.Like V x x')
    (hn : ∀ name a, x = .table none name a → sc.resolveTable name = none →
      sc'.resolveTable name = none) (hp : pair (.source x sc) = some p) :
    pair (.source x' sc') = some p := by
  cases hx with
  | table schema name a =>
    cases schema with
    | some schema => exact hp
    | none =>
      cases hr : sc.resolveTable name with
      | some t => simp [pair, physicalReference, Scopes.relation, hr] at hp
      | none =>
        have hr' := hn name a rfl hr
        simpa [pair, physicalReference, Scopes.relation, hr, hr'] using hp
  | subquery _ => simp [pair, physicalReference, Scopes.relation] at hp
  | function _ => exact hp

lemma resolve_eq_none_of_pair {name : String} {a : Option String} {sc : Scopes}
    {p : Option String × String} (hp : pair (.source (.table none name a) sc) = some p) :
    sc.resolveTable name = none := by
  cases hr : sc.resolveTable name with
  | some t => simp [pair, physicalReference, Scopes.relation, hr] at hp
  | none => rfl

/-- What one of two like walks reads, the other reads too, unless it is a name without a schema
that means a common table where the other walk began. -/
lemma Alongside.exists_pair {es es' : List Event} (h : Alongside V base base' es es')
    {x : Source} {sc : Scopes} {p : Option String × String} (hx : .source x sc ∈ es)
    (hp : pair (.source x sc) = some p)
    (hbase : ∀ name a, x = .table none name a → base.resolveTable name = none →
      base'.resolveTable name = none) :
    ∃ x' sc', .source x' sc' ∈ es' ∧ pair (.source x' sc') = some p ∧
      ∀ name a, x' = .table none name a → base.resolveTable name = none := by
  obtain ⟨e, he, hlike⟩ := exists_left_of_forall₂ h.flip hx
  cases hlike with
  | @source _ x' _ sc' hxx hsc =>
    refine ⟨x', sc', he, pair_of_like hxx (fun name a hname hr => ?_) hp, ?_⟩
    · exact hsc.resolve_eq_none (hbase name a hname (hsc.base_eq_none hr)) hr
    · rintro name a rfl
      cases hxx
      exact hsc.base_eq_none (resolve_eq_none_of_pair hp)

end Report

namespace Tour

variable {x : Source} {inner : Scopes}

/-- Every entry in the tables of a clause stands in the body of one of them. -/
lemma source_mem_tables {frame : Nat → Frame} {total : Option Nat} {index : Nat}
    {ts : List CommonTable} {sc : Scopes} :
    .source x inner ∈ tables frame total index ts sc ↔ ∃ i t, ts[i]? = some t ∧
      .source x inner ∈ statement false t.body
        (.body t.name :: frame (total.getD (index + i)) :: sc) := by
  induction ts generalizing index with
  | nil => simp [tables]
  | cons t ts ih =>
    obtain ⟨n, cs, b⟩ := t
    simp only [tables, inside, List.mem_append, List.mem_cons, reduceCtorEq, false_or,
      List.not_mem_nil, or_false, ih]
    constructor
    · rintro (h | ⟨i, t, ht, h⟩)
      · exact ⟨0, _, rfl, h⟩
      · exact ⟨i + 1, t, ht, by rwa [show index + (i + 1) = index + 1 + i by omega]⟩
    · rintro ⟨i, t, ht, h⟩
      cases i with
      | zero =>
        cases ht
        exact .inl h
      | succ i => exact .inr ⟨i, t, ht, by rwa [show index + 1 + i = index + (i + 1) by omega]⟩

lemma source_mem_withClause {w : WithClause} {sc : Scopes} :
    .source x inner ∈ withClause (some w) sc ↔ ∃ i t, w.tables[i]? = some t ∧
      .source x inner ∈ statement false t.body (.body t.name :: w.during i :: sc) := by
  have hhere : ∀ i, Frame.tables w.tables
      ((if w.recursive then some w.tables.length else none).getD (0 + i)) = w.during i := by
    intro i
    cases h : w.recursive <;> simp [WithClause.during, h]
  obtain ⟨r, ts⟩ := w
  simp only [withClause, List.mem_cons, reduceCtorEq, false_or, source_mem_tables, hhere]

/-- Clauses that are entered one inside the other. -/
def clauses : List WithClause → Scopes → List Event
  | [], _ => []
  | w :: ws, sc => withClause (some w) sc ++ clauses ws (w.after :: sc)

lemma clauses_append (ws ws' : List WithClause) (sc : Scopes) :
    clauses (ws ++ ws') sc = clauses ws sc ++ clauses ws' (Scopes.within ws sc) := by
  induction ws generalizing sc with
  | nil => rfl
  | cons w ws ih =>
    rw [List.cons_append, clauses, clauses, ih, List.append_assoc]
    rfl

lemma operandWiths_eq : (s : Statement) → (sc : Scopes) →
    operandWiths s sc = clauses s.operandWiths sc
  | .select ⟨none, _, _, _, _, _, _, _, _, _, _⟩, _ => rfl
  | .select ⟨some w, _, _, _, _, _, _, _, _, _, _⟩, _ => (List.append_nil _).symm
  | .setOp ⟨l, _, _, r, _, _, _⟩, sc => by
    rw [operandWiths, operandWiths_eq l, operandWiths_eq r, Statement.operandWiths, clauses_append]
    rfl
  | .values _, _ => rfl
  | .insert _, _ => rfl
  | .createTable _, _ => rfl
  | .update _, _ => rfl
  | .delete _, _ => rfl

/-- Every entry in clauses stands in the body of a table of one of them, with the clauses before
around it. -/
lemma source_mem_clauses {ws : List WithClause} {sc : Scopes} :
    .source x inner ∈ clauses ws sc ↔ ∃ (before : List WithClause) (w : WithClause)
      (after : List WithClause) (i : Nat) (t : CommonTable), ws = before ++ w :: after ∧
      w.tables[i]? = some t ∧ .source x inner ∈ statement false t.body
        (.body t.name :: w.during i :: Scopes.within before sc) := by
  induction ws generalizing sc with
  | nil => simp [clauses]
  | cons w ws ih =>
    rw [clauses, List.mem_append, source_mem_withClause, ih]
    constructor
    · rintro (⟨i, t, ht, h⟩ | ⟨before, v, after, i, t, rfl, ht, h⟩)
      · exact ⟨[], w, ws, i, t, rfl, ht, h⟩
      · exact ⟨w :: before, v, after, i, t, rfl, ht, h⟩
    · rintro ⟨before, v, after, i, t, hws, ht, h⟩
      cases before with
      | nil =>
        cases hws
        exact .inl ⟨i, t, ht, h⟩
      | cons u before =>
        cases hws
        exact .inr ⟨before, v, after, i, t, rfl, ht, h⟩

/-- The operands of a set operation and what follows them. -/
def operands (b : SetOperation) (sc : Scopes) : List Event :=
  statement true b.left sc ++ statement true b.right sc ++ order .plain b.orderBy sc ++
    option b.limit sc ++ option b.offset sc

lemma entries_setOp (b : SetOperation) (sc : Scopes) :
    entries (statement false (.setOp b) sc) =
      entries (clauses (Statement.setOp b).operandWiths sc) ++
        entries (operands b (Scopes.within (Statement.setOp b).operandWiths sc)) := by
  have hsc : Walk.operandScopes b.right (Walk.operandScopes b.left sc) =
      Scopes.within (Statement.setOp b).operandWiths sc :=
    (Walk.operandScopes_setOp b sc).symm
  obtain ⟨l, op, a, r, o, m, k⟩ := b
  rw [← operandWiths_eq, ← hsc]
  simp [statement, operandWiths, operands, Event.entry?]

/-- In an operand the clause in front of a select is not walked again. -/
lemma entries_clearOperandWiths : (s : Statement) → (sc : Scopes) →
    entries (statement true s.clearOperandWiths sc) = entries (statement true s sc)
  | .select ⟨_, _, _, _, _, _, _, _, _, _, _⟩, _ => by
    simp [Statement.clearOperandWiths, statement, Event.entry?, Select.sources]
  | .setOp ⟨l, _, _, r, _, _, _⟩, sc => by
    simp [Statement.clearOperandWiths, statement, Event.entry?, entries_clearOperandWiths l,
      entries_clearOperandWiths r]
  | .values _, _ => rfl
  | .insert _, _ => rfl
  | .createTable _, _ => rfl
  | .update _, _ => rfl
  | .delete _, _ => rfl

/-- Around the operands in a normal form. -/
def normalScopes (b : SetOperation) (w : Option WithClause) : Scopes :=
  .subquery (some "bq") ::
    .query [.subquery (Statement.setOp b).clearOperandWiths "bq" [] false] ::
      Walk.withScopes w []

lemma entries_operands_clear (b : SetOperation) (sc : Scopes) :
    entries (statement false (Statement.setOp b).clearOperandWiths sc) =
      entries (operands b sc) := by
  have hnone := Statement.operandWiths_clearOperandWiths (.setOp b)
  obtain ⟨l, op, a, r, o, m, k⟩ := b
  rw [Statement.clearOperandWiths] at hnone ⊢
  rw [entries_setOp, hnone]
  simp [clauses, Scopes.within, operands, entries_clearOperandWiths]

/-- The derived table itself is no table that is read. -/
lemma entries_normal (b : SetOperation) (w : Option WithClause) :
    entries (statement false
        (.select (Statement.wrap (Statement.setOp b).clearOperandWiths "bq" [] w)) []) =
      entries (withClause w []) ++
        (.subquery (Statement.setOp b).clearOperandWiths "bq" [] false,
          (normalScopes b w).tail) :: entries (operands b (normalScopes b w)) := by
  simp [statement, Statement.wrap, Event.entry?, Select.sources, items, expr, sources, source,
    joins, option, exprs, order, entries_operands_clear, normalScopes]

end Tour

namespace Scopes

lemma mem_visible_within {ws : List WithClause} {sc : Scopes} {t : CommonTable} :
    t ∈ (within ws sc).visible ↔ t ∈ ws.flatMap (·.tables) ∨ t ∈ sc.visible := by
  induction ws generalizing sc with
  | nil => simp [within]
  | cons w ws ih =>
    have hw : within (w :: ws) sc = within ws (w.after :: sc) := rfl
    rw [hw, ih]
    simp [WithClause.after, or_left_comm, or_assoc]

/-- Behind the merged clause the same names are known as behind all clauses. -/
lemma resolve_hoisted_eq_none {ws : List WithClause} {name : String} :
    (Walk.withScopes (WithClause.hoisted ws) []).resolveTable name = none ↔
      (within ws []).resolveTable name = none := by
  have hkept := Hoisted.forall_kept_iff name (ws.flatMap (·.tables))
  simp only [resolveTable_eq_none, mem_visible_within, visible_nil, List.not_mem_nil, or_false]
  rw [← hkept]
  cases ws with
  | nil => simp [WithClause.hoisted, Walk.withScopes, Hoisted.ofTables]
  | cons w ws => simp [WithClause.hoisted, Walk.withScopes]

end Scopes

/-- The tables before a place in the clauses are those of the clauses before and those before in
the clause itself. -/
lemma exists_place {ws : List WithClause} {before after : List CommonTable} {t : CommonTable}
    (h : ws.flatMap (·.tables) = before ++ t :: after) :
    ∃ (outer : List WithClause) (w : WithClause) (inner : List WithClause) (i : Nat),
      ws = outer ++ w :: inner ∧ w.tables[i]? = some t ∧
      before = outer.flatMap (·.tables) ++ w.tables.take i := by
  induction ws generalizing before with
  | nil => simp at h
  | cons w ws ih =>
    rw [List.flatMap_cons, List.append_eq_append_iff] at h
    rcases h with ⟨rest, rfl, hrest⟩ | ⟨rest, hw, hrest⟩
    · obtain ⟨outer, v, inner, i, rfl, hi, rfl⟩ := ih hrest
      exact ⟨w :: outer, v, inner, i, rfl, hi, by simp⟩
    · cases rest with
      | nil =>
        have hempty : ws.flatMap (·.tables) = [] ++ t :: after := hrest.symm
        obtain ⟨outer, v, inner, i, rfl, hi, hbefore⟩ := ih hempty
        exact ⟨w :: outer, v, inner, i, rfl, hi, by simpa [hw] using hbefore⟩
      | cons u rest =>
        cases hrest
        exact ⟨[], w, ws, before.length, rfl, by simp [hw], by simp [hw]⟩

lemma flatMap_place (outer inner : List WithClause) {w : WithClause} {i : Nat} {t : CommonTable}
    (h : w.tables[i]? = some t) :
    (outer ++ w :: inner).flatMap (·.tables) =
      (outer.flatMap (·.tables) ++ w.tables.take i) ++
        t :: (w.tables.drop (i + 1) ++ inner.flatMap (·.tables)) := by
  obtain ⟨hi, rfl⟩ := List.getElem?_eq_some_iff.mp h
  have hsplit : w.tables = w.tables.take i ++ w.tables[i] :: w.tables.drop (i + 1) := by
    rw [List.getElem_cons_drop, List.take_append_drop]
  rw [List.flatMap_append, List.flatMap_cons, List.append_assoc, ← List.cons_append,
    ← List.append_assoc (w.tables.take i), ← hsplit]

namespace WithClause

/-- The clause of all kept tables. -/
def merged (ws : List WithClause) : WithClause :=
  { recursive := ws.any (·.recursive)
    tables := (Hoisted.ofTables id (ws.flatMap (·.tables))).kept }

lemma hoisted_cons (w : WithClause) (ws : List WithClause) :
    hoisted (w :: ws) = some (merged (w :: ws)) := rfl

lemma mem_visible_during {w : WithClause} {i : Nat} {sc : Scopes} {t : CommonTable} :
    t ∈ Scopes.visible (w.during i :: sc) ↔
      (if w.recursive then t ∈ w.tables else t ∈ w.tables.take i) ∨ t ∈ sc.visible := by
  rw [during, Scopes.visible_tables, List.mem_append]
  cases w.recursive <;> simp

variable {ws outer inner : List WithClause} {w : WithClause} {i k : Nat} {name : String}

/-- What is physical in a table of the merged clause is physical in the table it comes from. -/
lemma place_eq_none (hws : ws = outer ++ w :: inner)
    (hk : (merged ws).tables.take k =
      (Hoisted.ofTables id (outer.flatMap (·.tables) ++ w.tables.take i)).kept)
    (hn : Scopes.resolveTable name [(merged ws).during k] = none) :
    Scopes.resolveTable name (w.during i :: Scopes.within outer []) = none := by
  rw [Scopes.resolveTable_eq_none] at hn ⊢
  simp only [mem_visible_during, Scopes.visible_nil, List.not_mem_nil, or_false,
    Scopes.mem_visible_within] at hn ⊢
  cases hr : (merged ws).recursive with
  | true =>
    simp only [hr, if_true] at hn
    have hall : ∀ t ∈ ws.flatMap (·.tables), Text.sameName t.name name = false :=
      (Hoisted.forall_kept_iff name _).mp hn
    intro t ht
    refine hall t ?_
    rw [hws, List.flatMap_append, List.flatMap_cons, List.mem_append, List.mem_append]
    rcases ht with ht | ht
    · split at ht
      · exact .inr (.inl ht)
      · exact .inr (.inl (List.mem_of_mem_take ht))
    · exact .inl ht
  | false =>
    have hw : w.recursive = false := by
      have hplain : ∀ v ∈ ws, v.recursive = false := by simpa [merged] using hr
      exact hplain w (by simp [hws])
    simp only [hr, Bool.false_eq_true, if_false, hk] at hn
    have hall := (Hoisted.forall_kept_iff name _).mp hn
    intro t ht
    simp only [hw, Bool.false_eq_true, if_false] at ht
    exact hall t (List.mem_append.mpr ht.symm)

/-- What is physical in a table stays so in the merged clause, unless a clause is recursive and one
of the tables has the name. -/
lemma merged_eq_none
    (hk : (merged ws).tables.take k ⊆ outer.flatMap (·.tables) ++ w.tables.take i)
    (hr : (∃ v ∈ ws, v.recursive = true) →
      ∀ t ∈ ws.flatMap (·.tables), Text.sameName t.name name = false)
    (hn : Scopes.resolveTable name (w.during i :: Scopes.within outer []) = none) :
    Scopes.resolveTable name [(merged ws).during k] = none := by
  rw [Scopes.resolveTable_eq_none] at hn ⊢
  simp only [mem_visible_during, Scopes.visible_nil, List.not_mem_nil, or_false,
    Scopes.mem_visible_within] at hn ⊢
  intro t ht
  split at ht
  · next hrec => exact hr (by simpa [merged] using hrec) t (Hoisted.kept_subset _ ht)
  · rcases List.mem_append.mp (hk ht) with ht | ht
    · exact hn t (.inr ht)
    · refine hn t (.inl ?_)
      split
      · exact List.mem_of_mem_take ht
      · exact ht

end WithClause

namespace Statement

/-- The name of an entry in a table of an operand's clause, without a schema, is that of a table of
one of the clauses, and one of the clauses is recursive. -/
def Hides (s : Statement) (e : Event) : Prop :=
  (∃ w ∈ s.operandWiths, w.recursive = true) ∧
    e ∈ Walk.operandWiths (fun _ => false) s [] [] ∧
    ∃ name a sc, e = .source (.table none name a) sc ∧
      ∃ w ∈ s.operandWiths, ∃ t ∈ w.tables, Text.sameName t.name name = true

lemma hides_iff {s : Statement} {x : Source} {sc : Scopes} :
    s.Hides (.source x sc) ↔ (∃ w ∈ s.operandWiths, w.recursive = true) ∧
      .source x sc ∈ Tour.clauses s.operandWiths [] ∧
      ∃ name a, x = .table none name a ∧
        ∃ t ∈ s.operandWiths.flatMap (·.tables), Text.sameName t.name name = true := by
  rw [Hides, Tour.reports_operandWiths [] s [], List.append_nil, List.mem_reverse,
    Tour.operandWiths_eq]
  simp only [Event.source.injEq, List.mem_flatMap]
  constructor
  · rintro ⟨hr, hx, name, a, sc', ⟨rfl, rfl⟩, w, hw, t, ht, hname⟩
    exact ⟨hr, hx, name, a, rfl, t, ⟨w, hw, ht⟩, hname⟩
  · rintro ⟨hr, hx, name, a, rfl, t, ⟨w, hw, ht⟩, hname⟩
    exact ⟨hr, hx, name, a, sc, ⟨rfl, rfl⟩, w, hw, t, ht, hname⟩

end Statement

namespace Report

variable {b : SetOperation} {x : Source} {sc : Scopes} {p : Option String × String}

/-- The operands know the same names before and after. -/
lemma exists_pair_operands {base base' : Scopes}
    (hbase : ∀ name, base.resolveTable name = none → base'.resolveTable name = none)
    (hx : .source x sc ∈ Tour.operands b base) (hp : pair (.source x sc) = some p) :
    ∃ x' sc', .source x' sc' ∈ Tour.operands b base' ∧ pair (.source x' sc') = some p ∧
      ∀ name a, x' = .table none name a → base.resolveTable name = none := by
  have hsc : Scopes.Like AnyValue base base' base base' := .base
  have hrefl : ∀ n v, AnyValue n v v := fun _ _ => trivial
  have hwalk : Alongside AnyValue base base' (Tour.operands b base) (Tour.operands b base') :=
    ((((Tour.alongside_statement true hsc _ (Likeness.refl_statement hrefl b.left)).append
      (Tour.alongside_statement true hsc _ (Likeness.refl_statement hrefl b.right))).append
      (Tour.alongside_order .plain hsc _ (Likeness.refl_order hrefl b.orderBy))).append
      (Tour.alongside_option hsc _ (Likeness.refl_option hrefl b.limit))).append
      (Tour.alongside_option hsc _ (Likeness.refl_option hrefl b.offset))
  exact Alongside.exists_pair hwalk hx hp fun name _ _ => hbase name

/-- What a table reads in one place, an equal table reads in another. -/
lemma exists_pair_table {t u : CommonTable} {f f' : Frame} {below below' : Scopes}
    (htu : CommonTable.Like AnyValue t u)
    (hx : .source x sc ∈ Tour.statement false t.body (.body t.name :: f :: below))
    (hp : pair (.source x sc) = some p)
    (hbase : ∀ name a, x = .table none name a →
      Scopes.resolveTable name (f :: below) = none →
      Scopes.resolveTable name (f' :: below') = none) :
    ∃ x' sc', .source x' sc' ∈ Tour.statement false u.body (.body u.name :: f' :: below') ∧
      pair (.source x' sc') = some p ∧
      ∀ name a, x' = .table none name a → Scopes.resolveTable name (f :: below) = none := by
  obtain ⟨hbody⟩ := htu
  have hsc : Scopes.Like AnyValue (f :: below) (f' :: below') (f :: below) (f' :: below') := .base
  exact Alongside.exists_pair (Tour.alongside_statement false (.frame (.body _) hsc) _ hbody) hx hp
    hbase

variable {ws : List WithClause}

/-- What the merged clause reads, the clauses have read, and it is not hidden. -/
lemma exists_pair_clauses (hx : .source x sc ∈ Tour.withClause (WithClause.hoisted ws) [])
    (hp : pair (.source x sc) = some p) :
    ∃ x' sc', .source x' sc' ∈ Tour.clauses ws [] ∧ pair (.source x' sc') = some p ∧
      ∀ name a, x' = .table none name a → (∃ w ∈ ws, w.recursive = true) →
        ∀ t ∈ ws.flatMap (·.tables), Text.sameName t.name name = false := by
  cases hws : ws with
  | nil => simp [hws, WithClause.hoisted, Tour.withClause] at hx
  | cons v vs =>
    rw [← hws]
    rw [hws, WithClause.hoisted_cons, ← hws, Tour.source_mem_withClause] at hx
    obtain ⟨k, u, hk, hx⟩ := hx
    obtain ⟨before, after, hsplit, htake⟩ := Hoisted.split_of_kept hk
    obtain ⟨outer, w, inner, i, hplace, hi, rfl⟩ := exists_place hsplit
    have hself : CommonTable.Like AnyValue u u := Likeness.refl_table (fun _ _ => trivial) u
    obtain ⟨x', sc', hx', hp', hn⟩ := exists_pair_table hself hx hp
      fun name _ _ => WithClause.place_eq_none hplace htake
    refine ⟨x', sc', Tour.source_mem_clauses.mpr ⟨outer, w, inner, i, u, hplace, hi, hx'⟩, hp', ?_⟩
    intro name a hname hr
    have hmerged := Scopes.resolveTable_eq_none.mp (hn name a hname)
    have hrec : (WithClause.merged ws).recursive = true := by simpa [WithClause.merged] using hr
    refine (Hoisted.forall_kept_iff name _).mp fun t ht => hmerged t ?_
    rw [WithClause.mem_visible_during, if_pos hrec]
    exact .inl ht

/-- What the clauses read, the merged clause reads too unless it is hidden. -/
lemma exists_pair_merged (hn : (Hoisted.ofTables id (ws.flatMap (·.tables))).clashes = [])
    (hx : .source x sc ∈ Tour.clauses ws []) (hp : pair (.source x sc) = some p)
    (hr : ∀ name a, x = .table none name a → (∃ w ∈ ws, w.recursive = true) →
      ∀ t ∈ ws.flatMap (·.tables), Text.sameName t.name name = false) :
    ∃ x' sc', .source x' sc' ∈ Tour.withClause (WithClause.hoisted ws) [] ∧
      pair (.source x' sc') = some p := by
  obtain ⟨outer, w, inner, i, t, hws, hi, hx⟩ := Tour.source_mem_clauses.mp hx
  have hflat : ws.flatMap (·.tables) = _ := hws ▸ flatMap_place outer inner hi
  rw [hflat] at hn
  obtain ⟨k, u, hk, hu, htake⟩ := Hoisted.kept_of_split hn
  rw [← hflat] at hk htake
  have hlike : CommonTable.Like AnyValue t u := by
    rcases hu with rfl | hu
    · exact Likeness.refl_table (fun _ _ => trivial) u
    · exact Likeness.like_table (fun _ => trivial) hu
  obtain ⟨x', sc', hx', hp', -⟩ := exists_pair_table hlike hx hp
    fun name a hname => WithClause.merged_eq_none htake (hr name a hname)
  refine ⟨x', sc', ?_, hp'⟩
  have hhoisted : WithClause.hoisted ws = some (WithClause.merged ws) := by
    rw [hws]
    cases outer <;> rfl
  rw [hhoisted, Tour.source_mem_withClause]
  exact ⟨k, u, hk, hx'⟩

/-- A set operation has a normal form only if no tables clash. -/
lemma normalize_eq_ok {q : Select} (h : (Statement.setOp b).normalize = .ok q) :
    (Hoisted.ofTables id ((Statement.setOp b).operandWiths.flatMap (·.tables))).clashes = [] ∧
      q = Statement.wrap (Statement.setOp b).clearOperandWiths "bq" []
        (WithClause.hoisted (Statement.setOp b).operandWiths) := by
  rw [Statement.normalize_setOp, WithClause.merge_eq] at h
  cases hn : (Hoisted.ofTables id
    ((Statement.setOp b).operandWiths.flatMap (·.tables))).clashes with
  | nil =>
    rw [hn] at h
    cases h
    exact ⟨rfl, rfl⟩
  | cons name names =>
    rw [hn] at h
    cases h

lemma source_mem_setOp :
    .source x sc ∈ Tour.statement false (.setOp b) [] ↔
      .source x sc ∈ Tour.clauses (Statement.setOp b).operandWiths [] ∨
      .source x sc ∈ Tour.operands b (Scopes.within (Statement.setOp b).operandWiths []) := by
  simp only [← mem_entries, Tour.entries_setOp, List.mem_append]

/-- The derived table of a normal form is no table that is read. -/
lemma source_mem_normal {w : Option WithClause} (hp : pair (.source x sc) = some p) :
    .source x sc ∈ Tour.statement false
        (.select (Statement.wrap (Statement.setOp b).clearOperandWiths "bq" [] w)) [] ↔
      .source x sc ∈ Tour.withClause w [] ∨
      .source x sc ∈ Tour.operands b (Tour.normalScopes b w) := by
  simp only [← mem_entries, Tour.entries_normal, List.mem_append, List.mem_cons, Prod.mk.injEq]
  refine or_congr_right (or_iff_right ?_)
  rintro ⟨rfl, -⟩
  simp [pair, physicalReference, Scopes.relation] at hp

/-- The normal form of a set operation reads what the set operation reads, but for the physical
tables that are hidden when a recursive clause and others become one. -/
theorem pairs_normalize {b : SetOperation} {q : Select}
    (h : (Statement.setOp b).normalize = .ok q) :
    let s := Statement.setOp b
    (∀ p, p ∈ pairs (.select q) ↔ ∃ e ∈ s.trace, pair e = some p ∧ ¬ s.Hides e) ∧
      ((∀ w ∈ s.operandWiths, w.recursive = false) →
        ∀ p, p ∈ pairs (.select q) ↔ p ∈ pairs s) := by
  intro s
  obtain ⟨hn, rfl⟩ := normalize_eq_ok h
  have hknown : ∀ name, (Scopes.within s.operandWiths []).resolveTable name = none ↔
      (Tour.normalScopes b (WithClause.hoisted s.operandWiths)).resolveTable name = none := by
    intro name
    rw [← Scopes.resolve_hoisted_eq_none]
    simp [Scopes.resolveTable_eq_none, Tour.normalScopes, s]
  have hread : ∀ p, p ∈ pairs (.select (Statement.wrap s.clearOperandWiths "bq" []
      (WithClause.hoisted s.operandWiths))) ↔ ∃ e ∈ s.trace, pair e = some p ∧ ¬ s.Hides e := by
    intro p
    rw [mem_pairs]
    constructor
    · rintro ⟨x, sc, hx, hp⟩
      rcases (source_mem_normal hp).mp hx with hx | hx
      · obtain ⟨x', sc', hx', hp', hr⟩ := exists_pair_clauses hx hp
        refine ⟨_, Tour.mem_trace.mpr (source_mem_setOp.mpr (.inl hx')), hp', ?_⟩
        rw [Statement.hides_iff]
        rintro ⟨hrec, -, name, a, rfl, t, ht, hname⟩
        exact absurd hname (by simp [hr name a rfl hrec t ht])
      · obtain ⟨x', sc', hx', hp', hr⟩ := exists_pair_operands (fun name => (hknown name).mpr) hx hp
        refine ⟨_, Tour.mem_trace.mpr (source_mem_setOp.mpr (.inr hx')), hp', ?_⟩
        rw [Statement.hides_iff]
        rintro ⟨-, -, name, a, rfl, t, ht, hname⟩
        have hphysical := Scopes.resolveTable_eq_none.mp ((hknown name).mpr (hr name a rfl))
        exact absurd hname (by simp [hphysical t (Scopes.mem_visible_within.mpr (.inl ht))])
    · rintro ⟨e, he, hp, hh⟩
      obtain ⟨x, sc, rfl⟩ : ∃ x sc, e = .source x sc := by
        cases e with
        | source x sc => exact ⟨x, sc, rfl⟩
        | _ => cases hp
      rcases source_mem_setOp.mp (Tour.mem_trace.mp he) with hx | hx
      · obtain ⟨x', sc', hx', hp'⟩ := exists_pair_merged hn hx hp fun name a hname hrec t ht => by
          by_contra hsame
          exact hh (Statement.hides_iff.mpr
            ⟨hrec, hx, name, a, hname, t, ht, by simpa using hsame⟩)
        exact ⟨x', sc', (source_mem_normal hp').mpr (.inl hx'), hp'⟩
      · obtain ⟨x', sc', hx', hp', -⟩ := exists_pair_operands (fun name => (hknown name).mp) hx hp
        exact ⟨x', sc', (source_mem_normal hp').mpr (.inr hx'), hp'⟩
  refine ⟨hread, fun hplain p => (hread p).trans ?_⟩
  rw [mem_pairs]
  constructor
  · rintro ⟨e, he, hp, -⟩
    cases e with
    | source x sc => exact ⟨x, sc, Tour.mem_trace.mp he, hp⟩
    | _ => cases hp
  · rintro ⟨x, sc, hx, hp⟩
    refine ⟨_, Tour.mem_trace.mpr hx, hp, ?_⟩
    rintro ⟨⟨w, hw, hrec⟩, -⟩
    exact absurd hrec (by simp [hplain w hw])

/-- The table `t` that one operand reads in its clause is hidden by the table `t` of the recursive
clause of the other, which does not even refer to itself. -/
theorem pairs_normalize_recursive :
    let read (name : String) : Select :=
      { items := [{ value := .wildcard none }], froms := [.table none name none] }
    let one : Select := { items := [{ value := .number "1" }] }
    let left : Select :=
      { read "a" with withClause := some { tables := [{ name := "a", body := .select (read "t") }] } }
    let right : Select :=
      { read "t" with
        withClause := some { recursive := true, tables := [{ name := "t", body := .select one }] } }
    let b : SetOperation := { left := .select left, op := .union, right := .select right }
    let s := Statement.setOp b
    ∃ q, s.normalize = .ok q ∧ pairs s = [(none, "t")] ∧ pairs (.select q) = [] ∧
      (∀ p, p ∈ pairs (.select q) ↔ ∃ e ∈ s.trace, pair e = some p ∧ ¬ s.Hides e) ∧
      ((∀ w ∈ s.operandWiths, w.recursive = false) →
        ∀ p, p ∈ pairs (.select q) ↔ p ∈ pairs s) := by
  intro read one left right b s
  have hq : s.normalize = .ok (Statement.wrap s.clearOperandWiths "bq" []
      (some { recursive := true,
              tables := [{ name := "a", body := .select (read "t") },
                { name := "t", body := .select one }] })) := by
    simp only [s, b, left, right, read, one]
    rfl
  have hpairs : pairs s = [(none, "t")] := by
    simp only [s, b, left, right, read, one]
    rfl
  refine ⟨_, hq, hpairs, ?_, pairs_normalize hq⟩
  simp only [s, b, left, right, read, one]
  rfl

end Report

end SqlLoom
