import SqlLoom.Proofs.Injection.Conditions
import SqlLoom.Proofs.Layout.Parameters
import SqlLoom.Proofs.Normalize

/-! The parameters of injected conditions. Into a query that has none, an injection writes the
values of the conditions and nothing else: key by key, operator by operator, member by member. -/
namespace SqlLoom

namespace Expr

/-- The placeholders of an expression in the WHERE clause, as they are written. -/
def slots (e : Expr) : List Occurrence := Layout.occurrences (Layout.expr 0 e)

@[simp] lemma slots_column (q : Option String) (n : String) : (Expr.column q n).slots = [] := by
  cases q <;> simp [slots, Layout.expr, Layout.occurrences]

@[simp] lemma slots_parameter (n : String) (v : Option Scalar) :
    (Expr.parameter n v).slots = [⟨n, v⟩] := by
  simp [slots, Layout.expr, Layout.occurrences]

@[simp] lemma slots_binary (l : Expr) (op : BinaryOp) (r : Expr) :
    (Expr.binary l op r).slots = l.slots ++ r.slots := by
  rw [slots, ← Layout.occurrences_marks]
  simp [slots, Layout.expr]

@[simp] lemma slots_nested (e : Expr) : (Expr.nested e).slots = e.slots := by
  rw [slots, ← Layout.occurrences_marks]
  simp [slots, Layout.expr]

lemma occurrences_exprs (es : List Expr) :
    Layout.occurrences (Layout.exprs 0 es).flatten = es.flatMap slots := by
  induction es with
  | nil => rfl
  | cons e es ih => simp [Layout.exprs, slots, ih]

@[simp] lemma slots_inList (e : Expr) (es : List Expr) (negated : Bool) :
    (Expr.inList e es negated).slots = e.slots ++ es.flatMap slots := by
  rw [slots, ← Layout.occurrences_marks]
  simp [slots, Layout.expr, occurrences_exprs]

lemma collects_slots : Collects slots where
  conj l r := slots_binary l .and r
  nested := slots_nested

end Expr

namespace Layout

lemma occurrences_items (is : List SelectItem) :
    occurrences (items 0 is).flatten = is.flatMap fun i => i.value.slots := by
  induction is with
  | nil => rfl
  | cons i is ih =>
    obtain ⟨v, a⟩ := i
    have ha : occurrences (aliased a) = [] := by rw [← occurrences_marks, marks_aliased]; rfl
    simp [items, Expr.slots, ha, ih]

lemma occurrences_clause (keyword : String) (e : Option Expr) :
    occurrences (clause 0 keyword e).flatten = e.toList.flatMap Expr.slots := by
  cases e <;> simp [clause, Expr.slots, occurrences]

/-- A select holds what its clauses hold. -/
lemma occurrences_select (s : Select) :
    occurrences (statement 0 .whole (.select s)) =
      occurrences (withClause 0 s.withClause).flatten ++ s.items.flatMap (·.value.slots) ++
        occurrences (sources 0 s.froms).flatten ++ occurrences (joins 0 s.joins).flatten ++
        s.filter.toList.flatMap Expr.slots ++ s.groupBy.flatMap Expr.slots ++
        s.having.toList.flatMap Expr.slots ++ occurrences (order 0 s.orderBy).flatten ++
        s.limit.toList.flatMap Expr.slots ++ s.offset.toList.flatMap Expr.slots := by
  obtain ⟨w, d, is, fs, js, f, g, h, o, l, k⟩ := s
  rw [← occurrences_marks]
  simp [statement, occurrences_items, occurrences_clause, Expr.occurrences_exprs]

end Layout

namespace Select

variable {s : Select}

lemma item_slots (h : Layout.occurrences (Layout.statement 0 .whole (.select s)) = []) :
    ∀ i ∈ s.items, i.value.slots = [] := by
  simp only [Layout.occurrences_select, List.append_eq_nil_iff, List.flatMap_eq_nil_iff] at h
  intro i hi
  simp [h, hi]

lemma filter_slots (h : Layout.occurrences (Layout.statement 0 .whole (.select s)) = []) :
    s.filter.toList.flatMap Expr.slots = [] := by
  simp only [Layout.occurrences_select, List.append_eq_nil_iff] at h
  simp [h]

/-- With another filter the select holds the parameters of that filter only. -/
lemma occurrences_filter (h : Layout.occurrences (Layout.statement 0 .whole (.select s)) = [])
    (f : Option Expr) :
    Layout.occurrences (Layout.statement 0 .whole (.select { s with filter := f })) =
      f.toList.flatMap Expr.slots := by
  simp only [Layout.occurrences_select, List.append_eq_nil_iff] at h ⊢
  simp [h]

end Select

/-- The values of a condition under their names. -/
def Condition.bindings (key : String) (c : Condition) : List Occurrence :=
  c.comparisons.flatMap (Operator.bindings key)

/-- The values of all conditions under their names. -/
def ConditionMap.bindings (m : ConditionMap) : List Occurrence :=
  m.entries.flatMap fun e => e.2.bindings e.1

namespace Injection

variable {resolve : String → Result Expr}

/-- A target is a column or the expression of an item. -/
lemma slots_resolveTarget {items : List SelectItem} {columns : List SelectableColumn}
    {name : String} {target : Expr} (hitems : ∀ i ∈ items, i.value.slots = [])
    (h : resolveTarget items columns name = .ok target) : target.slots = [] := by
  unfold resolveTarget at h
  split at h
  · split at h
    · cases h
      simp [SelectableColumn.toExpr]
    · simp at h
  · split at h
    · next i hi =>
      cases h
      rw [Expr.collects_slots.behindAlias, hitems i (List.mem_of_find?_eq_some hi)]
    · split at h
      · cases h
        simp [SelectableColumn.toExpr]
      · simp at h
      · simp at h

lemma slots_asks {key : String} {target : Expr} (ht : target.slots = []) {o : Operator}
    (ho : o.isLive = true) : (o.asks key target).slots = o.bindings key := by
  cases o with
  | compare c v =>
    have hv : v.isNull = false := by simpa [Operator.isLive] using ho
    simp [Operator.asks, Operator.bindings, ht, hv, Expr.bound]
  | member vs => simp [Operator.asks, ht, List.flatMap_map]

lemma bindings_filter_isLive (key : String) (os : List Operator) :
    (os.filter Operator.isLive).flatMap (Operator.bindings key) =
      os.flatMap (Operator.bindings key) := by
  induction os with
  | nil => rfl
  | cons o os ih =>
    cases ho : o.isLive with
    | true => simp [ho, ih]
    | false => simp [ho, ih, Operator.bindings_eq_nil_iff.mpr ho]

lemma slots_predicates (hr : ∀ name target, resolve name = .ok target → target.slots = [])
    {key : String} {c : Condition} {ps : List Expr} (h : predicates resolve key c = .ok ps) :
    ps.flatMap Expr.slots = c.bindings key := by
  rw [Condition.bindings, ← bindings_filter_isLive]
  rcases predicates_eq_ok h with ⟨target, ht, rfl⟩ | ⟨-, hnone, rfl⟩
  · rw [List.flatMap_map]
    exact List.flatMap_congr fun o ho => slots_asks (hr _ _ ht) (List.mem_filter.mp ho).2
  · rw [hnone]
    rfl

lemma slots_conjuncts (hr : ∀ name target, resolve name = .ok target → target.slots = [])
    {es : List (String × Condition)} {ps : List Expr} (h : conjuncts resolve es = .ok ps) :
    ps.flatMap Expr.slots = es.flatMap fun e => e.2.bindings e.1 := by
  induction es generalizing ps with
  | nil =>
    cases h
    rfl
  | cons e es ih =>
    obtain ⟨key, c⟩ := e
    obtain ⟨qs, rs, hqs, hrs, rfl⟩ := conjuncts_cons_eq_ok.mp h
    rw [List.flatMap_append, Expr.collects_slots.grouped, slots_predicates hr hqs, ih hrs, List.flatMap_cons]

end Injection

open Injection

/-- What is written of an injected query without parameters are the values of the conditions. -/
lemma ConditionMap.occurrences_inject {m : ConditionMap} {resolver : Option ColumnResolver}
    {allowAllNull : Bool} {s t : Statement} (hs : Report.parameters s = [])
    (h : m.inject resolver allowAllNull s = .ok t) :
    Layout.occurrences (Layout.statement 0 .whole t) = m.bindings := by
  have hnone : Layout.occurrences (Layout.statement 0 .whole s) = [] :=
    List.subset_nil.mp (hs ▸ s.occurrences_subset_parameters)
  by_cases hm : m.entries = []
  · have ht : t = s := by
      simp only [inject, hm, Except.ok.injEq] at h
      exact h.symm
    rw [ht, hnone, bindings, hm]
    rfl
  · obtain ⟨q, columns, ps, hq, hcolumns, hps, -, rfl⟩ := (inject_eq_ok hm).mp h
    have hq : Layout.occurrences (Layout.statement 0 .whole (.select q)) = [] := by
      rw [← Layout.occurrences_marks,
        Statement.marks_normalize (Statement.asRoot_eq_ok.mp hq), Layout.occurrences_marks, hnone]
    have hresolve : ∀ name target, q.target resolver name = .ok target → target.slots = [] := by
      intro name target ht
      rw [Select.target_eq hcolumns] at ht
      exact slots_resolveTarget (Select.item_slots hq) ht
    rw [Select.foldl_appendWhere_eq, Select.occurrences_filter hq,
      Expr.collects_slots.foldl_appendWhere, Select.filter_slots hq, slots_conjuncts hresolve hps,
      bindings, List.nil_append]

end SqlLoom
