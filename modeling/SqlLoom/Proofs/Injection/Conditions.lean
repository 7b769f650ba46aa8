import Mathlib.Data.List.Basic
import Mathlib.Tactic.Lemma
import SqlLoom.Binding
import SqlLoom.Injection

/-! What conditions ask for. An operator with a value that is not null is one predicate on its
target, the predicates of a key are one conjunct, and an injection adds the conjuncts of all keys to
the select that the query is read as. -/
namespace SqlLoom

namespace Operator

/-- Whether some value is not null. -/
def isLive : Operator → Bool
  | .compare _ v => !v.isNull
  | .member vs => vs.any (!·.isNull)

/-- The values that are not null under their names. Members are counted with the nulls. -/
def bindings (key : String) : Operator → List Occurrence
  | .compare c v => if v.isNull then [] else [⟨key ++ c.suffix, some v⟩]
  | .member vs =>
    ((vs.zipIdx 1).filter (!·.1.isNull)).map fun (v, i) => ⟨key ++ "_in_" ++ toString i, some v⟩

/-- The predicate of an operator with a value. -/
def asks (key : String) (target : Expr) : Operator → Expr
  | .compare c v => .binary target c.operator (.bound (key ++ c.suffix) v)
  | .member vs =>
    .inList target ((bindings key (.member vs)).map fun o => .parameter o.name o.value) false

lemma memberParameters_eq (key : String) (vs : List Scalar) :
    memberParameters key vs =
      (bindings key (.member vs)).map fun o => .parameter o.name o.value := by
  rw [memberParameters, bindings, List.map_map, ← List.filterMap_eq_map, List.filterMap_filter]
  apply List.filterMap_congr
  rintro ⟨v, i⟩ -
  cases h : v.isNull <;> simp [h, Expr.bound]

lemma any_zipIdx (vs : List Scalar) (k : Nat) :
    ((vs.zipIdx k).any fun p => !p.1.isNull) = vs.any (!·.isNull) := by
  induction vs generalizing k with
  | nil => rfl
  | cons v vs ih => simp [ih]

lemma bindings_eq_nil_iff {key : String} {o : Operator} :
    o.bindings key = [] ↔ o.isLive = false := by
  cases o with
  | compare c v => cases h : v.isNull <;> simp [bindings, isLive, h]
  | member vs =>
    rw [isLive, ← any_zipIdx vs 1, bindings, List.map_eq_nil_iff, List.filter_eq_nil_iff,
      List.any_eq_false]

lemma predicate?_eq (key : String) (target : Expr) (o : Operator) :
    o.predicate? key target = if o.isLive then some (o.asks key target) else none := by
  cases o with
  | compare c v => cases h : v.isNull <;> simp [predicate?, isLive, asks, h]
  | member vs =>
    have hlive : bindings key (.member vs) = [] ↔ isLive (.member vs) = false :=
      bindings_eq_nil_iff
    simp only [predicate?, memberParameters_eq, asks]
    cases hb : bindings key (.member vs) with
    | nil => simp [hlive.mp hb]
    | cons b bs =>
      have : (Operator.member vs).isLive = true := by simpa [hb] using hlive
      simp [this]

end Operator

namespace Condition

/-- The column that is named instead of the key. -/
def column? : Condition → Option String
  | .value _ => none
  | .operators column _ => column

/-- A bare value is compared for equality. -/
def comparisons : Condition → List Operator
  | .value v => [.compare .eq v]
  | .operators _ ops => ops

/-- Whether some value is not null. -/
def isLive (c : Condition) : Bool := c.comparisons.any Operator.isLive

/-- Whether the target is looked up. A bare null value is skipped before. -/
def looksUp : Condition → Bool
  | .value v => !v.isNull
  | .operators _ _ => true

lemma looksUp_of_isLive {c : Condition} (h : c.isLive = true) : c.looksUp = true := by
  cases c with
  | value v => simpa [isLive, comparisons, Operator.isLive, looksUp] using h
  | operators column ops => rfl

lemma filter_isLive_eq_nil_iff {c : Condition} :
    c.comparisons.filter Operator.isLive = [] ↔ c.isLive = false := by
  rw [List.filter_eq_nil_iff, isLive, List.any_eq_false]

end Condition

/-- Whether some value is not null. -/
def ConditionMap.IsLive (m : ConditionMap) : Prop := ∃ e ∈ m.entries, e.2.isLive = true

/-- The select that conditions are added to. -/
def Statement.asRoot : Statement → Result Select
  | .select s => .ok s
  | .setOp b => (Statement.setOp b).normalize
  | .values v => (Statement.values v).normalize
  | _ => .error (.unsupported "parameters can only be injected into queries")

lemma Statement.asRoot_eq_ok {s : Statement} {q : Select} :
    s.asRoot = .ok q ↔ s.normalize = .ok q := by
  cases s <;> simp [asRoot, normalize]

/-- The expression that a name in a condition stands for. -/
def Select.target (resolver : Option ColumnResolver) (s : Select) (name : String) :
    Result Expr := do
  let columns ← Report.selectable resolver (.select s)
  Injection.resolveTarget s.items columns name

namespace Injection

variable {resolve : String → Result Expr}

lemma predicates_eq (resolve : String → Result Expr) (key : String) (c : Condition) :
    predicates resolve key c =
      if c.looksUp then
        (resolve (c.column?.getD key)).map fun target =>
          (c.comparisons.filter Operator.isLive).map (Operator.asks key target)
      else .ok [] := by
  cases c with
  | value v =>
    cases h : v.isNull with
    | true => simp [predicates, Condition.looksUp, h]
    | false =>
      simp only [predicates, Condition.looksUp, Condition.column?, Condition.comparisons, h,
        Operator.isLive, Bool.not_false, List.filter_cons_of_pos, List.filter_nil, Option.getD_none]
      cases resolve key <;> simp [Except.map, bind, Except.bind, pure, Except.pure, Operator.asks,
        Comparison.operator, Comparison.suffix]
  | operators column ops =>
    have hops : ∀ target, ops.filterMap (Operator.predicate? key target) =
        (ops.filter Operator.isLive).map (Operator.asks key target) := by
      intro target
      rw [← List.filterMap_eq_map, List.filterMap_filter]
      exact List.filterMap_congr fun o _ => Operator.predicate?_eq key target o
    simp only [predicates, Condition.looksUp, Condition.column?, Condition.comparisons, hops]
    cases resolve (column.getD key) <;> rfl

lemma behindAlias_cases (e : Expr) : behindAlias e = e ∨ behindAlias e = .nested e := by
  cases e <;> simp [behindAlias]

@[simp] lemma grouped_nil : grouped [] = none := rfl

@[simp] lemma grouped_singleton (p : Expr) : grouped [p] = some p := rfl

lemma grouped_cons_cons (p q : Expr) (ps : List Expr) :
    grouped (p :: q :: ps) = some (.nested ((q :: ps).foldl .conj p)) := rfl

lemma grouped_eq_none_iff {ps : List Expr} : grouped ps = none ↔ ps = [] := by
  match ps with
  | [] => simp
  | [p] => simp
  | p :: q :: ps => simp [grouped_cons_cons]

/-- The conjunct of every condition that has a value. -/
def conjuncts (resolve : String → Result Expr) (es : List (String × Condition)) :
    Result (List Expr) :=
  (es.mapM fun e => predicates resolve e.1 e.2).map (List.filterMap grouped)

@[simp] lemma conjuncts_nil : conjuncts resolve [] = .ok [] := rfl

lemma conjuncts_cons (key : String) (c : Condition) (es : List (String × Condition)) :
    conjuncts resolve ((key, c) :: es) = do
      let ps ← predicates resolve key c
      let qs ← conjuncts resolve es
      return (grouped ps).toList ++ qs := by
  rw [conjuncts, List.mapM_cons, conjuncts]
  cases predicates resolve key c with
  | error e => rfl
  | ok ps =>
    cases es.mapM fun e => predicates resolve e.1 e.2 with
    | error e => rfl
    | ok groups =>
      cases hg : grouped ps <;> simp [hg, bind, Except.bind, Except.map, pure, Except.pure]

lemma conjuncts_append (es fs : List (String × Condition)) :
    conjuncts resolve (es ++ fs) = do
      let ps ← conjuncts resolve es
      let qs ← conjuncts resolve fs
      return ps ++ qs := by
  induction es with
  | nil =>
    rw [List.nil_append, conjuncts_nil]
    cases conjuncts resolve fs <;> rfl
  | cons e es ih =>
    obtain ⟨key, c⟩ := e
    rw [List.cons_append, conjuncts_cons, conjuncts_cons, ih]
    cases predicates resolve key c with
    | error e => rfl
    | ok ps =>
      cases conjuncts resolve es with
      | error e => rfl
      | ok qs => cases conjuncts resolve fs <;> simp [bind, Except.bind, pure, Except.pure]

lemma conjuncts_append_eq_ok {es fs : List (String × Condition)} {rs : List Expr} :
    conjuncts resolve (es ++ fs) = .ok rs ↔
      ∃ ps qs, conjuncts resolve es = .ok ps ∧ conjuncts resolve fs = .ok qs ∧ rs = ps ++ qs := by
  rw [conjuncts_append]
  cases conjuncts resolve es with
  | error e => simp [bind, Except.bind]
  | ok ps =>
    cases conjuncts resolve fs with
    | error e => simp [bind, Except.bind]
    | ok qs => simp [bind, Except.bind, pure, Except.pure, eq_comm]

lemma conjuncts_cons_eq_ok {key : String} {c : Condition} {es : List (String × Condition)}
    {rs : List Expr} :
    conjuncts resolve ((key, c) :: es) = .ok rs ↔
      ∃ ps qs, predicates resolve key c = .ok ps ∧ conjuncts resolve es = .ok qs ∧
        rs = (grouped ps).toList ++ qs := by
  rw [conjuncts_cons]
  cases predicates resolve key c with
  | error e => simp [bind, Except.bind]
  | ok ps =>
    cases conjuncts resolve es with
    | error e => simp [bind, Except.bind]
    | ok qs => simp [bind, Except.bind, pure, Except.pure, eq_comm]

/-- Either a target has been found, or there was nothing to look up. -/
lemma predicates_eq_ok {key : String} {c : Condition} {ps : List Expr}
    (h : predicates resolve key c = .ok ps) :
    (∃ target, resolve (c.column?.getD key) = .ok target ∧
      ps = (c.comparisons.filter Operator.isLive).map (Operator.asks key target)) ∨
    (c.looksUp = false ∧ c.comparisons.filter Operator.isLive = [] ∧ ps = []) := by
  rw [predicates_eq] at h
  cases hl : c.looksUp with
  | true =>
    rw [if_pos hl] at h
    cases ht : resolve (c.column?.getD key) with
    | error e => simp [ht, Except.map] at h
    | ok target =>
      simp only [ht, Except.map, Except.ok.injEq] at h
      exact .inl ⟨target, rfl, h.symm⟩
  | false =>
    rw [if_neg (by simp [hl])] at h
    have hdead : c.isLive = false := by simpa [hl] using mt (@Condition.looksUp_of_isLive c)
    exact .inr ⟨rfl, Condition.filter_isLive_eq_nil_iff.mpr hdead, (Except.ok.inj h).symm⟩

lemma predicates_eq_ok_nil {key : String} {c : Condition} {ps : List Expr}
    (h : predicates resolve key c = .ok ps) : ps = [] ↔ c.isLive = false := by
  rw [← Condition.filter_isLive_eq_nil_iff]
  rcases predicates_eq_ok h with ⟨target, -, rfl⟩ | ⟨-, hnone, rfl⟩
  · exact List.map_eq_nil_iff
  · exact iff_of_true rfl hnone

/-- Only conditions without a value add nothing. -/
lemma conjuncts_eq_ok_nil {es : List (String × Condition)} {ps : List Expr}
    (h : conjuncts resolve es = .ok ps) : ps = [] ↔ ∀ e ∈ es, e.2.isLive = false := by
  induction es generalizing ps with
  | nil =>
    cases h
    simp
  | cons e es ih =>
    obtain ⟨key, c⟩ := e
    obtain ⟨qs, rs, hqs, hrs, rfl⟩ := conjuncts_cons_eq_ok.mp h
    rw [List.append_eq_nil_iff, Option.toList_eq_nil_iff, grouped_eq_none_iff,
      predicates_eq_ok_nil hqs, ih hrs, List.forall_mem_cons]

end Injection

/-- A list read off an expression piece by piece, through conjunctions and parentheses. -/
structure Expr.Collects {α : Type} (f : Expr → List α) : Prop where
  conj (l r : Expr) : f (.conj l r) = f l ++ f r
  nested (e : Expr) : f (.nested e) = f e

open Injection

namespace Expr.Collects

variable {α : Type} {f : Expr → List α} (hf : Collects f)
include hf

lemma nestIfOr (e : Expr) : f e.nestIfOr = f e := by
  unfold Expr.nestIfOr
  split
  · exact hf.nested _
  · rfl

lemma behindAlias (e : Expr) : f (Injection.behindAlias e) = f e := by
  rcases behindAlias_cases e with h | h
  · rw [h]
  · rw [h, hf.nested]

lemma foldl_conj (e : Expr) (es : List Expr) : f (es.foldl .conj e) = f e ++ es.flatMap f := by
  induction es generalizing e with
  | nil => simp
  | cons x es ih => rw [List.foldl_cons, ih, hf.conj, List.append_assoc, List.flatMap_cons]

lemma grouped (ps : List Expr) : (Injection.grouped ps).toList.flatMap f = ps.flatMap f := by
  match ps with
  | [] => rfl
  | [p] => rfl
  | p :: q :: ps =>
    rw [grouped_cons_cons, Option.toList_some, List.flatMap_singleton, hf.nested, hf.foldl_conj]
    rfl

lemma appendWhere (s : Select) (p : Expr) :
    (s.appendWhere p).filter.toList.flatMap f = s.filter.toList.flatMap f ++ f p := by
  cases h : s.filter <;> simp [Select.appendWhere, h, hf.conj, hf.nestIfOr]

lemma foldl_appendWhere (s : Select) (ps : List Expr) :
    (ps.foldl (fun s p => s.appendWhere p) s).filter.toList.flatMap f =
      s.filter.toList.flatMap f ++ ps.flatMap f := by
  induction ps generalizing s with
  | nil => simp
  | cons p ps ih =>
    rw [List.foldl_cons, ih, hf.appendWhere, List.append_assoc, List.flatMap_cons]

end Expr.Collects

/-- Further conditions change the filter alone. -/
lemma Select.foldl_appendWhere_eq (ps : List Expr) (s : Select) :
    ps.foldl (fun s p => s.appendWhere p) s =
      { s with filter := (ps.foldl (fun s p => s.appendWhere p) s).filter } := by
  induction ps generalizing s with
  | nil =>
    cases s
    rfl
  | cons p ps ih =>
    rw [List.foldl_cons, ih]
    rfl

lemma Select.target_eq {resolver : Option ColumnResolver} {q : Select}
    {columns : List SelectableColumn} (h : Report.selectable resolver (.select q) = .ok columns) :
    q.target resolver = resolveTarget q.items columns := by
  funext name
  rw [Select.target, h]
  rfl

namespace ConditionMap

variable {m : ConditionMap} {resolver : Option ColumnResolver} {allowAllNull : Bool}

lemma isLive_iff {m : ConditionMap} : ¬m.IsLive ↔ ∀ e ∈ m.entries, e.2.isLive = false := by
  simp [IsLive]

/-- The condition that a map without values is refused with. -/
def firstKey (m : ConditionMap) : String := (m.entries.head?.map Prod.fst).getD ""

/-- Unless there is nothing to add, the conjuncts are added one after the other. -/
lemma inject_eq (h : m.entries ≠ []) (resolver : Option ColumnResolver) (allowAllNull : Bool)
    (s : Statement) :
    m.inject resolver allowAllNull s = (do
      let q ← s.asRoot
      let columns ← Report.selectable resolver (.select q)
      let ps ← conjuncts (resolveTarget q.items columns) m.entries
      if ps.isEmpty && !allowAllNull then
        .error (.invalidCondition m.firstKey "every condition value is null")
      else .ok (.select (ps.foldl (fun q p => q.appendWhere p) q))) := by
  obtain ⟨_ | ⟨⟨key, c⟩, es⟩⟩ := m
  · exact absurd rfl h
  · have hroot : ConditionMap.inject ⟨(key, c) :: es⟩ resolver allowAllNull s = (do
        let q ← s.asRoot
        let columns ← Report.selectable resolver (.select q)
        let groups ← ((key, c) :: es).mapM fun e =>
          predicates (resolveTarget q.items columns) e.1 e.2
        if (groups.filterMap grouped).isEmpty && !allowAllNull then
          .error (.invalidCondition key "every condition value is null")
        else .ok (.select ((groups.filterMap grouped).foldl (fun q p => q.appendWhere p) q))) := by
      cases s <;> rfl
    rw [hroot]
    congr 1
    funext q
    cases Report.selectable resolver (.select q) with
    | error e => rfl
    | ok columns =>
      simp only [bind, Except.bind, conjuncts]
      cases ((key, c) :: es).mapM fun e => predicates (resolveTarget q.items columns) e.1 e.2 <;>
        rfl

/-- What a successful injection has looked up and added. -/
lemma inject_eq_ok (h : m.entries ≠ []) {s t : Statement} :
    m.inject resolver allowAllNull s = .ok t ↔
      ∃ q columns ps, s.asRoot = .ok q ∧ Report.selectable resolver (.select q) = .ok columns ∧
        conjuncts (q.target resolver) m.entries = .ok ps ∧ (ps = [] → allowAllNull = true) ∧
        t = .select (ps.foldl (fun q p => q.appendWhere p) q) := by
  rw [inject_eq h]
  cases s.asRoot with
  | error e => simp [bind, Except.bind]
  | ok q =>
    cases hc : Report.selectable resolver (.select q) with
    | error e => simp [hc, bind, Except.bind]
    | ok columns =>
      have ht := Select.target_eq hc
      cases hp : conjuncts (resolveTarget q.items columns) m.entries with
      | error e => simp [hc, ht, hp, bind, Except.bind]
      | ok ps =>
        cases ps <;> cases allowAllNull <;> simp [hc, ht, hp, bind, Except.bind, eq_comm]

end ConditionMap

end SqlLoom
