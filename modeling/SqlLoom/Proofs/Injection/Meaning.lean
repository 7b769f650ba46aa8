import SqlLoom.Proofs.Injection.Conditions

/-! What an injected condition means. A filter is read in the three-valued logic of SQL, with the
values of its comparisons and all else below the connectives given, and it lets a row pass when it
is true. Which predicate an operator asks for is laid down operator by operator. -/
namespace SqlLoom

inductive Truth where
  | true | unknown | false
  deriving DecidableEq, Repr

namespace Truth

def and : Truth → Truth → Truth
  | .false, _ | _, .false => .false
  | .true, .true => .true
  | _, _ => .unknown

def or : Truth → Truth → Truth
  | .true, _ | _, .true => .true
  | .false, .false => .false
  | _, _ => .unknown

def not : Truth → Truth
  | .true => .false
  | .unknown => .unknown
  | .false => .true

@[simp] lemma and_eq_true {a b : Truth} : a.and b = .true ↔ a = .true ∧ b = .true := by
  cases a <;> cases b <;> decide

end Truth

namespace Expr

variable (atom : Expr → Truth)

/-- The truth of a condition, given that of everything below AND, OR, NOT and parentheses. -/
def truth : Expr → Truth
  | .binary l .and r => (truth l).and (truth r)
  | .binary l .or r => (truth l).or (truth r)
  | .unary .not e => (truth e).not
  | .nested e => truth e
  | e => atom e

@[simp] lemma truth_conj (l r : Expr) :
    (Expr.conj l r).truth atom = (l.truth atom).and (r.truth atom) := by
  rw [Expr.conj, truth]

@[simp] lemma truth_nested (e : Expr) : (Expr.nested e).truth atom = e.truth atom := by rw [truth]

@[simp] lemma truth_nestIfOr (e : Expr) : e.nestIfOr.truth atom = e.truth atom := by
  unfold nestIfOr
  split
  · rw [truth_nested]
  · rfl

lemma truth_foldl_conj (e : Expr) (es : List Expr) :
    (es.foldl .conj e).truth atom = .true ↔
      e.truth atom = .true ∧ ∀ x ∈ es, x.truth atom = .true := by
  induction es generalizing e with
  | nil => simp
  | cons x es ih => rw [List.foldl_cons, ih, truth_conj, Truth.and_eq_true, and_assoc,
      List.forall_mem_cons]

end Expr

namespace Select

/-- Whether rows pass the filter. All do when there is none. -/
def Passes (atom : Expr → Truth) (s : Select) : Prop :=
  ∀ e, s.filter = some e → e.truth atom = .true

variable {atom : Expr → Truth}

lemma passes_appendWhere {p : Expr} {s : Select} :
    (s.appendWhere p).Passes atom ↔ s.Passes atom ∧ p.truth atom = .true := by
  cases h : s.filter <;> simp [Passes, appendWhere, h]

lemma passes_foldl_appendWhere {ps : List Expr} {s : Select} :
    (ps.foldl (fun s p => s.appendWhere p) s).Passes atom ↔
      s.Passes atom ∧ ∀ p ∈ ps, p.truth atom = .true := by
  induction ps generalizing s with
  | nil => simp
  | cons p ps ih => rw [List.foldl_cons, ih, passes_appendWhere, and_assoc, List.forall_mem_cons]

end Select

/-- The operator that a comparison is written with, and what its parameter adds to the key. Bounds
are inclusive. -/
inductive Comparison.Written : Comparison → BinaryOp → String → Prop
  | eq : Written .eq .eq ""
  | ne : Written .ne .notEq "_ne"
  | lt : Written .lt .lt "_lt"
  | le : Written .le .ltEq "_le"
  | gt : Written .gt .gt "_gt"
  | ge : Written .ge .gtEq "_ge"
  | min : Written .min .gtEq "_min"
  | max : Written .max .ltEq "_max"
  | like : Written .like .like "_like"
  | ilike : Written .ilike .ilike "_ilike"

lemma Comparison.written_iff {c : Comparison} {op : BinaryOp} {ending : String} :
    c.Written op ending ↔ op = c.operator ∧ ending = c.suffix := by
  constructor
  · rintro ⟨⟩ <;> exact ⟨rfl, rfl⟩
  · rintro ⟨rfl, rfl⟩
    cases c <;> constructor

/-- The predicate that an operator asks of a target. A list is of the members that are not null,
each named after its place among all members. -/
inductive Operator.Predicate (key : String) (target : Expr) : Operator → Expr → Prop
  | compare {c : Comparison} {op : BinaryOp} {ending : String} (v : Scalar) :
    c.Written op ending →
    Predicate key target (.compare c v)
      (.binary target op (.parameter (key ++ ending) (some v)))
  | member (vs : List Scalar) :
    Predicate key target (.member vs)
      (.inList target
        (((vs.zipIdx 1).filter fun p => !p.1.isNull).map fun p =>
          .parameter (key ++ "_in_" ++ toString p.2) (some p.1))
        false)

lemma Operator.predicate_iff {key : String} {target p : Expr} {o : Operator} :
    o.Predicate key target p ↔ p = o.asks key target := by
  constructor
  · rintro (⟨v, h⟩ | ⟨vs⟩)
    · obtain ⟨rfl, rfl⟩ := Comparison.written_iff.mp h
      rfl
    · simp [asks, bindings]
  · rintro rfl
    cases o with
    | compare c v => exact .compare v (Comparison.written_iff.mpr ⟨rfl, rfl⟩)
    | member vs =>
      have h : Predicate key target (.member vs) _ := .member vs
      simpa [asks, bindings, Function.comp_def] using h

namespace Injection

variable {atom : Expr → Truth} {resolve : String → Result Expr}

lemma truth_grouped {ps : List Expr} :
    (∀ p ∈ (grouped ps).toList, p.truth atom = .true) ↔ ∀ p ∈ ps, p.truth atom = .true := by
  match ps with
  | [] => simp
  | [p] => simp
  | p :: q :: ps => simp [grouped_cons_cons, Expr.truth_foldl_conj, and_assoc]

/-- What a condition asks for is true of its target. -/
def Asked (atom : Expr → Truth) (resolve : String → Result Expr) (key : String)
    (c : Condition) : Prop :=
  ∀ o ∈ c.comparisons, o.isLive = true →
    ∃ target p, resolve (c.column?.getD key) = .ok target ∧
      o.Predicate key target p ∧ p.truth atom = .true

lemma truth_predicates {key : String} {c : Condition} {ps : List Expr}
    (h : predicates resolve key c = .ok ps) :
    (∀ p ∈ ps, p.truth atom = .true) ↔ Asked atom resolve key c := by
  rcases predicates_eq_ok h with ⟨target, ht, rfl⟩ | ⟨-, hnone, rfl⟩
  · rw [List.forall_mem_map]
    simp [Asked, ht, Operator.predicate_iff]
  · rw [List.filter_eq_nil_iff] at hnone
    constructor
    · exact fun _ o ho hlive => absurd hlive (hnone o ho)
    · simp

lemma truth_conjuncts {es : List (String × Condition)} {ps : List Expr}
    (h : conjuncts resolve es = .ok ps) :
    (∀ p ∈ ps, p.truth atom = .true) ↔ ∀ e ∈ es, Asked atom resolve e.1 e.2 := by
  induction es generalizing ps with
  | nil =>
    cases h
    simp
  | cons e es ih =>
    obtain ⟨key, c⟩ := e
    obtain ⟨qs, rs, hqs, hrs, rfl⟩ := conjuncts_cons_eq_ok.mp h
    rw [List.forall_mem_append, truth_grouped, truth_predicates hqs, ih hrs, List.forall_mem_cons]

end Injection

open Injection

/-- A select into which conditions are injected keeps everything but its filter. A row passes the
new filter exactly when it passes the old one and every operator with a value is true of its target.
Conditions without any value are refused or change nothing. -/
theorem ConditionMap.passes_inject (m : ConditionMap) (resolver : Option ColumnResolver)
    (allowAllNull : Bool) (s : Select) (t : Statement)
    (h : m.inject resolver allowAllNull (.select s) = .ok t) :
    ∃ s', t = .select s' ∧ s' = { s with filter := s'.filter } ∧
      (∀ atom, s'.Passes atom ↔ s.Passes atom ∧
        ∀ e ∈ m.entries, ∀ o ∈ e.2.comparisons, o.isLive = true →
          ∃ target p, s.target resolver (e.2.column?.getD e.1) = .ok target ∧
            o.Predicate e.1 target p ∧ p.truth atom = .true) ∧
      (m.entries ≠ [] → ¬m.IsLive → allowAllNull = true ∧ s'.filter = s.filter) := by
  by_cases hm : m.entries = []
  · have ht : t = .select s := by
      simp only [inject, hm, Except.ok.injEq] at h
      exact h.symm
    refine ⟨s, ht, ?_, by simp [hm], absurd hm⟩
    cases s
    rfl
  · obtain ⟨q, columns, ps, hq, -, hps, hallow, rfl⟩ := (inject_eq_ok hm).mp h
    cases hq
    refine ⟨_, rfl, Select.foldl_appendWhere_eq ps s, ?_, ?_⟩
    · intro atom
      rw [Select.passes_foldl_appendWhere, truth_conjuncts hps]
      rfl
    · intro _ hdead
      have hnil : ps = [] := (conjuncts_eq_ok_nil hps).mpr (isLive_iff.mp hdead)
      exact ⟨hallow hnil, by rw [hnil, List.foldl_nil]⟩

/-- A range and a list next to a disjunction, with a null on its own and one in the list. -/
theorem ConditionMap.passes_inject_range :
    let total : Expr := .column (some "t") "total"
    let kind : Expr := .column (some "t") "kind"
    let paid : Expr := .binary (.column none "paid") .eq (.literal (.bool true))
    let free : Expr := .binary total .eq (.number "0")
    let s : Select :=
      { items := [{ value := total }, { value := kind }]
        froms := [.table none "t" none]
        filter := some (.binary paid .or free) }
    let m : ConditionMap :=
      ⟨[("total", .operators none [.compare .min (.int 1), .compare .max (.int 9)]),
        ("note", .value .null),
        ("k", .operators (some "kind") [.member [.text "a", .null, .text "b"]])]⟩
    ∃ t, m.inject none false (.select s) = .ok t ∧ ∃ s', t = .select s' ∧
      ∀ atom, s'.Passes atom ↔
        ((paid.truth atom).or (free.truth atom) = .true ∧
          atom (.binary total .gtEq (.bound "total_min" (.int 1))) = .true ∧
          atom (.binary total .ltEq (.bound "total_max" (.int 9))) = .true ∧
          atom (.inList kind [.bound "k_in_1" (.text "a"), .bound "k_in_3" (.text "b")] false) =
            .true) := by
  intro total kind paid free s m
  have hcolumns : Report.selectable none (.select s) =
      .ok [⟨"t", "total"⟩, ⟨"t", "kind"⟩, ⟨"t", "paid"⟩] := by rfl
  have hconjuncts : conjuncts (s.target none) m.entries = .ok
      [.nested (.conj (.binary total .gtEq (.bound "total_min" (.int 1)))
          (.binary total .ltEq (.bound "total_max" (.int 9)))),
        .inList kind [.bound "k_in_1" (.text "a"), .bound "k_in_3" (.text "b")] false] := by
    rw [Select.target_eq hcolumns]
    rfl
  have htotal : s.target none "total" = .ok total := by
    rw [Select.target_eq hcolumns]
    rfl
  have hkind : s.target none "kind" = .ok kind := by
    rw [Select.target_eq hcolumns]
    rfl
  have h : m.inject none false (.select s) = .ok _ :=
    (inject_eq_ok (by simp [m])).mpr ⟨s, _, _, rfl, hcolumns, hconjuncts, by simp, rfl⟩
  obtain ⟨s', ht, -, hpass, -⟩ := passes_inject m none false s _ h
  refine ⟨_, h, s', ht, fun atom => ?_⟩
  have hfirst : Nat.repr 1 = "1" := by rfl
  have hthird : Nat.repr 3 = "3" := by rfl
  rw [hpass]
  simp [m, s, Select.Passes, Condition.comparisons, Condition.column?, Operator.isLive,
    Operator.predicate_iff, Operator.asks, Operator.bindings, Comparison.operator,
    Comparison.suffix, Scalar.isNull, List.zipIdx, Expr.truth, Expr.bound, and_assoc, htotal, hkind,
    hfirst, hthird]

end SqlLoom
