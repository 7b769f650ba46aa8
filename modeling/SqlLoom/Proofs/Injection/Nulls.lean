import SqlLoom.Proofs.Injection.Conditions

/-! Conditions without a value. They add nothing to the filter, but the target of one that is not a
bare null is looked up all the same, and a failing search refuses the whole map. -/
namespace SqlLoom

namespace Injection

variable {resolve : String → Result Expr}

/-- The target of a condition is found, if it is looked up. -/
def Found (resolve : String → Result Expr) (e : String × Condition) : Prop :=
  e.2.looksUp = true → ∃ target, resolve (e.2.column?.getD e.1) = .ok target

/-- The first search that fails is that of a condition without a value. -/
def NullFails (resolve : String → Result Expr) (es : List (String × Condition)) (error : Error) :
    Prop :=
  ∃ before key c after, es = before ++ (key, c) :: after ∧ c.isLive = false ∧ c.looksUp = true ∧
    resolve (c.column?.getD key) = .error error ∧ ∀ e ∈ before, Found resolve e

lemma predicates_of_found {key : String} {c : Condition} (h : Found resolve (key, c)) :
    ∃ ps, predicates resolve key c = .ok ps := by
  rw [predicates_eq]
  by_cases hl : c.looksUp = true
  · obtain ⟨target, ht⟩ := h hl
    exact ⟨_, by rw [if_pos hl, ht]; rfl⟩
  · exact ⟨[], if_neg hl⟩

lemma found_of_predicates {key : String} {c : Condition} {ps : List Expr}
    (h : predicates resolve key c = .ok ps) : Found resolve (key, c) := by
  intro hl
  rcases predicates_eq_ok h with ⟨target, ht, -⟩ | ⟨hskip, -⟩
  · exact ⟨target, ht⟩
  · simp [hl] at hskip

lemma conjuncts_of_found {es : List (String × Condition)} (h : ∀ e ∈ es, Found resolve e) :
    ∃ ps, conjuncts resolve es = .ok ps := by
  induction es with
  | nil => exact ⟨[], rfl⟩
  | cons e es ih =>
    rw [List.forall_mem_cons] at h
    obtain ⟨ps, hps⟩ := predicates_of_found h.1
    obtain ⟨qs, hqs⟩ := ih h.2
    exact ⟨_, conjuncts_cons_eq_ok.mpr ⟨ps, qs, hps, hqs, rfl⟩⟩

lemma NullFails.conjuncts_eq {es : List (String × Condition)} {error : Error}
    (h : NullFails resolve es error) : conjuncts resolve es = .error error := by
  obtain ⟨before, key, c, after, rfl, -, hl, hr, hbefore⟩ := h
  obtain ⟨ps, hps⟩ := conjuncts_of_found hbefore
  have hpredicates : predicates resolve key c = .error error := by
    rw [predicates_eq, if_pos hl, hr]
    rfl
  rw [conjuncts_append, hps, conjuncts_cons, hpredicates]
  rfl

lemma NullFails.cons {e : String × Condition} {es : List (String × Condition)} {error : Error}
    (he : Found resolve e) (h : NullFails resolve es error) :
    NullFails resolve (e :: es) error := by
  obtain ⟨before, key, c, after, rfl, hlive, hl, hr, hbefore⟩ := h
  exact ⟨e :: before, key, c, after, rfl, hlive, hl, hr, List.forall_mem_cons.mpr ⟨he, hbefore⟩⟩

/-- If no condition without a value is the first to fail, they might as well be left out. -/
lemma conjuncts_filter_isLive {es : List (String × Condition)}
    (h : ∀ error, ¬NullFails resolve es error) :
    conjuncts resolve (es.filter fun e => e.2.isLive) = conjuncts resolve es := by
  induction es with
  | nil => rfl
  | cons e es ih =>
    obtain ⟨key, c⟩ := e
    have hkeep : c.isLive = true → ((key, c) :: es).filter (fun e => e.2.isLive) =
        (key, c) :: es.filter fun e => e.2.isLive := fun hlive => List.filter_cons_of_pos hlive
    rw [conjuncts_cons]
    cases hp : predicates resolve key c with
    | error error =>
      have hlive : c.isLive = true := by
        by_contra hn
        rw [predicates_eq] at hp
        by_cases hl : c.looksUp = true
        · rw [if_pos hl] at hp
          cases hr : resolve (c.column?.getD key) with
          | error e => exact h e ⟨[], key, c, es, rfl, by simpa using hn, hl, hr, by simp⟩
          | ok target => simp [hr, Except.map] at hp
        · simp [hl] at hp
      rw [hkeep hlive, conjuncts_cons, hp]
      rfl
    | ok ps =>
      have hrest := ih fun error he => h error (he.cons (found_of_predicates hp))
      cases hlive : c.isLive with
      | true => rw [hkeep hlive, conjuncts_cons, hp, hrest]
      | false =>
        have hnil : ps = [] := (predicates_eq_ok_nil hp).mpr hlive
        rw [List.filter_cons_of_neg (by simp [hlive]), hrest, hnil]
        cases conjuncts resolve es <;> rfl

end Injection

open Injection

namespace ConditionMap

/-- The conditions that have a value. -/
def live (m : ConditionMap) : ConditionMap := ⟨m.entries.filter fun e => e.2.isLive⟩

/-- A condition without a value is the first whose target is not found in the query. -/
def NullFails (m : ConditionMap) (resolver : Option ColumnResolver) (s : Statement)
    (error : Error) : Prop :=
  ∃ q columns, s.asRoot = .ok q ∧ Report.selectable resolver (.select q) = .ok columns ∧
    Injection.NullFails (q.target resolver) m.entries error

variable {m : ConditionMap}

lemma entries_ne_nil_of_isLive (h : m.IsLive) : m.entries ≠ [] := by
  obtain ⟨e, he, -⟩ := h
  exact List.ne_nil_of_mem he

lemma isLive_live (h : m.IsLive) : m.live.IsLive := by
  obtain ⟨e, he, hl⟩ := h
  exact ⟨e, List.mem_filter.mpr ⟨he, hl⟩, hl⟩

/-- A map with a value is injected as its conjuncts say. -/
lemma inject_of_isLive (h : m.IsLive) (resolver : Option ColumnResolver) (allowAllNull : Bool)
    (s : Statement) :
    m.inject resolver allowAllNull s = (do
      let q ← s.asRoot
      let columns ← Report.selectable resolver (.select q)
      let ps ← conjuncts (resolveTarget q.items columns) m.entries
      return .select (ps.foldl (fun q p => q.appendWhere p) q)) := by
  rw [inject_eq (entries_ne_nil_of_isLive h)]
  congr 1
  funext q
  congr 1
  funext columns
  cases hps : conjuncts (resolveTarget q.items columns) m.entries with
  | error e => rfl
  | ok ps =>
    have hne : ps ≠ [] := fun hnil => isLive_iff.mpr ((conjuncts_eq_ok_nil hps).mp hnil) h
    simp [bind, Except.bind, pure, Except.pure, hne]

/-- Leaving out the conditions without a value changes the result exactly if the search for the
target of one of them is the first to fail and the others alone do not fail with the same error. A
bare null is never searched for. -/
theorem inject_live (m : ConditionMap) (h : m.IsLive) (resolver : Option ColumnResolver)
    (allowAllNull : Bool) (s : Statement) :
    (∀ error, m.NullFails resolver s error → m.inject resolver allowAllNull s = .error error) ∧
    (m.live.inject resolver allowAllNull s = m.inject resolver allowAllNull s ↔
      ∀ error, m.NullFails resolver s error →
        m.live.inject resolver allowAllNull s = .error error) ∧
    ((∀ e ∈ m.entries, e.2.isLive = true ∨ e.2.looksUp = false) →
      m.live.inject resolver allowAllNull s = m.inject resolver allowAllNull s) := by
  have hfails : ∀ error, m.NullFails resolver s error →
      m.inject resolver allowAllNull s = .error error := by
    rintro error ⟨q, columns, hq, hcolumns, hnull⟩
    rw [Select.target_eq hcolumns] at hnull
    rw [inject_of_isLive h, hq]
    simp only [bind, Except.bind, hcolumns, hnull.conjuncts_eq]
  have hsame : (∀ error, ¬m.NullFails resolver s error) →
      m.live.inject resolver allowAllNull s = m.inject resolver allowAllNull s := by
    intro hno
    rw [inject_of_isLive h, inject_of_isLive (isLive_live h)]
    cases hq : s.asRoot with
    | error e => rfl
    | ok q =>
      cases hcolumns : Report.selectable resolver (.select q) with
      | error e => simp only [bind, Except.bind, hcolumns]
      | ok columns =>
        have hfilter : conjuncts (resolveTarget q.items columns) m.live.entries =
            conjuncts (resolveTarget q.items columns) m.entries := by
          refine conjuncts_filter_isLive fun error hnull => hno error ⟨q, columns, hq, hcolumns, ?_⟩
          rwa [Select.target_eq hcolumns]
        simp only [bind, Except.bind, hcolumns, hfilter]
  refine ⟨hfails, ⟨fun heq error he => heq.trans (hfails error he), fun hall => ?_⟩, ?_⟩
  · by_cases hno : ∀ error, ¬m.NullFails resolver s error
    · exact hsame hno
    · simp only [not_forall, not_not] at hno
      obtain ⟨error, he⟩ := hno
      rw [hall error he, hfails error he]
  · rintro hbare
    refine hsame fun error hnull => ?_
    obtain ⟨q, columns, -, -, before, key, c, after, he, hlive, hl, -⟩ := hnull
    rcases hbare (key, c) (by simp [he]) with hc | hc
    · simp [hlive] at hc
    · simp [hl] at hc

/-- A null comparison with a column that nobody shows refuses a map that is fine without it. -/
theorem inject_live_unknown :
    let id : Expr := .column (some "u") "id"
    let s : Select := { items := [{ value := id }], froms := [.table none "users" (some "u")] }
    let m : ConditionMap :=
      ⟨[("id", .value (.int 1)), ("nick", .operators none [.compare .like .null])]⟩
    m.IsLive ∧ m.inject none false (.select s) = .error (notVisible "nick") ∧
      ∃ t, m.live.inject none false (.select s) = .ok t := by
  intro id s m
  have hm : m.IsLive := ⟨("id", .value (.int 1)), List.mem_cons_self, rfl⟩
  have hcolumns : Report.selectable none (.select s) = .ok [⟨"u", "id"⟩] := by rfl
  have htarget := Select.target_eq hcolumns
  have hnull : m.NullFails none (.select s) (notVisible "nick") := by
    refine ⟨s, _, rfl, hcolumns, [("id", .value (.int 1))], "nick", _, [], rfl, rfl, rfl, ?_, ?_⟩
    · rw [htarget]
      rfl
    · rw [List.forall_mem_singleton]
      exact fun _ => ⟨id, by rw [htarget]; rfl⟩
  have hconjuncts : conjuncts (s.target none) m.live.entries =
      .ok [.binary id .eq (.bound "id" (.int 1))] := by
    rw [htarget]
    rfl
  have hne := entries_ne_nil_of_isLive (isLive_live hm)
  exact ⟨hm, (inject_live m hm none false (.select s)).1 _ hnull, _,
    (inject_eq_ok hne).mpr ⟨s, _, _, rfl, hcolumns, hconjuncts, by simp, rfl⟩⟩

end ConditionMap

end SqlLoom
