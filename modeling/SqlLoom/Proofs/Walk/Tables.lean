import SqlLoom.Proofs.Walk.Induction

/-! The common tables that a walk passes. Between the report of a table and that of its end stand
those of its body, among them whole tables that are declared there. What is left over is the
table's own. -/
namespace SqlLoom

/-- The start or the end of a common table. -/
def Event.BoundsTable : Event → Prop
  | .table _ _ _ | .endTable _ _ => True
  | _ => False

/-- A common table that has been walked: its index in its clause, the scopes around its body, and
the reports from its body that are not from a table declared in it. -/
structure TableVisit where
  index : Nat
  table : CommonTable
  scopes : Scopes
  own : List Event

/-- The reports outside of all tables, and the visits of the tables: those declared in the body of
one come right before it. -/
inductive Visits : List Event → List Event → List TableVisit → Prop
  | nil : Visits [] [] []
  | outside {e es own vs} : ¬e.BoundsTable → Visits es own vs → Visits (e :: es) (e :: own) vs
  | table {index t sc inner nested es own vs} :
    Visits (Tour.inside (.body t.name) sc (Tour.statement false t.body)) inner nested →
    Visits es own vs →
    Visits (.table index t sc :: Tour.inside (.body t.name) sc (Tour.statement false t.body) ++
      .endTable t sc :: es) own (nested ++ ⟨index, t, sc, inner⟩ :: vs)

lemma Visits.append {es es' own own' : List Event} {vs vs' : List TableVisit}
    (h : Visits es own vs) (h' : Visits es' own' vs') :
    Visits (es ++ es') (own ++ own') (vs ++ vs') := by
  induction h with
  | nil => exact h'
  | outside he _ ih => exact .outside he ih
  | table hin _ _ ih =>
    rw [List.append_assoc, List.append_assoc]
    exact .table hin ih

/-- The tables in these reports are nested like brackets. -/
def Visited (es : List Event) : Prop := ∃ own vs, Visits es own vs

namespace Visited

variable {e : Event} {es es' : List Event} {sc : Scopes}

lemma nil : Visited [] := ⟨[], [], .nil⟩

lemma append (h : Visited es) (h' : Visited es') : Visited (es ++ es') := by
  obtain ⟨_, _, h⟩ := h
  obtain ⟨_, _, h'⟩ := h'
  exact ⟨_, _, h.append h'⟩

lemma cons (he : ¬e.BoundsTable) (h : Visited es) : Visited (e :: es) := by
  obtain ⟨_, _, h⟩ := h
  exact ⟨_, _, .outside he h⟩

lemma inside {f : Frame} {body : Scopes → List Event} (h : Visited (body (f :: sc))) :
    Visited (Tour.inside f sc body) := append (cons id h) (cons id nil)

lemma table {index : Nat} {t : CommonTable}
    (h : Visited (Tour.statement false t.body (.body t.name :: sc)))
    (h' : Visited es) : Visited (.table index t sc ::
      Tour.inside (.body t.name) sc (Tour.statement false t.body) ++ .endTable t sc :: es) := by
  obtain ⟨_, _, hin⟩ := inside h
  obtain ⟨_, _, h'⟩ := h'
  exact ⟨_, _, .table hin h'⟩

end Visited

/-- The tables in the walk of a statement are nested like brackets. -/
lemma Walk.visited : Walk.Law (fun _ => false) fun _ _ es => Visited es where
  nil _ := .nil
  append := .append
  plain {e} he := .cons (by cases e <;> first | exact id | exact he.elim) .nil
  entry _ _ := .cons id .nil
  whole h _ := .cons id h
  table index {t sc es _} h hwalk := by
    have hbody := Tour.statement_eq_of_walk hwalk
    subst hbody
    exact .table h .nil
  pass h := absurd h Bool.false_ne_true
  inward _ h := h
  change h := h.inside
  select h _ := Visited.inside (.cons id h)

end SqlLoom
