import SqlLoom.Proofs.Layout.Front
import SqlLoom.Proofs.Walk.Contents

/-! Every placeholder that is written is one that the walk reports. What the walk reports beyond
them is not written: the partitions of a window that has a name, and the tables that a set operation
hoists a second time. -/
namespace SqlLoom.Layout

/-- The pieces hold no placeholder that is not reported. -/
def Covered (es : List Event) (ps : List Piece) : Prop := occurrences ps ⊆ placeholders es

namespace Covered

variable {e : Event} {es es' : List Event} {ps ps' : List Piece}

lemma nil (es : List Event) : Covered es [] := List.nil_subset _

lemma append (h : Covered es ps) (h' : Covered es' ps') : Covered (es ++ es') (ps ++ ps') := by
  rw [Covered, occurrences_append, placeholders_append]
  exact List.append_subset.mpr
    ⟨List.Subset.trans h (List.subset_append_left _ _),
      List.Subset.trans h' (List.subset_append_right _ _)⟩

lemma skip (e : Event) (h : Covered es ps) : Covered (e :: es) ps := by
  rw [Covered, placeholders_cons]
  exact List.Subset.trans h (List.subset_append_right _ _)

lemma before (es' : List Event) (h : Covered es ps) : Covered (es ++ es') ps := by
  simpa using h.append (nil es')

lemma after (es : List Event) (h : Covered es' ps) : Covered (es ++ es') ps := by
  simpa using (nil es).append h

/-- Of tables that are covered each, what a set operation keeps is covered. -/
lemma hoistedWith (d : Nat) {clauses : List (Bool × List (CommonTable × List Piece))}
    (h : ∀ x ∈ clauses.flatMap (·.2), Covered es x.2) :
    Covered es (marks (Layout.hoistedWith d clauses).1 ++
      marks (Layout.hoistedWith d clauses).2.flatten) := by
  have hclashes : ∀ names : List String, occurrences (names.map .clash) = [] := by
    simp [occurrences, List.filterMap_map]
  have hkept := Hoisted.kept_ofTables_subset Prod.fst (clauses.flatMap (·.2))
  have hflatten : ∀ ts : List (CommonTable × List Piece), (∀ x ∈ ts, Covered es x.2) →
      Covered es (ts.map (·.2)).flatten := by
    intro ts hts
    induction ts with
    | nil => exact nil es
    | cons x ts ih =>
      rw [List.forall_mem_cons] at hts
      rw [Covered, List.map_cons, List.flatten_cons, occurrences_append]
      exact List.append_subset.mpr ⟨hts.1, ih hts.2⟩
  rw [Covered, occurrences_append, occurrences_marks, marks_hoistedWith, occurrences_marks,
    Layout.hoistedWith, hclashes, List.nil_append]
  exact hflatten _ fun x hx => h x (hkept hx)

end Covered

end SqlLoom.Layout
