import SqlLoom.Proofs.Walk.Tour

/-! The entries of the queries around a place, as they are found in its frames, and their reports
where a walk goes through them. -/
namespace SqlLoom

namespace Tour

lemma source_mem_source (x : Source) (sc : Scopes) : .source x sc ∈ source x sc := by
  cases x <;> simp [source]

end Tour

namespace Scopes

/-- An entry of a query around, with what it refers to from the frame of the query. -/
def Lists (sc : Scopes) (r : ResolvedSource) : Prop :=
  ∃ xs below, .query xs :: below <:+ sc ∧ r.source ∈ xs ∧ r.relation = relation below r.source

lemma Lists.cons {sc : Scopes} {r : ResolvedSource} (h : sc.Lists r) (f : Frame) :
    Lists (f :: sc) r := by
  obtain ⟨xs, below, hs, hr⟩ := h
  exact ⟨xs, below, hs.trans (List.suffix_cons f sc), hr⟩

lemma lists_of_mem_currentSources {sc : Scopes} {r : ResolvedSource} (h : r ∈ sc.currentSources) :
    sc.Lists r := by
  induction sc with
  | nil => exact absurd h List.not_mem_nil
  | cons f sc ih =>
    cases f with
    | query xs =>
      obtain ⟨x, hx, rfl⟩ := List.mem_map.mp h
      exact ⟨xs, sc, List.suffix_rfl, hx, rfl⟩
    | _ => exact (ih h).cons _

lemma lists_of_resolveQualifier {q : String} {d : Nat} {sc : Scopes} {r : ResolvedSource}
    (h : sc.resolveQualifier q d = some r) : sc.Lists r := by
  induction sc generalizing d with
  | nil => simp [resolveQualifier] at h
  | cons f sc ih =>
    cases f with
    | query xs =>
      simp only [resolveQualifier] at h
      split at h
      · next x hx =>
        cases h
        exact ⟨xs, sc, List.suffix_rfl, List.mem_of_find?_eq_some hx, rfl⟩
      · exact (ih h).cons _
    | _ => exact (ih h).cons _

/-- The frame of a query hides no common table. -/
lemma relation_query (xs : List Source) (below : Scopes) (x : Source) :
    relation (.query xs :: below) x = relation below x := by
  cases x with
  | table schema name a => cases schema <;> rfl
  | _ => rfl

end Scopes

end SqlLoom
