import SqlLoom.Proofs.Walk.Entries

/-! A walk that leaves nothing out goes on to the parts of what it reports: the whole tour of every
statement, and the entries of every select from the frame of its query. -/
namespace SqlLoom

/-- A statement is toured among the reports, and a select stands in the frame of its query. -/
def Event.Followed (T : List Event) : Event → Prop
  | .statement s sc => ∃ asOperand, Tour.statement asOperand s sc ⊆ T
  | .select s sc => ∃ below, sc = .query s.sources :: below
  | _ => True

/-- Reports that are followed, if they are among those of the walk. -/
def Follows (T es : List Event) : Prop := es ⊆ T → ∀ e ∈ es, e.Followed T

namespace Follows

variable {T es es' : List Event} {e : Event}

lemma nil : Follows T [] := fun _ _ h => absurd h List.not_mem_nil

lemma append (h : Follows T es) (h' : Follows T es') : Follows T (es ++ es') := by
  intro hT e he
  rw [List.append_subset] at hT
  exact (List.mem_append.mp he).elim (h hT.1 e) (h' hT.2 e)

lemma cons (he : e.Followed T) (h : Follows T es) : Follows T (e :: es) := by
  intro hT
  exact List.forall_mem_cons.mpr ⟨he, h (List.cons_subset.mp hT).2⟩

lemma inside {f : Frame} {sc : Scopes} {body : Scopes → List Event}
    (h : Follows T (body (f :: sc))) : Follows T (Tour.inside f sc body) := by
  refine append (cons ?_ h) (cons ?_ nil) <;> trivial

end Follows

lemma Walk.follows (T : List Event) : Walk.Law (fun _ => false) fun _ _ es => Follows T es where
  nil _ := .nil
  append := .append
  plain {e} he := .cons (by cases e <;> trivial) .nil
  entry _ _ := .cons trivial .nil
  whole {asOperand _ _ _ _} h hwalk :=
    fun hT => Follows.cons ⟨asOperand, Tour.statement_eq_of_walk hwalk ▸ hT⟩ h hT
  table index {t sc es _} h _ := by
    have hinside : Follows T (Tour.inside (.body t.name) sc fun _ => es) := h.inside
    exact .cons trivial (hinside.append (.cons trivial .nil))
  pass h := absurd h Bool.false_ne_true
  inward _ h := h
  change h := h.inside
  select {_ sc _ _} h _ := Follows.inside (.cons ⟨sc, rfl⟩ h)

/-- Whatever is reported, its parts are reported too. -/
lemma Tour.followed_of_mem_trace {s : Statement} {e : Event} (he : e ∈ s.trace) :
    e.Followed s.trace.reverse :=
  (Walk.follows _).walk s (List.Subset.refl _) e (List.mem_reverse.mpr he)

end SqlLoom
