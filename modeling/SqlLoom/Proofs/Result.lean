import Mathlib.Data.List.Forall2
import SqlLoom.Error

/-! Sequences and traversals of which every step may fail: they succeed if all steps do, and else
fail as one of them. -/
namespace SqlLoom.Result

variable {α β : Type} {g : α → Result β} {xs : List α}

lemma mapM_of_ok {k : α → β} (h : ∀ x ∈ xs, g x = .ok (k x)) : xs.mapM g = .ok (xs.map k) := by
  induction xs with
  | nil => rfl
  | cons x xs ih =>
    rw [List.mapM_cons, h x List.mem_cons_self, ih fun y hy => h y (List.mem_cons_of_mem x hy)]
    rfl

lemma forall₂_of_mapM {ys : List β} (h : xs.mapM g = .ok ys) :
    List.Forall₂ (fun x y => g x = .ok y) xs ys := by
  induction xs generalizing ys with
  | nil =>
    cases h
    exact .nil
  | cons x xs ih =>
    rw [List.mapM_cons] at h
    cases hx : g x with
    | error e => simp [hx, bind, Except.bind] at h
    | ok y =>
      cases hxs : xs.mapM g with
      | error e => simp [hx, hxs, bind, Except.bind] at h
      | ok zs =>
        simp only [hx, hxs, bind, Except.bind, pure, Except.pure, Except.ok.injEq] at h
        subst h
        exact .cons hx (ih hxs)

/-- A traversal that meets an error ends with an error of one of the elements. -/
lemma mapM_of_error {x : α} (hx : x ∈ xs) (h : ∃ e, g x = .error e) :
    ∃ y ∈ xs, ∃ e, g y = .error e ∧ xs.mapM g = .error e := by
  induction xs with
  | nil => exact absurd hx List.not_mem_nil
  | cons y ys ih =>
    rw [List.mapM_cons]
    cases hy : g y with
    | error e => exact ⟨y, List.mem_cons_self, e, hy, rfl⟩
    | ok b =>
      rcases List.mem_cons.mp hx with rfl | hx
      · obtain ⟨e, he⟩ := h
        rw [hy] at he
        cases he
      · obtain ⟨z, hz, e, he, hall⟩ := ih hx
        exact ⟨z, List.mem_cons_of_mem y hz, e, he, by rw [hall]; rfl⟩

lemma run_bind_eq_ok {σ : Type} {d : StateT σ Result α} {k : α → StateT σ Result β} {n m : σ}
    {y : β} (h : (d >>= k).run n = .ok (y, m)) :
    ∃ x l, d.run n = .ok (x, l) ∧ (k x).run l = .ok (y, m) := by
  rw [StateT.run_bind] at h
  cases hd : d.run n with
  | error e =>
    rw [hd] at h
    cases h
  | ok r =>
    rw [hd] at h
    exact ⟨r.1, r.2, rfl, h⟩

lemma run_liftM_eq_ok {σ : Type} {r : Result α} {n m : σ} {x : α}
    (h : (liftM r : StateT σ Result α).run n = .ok (x, m)) : r = .ok x ∧ n = m := by
  cases r <;> cases h
  exact ⟨rfl, rfl⟩

end SqlLoom.Result
