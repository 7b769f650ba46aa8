import Mathlib.Data.List.Nodup
import Mathlib.Data.List.Induction
import Mathlib.Tactic.Lemma
import SqlLoom.Text

/-! Names up to ASCII case, quoted text read back, and lists without repeats: what `Text.distinct`
keeps, and where a name stands in the result. -/
namespace SqlLoom.Text

lemma sameName_iff {a b : String} : sameName a b = true ↔ foldCase a = foldCase b := by
  simp [sameName]

lemma sameName_trans {a b c : String} (h : sameName a b = true) (h' : sameName c b = true) :
    sameName a c = true := by
  rw [sameName_iff] at h h' ⊢
  rw [h, h']

lemma readEnclosed_cons {closing x : Char} (hx : x ≠ closing) {cs : List Char} (hcs : cs ≠ []) :
    readEnclosed closing (x :: cs) =
      (readEnclosed closing cs).map fun (a, b) => (x :: a, b) := by
  cases cs with
  | nil => exact absurd rfl hcs
  | cons y cs => simp [readEnclosed, hx]

/-- What is enclosed in quotes is read back, unless another quote follows. -/
lemma readEnclosed_double {closing : Char} {rest : List Char} (h : rest.head? ≠ some closing)
    (cs : List Char) :
    readEnclosed closing (double closing cs ++ closing :: rest) = some (cs, rest) := by
  induction cs with
  | nil =>
    cases rest with
    | nil => simp [double, readEnclosed]
    | cons y rest =>
      have hy : y ≠ closing := by simpa using h
      simp [double, readEnclosed, hy]
  | cons x cs ih =>
    by_cases hx : x = closing
    · simp [double, readEnclosed, hx, ih]
    · rw [double, if_neg hx, List.cons_append, readEnclosed_cons hx (by simp), ih]
      rfl

variable {α : Type} [BEq α] [LawfulBEq α]

lemma distinct_concat_of_mem {x : α} {xs : List α} (h : x ∈ distinct xs) :
    distinct (xs ++ [x]) = distinct xs := by
  simpa [distinct, List.foldl_append] using h

lemma distinct_concat_of_not_mem {x : α} {xs : List α} (h : x ∉ distinct xs) :
    distinct (xs ++ [x]) = distinct xs ++ [x] := by
  simpa [distinct, List.foldl_append] using h

@[simp] lemma mem_distinct {x : α} {xs : List α} : x ∈ distinct xs ↔ x ∈ xs := by
  induction xs using List.reverseRecOn with
  | nil => simp [distinct]
  | append_singleton xs y ih =>
    by_cases hy : y ∈ distinct xs
    · rw [distinct_concat_of_mem hy, ih, List.mem_append, List.mem_singleton]
      constructor
      · exact Or.inl
      · rintro (h | rfl)
        · exact h
        · exact ih.mp hy
    · simp [distinct_concat_of_not_mem hy, ih]

lemma nodup_distinct (xs : List α) : (distinct xs).Nodup := by
  induction xs using List.reverseRecOn with
  | nil => simp [distinct]
  | append_singleton xs y ih =>
    by_cases hy : y ∈ distinct xs
    · rwa [distinct_concat_of_mem hy]
    · rw [distinct_concat_of_not_mem hy]
      exact List.nodup_append'.mpr ⟨ih, List.nodup_singleton y, by simpa using hy⟩

lemma distinct_sublist (xs : List α) : (distinct xs).Sublist xs := by
  induction xs using List.reverseRecOn with
  | nil => simp [distinct]
  | append_singleton xs y ih =>
    by_cases hy : y ∈ distinct xs
    · rw [distinct_concat_of_mem hy]
      exact ih.trans (List.sublist_append_left xs [y])
    · rw [distinct_concat_of_not_mem hy]
      exact ih.append_right [y]

/-- What is appended only adds names that were not there. -/
lemma distinct_append (xs ys : List α) :
    distinct (xs ++ ys) = distinct xs ++ (distinct ys).filter fun y => !xs.contains y := by
  induction ys using List.reverseRecOn with
  | nil => simp [distinct]
  | append_singleton ys y ih =>
    rw [← List.append_assoc]
    by_cases hy : y ∈ ys
    · rw [distinct_concat_of_mem (by simp [hy]), distinct_concat_of_mem (by simp [hy]), ih]
    · have hd : distinct (ys ++ [y]) = distinct ys ++ [y] :=
        distinct_concat_of_not_mem (by simp [hy])
      rw [hd]
      by_cases hx : y ∈ xs
      · rw [distinct_concat_of_mem (by simp [hx]), ih]
        simp [List.filter_append, hx]
      · rw [distinct_concat_of_not_mem (by simp [hx, hy]), ih]
        simp [List.filter_append, hx]

lemma distinct_append_congr {xs xs' ys ys' : List α} (hx : distinct xs = distinct xs')
    (hy : distinct ys = distinct ys') : distinct (xs ++ ys) = distinct (xs' ++ ys') := by
  have hm : ∀ y, xs.contains y = xs'.contains y := by
    intro y
    rw [Bool.eq_iff_iff, List.contains_iff_mem, List.contains_iff_mem, ← mem_distinct, hx,
      mem_distinct]
  simp only [distinct_append, hx, hy, hm]

/-- The place of a name among the distinct ones does not change when more is appended. -/
lemma idxOf_distinct_append {x : α} {xs : List α} (h : x ∈ xs) (ys : List α) :
    (distinct (xs ++ ys)).idxOf x = (distinct xs).idxOf x := by
  rw [distinct_append]
  exact List.idxOf_append_of_mem (mem_distinct.mpr h)

/-- Names that have all occurred already add nothing. -/
lemma distinct_append_of_subset {xs ys : List α} (h : ys ⊆ xs) :
    distinct (xs ++ ys) = distinct xs := by
  rw [distinct_append, List.filter_eq_nil_iff.mpr, List.append_nil]
  intro y hy
  simpa using h (mem_distinct.mp hy)

end SqlLoom.Text
