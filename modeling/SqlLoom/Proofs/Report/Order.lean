import SqlLoom.Proofs.Report.Expansion

/-! The tables that a search has met, compared with those that are in scope where it is. Leaving a
statement for the body of a table makes the scopes shrink, while what has been met is kept. As
long as the search only follows tables in scope, the two sides order what they share alike. -/
namespace SqlLoom

/-- In a sorted list nothing that fits comes before what is found. -/
lemma before_of_find? {α : Type} {R : α → α → Prop} {p : α → Bool} {l : List α} {a b : α}
    (hl : l.Pairwise R) (ha : l.find? p = some a) (hb : b ∈ l) (hp : p b = true) :
    b = a ∨ R a b := by
  induction l with
  | nil => simp at hb
  | cons c l ih =>
    rw [List.pairwise_cons] at hl
    by_cases hc : p c = true
    · rw [List.find?_cons_of_pos hc, Option.some.injEq] at ha
      subst ha
      exact (List.mem_cons.mp hb).imp id (hl.1 b)
    · rw [List.find?_cons_of_neg hc] at ha
      rcases List.mem_cons.mp hb with rfl | hb
      · exact absurd hp hc
      · exact ih hl.2 ha hb

/-- What is known when the search stands in the scopes `sc`. -/
structure Ordered (known : List Declared) (sc : Scopes) : Prop where
  /-- Of the tables in scope, the first that fits stands in the innermost clause. -/
  first : ∀ (p : Declared → Bool) (t : Declared), known.find? p = some t → t ∈ sc.declared →
    ∀ u ∈ known, u ∈ sc.declared → p u = true → u.below.length ≤ t.below.length
  /-- Nothing has been met in the body of a table in scope. -/
  unmet : ∀ t ∈ sc.declared, ∀ u ∈ known, ¬t.inner <:+ u.below
  /-- Nothing has been met further in. -/
  apart : ∀ u ∈ known, ¬sc <:+ u.below

namespace Ordered

variable {known : List Declared} {sc : Scopes}

/-- A search starts with everything that is in scope. -/
lemma start (sc : Scopes) : Ordered sc.declared sc where
  first p t ht _ u _ hu hp := by
    rcases before_of_find? (Scopes.pairwise_declared sc) ht hu hp with rfl | h | h
    · exact Nat.le_refl _
    · exact Nat.le_of_lt h
    · exact Nat.le_of_eq h.1
  unmet t ht u hu h := Scopes.not_inner_suffix ht (h.trans (Scopes.below_suffix hu))
  apart u hu h := absurd h.length_le (Nat.not_le.mpr (Scopes.below_length_lt hu))

/-- Further in, after the tables of a clause have been met. -/
lemma extend (h : Ordered known sc) {inner : Scopes} (hs : sc <:+ inner)
    (hlt : sc.length < inner.length) {met : List Declared} (hm : ∀ t ∈ met, t.below = sc) :
    Ordered (met ++ known) inner := by
  -- What has been met stands further out than any clause that begins here.
  have hout : ∀ (sc' : Scopes), sc <:+ sc' → sc.length < sc'.length → ∀ u ∈ met ++ known,
      ¬sc' <:+ u.below := by
    intro sc' hs' hlt' u hu hin
    rcases List.mem_append.mp hu with hu | hu
    · rw [hm u hu] at hin
      exact absurd hin.length_le (Nat.not_le.mpr hlt')
    · exact h.apart u hu (hs'.trans hin)
  have hback : ∀ u ∈ known, u ∈ inner.declared → u ∈ sc.declared := by
    intro u hu hi
    exact (Scopes.declared_of_suffix hs hi).resolve_right (h.apart u hu)
  constructor
  · intro p t ht hti u hu hui hp
    rw [List.find?_append] at ht
    cases hfind : met.find? p with
    | some t' =>
      rw [hfind, Option.some_or, Option.some.injEq] at ht
      subst ht
      rw [hm _ (List.mem_of_find?_eq_some hfind)]
      rcases List.mem_append.mp hu with hu | hu
      · exact Nat.le_of_eq (by rw [hm u hu])
      · exact Nat.le_of_lt (Scopes.below_length_lt (hback u hu hui))
    | none =>
      rw [hfind, Option.none_or] at ht
      rcases List.mem_append.mp hu with hu | hu
      · exact absurd hp (List.find?_eq_none.mp hfind u hu)
      · exact h.first p t ht (hback t (List.mem_of_find?_eq_some ht) hti) u hu (hback u hu hui) hp
  · intro t ht u hu hin
    rcases Scopes.declared_of_suffix hs ht with hold | hnew
    · rcases List.mem_append.mp hu with hu | hu
      · rw [hm u hu] at hin
        exact Scopes.not_inner_suffix hold hin
      · exact h.unmet t hold u hu hin
    · have hbelow : t.below <:+ t.inner := (List.suffix_cons _ _).trans (List.suffix_cons _ _)
      have hlen : t.inner.length = t.below.length + 2 := rfl
      have := hnew.length_le
      exact hout t.inner (hnew.trans hbelow) (by omega) u hu hin
  · exact hout inner hs hlt

/-- In the body of a table in scope. -/
lemma follow (h : Ordered known sc) {t : Declared} (ht : t ∈ sc.declared) :
    Ordered known t.inner where
  first p u hu hui v hv hvi hp :=
    h.first p u hu (Scopes.declared_inner_subset ht hui) v hv
      (Scopes.declared_inner_subset ht hvi) hp
  unmet u hu := h.unmet u (Scopes.declared_inner_subset ht hu)
  apart := h.unmet t ht

end Ordered

namespace Lookup

/-- The search takes a name for a table that is in scope, of several in one clause for the first,
and has met the table that the name means there. -/
structure InScope (m : Lookup) : Prop where
  visible : ∀ t, m.taken = some t → t ∈ m.scopes.declared ∧ t.Leads
  met : ∀ t, m.shown = some t → t ∈ m.known

/-- What a name means is the first table of the name in its clause. -/
lemma leads_of_shown {m : Lookup} {t : Declared} (h : m.shown = some t) : t.Leads := by
  intro u hu
  by_contra hne
  have hname : t.named m.name = true := List.find?_some h
  have huname : Text.sameName u.name m.name = true := by
    rw [Declared.named, Text.sameName_iff] at hname
    rw [Text.sameName_iff]
    rw [← hname, Text.sameName_iff.mp (by simpa using hne)]
  obtain ⟨j, hj, hget⟩ := List.mem_take_iff_getElem.mp hu
  have hji : j < t.index := by omega
  obtain ⟨v, hs, hi, -⟩ := Scopes.mem_declared.mp (List.mem_of_find?_eq_some h)
  have hmem : (⟨t.clause, j, u, t.below⟩ : Declared) ∈ m.scopes.declared := by
    refine Scopes.mem_declared.mpr ⟨v, hs, Nat.lt_trans hji hi, ?_⟩
    exact List.getElem?_eq_some_iff.mpr ⟨(Nat.lt_min.mp hj).2, hget⟩
  rcases before_of_find? (Scopes.pairwise_declared m.scopes) h hmem huname with he | hb | hb
  · exact absurd (congrArg Declared.index he) (Nat.ne_of_lt hji)
  · exact Nat.lt_irrefl _ hb
  · exact Nat.lt_asymm hji hb.2

lemma inScope_of_eq {m : Lookup} (h : m.taken = m.shown) : m.InScope where
  visible t ht := by
    rw [h] at ht
    exact ⟨List.mem_of_find?_eq_some ht, leads_of_shown ht⟩
  met t ht := by
    rw [← h] at ht
    exact List.mem_of_find?_eq_some ht

/-- Two tables of a name that both sides know are the same one, if each side finds one of them. -/
lemma eq_of_inScope {m : Lookup} (ho : Ordered m.known m.scopes) (h : m.InScope) :
    m.taken = m.shown := by
  cases ht : m.taken with
  | none =>
    cases hs : m.shown with
    | none => rfl
    | some u =>
      have := List.find?_eq_none.mp ht u (h.met u hs)
      exact absurd (List.find?_some hs) this
  | some t =>
    obtain ⟨hvis, hlead⟩ := h.visible t ht
    have htn : t.named m.name = true := List.find?_some ht
    cases hs : m.shown with
    | none => exact absurd htn (List.find?_eq_none.mp hs t hvis)
    | some u =>
      have hun : u.named m.name = true := List.find?_some hs
      have hu : u ∈ m.scopes.declared := List.mem_of_find?_eq_some hs
      have hle := ho.first _ t ht hvis u (h.met u hs) hu hun
      rcases before_of_find? (Scopes.pairwise_declared m.scopes) hs hvis htn with rfl | hb | hb
      · rfl
      · exact absurd hle (Nat.not_le.mpr hb)
      · -- Both stand in one clause, where the search would have passed over an earlier table.
        obtain ⟨hclause, -⟩ := Scopes.clause_eq hvis hu hb.1
        obtain ⟨-, -, -, hget⟩ := Scopes.mem_declared.mp hu
        obtain ⟨hlt, hget⟩ := List.getElem?_eq_some_iff.mp hget
        have hmem : u.table ∈ t.clause.take t.index := by
          rw [hclause, List.mem_take_iff_getElem]
          exact ⟨u.index, by omega, hget⟩
        have hfalse := hlead u.table hmem
        rw [Text.sameName_trans hun htn] at hfalse
        simp at hfalse

end Lookup

end SqlLoom
