import Mathlib.Data.List.Nodup
import Mathlib.Data.List.Perm.Subperm
import SqlLoom.Scalar

/-! Comparison of bound values. On documents without repeated keys it is Euclidean: two values
that agree with a third one agree with each other. -/
namespace SqlLoom

lemma Binary64.equals_euclid {x y z : Binary64} (hy : x.equals y = true)
    (hz : x.equals z = true) : y.equals z = true := by
  grind [Binary64.equals, Binary64.isZero, Binary64.exponentBits, Binary64.fractionBits]

lemma JsonNumber.equals_euclid {x y z : JsonNumber} (hy : x.equals y = true)
    (hz : x.equals z = true) : y.equals z = true := by
  cases x <;> cases y <;> cases z <;> simp_all [JsonNumber.equals]
  exact Binary64.equals_euclid hy hz

namespace Json

mutual
/-- No object of the document holds a key twice. -/
def Proper : Json → Prop
  | .arr items => ProperItems items
  | .obj members => (members.map Prod.fst).Nodup ∧ ProperMembers members
  | _ => True
def ProperItems : List Json → Prop
  | [] => True
  | j :: js => j.Proper ∧ ProperItems js
def ProperMembers : List (String × Json) → Prop
  | [] => True
  | (_, j) :: ms => j.Proper ∧ ProperMembers ms
end

lemma ProperMembers.of_mem {k : String} {j : Json} {ms : List (String × Json)}
    (hp : ProperMembers ms) (h : (k, j) ∈ ms) : j.Proper := by
  induction ms with
  | nil => simp at h
  | cons m ms ih =>
    rcases List.mem_cons.mp h with rfl | ht
    · exact hp.1
    · exact ih hp.2 ht

lemma lookup_eq_some_of_mem {α : Type} {k : String} {v : α} {ms : List (String × α)}
    (hn : (ms.map Prod.fst).Nodup) (h : (k, v) ∈ ms) : lookup k ms = some v := by
  induction ms with
  | nil => simp at h
  | cons m ms ih =>
    obtain ⟨k', v'⟩ := m
    rw [List.map_cons, List.nodup_cons] at hn
    rcases List.mem_cons.mp h with he | ht
    · obtain ⟨rfl, rfl⟩ := Prod.mk.inj he
      simp [lookup]
    · have hk : k' ≠ k := by
        rintro rfl
        exact hn.1 (List.mem_map.mpr ⟨_, ht, rfl⟩)
      simpa [lookup, hk] using ih hn.2 ht

lemma mem_of_lookup_eq_some {α : Type} {k : String} {v : α} {ms : List (String × α)}
    (h : lookup k ms = some v) : (k, v) ∈ ms := by
  induction ms with
  | nil => simp [lookup] at h
  | cons m ms ih =>
    obtain ⟨k', v'⟩ := m
    by_cases hk : k' = k
    · subst hk
      simp only [lookup, if_true] at h
      simp [Option.some.inj h]
    · simp only [lookup, hk, if_false] at h
      exact List.mem_cons_of_mem _ (ih h)

lemma membersIn_iff (ms ns : List (String × Json)) :
    membersIn ms ns = true ↔
      ∀ k j, (k, j) ∈ ms → ∃ j', lookup k ns = some j' ∧ j.equals j' = true := by
  induction ms with
  | nil => simp [membersIn]
  | cons m ms ih =>
    obtain ⟨k, j⟩ := m
    rw [membersIn, Bool.and_eq_true, ih]
    cases hl : lookup k ns with
    | none =>
      simp only [Bool.false_eq_true, false_and, false_iff]
      intro h
      obtain ⟨j', hj', _⟩ := h k j (by simp)
      simp [hl] at hj'
    | some j' =>
      constructor
      · rintro ⟨h1, h2⟩ k' i hm
        rcases List.mem_cons.mp hm with he | ht
        · obtain ⟨rfl, rfl⟩ := Prod.mk.inj he
          exact ⟨j', hl, h1⟩
        · exact h2 k' i ht
      · intro h
        refine ⟨?_, fun k' i hm => h k' i (List.mem_cons_of_mem _ hm)⟩
        obtain ⟨i, hi, he⟩ := h k j (by simp)
        rw [hl] at hi
        cases hi
        exact he

/-- Of two lists with as many keys, the second without repeats, the first names every key of
the second as soon as it has no repeats itself and is contained in it. -/
lemma keys_subset_of_membersIn {ms ns : List (String × Json)} (hm : (ms.map Prod.fst).Nodup)
    (hl : ms.length = ns.length) (h : membersIn ms ns = true) :
    ns.map Prod.fst ⊆ ms.map Prod.fst := by
  have hs : ms.map Prod.fst ⊆ ns.map Prod.fst := by
    intro k hk
    obtain ⟨⟨k', j⟩, hj, rfl⟩ := List.mem_map.mp hk
    obtain ⟨j', hj', _⟩ := (membersIn_iff ms ns).mp h k' j hj
    exact List.mem_map.mpr ⟨_, mem_of_lookup_eq_some hj', rfl⟩
  have hp : (ms.map Prod.fst).Subperm (ns.map Prod.fst) := List.subperm_of_subset hm hs
  exact (hp.perm_of_length_le (by simp [hl])).symm.subset

mutual
lemma equals_euclid {a b : Json} : (f : Json) → f.Proper → a.Proper →
    f.equals a = true → f.equals b = true → a.equals b = true
  | .null, _, _, ha, hb => by cases a <;> cases b <;> simp_all [equals]
  | .bool _, _, _, ha, hb => by cases a <;> cases b <;> simp_all [equals]
  | .str _, _, _, ha, hb => by cases a <;> cases b <;> simp_all [equals]
  | .num m, _, _, ha, hb => by
    cases a <;> cases b <;> simp only [equals, Bool.false_eq_true] at ha hb
    exact JsonNumber.equals_euclid ha hb
  | .arr xs, hf, hp, ha, hb => by
    cases a <;> cases b <;> simp only [equals, Bool.false_eq_true] at ha hb
    exact equalItems_euclid xs hf hp ha hb
  | .obj ms, hf, hp, ha, hb => by
    cases a <;> cases b <;> simp only [equals, Bool.false_eq_true, Bool.and_eq_true, beq_iff_eq] at ha hb
    rename_i as bs
    simp only [equals, Bool.and_eq_true, beq_iff_eq]
    refine ⟨ha.1.symm.trans hb.1, (membersIn_iff as bs).mpr ?_⟩
    intro k j hj
    have hk : k ∈ ms.map Prod.fst :=
      keys_subset_of_membersIn hf.1 ha.1 ha.2 (List.mem_map.mpr ⟨_, hj, rfl⟩)
    obtain ⟨⟨k', i⟩, hi, rfl⟩ := List.mem_map.mp hk
    obtain ⟨ja, hla, hea⟩ := (membersIn_iff ms as).mp ha.2 k' i hi
    obtain ⟨jb, hlb, heb⟩ := (membersIn_iff ms bs).mp hb.2 k' i hi
    rw [lookup_eq_some_of_mem hp.1 hj] at hla
    cases hla
    exact ⟨jb, hlb, member_euclid ms hf.2 hi (ProperMembers.of_mem hp.2 hj) hea heb⟩
termination_by structural f => f
lemma equalItems_euclid {as bs : List Json} : (xs : List Json) → ProperItems xs → ProperItems as →
    equalItems xs as = true → equalItems xs bs = true → equalItems as bs = true
  | [], _, _, ha, hb => by cases as <;> cases bs <;> simp_all [equalItems]
  | x :: xs, hf, hp, ha, hb => by
    cases as <;> cases bs <;> simp only [equalItems, Bool.false_eq_true, Bool.and_eq_true] at ha hb ⊢
    exact ⟨equals_euclid x hf.1 hp.1 ha.1 hb.1, equalItems_euclid xs hf.2 hp.2 ha.2 hb.2⟩
termination_by structural xs => xs
lemma member_euclid {k : String} {i a b : Json} : (ms : List (String × Json)) → ProperMembers ms →
    (k, i) ∈ ms → a.Proper → i.equals a = true → i.equals b = true → a.equals b = true
  | [], _, hm, _, _, _ => by simp at hm
  | (k', j) :: ms, hf, hm, hp, ha, hb => by
    by_cases he : i = j
    · exact equals_euclid j hf.1 hp (he ▸ ha) (he ▸ hb)
    · exact member_euclid ms hf.2 (by simpa [he] using hm) hp ha hb
termination_by structural ms => ms
end

end Json

namespace Scalar

/-- A structured value without repeated keys; every other scalar is proper. -/
def Proper : Scalar → Prop
  | .json j => j.Proper
  | _ => True

/-- Two values that may be merged with a third one may be merged with each other. -/
lemma sameBinding_euclid {f a b : Scalar} (hf : f.Proper) (hp : a.Proper)
    (ha : f.sameBinding a = true) (hb : f.sameBinding b = true) : a.sameBinding b = true := by
  cases f <;> cases a <;> cases b <;> simp_all [sameBinding, equals, Proper]
  exact Json.equals_euclid _ hf hp ha hb

end Scalar

end SqlLoom
