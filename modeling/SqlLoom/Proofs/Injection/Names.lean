import Mathlib.Data.List.Nodup
import SqlLoom.Proofs.Injection.Bindings

/-! When the parameters of injected conditions have names of their own. A name is the key and a
suffix, and the end of a suffix tells which one it is. So two names are equal only if one part of a
condition is given twice, or if a key that is compared for equality looks like another key with a
suffix. -/
namespace SqlLoom

/-- What is bound to one value: a comparison, or a place in a list. -/
inductive Condition.Part where
  | compare (c : Comparison)
  | member (place : Nat)
  deriving DecidableEq

namespace Condition.Part

/-- What the parameter name adds to the key. -/
def suffix : Part → String
  | .compare c => c.suffix
  | .member i => "_in_" ++ toString i

/-- What follows the last underscore of a suffix. -/
def ending : Part → List Char
  | .compare c => c.suffix.toList.drop 1
  | .member i => (toString i).toList

lemma toList_suffix {p : Part} (hp : p ≠ .compare .eq) :
    ∃ stem, p.suffix.toList = stem ++ '_' :: p.ending := by
  cases p with
  | compare c =>
    refine ⟨[], ?_⟩
    cases c with
    | eq => exact absurd rfl hp
    | _ => simp [suffix, ending, Comparison.suffix]
  | member i => exact ⟨['_', 'i', 'n'], by simp [suffix, ending]⟩

lemma isDigit_ending_member {i : Nat} {c : Char} (h : c ∈ (member i).ending) :
    c.isDigit = true := by
  have hc : c ∈ Nat.toDigits 10 i := by simpa [ending, Nat.repr] using h
  exact Nat.isDigit_of_mem_toDigits (by decide) (by decide) hc

lemma isDigit_ending_compare (c : Comparison) :
    ∀ x ∈ (compare c).ending, x.isDigit = false ∧ x ≠ '_' := by
  cases c <;> simp [ending, Comparison.suffix]

lemma underscore_notMem_ending (p : Part) : '_' ∉ p.ending := by
  intro h
  cases p with
  | compare c => exact (isDigit_ending_compare c '_' h).2 rfl
  | member i => exact absurd (isDigit_ending_member h) (by decide)

lemma ending_injective : Function.Injective ending := by
  have hdigits : ∀ c i, (compare c).ending ≠ (member i).ending := by
    intro c i h
    have hne : (member i).ending ≠ [] := by simp [ending, Nat.repr, Nat.toDigits_ne_nil]
    obtain ⟨x, xs, hx⟩ := List.exists_cons_of_ne_nil hne
    have hm : x ∈ (member i).ending := by simp [hx]
    have hdigit := isDigit_ending_member hm
    rw [(isDigit_ending_compare c x (h ▸ hm)).1] at hdigit
    exact absurd hdigit (by decide)
  intro p q h
  cases p with
  | compare c =>
    cases q with
    | compare d => cases c <;> cases d <;> simp [ending, Comparison.suffix] at h ⊢
    | member i => exact absurd h (hdigits c i)
  | member i =>
    cases q with
    | compare d => exact absurd h.symm (hdigits d i)
    | member j =>
      have hdigits : Nat.toDigits 10 i = Nat.toDigits 10 j := by simpa [ending, Nat.repr] using h
      have hij := congrArg (fun digits => Nat.ofDigitChars 10 digits 0) hdigits
      simp only [Nat.ofDigitChars_ten_toDigits] at hij
      rw [hij]

/-- Unless it stands for equality alone, a name can be read in one way only. -/
lemma append_suffix_inj {k k' : String} {p q : Part} (hp : p ≠ .compare .eq)
    (hq : q ≠ .compare .eq) (h : k ++ p.suffix = k' ++ q.suffix) : k = k' ∧ p = q := by
  obtain ⟨stem, hstem⟩ := toList_suffix hp
  obtain ⟨stem', hstem'⟩ := toList_suffix hq
  have hlists :
      (k.toList ++ stem) ++ '_' :: p.ending = (k'.toList ++ stem') ++ '_' :: q.ending := by
    simpa [hstem, hstem'] using congrArg String.toList h
  -- Read backwards, both endings are what comes before the first underscore.
  have hback := congrArg (fun cs => cs.reverse.takeWhile (· != '_')) hlists
  have hfree : ∀ r : Part, ∀ c ∈ r.ending.reverse, (c != '_') = true := by
    intro r c hc
    have hne : c ≠ '_' := by
      rintro rfl
      exact underscore_notMem_ending r (List.mem_reverse.mp hc)
    simpa using hne
  simp only [List.reverse_append, List.reverse_cons, List.append_assoc,
    List.takeWhile_append_of_pos (hfree p), List.takeWhile_append_of_pos (hfree q)] at hback
  have hpq : p = q := ending_injective (by simpa using hback)
  subst hpq
  exact ⟨by simpa using h, rfl⟩

end Condition.Part

namespace Operator

/-- What is bound to a value that is not null. -/
def parts : Operator → List Condition.Part
  | .compare c v => if v.isNull then [] else [.compare c]
  | .member vs => ((vs.zipIdx 1).filter (!·.1.isNull)).map fun (_, i) => .member i

lemma names_bindings (key : String) (o : Operator) :
    (o.bindings key).map (·.name) = o.parts.map (key ++ ·.suffix) := by
  cases o with
  | compare c v => cases hv : v.isNull <;> simp [bindings, parts, hv, Condition.Part.suffix]
  | member vs =>
    simp [bindings, parts, Condition.Part.suffix, Function.comp_def, String.append_assoc]

end Operator

/-- What is bound to a value that is not null. -/
def Condition.parts (c : Condition) : List Condition.Part := c.comparisons.flatMap Operator.parts

open Injection

namespace ConditionMap

variable {m : ConditionMap}

/-- The parts of all conditions, each with its key. -/
def parts (m : ConditionMap) : List (String × Condition.Part) :=
  m.entries.flatMap fun e => e.2.parts.map (e.1, ·)

/-- Key and suffix tell the values of the conditions apart. -/
structure Apart (m : ConditionMap) : Prop where
  /-- No comparison and no place in a list is given twice. -/
  once : ∀ e ∈ m.entries, e.2.parts.Nodup
  /-- No key that is compared for equality is another key with a suffix. -/
  keys : ∀ e ∈ m.entries, ∀ f ∈ m.entries, .compare .eq ∈ f.2.parts →
    ∀ p ∈ e.2.parts, p ≠ .compare .eq → f.1 ≠ e.1 ++ p.suffix

instance (m : ConditionMap) : Decidable m.Apart :=
  decidable_of_iff
    ((∀ e ∈ m.entries, e.2.parts.Nodup) ∧
      ∀ e ∈ m.entries, ∀ f ∈ m.entries, .compare .eq ∈ f.2.parts →
        ∀ p ∈ e.2.parts, p ≠ .compare .eq → f.1 ≠ e.1 ++ p.suffix)
    ⟨fun h => ⟨h.1, h.2⟩, fun h => ⟨h.once, h.keys⟩⟩

lemma mem_parts {key : String} {p : Condition.Part} :
    (key, p) ∈ m.parts ↔ ∃ c, (key, c) ∈ m.entries ∧ p ∈ c.parts := by
  simp [parts]

lemma names_bindings (m : ConditionMap) :
    m.bindings.map (·.name) = m.parts.map fun (key, p) => key ++ p.suffix := by
  simp [bindings, parts, Condition.bindings, Condition.parts, List.map_flatMap,
    Operator.names_bindings, Function.comp_def]

lemma nodup_parts (hk : (m.entries.map Prod.fst).Nodup)
    (h : ∀ e ∈ m.entries, e.2.parts.Nodup) : m.parts.Nodup := by
  rw [parts, List.nodup_flatMap]
  constructor
  · intro e he
    exact (h e he).map fun p q hpq => (Prod.mk.inj hpq).2
  · have hkeys : m.entries.Pairwise fun e f => e.1 ≠ f.1 := List.pairwise_map.mp hk
    refine hkeys.imp fun {e f} hne => ?_
    intro x hx hy
    obtain ⟨p, -, rfl⟩ := List.mem_map.mp hx
    obtain ⟨q, -, hq⟩ := List.mem_map.mp hy
    exact hne (Prod.mk.inj hq).1.symm

/-- A repeated name has a repeated part or a key with a suffix behind it. -/
lemma nodup_names_iff (hk : (m.entries.map Prod.fst).Nodup) :
    (m.bindings.map (·.name)).Nodup ↔ m.Apart := by
  rw [names_bindings]
  constructor
  · intro h
    have hinj := List.inj_on_of_nodup_map h
    have hparts := List.Nodup.of_map _ h
    refine ⟨fun e he => ?_, ?_⟩
    · rw [parts, List.nodup_flatMap] at hparts
      exact (hparts.1 e he).of_map _
    · rintro ⟨k, c⟩ he ⟨k', c'⟩ hf heq p hp hne hname
      have hsame := hinj (mem_parts.mpr ⟨c', hf, heq⟩) (mem_parts.mpr ⟨c, he, hp⟩)
        (by simpa [Condition.Part.suffix, Comparison.suffix] using hname)
      exact hne (Prod.mk.inj hsame).2.symm
  · intro h
    refine List.Nodup.map_on ?_ (nodup_parts hk h.once)
    rintro ⟨k, p⟩ hkp ⟨k', q⟩ hkq hname
    obtain ⟨c, hc, hp⟩ := mem_parts.mp hkp
    obtain ⟨c', hc', hq⟩ := mem_parts.mp hkq
    have hempty : (Condition.Part.compare .eq).suffix = "" := rfl
    by_cases hpe : p = .compare .eq
    · subst hpe
      by_cases hqe : q = .compare .eq
      · subst hqe
        simp only [hempty, String.append_empty] at hname
        rw [hname]
      · exact absurd (by simpa [hempty] using hname) (h.keys _ hc' _ hc hp q hq hqe)
    · by_cases hqe : q = .compare .eq
      · subst hqe
        exact absurd (by simpa [hempty] using hname.symm) (h.keys _ hc _ hc' hq p hp hpe)
      · obtain ⟨rfl, rfl⟩ := Condition.Part.append_suffix_inj hpe hqe hname
        rfl

example : ConditionMap.Apart
    ⟨[("total", .operators none [.compare .min (.int 1), .member [.int 2, .null, .int 3]]),
      ("total_in", .value (.int 4))]⟩ := by
  decide

example : ¬ConditionMap.Apart
    ⟨[("total", .operators none [.member [.int 2, .null, .int 3]]),
      ("total_in_3", .value (.int 4))]⟩ := by
  decide

lemma keys_put {α : Type} (key : String) (value : α) (es : List (String × α)) :
    (Json.put key value es).map Prod.fst =
      if key ∈ es.map Prod.fst then es.map Prod.fst else es.map Prod.fst ++ [key] := by
  induction es with
  | nil => rfl
  | cons e es ih =>
    obtain ⟨k, v⟩ := e
    by_cases hk : k = key
    · simp [Json.put, hk]
    · have hk' : key ≠ k := fun h => hk h.symm
      simp only [Json.put, hk, if_false, List.map_cons, ih, List.mem_cons, hk', false_or]
      split <;> rfl

lemma nodup_keys_insert (h : (m.entries.map Prod.fst).Nodup) (key : String) (c : Condition) :
    ((m.insert key c).entries.map Prod.fst).Nodup := by
  rw [insert, keys_put]
  split
  · exact h
  · next hk => exact h.append (List.nodup_singleton key) (List.disjoint_singleton.mpr hk)

/-- Conditions that are read have each key once. -/
lemma nodup_keys_ofJson {j : Json} (h : ofJson j = .ok m) : (m.entries.map Prod.fst).Nodup := by
  have hmembers : ∀ (ms : List (String × Json)) (m₀ : ConditionMap),
      (m₀.entries.map Prod.fst).Nodup → ofMembers ms m₀ = .ok m →
        (m.entries.map Prod.fst).Nodup := by
    intro ms
    induction ms with
    | nil =>
      intro m₀ hk h
      cases h
      exact hk
    | cons kv ms ih =>
      obtain ⟨key, value⟩ := kv
      intro m₀ hk h
      rw [ofMembers] at h
      split at h
      · exact ih _ (nodup_keys_insert hk key _) h
      · simp at h
  cases j with
  | obj ms => exact hmembers ms {} List.nodup_nil h
  | _ => simp [ofJson] at h

/-- Into a query without parameters an injection writes one parameter for each value that is not
null. Their names all differ exactly if no key repeats a comparison or a place in a list, and no key
that is compared for equality is another key with a suffix. Then writing the query out meets no
conflict and every value is bound on its own. Else there are fewer slots than values. -/
theorem bindings_inject (j : Json) (m : ConditionMap) (hm : ofJson j = .ok m)
    (resolver : Option ColumnResolver) (allowAllNull : Bool) (s t : Statement)
    (hs : Report.parameters s = []) (h : m.inject resolver allowAllNull s = .ok t)
    (o : FormatOptions) :
    let os := Layout.occurrences (Layout.statement 0 .whole t)
    os = m.bindings ∧
    ((os.map (·.name)).Nodup ↔ m.Apart) ∧
    ((Registry.ofOccurrences os).slots.length < m.bindings.length ↔ ¬m.Apart) ∧
    (m.Apart →
      (∀ name v w, t.format o ≠ .error (.conflictingParameter name v w)) ∧
      ∀ out, t.format o = .ok out →
        out.params = match o.preset.style with
          | .dollar | .question => .positional (m.bindings.map fun b => b.value.getD .null)
          | .colon | .at => .named (m.bindings.map fun b => (b.name, b.value.getD .null))) := by
  intro os
  have hos : os = m.bindings := occurrences_inject hs h
  have hnames : (os.map (·.name)).Nodup ↔ m.Apart := by
    rw [hos]
    exact nodup_names_iff (nodup_keys_ofJson hm)
  refine ⟨hos, hnames, ?_, fun hapart => ⟨?_, ?_⟩⟩
  · rw [← hnames, ← hos]
    exact Registry.length_slots_lt_iff
  · intro name v w herror
    have hnone : (Registry.ofOccurrences os).conflict = none :=
      (Registry.ofOccurrences_of_nodup (hnames.mpr hapart)).2
    simp only [Statement.format, Registry.finish_eq] at herror
    rw [show (Registry.ofOccurrences _).conflict = none from hnone] at herror
    split at herror <;> simp at herror
  · intro out hout
    obtain ⟨-, rfl⟩ := Statement.format_eq_ok hout
    rw [← hos]
    exact Registry.reconciled_of_nodup o.preset (hnames.mpr hapart)

/-- The lower bound of `total` and the equality of `total_min` are bound through one name. -/
theorem bindings_inject_total :
    let total : Expr := .column (some "t") "total"
    let totalMin : Expr := .column (some "t") "total_min"
    let s : Select :=
      { items := [{ value := total }, { value := totalMin }], froms := [.table none "t" none] }
    let j : Json := .obj
      [("total", .obj [("min", .num (.int 10))]), ("total_min", .num (.int 5))]
    ∃ m t, ofJson j = .ok m ∧ m.inject none false (.select s) = .ok t ∧ ¬m.Apart ∧
      m.bindings = [⟨"total_min", some (.int 10)⟩, ⟨"total_min", some (.int 5)⟩] ∧
      ∀ o : FormatOptions, t.format o =
        .error (.conflictingParameter "total_min" (.int 10) (.int 5)) := by
  intro total totalMin s j
  let m : ConditionMap :=
    ⟨[("total", .operators none [.compare .min (.int 10)]), ("total_min", .value (.int 5))]⟩
  have hread : Condition.readMembers "total" none [] [("min", .num (.int 10))] =
      .ok (none, [.compare .min (.int 10)]) := by rfl
  have htotal : Condition.ofJson "total" (.obj [("min", .num (.int 10))]) =
      .ok (.operators none [.compare .min (.int 10)]) := by
    simp [Condition.ofJson, hread]
  have hm : ofJson j = .ok m := by
    simp only [j, ofJson, ofMembers, htotal]
    rfl
  have hcolumns : Report.selectable none (.select s) =
      .ok [⟨"t", "total"⟩, ⟨"t", "total_min"⟩] := by rfl
  let atLeast : Expr := .binary total .gtEq (.bound "total_min" (.int 10))
  let exactly : Expr := .binary totalMin .eq (.bound "total_min" (.int 5))
  have hconjuncts : conjuncts (s.target none) m.entries = .ok [atLeast, exactly] := by
    rw [Select.target_eq hcolumns]
    rfl
  let t : Statement := .select { s with filter := some (.conj atLeast exactly) }
  have h : m.inject none false (.select s) = .ok t :=
    (inject_eq_ok (by simp [m])).mpr ⟨s, _, _, rfl, hcolumns, hconjuncts, by simp, rfl⟩
  have hs : Report.parameters (.select s) = [] := by rfl
  have hbindings : m.bindings =
      [⟨"total_min", some (.int 10)⟩, ⟨"total_min", some (.int 5)⟩] := by rfl
  obtain ⟨hos, hnames, -⟩ := bindings_inject j m hm none false _ _ hs h {}
  have hclash : Layout.clash? (Layout.statement 0 .whole t) = none := by rfl
  have hconflict : (Registry.ofOccurrences m.bindings).conflict =
      some (.conflictingParameter "total_min" (.int 10) (.int 5)) := by
    rw [hbindings]
    rfl
  refine ⟨m, t, hm, h, ?_, hbindings, fun o => ?_⟩
  · rw [← hnames, hos, hbindings]
    simp
  · simp only [Statement.format, Registry.finish_eq, hclash, hos, hconflict]

end ConditionMap

end SqlLoom
