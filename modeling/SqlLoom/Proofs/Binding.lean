import SqlLoom.Proofs.Scalar
import SqlLoom.Proofs.Text
import SqlLoom.Render

/-! Reconciliation of parameters. After any sequence of occurrences the registry holds one slot a
name, in the order of first appearance, with the first value bound to it, and the conflict of the
earliest occurrence that was bound to another value. -/
namespace SqlLoom

/-- Every structured value of the occurrence is without repeated keys. -/
def Occurrence.Proper (o : Occurrence) : Prop := ∀ v, o.value = some v → v.Proper

namespace Registry

/-- The names of the occurrences, in the order of first appearance. -/
def names (os : List Occurrence) : List String := Text.distinct (os.map (·.name))

/-- The first value bound to a name. -/
def firstBound (name : String) (os : List Occurrence) : Option Scalar :=
  os.findSome? fun o => if o.name = name then o.value else none

/-- The value that every occurrence of a name gets. -/
def settled (os : List Occurrence) (name : String) : Scalar := (firstBound name os).getD .null

/-- The `k`-th occurrence is bound to a value other than the first one bound to its name. -/
def DiffersAt (os : List Occurrence) (k : Nat) (name : String) (first second : Scalar) : Prop :=
  os[k]? = some ⟨name, some second⟩ ∧ firstBound name (os.take k) = some first ∧
    first.sameBinding second = false

@[simp] lemma mem_names {os : List Occurrence} {name : String} :
    name ∈ names os ↔ ∃ o ∈ os, o.name = name := by simp [names]

lemma names_concat_of_mem {os : List Occurrence} {o : Occurrence} (h : o.name ∈ names os) :
    names (os ++ [o]) = names os := by
  simp only [names, List.map_append, List.map_cons, List.map_nil]
  exact Text.distinct_concat_of_mem h

lemma names_concat_of_not_mem {os : List Occurrence} {o : Occurrence} (h : o.name ∉ names os) :
    names (os ++ [o]) = names os ++ [o.name] := by
  simp only [names, List.map_append, List.map_cons, List.map_nil]
  exact Text.distinct_concat_of_not_mem h

lemma nodup_names (os : List Occurrence) : (names os).Nodup := Text.nodup_distinct _

lemma idxOf_names_append {name : String} {os : List Occurrence} (h : name ∈ names os)
    (os' : List Occurrence) : (names (os ++ os')).idxOf name = (names os).idxOf name := by
  simp only [names, List.map_append]
  exact Text.idxOf_distinct_append (Text.mem_distinct.mp h) _

lemma firstBound_append (name : String) (os os' : List Occurrence) :
    firstBound name (os ++ os') = (firstBound name os).or (firstBound name os') := by
  simp [firstBound, List.findSome?_append]

@[simp] lemma firstBound_singleton (name : String) (o : Occurrence) :
    firstBound name [o] = if o.name = name then o.value else none := by
  simp only [firstBound, List.findSome?_cons, List.findSome?_nil]
  split <;> simp_all

lemma firstBound_eq_none_of_not_mem {name : String} {os : List Occurrence}
    (h : name ∉ names os) : firstBound name os = none := by
  simp only [firstBound, List.findSome?_eq_none_iff]
  intro o ho
  rw [if_neg]
  intro hn
  exact h (mem_names.mpr ⟨o, ho, hn⟩)

lemma slotOf_eq (name : String) (k : Nat) (ss : List Occurrence) :
    slotOf name k ss =
      if name ∈ ss.map (·.name) then some (k + (ss.map (·.name)).idxOf name) else none := by
  induction ss generalizing k with
  | nil => simp [slotOf]
  | cons s ss ih =>
    by_cases h : s.name = name
    · simp [slotOf, h]
    · have h' : name ≠ s.name := fun e => h e.symm
      simp only [slotOf, h, if_false, ih, List.map_cons, List.mem_cons, h', false_or,
        List.idxOf_cons_ne _ h]
      split
      · congr 1
        omega
      · rfl

lemma register_of_mem {r : Registry} {o : Occurrence} {i : Nat}
    (hm : o.name ∈ r.slots.map (·.name)) (hi : (r.slots.map (·.name)).idxOf o.name = i) :
    r.register o =
      { slots := r.slots.modify i (merge · o)
        order := r.order ++ [i]
        conflict := r.conflict <|> (r.slots[i]?).bind (clash · o) } := by
  simp only [register, slotOf_eq, hm, if_true, Nat.zero_add, hi]

lemma register_of_not_mem {r : Registry} {o : Occurrence}
    (hm : o.name ∉ r.slots.map (·.name)) :
    r.register o = { r with slots := r.slots ++ [o], order := r.order ++ [r.slots.length] } := by
  simp only [register, slotOf_eq, hm, if_false]

lemma ofOccurrences_append_singleton (os : List Occurrence) (o : Occurrence) :
    ofOccurrences (os ++ [o]) = (ofOccurrences os).register o := by
  simp [ofOccurrences, List.foldl_append]

/-- One slot a name, holding the first value bound to it. -/
theorem slots_ofOccurrences (os : List Occurrence) :
    (ofOccurrences os).slots = (names os).map fun n => ⟨n, firstBound n os⟩ := by
  induction os using List.reverseRecOn with
  | nil => rfl
  | append_singleton os o ih =>
    have hs : (ofOccurrences os).slots.map (·.name) = names os := by simp [ih, Function.comp_def]
    rw [ofOccurrences_append_singleton]
    by_cases hm : o.name ∈ names os
    · rw [register_of_mem (by rwa [hs]) (by rw [hs]), names_concat_of_mem hm]
      apply List.ext_getElem?
      intro i
      simp only [List.getElem?_modify, List.getElem?_map, ih]
      cases hi : (names os)[i]? with
      | none => simp
      | some n =>
        obtain ⟨hlt, rfl⟩ := List.getElem?_eq_some_iff.mp hi
        have hidx := (nodup_names os).idxOf_getElem i hlt
        by_cases hn : o.name = (names os)[i]
        · rw [← hn] at hidx
          simp [← hn, hidx, firstBound_append, merge]
        · have hne : (names os).idxOf o.name ≠ i := by
            rintro rfl
            exact hn (List.getElem_idxOf hlt).symm
          simp [hne, hn, firstBound_append]
    · rw [register_of_not_mem (by rwa [hs]), names_concat_of_not_mem hm, List.map_append, ih]
      change _ ++ [o] = _ ++ [_]
      congr 1
      · apply List.map_congr_left
        intro n hn
        have hne : o.name ≠ n := fun e => hm (e ▸ hn)
        simp [firstBound_append, hne]
      · simp [firstBound_append, firstBound_eq_none_of_not_mem hm]

lemma slotNames_ofOccurrences (os : List Occurrence) :
    (ofOccurrences os).slots.map (·.name) = names os := by
  simp [slots_ofOccurrences, Function.comp_def]

lemma nextSlot_ofOccurrences (os : List Occurrence) (o : Occurrence) :
    (ofOccurrences os).nextSlot o.name = (names (os ++ [o])).idxOf o.name := by
  rw [nextSlot, slotOf_eq, slotNames_ofOccurrences]
  by_cases hm : o.name ∈ names os
  · rw [if_pos hm, names_concat_of_mem hm]
    simp
  · rw [if_neg hm, names_concat_of_not_mem hm, List.idxOf_append_of_notMem hm, slots_ofOccurrences]
    simp

/-- Every occurrence is recorded under the place of its name. -/
theorem order_ofOccurrences (os : List Occurrence) :
    (ofOccurrences os).order = os.map fun o => (names os).idxOf o.name := by
  induction os using List.reverseRecOn with
  | nil => rfl
  | append_singleton os o ih =>
    have hlast : ((ofOccurrences os).register o).order =
        (ofOccurrences os).order ++ [(ofOccurrences os).nextSlot o.name] := by
      by_cases hm : o.name ∈ names os
      · rw [register_of_mem (by rwa [slotNames_ofOccurrences]) rfl, nextSlot, slotOf_eq]
        simp only [slotNames_ofOccurrences, hm, if_true, Nat.zero_add, Option.getD_some]
      · rw [register_of_not_mem (by rwa [slotNames_ofOccurrences]), nextSlot, slotOf_eq]
        simp only [slotNames_ofOccurrences, hm, if_false, Option.getD_none]
    rw [ofOccurrences_append_singleton, hlast, ih, nextSlot_ofOccurrences, List.map_append]
    congr 1
    apply List.map_congr_left
    intro p hp
    exact (idxOf_names_append (mem_names.mpr ⟨p, hp, rfl⟩) _).symm

/-- A conflict once recorded stays, and else the newest occurrence may conflict with the first
value bound to its name. -/
lemma conflict_ofOccurrences_append_singleton (os : List Occurrence) (o : Occurrence) :
    (ofOccurrences (os ++ [o])).conflict =
      ((ofOccurrences os).conflict <|> clash ⟨o.name, firstBound o.name os⟩ o) := by
  rw [ofOccurrences_append_singleton]
  by_cases hm : o.name ∈ names os
  · have hi := List.idxOf_lt_length_iff.mpr hm
    rw [register_of_mem (by rwa [slotNames_ofOccurrences]) rfl, slotNames_ofOccurrences,
      slots_ofOccurrences]
    simp [List.getElem?_eq_getElem hi]
  · rw [register_of_not_mem (by rwa [slotNames_ofOccurrences])]
    simp [firstBound_eq_none_of_not_mem hm, clash]

lemma clash_eq_some_iff {o : Occurrence} {f : Option Scalar} {e : Error} :
    clash ⟨o.name, f⟩ o = some e ↔
      ∃ first second, f = some first ∧ o.value = some second ∧
        first.sameBinding second = false ∧ e = .conflictingParameter o.name first second := by
  cases f with
  | none => simp [clash]
  | some first =>
    cases ho : o.value with
    | none => simp [clash, ho]
    | some second =>
      cases hb : first.sameBinding second with
      | false =>
        simp only [clash, ho, hb, Bool.false_eq_true, if_false, Option.some.injEq]
        constructor
        · rintro rfl
          exact ⟨first, second, rfl, rfl, hb, rfl⟩
        · rintro ⟨_, _, rfl, rfl, _, rfl⟩
          rfl
      | true => simp [clash, ho, hb]

lemma differsAt_append {os os' : List Occurrence} {k : Nat} {name : String}
    {first second : Scalar} (hk : k < os.length) :
    DiffersAt (os ++ os') k name first second ↔ DiffersAt os k name first second := by
  simp [DiffersAt, List.getElem?_append_left hk, List.take_append_of_le_length (Nat.le_of_lt hk)]

lemma differsAt_length {os : List Occurrence} {o : Occurrence} {name : String}
    {first second : Scalar} :
    DiffersAt (os ++ [o]) os.length name first second ↔
      clash ⟨o.name, firstBound o.name os⟩ o = some (.conflictingParameter name first second) := by
  rw [clash_eq_some_iff, DiffersAt, List.getElem?_concat_length, List.take_left]
  constructor
  · rintro ⟨ho, hf, hb⟩
    cases ho
    exact ⟨first, second, hf, rfl, hb, rfl⟩
  · rintro ⟨_, _, hf, hv, hb, he⟩
    cases he
    exact ⟨by rw [← hv], hf, hb⟩

lemma DiffersAt.lt_length {os : List Occurrence} {k : Nat} {name : String}
    {first second : Scalar} (h : DiffersAt os k name first second) : k < os.length :=
  (List.getElem?_eq_some_iff.mp h.1).1

/-- The recorded conflict is that of the earliest occurrence that differs. -/
theorem conflict_ofOccurrences (os : List Occurrence) :
    ((ofOccurrences os).conflict = none ∧ ∀ k name first second, ¬DiffersAt os k name first second) ∨
    ∃ k name first second, DiffersAt os k name first second ∧
      (ofOccurrences os).conflict = some (.conflictingParameter name first second) ∧
      ∀ j < k, ∀ name first second, ¬DiffersAt os j name first second := by
  induction os using List.reverseRecOn with
  | nil => exact .inl ⟨rfl, fun k name first second h => by simpa using h.lt_length⟩
  | append_singleton os o ih =>
    rw [conflict_ofOccurrences_append_singleton]
    rcases ih with ⟨hc, hn⟩ | ⟨k, name, first, second, hd, hc, hn⟩
    · have hlt : ∀ k < os.length, ∀ name first second,
          ¬DiffersAt (os ++ [o]) k name first second := by
        intro k hk name first second h
        exact hn k name first second ((differsAt_append hk).mp h)
      cases hl : clash ⟨o.name, firstBound o.name os⟩ o with
      | none =>
        left
        refine ⟨by simp [hc], ?_⟩
        intro k name first second h
        have hk := h.lt_length
        rw [List.length_append, List.length_singleton] at hk
        rcases Nat.lt_succ_iff_lt_or_eq.mp hk with hk | rfl
        · exact hlt k hk name first second h
        · rw [differsAt_length, hl] at h
          simp at h
      | some e =>
        obtain ⟨first, second, _, _, _, rfl⟩ := clash_eq_some_iff.mp hl
        right
        exact ⟨os.length, o.name, first, second, differsAt_length.mpr hl, by simp [hc], hlt⟩
    · right
      have hk := hd.lt_length
      refine ⟨k, name, first, second, (differsAt_append hk).mpr hd, by simp [hc], ?_⟩
      intro j hj name first second h
      exact hn j hj name first second ((differsAt_append (Nat.lt_trans hj hk)).mp h)

lemma exists_of_firstBound_eq_some {name : String} {os : List Occurrence} {v : Scalar}
    (h : firstBound name os = some v) : ∃ i : Nat, os[i]? = some ⟨name, some v⟩ := by
  obtain ⟨o, ho, hv⟩ := List.exists_of_findSome?_eq_some h
  obtain ⟨i, hi⟩ := List.getElem?_of_mem ho
  split at hv
  · next hn => exact ⟨i, by rw [hi, ← hn, ← hv]⟩
  · simp at hv

lemma firstBound_take_succ {name : String} {os : List Occurrence} {i : Nat} {v : Scalar}
    (h : os[i]? = some ⟨name, some v⟩) :
    firstBound name (os.take (i + 1)) = (firstBound name (os.take i)).or (some v) := by
  rw [List.take_add_one, h, firstBound_append]
  simp

lemma firstBound_take_mono {name : String} {os : List Occurrence} {i j : Nat} {v : Scalar}
    (h : firstBound name (os.take i) = some v) (hij : i ≤ j) :
    firstBound name (os.take j) = some v := by
  have ht : os.take j = os.take i ++ (os.take j).drop i := by
    have := List.take_append_drop i (os.take j)
    rwa [List.take_take, Nat.min_eq_left hij, eq_comm] at this
  rw [ht, firstBound_append, h]
  rfl

/-- Some occurrence differs from the first value of its name as soon as two values of one name
differ from each other. -/
lemma exists_differsAt_iff {os : List Occurrence} (hp : ∀ o ∈ os, o.Proper) :
    (∃ k name first second, DiffersAt os k name first second) ↔
      ∃ (i j : Nat) (name : String) (v w : Scalar), i < j ∧ os[i]? = some ⟨name, some v⟩ ∧
        os[j]? = some ⟨name, some w⟩ ∧ v.sameBinding w = false := by
  have proper : ∀ {i : Nat} {name : String} {v : Scalar}, os[i]? = some ⟨name, some v⟩ →
      v.Proper := fun h => hp _ (List.mem_of_getElem? h) _ rfl
  constructor
  · rintro ⟨k, name, first, second, hk, hf, hb⟩
    obtain ⟨i, hi⟩ := exists_of_firstBound_eq_some hf
    have hik : i < k := by
      have := (List.getElem?_eq_some_iff.mp hi).1
      rw [List.length_take] at this
      omega
    rw [List.getElem?_take_of_lt hik] at hi
    exact ⟨i, k, name, first, second, hik, hi, hk, hb⟩
  · rintro ⟨i, j, name, v, w, hij, hi, hj, hb⟩
    by_contra hno
    have same : ∀ {k : Nat} {f u : Scalar}, os[k]? = some ⟨name, some u⟩ →
        firstBound name (os.take k) = some f → f.sameBinding u = true := by
      intro k f u hk hf
      by_contra hne
      exact hno ⟨k, name, f, u, hk, hf, by simpa using hne⟩
    cases hf : firstBound name (os.take i) with
    | none =>
      have hv : firstBound name (os.take j) = some v :=
        firstBound_take_mono (by rw [firstBound_take_succ hi, hf]; rfl) hij
      simp [same hj hv] at hb
    | some f =>
      obtain ⟨m, hm⟩ := exists_of_firstBound_eq_some hf
      have hm' : os[m]? = some ⟨name, some f⟩ := by
        have := (List.getElem?_eq_some_iff.mp hm).1
        rw [List.length_take] at this
        rwa [List.getElem?_take_of_lt (by omega)] at hm
      have hfj := firstBound_take_mono hf (Nat.le_of_lt hij)
      have := Scalar.sameBinding_euclid (proper hm') (proper hi) (same hi hf) (same hj hfj)
      simp [this] at hb

lemma values_ofOccurrences (os : List Occurrence) :
    (ofOccurrences os).values = (names os).map (settled os) := by
  simp [values, slots_ofOccurrences, settled, Function.comp_def]

lemma values_getElem?_idxOf {os : List Occurrence} {o : Occurrence} (h : o ∈ os) :
    (ofOccurrences os).values[(names os).idxOf o.name]? = some (settled os o.name) := by
  have hi : (names os).idxOf o.name < (names os).length :=
    List.idxOf_lt_length_iff.mpr (mem_names.mpr ⟨o, h, rfl⟩)
  rw [values_ofOccurrences, List.getElem?_map, List.getElem?_eq_getElem hi, List.getElem_idxOf hi]
  rfl

/-- The parameters of a sequence of occurrences without conflict. -/
def reconciled (p : Preset) (os : List Occurrence) : Params :=
  match p.style with
  | .dollar => .positional ((names os).map (settled os))
  | .question => .positional (os.map fun o => settled os o.name)
  | .colon | .at => .named ((names os).map fun n => (n, settled os n))

lemma finish_eq (p : Preset) (os : List Occurrence) :
    (ofOccurrences os).finish p =
      match (ofOccurrences os).conflict with
      | some e => .error e
      | none => .ok (reconciled p os) := by
  have hq : (ofOccurrences os).order.filterMap ((ofOccurrences os).values[·]?) =
      os.map fun o => settled os o.name := by
    rw [order_ofOccurrences, List.filterMap_map, ← List.filterMap_eq_map]
    apply List.filterMap_congr
    intro o ho
    exact values_getElem?_idxOf ho
  unfold finish reconciled
  cases (ofOccurrences os).conflict with
  | some e => rfl
  | none =>
    cases p.style with
    | dollar => simp [values_ofOccurrences]
    | question => simp [hq]
    | colon => simp [slots_ofOccurrences, settled, Function.comp_def]
    | «at» => simp [slots_ofOccurrences, settled, Function.comp_def]

/-- Names that all differ are given a slot each, and nothing can conflict. -/
lemma ofOccurrences_of_nodup {os : List Occurrence} (h : (os.map (·.name)).Nodup) :
    (ofOccurrences os).slots = os ∧ (ofOccurrences os).conflict = none := by
  induction os using List.reverseRecOn with
  | nil => exact ⟨rfl, rfl⟩
  | append_singleton os o ih =>
    rw [List.map_append, List.nodup_append] at h
    obtain ⟨hs, hc⟩ := ih h.1
    have hm : o.name ∉ (ofOccurrences os).slots.map (·.name) := by
      rw [hs]
      exact fun hm => h.2.2 _ hm _ (by simp) rfl
    rw [ofOccurrences_append_singleton, register_of_not_mem hm]
    exact ⟨by rw [hs], hc⟩

/-- There are fewer slots than occurrences exactly if some name repeats. -/
lemma length_slots_lt_iff {os : List Occurrence} :
    (ofOccurrences os).slots.length < os.length ↔ ¬(os.map (·.name)).Nodup := by
  have hlength : (ofOccurrences os).slots.length = (names os).length := by
    rw [← slotNames_ofOccurrences, List.length_map]
  have hsub : (names os).Subperm (os.map (·.name)) :=
    List.subperm_of_subset (nodup_names os) fun n hn => by simpa using mem_names.mp hn
  constructor
  · intro hlt hn
    rw [(ofOccurrences_of_nodup hn).1] at hlt
    exact Nat.lt_irrefl _ hlt
  · intro hn
    by_contra hge
    have hperm := hsub.perm_of_length_le (by rw [List.length_map]; omega)
    exact hn (hperm.nodup_iff.mp (nodup_names os))

/-- Under names that all differ every occurrence keeps its own value. -/
lemma reconciled_of_nodup (p : Preset) {os : List Occurrence} (h : (os.map (·.name)).Nodup) :
    reconciled p os = match p.style with
      | .dollar | .question => .positional (os.map fun o => o.value.getD .null)
      | .colon | .at => .named (os.map fun o => (o.name, o.value.getD .null)) := by
  have hslots : (names os).map (fun n => ⟨n, firstBound n os⟩) = os := by
    rw [← slots_ofOccurrences, (ofOccurrences_of_nodup h).1]
  have hnames : names os = os.map (·.name) := by
    rw [← slotNames_ofOccurrences, (ofOccurrences_of_nodup h).1]
  have hsettled : ∀ o ∈ os, settled os o.name = o.value.getD .null := by
    intro o ho
    rw [← hslots] at ho
    obtain ⟨n, -, rfl⟩ := List.mem_map.mp ho
    rfl
  have hvalues : (os.map fun o => settled os o.name) = os.map fun o => o.value.getD .null :=
    List.map_congr_left hsettled
  have hbindings : (os.map fun o => (o.name, settled os o.name)) =
      os.map fun o => (o.name, o.value.getD .null) :=
    List.map_congr_left fun o ho => by rw [hsettled o ho]
  unfold reconciled
  cases p.style <;> simp only [hnames, List.map_map, Function.comp_def, hvalues, hbindings]

/-- Wherever a placeholder is written, its number is the place of its name among all names. -/
lemma texts_ofOccurrences (o : FormatOptions) (done : List Occurrence) (ps : List Piece) :
    Layout.texts o (ofOccurrences done) ps = ps.map (Layout.pieceText o fun name =>
      (names (done ++ Layout.occurrences ps)).idxOf name + 1) := by
  induction ps generalizing done with
  | nil => rfl
  | cons p ps ih =>
    cases p with
    | slot a =>
      have hn : (names (done ++ [a] ++ Layout.occurrences ps)).idxOf a.name =
          (names (done ++ [a])).idxOf a.name := idxOf_names_append (by simp) _
      have ho : Layout.occurrences (.slot a :: ps) = [a] ++ Layout.occurrences ps := rfl
      simp only [List.map_cons, Layout.texts, Layout.pieceText, nextSlot_ofOccurrences, ho,
        ← List.append_assoc, hn, ← ofOccurrences_append_singleton, ih]
    | _ => simp only [List.map_cons, Layout.texts, Layout.pieceText, ih, Layout.occurrences,
        List.filterMap_cons]

lemma occurrences_slots (os : List Occurrence) : Layout.occurrences (os.map .slot) = os := by
  simp [Layout.occurrences, List.filterMap_map]

/-- Finishing fails exactly when two values bound to one name differ, with the conflict of the
earliest occurrence that differs from the first value of its name. Else every occurrence gets that
first value, in the shape of the preset's style, and numbered placeholders count the names. -/
theorem finish_ofOccurrences (o : FormatOptions) (os : List Occurrence)
    (hp : ∀ a ∈ os, a.Proper) :
    ((∃ e, (ofOccurrences os).finish o.preset = .error e) ↔
      ∃ (i j : Nat) (name : String) (v w : Scalar), i < j ∧ os[i]? = some ⟨name, some v⟩ ∧
        os[j]? = some ⟨name, some w⟩ ∧ v.sameBinding w = false) ∧
    (∀ e, (ofOccurrences os).finish o.preset = .error e →
      ∃ k name first second, DiffersAt os k name first second ∧
        e = .conflictingParameter name first second ∧
        ∀ j < k, ∀ name first second, ¬DiffersAt os j name first second) ∧
    (∀ params, (ofOccurrences os).finish o.preset = .ok params →
      params = match o.preset.style with
        | .dollar => .positional ((names os).map (settled os))
        | .question => .positional (os.map fun a => settled os a.name)
        | .colon | .at => .named ((names os).map fun n => (n, settled os n))) ∧
    (o.preset.style = .dollar → ∀ (k : Nat) a, os[k]? = some a →
      (Layout.texts o {} (os.map .slot))[k]? =
        some ("$" ++ toString ((names os).idxOf a.name + 1))) := by
  refine ⟨?_, ?_, ?_, ?_⟩
  · rw [← exists_differsAt_iff hp, finish_eq]
    rcases conflict_ofOccurrences os with ⟨hc, hn⟩ | ⟨k, name, first, second, hd, hc, -⟩
    · simp [hc, hn]
    · simpa [hc] using ⟨k, name, first, second, hd⟩
  · intro e he
    rw [finish_eq] at he
    rcases conflict_ofOccurrences os with ⟨hc, -⟩ | ⟨k, name, first, second, hd, hc, hn⟩
    · simp [hc] at he
    · rw [hc] at he
      cases he
      exact ⟨k, name, first, second, hd, rfl, hn⟩
  · intro params h
    rw [finish_eq] at h
    split at h
    · simp at h
    · exact (Except.ok.inj h).symm
  · intro hs k a ha
    have ht := texts_ofOccurrences o [] (os.map .slot)
    rw [List.nil_append, occurrences_slots] at ht
    rw [show ({} : Registry) = ofOccurrences [] from rfl, ht]
    simp [Layout.pieceText, Preset.placeholder, hs, ha]

/-- A value bound late reaches the earlier occurrence, and a second value is a conflict. -/
theorem finish_ofOccurrences_late :
    ((∀ a ∈ [⟨"a", none⟩, ⟨"b", some (.bool true)⟩, ⟨"a", some (.int 5)⟩], Occurrence.Proper a) ∧
      ∀ params,
        (ofOccurrences [⟨"a", none⟩, ⟨"b", some (.bool true)⟩, ⟨"a", some (.int 5)⟩]).finish .mySql =
          .ok params → params = .positional [.int 5, .bool true, .int 5]) ∧
    ∃ e, (ofOccurrences [⟨"a", some (.int 1)⟩, ⟨"a", some (.int 2)⟩]).finish .postgres =
      .error e := by
  have hp : ∀ a ∈ [⟨"a", none⟩, ⟨"b", some (.bool true)⟩, ⟨"a", some (.int 5)⟩],
      Occurrence.Proper a := by
    simp [Occurrence.Proper, Scalar.Proper]
  refine ⟨⟨hp, fun params h => (finish_ofOccurrences { preset := .mySql } _ hp).2.2.1 params h⟩, ?_⟩
  refine (finish_ofOccurrences { preset := .postgres } _ ?_).1.mpr
    ⟨0, 1, "a", .int 1, .int 2, by decide, rfl, rfl, by decide⟩
  simp [Occurrence.Proper, Scalar.Proper]

end Registry

end SqlLoom
