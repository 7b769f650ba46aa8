import Mathlib.Data.List.Forall2
import SqlLoom.Proofs.Text
import SqlLoom.Report.Selectable

/-! Columns that references add to groups, one after the other. What matters to a later search is
which columns a group shows under one name up to ASCII case, and in which order. A column that
stands first under its name in the end may as well have been added earlier. -/
namespace SqlLoom.Report

/-- Adds a name unless it is there. -/
def addName (seen : List String) (name : String) : List String :=
  if seen.contains name then seen else seen ++ [name]

lemma addName_of_mem {seen : List String} {name : String} (h : name ∈ seen) :
    addName seen name = seen := if_pos (List.contains_iff_mem.mpr h)

lemma filter_addName (p : String → Bool) (seen : List String) (name : String) :
    (addName seen name).filter p =
      if p name then addName (seen.filter p) name else seen.filter p := by
  by_cases hm : name ∈ seen
  · by_cases hp : p name = true <;> simp [addName, hm, hp]
  · by_cases hp : p name = true <;> simp [addName, hm, hp]

lemma filter_foldl_addName (p : String → Bool) (seen names : List String) :
    (names.foldl addName seen).filter p = (names.filter p).foldl addName (seen.filter p) := by
  induction names generalizing seen with
  | nil => rfl
  | cons n names ih =>
    rw [List.foldl_cons, ih, filter_addName]
    cases hp : p n <;> simp [hp]

lemma head?_foldl_addName (x : String) (seen names : List String) :
    (names.foldl addName (x :: seen)).head? = some x := by
  induction names generalizing seen with
  | nil => rfl
  | cons n names ih =>
    by_cases hm : n ∈ x :: seen
    · rw [List.foldl_cons, addName_of_mem hm, ih]
    · rw [List.foldl_cons, addName, if_neg (by simpa using hm), List.cons_append, ih]

/-- A name that comes first in the end may be added earlier. -/
lemma foldl_addName_insert {x : String} {seen : List String} (before after : List String)
    (h : ((before ++ after).foldl addName seen).head? = some x) :
    (before ++ x :: after).foldl addName seen = (before ++ after).foldl addName seen := by
  rw [List.foldl_append] at h ⊢
  rw [List.foldl_append, List.foldl_cons]
  cases hseen : before.foldl addName seen with
  | nil =>
    rw [hseen] at h
    cases after with
    | nil => simp at h
    | cons y after =>
      rw [List.foldl_cons, addName, if_neg (by simp), List.nil_append, head?_foldl_addName] at h
      cases h
      rw [List.foldl_cons]
      simp [addName]
  | cons y seen =>
    rw [hseen, head?_foldl_addName] at h
    cases h
    rw [addName_of_mem List.mem_cons_self]

lemma mem_foldl_addName {x : String} {seen names : List String} :
    x ∈ names.foldl addName seen ↔ x ∈ seen ∨ x ∈ names := by
  induction names generalizing seen with
  | nil => simp
  | cons n names ih =>
    rw [List.foldl_cons, ih, addName, List.mem_cons]
    by_cases hm : n ∈ seen
    · rw [if_pos (by simpa using hm)]
      constructor
      · exact Or.imp_right .inr
      · rintro (h | rfl | h)
        · exact .inl h
        · exact .inl hm
        · exact .inr h
    · rw [if_neg (by simpa using hm)]
      simp [or_assoc]

namespace ColumnGroup

/-- Whether the group takes up the column. -/
def takes (g : ColumnGroup) (c : SelectableColumn) : Bool :=
  g.isOpen && g.reference == c.qualifier

/-- The group with further columns. -/
def extend (names : List String) (g : ColumnGroup) : ColumnGroup :=
  { g with columns := names.foldl addName g.columns }

/-- Adds columns, each to the first group that takes it up. -/
def addAll (cs : List SelectableColumn) (gs : List ColumnGroup) : List ColumnGroup :=
  cs.foldl (fun gs c => addTo c.qualifier c.name gs) gs

lemma add_eq (name : String) (g : ColumnGroup) : g.add name = g.extend [name] := by
  unfold add extend
  simp only [List.foldl_cons, List.foldl_nil, addName]
  split <;> rfl

lemma extend_extend (xs ys : List String) (g : ColumnGroup) :
    (g.extend xs).extend ys = g.extend (xs ++ ys) := by
  simp [extend, List.foldl_append]

lemma addTo_cons (c : SelectableColumn) (g : ColumnGroup) (gs : List ColumnGroup) :
    addTo c.qualifier c.name (g :: gs) =
      if g.takes c then g.extend [c.name] :: gs else g :: addTo c.qualifier c.name gs := by
  rw [addTo, takes, add_eq]

lemma addAll_append (cs ds : List SelectableColumn) (gs : List ColumnGroup) :
    addAll (cs ++ ds) gs = addAll ds (addAll cs gs) := List.foldl_append

@[simp] lemma addAll_nil (cs : List SelectableColumn) : addAll cs [] = [] := by
  induction cs with
  | nil => rfl
  | cons c cs ih => exact ih

/-- The first group has its share of the columns, and the others share the rest. -/
lemma addAll_cons (cs : List SelectableColumn) (g : ColumnGroup) (gs : List ColumnGroup) :
    addAll cs (g :: gs) =
      g.extend ((cs.filter g.takes).map (·.name)) :: addAll (cs.filter (!g.takes ·)) gs := by
  induction cs generalizing g gs with
  | nil => rfl
  | cons c cs ih =>
    have hstep : addAll (c :: cs) (g :: gs) = addAll cs (addTo c.qualifier c.name (g :: gs)) := rfl
    rw [hstep, addTo_cons]
    by_cases ht : g.takes c = true
    · have htakes : (g.extend [c.name]).takes = g.takes := rfl
      rw [if_pos ht, ih, htakes, extend_extend]
      simp [ht]
    · have hrest : addAll (c :: cs.filter (!g.takes ·)) gs =
          addAll (cs.filter (!g.takes ·)) (addTo c.qualifier c.name gs) := rfl
      rw [if_neg ht, ih, ← hrest]
      simp [ht]

lemma map_reference_addAll (cs : List SelectableColumn) (gs : List ColumnGroup) :
    (addAll cs gs).map (·.reference) = gs.map (·.reference) := by
  induction gs generalizing cs with
  | nil => simp
  | cons g gs ih => rw [addAll_cons, List.map_cons, List.map_cons, ih, extend]

/-- Groups that show the same columns under every name, in the same order. -/
structure Same (g g' : ColumnGroup) : Prop where
  reference : g.reference = g'.reference
  isOpen : g.isOpen = g'.isOpen
  columns : ∀ name, g.columns.filter (Text.sameName · name) =
    g'.columns.filter (Text.sameName · name)

lemma Same.refl (g : ColumnGroup) : Same g g := ⟨rfl, rfl, fun _ => rfl⟩

lemma Same.trans {g g' g'' : ColumnGroup} (h : Same g g') (h' : Same g' g'') : Same g g'' :=
  ⟨h.reference.trans h'.reference, h.isOpen.trans h'.isOpen,
    fun name => (h.columns name).trans (h'.columns name)⟩

lemma Same.takes {g g' : ColumnGroup} (h : Same g g') : g.takes = g'.takes := by
  funext c
  rw [ColumnGroup.takes, ColumnGroup.takes, h.isOpen, h.reference]

lemma same_refl (gs : List ColumnGroup) : List.Forall₂ Same gs gs :=
  List.forall₂_same.mpr fun g _ => .refl g

lemma same_trans {gs gs' gs'' : List ColumnGroup} (h : List.Forall₂ Same gs gs')
    (h' : List.Forall₂ Same gs' gs'') : List.Forall₂ Same gs gs'' := by
  induction h generalizing gs'' with
  | nil => exact h'
  | cons hg _ ih =>
    cases h' with
    | cons hg' hgs' => exact .cons (hg.trans hg') (ih hgs')

/-- The group that takes the column up, if there is one, shows it first under its name. -/
def Leads (c : SelectableColumn) (gs : List ColumnGroup) : Prop :=
  ∀ g, gs.find? (·.takes c) = some g → g.columns.find? (Text.sameName · c.name) = some c.name

lemma Leads.same {c : SelectableColumn} {gs gs' : List ColumnGroup}
    (h : List.Forall₂ Same gs gs') (hc : Leads c gs) : Leads c gs' := by
  induction h with
  | nil => exact hc
  | @cons g g' gs gs' hg hgs ih =>
    intro x hx
    rw [List.find?_cons, ← hg.takes] at hx
    cases ht : g.takes c with
    | true =>
      simp only [ht, Option.some.injEq] at hx
      rw [← hx, ← List.head?_filter, ← hg.columns, List.head?_filter]
      exact hc g (by simp [ht])
    | false =>
      simp only [ht] at hx
      exact ih (fun y hy => hc y (by simpa [ht] using hy)) x hx

lemma same_addAll_insert {c : SelectableColumn} (before after : List SelectableColumn)
    {gs : List ColumnGroup} (h : Leads c (addAll (before ++ after) gs)) :
    List.Forall₂ Same (addAll (before ++ after) gs) (addAll (before ++ c :: after) gs) := by
  induction gs generalizing before after with
  | nil => simp
  | cons g gs ih =>
    rw [addAll_cons] at h
    rw [addAll_cons, addAll_cons]
    cases ht : g.takes c with
    | true =>
      have hlead := h _ (List.find?_cons_of_pos ht)
      rw [← List.head?_filter, extend, filter_foldl_addName, List.filter_append, List.map_append,
        List.filter_append] at hlead
      have hrest : (before ++ c :: after).filter (!g.takes ·) =
          (before ++ after).filter (!g.takes ·) := by simp [ht]
      rw [hrest]
      refine .cons ⟨rfl, rfl, fun name => ?_⟩ (same_refl _)
      simp only [extend, filter_foldl_addName, List.filter_append, List.filter_cons, ht, if_true,
        List.map_append, List.map_cons]
      cases hn : Text.sameName c.name name with
      | false => rfl
      | true =>
        have hp : (fun x => Text.sameName x name) = (Text.sameName · c.name) := by
          funext x
          rw [Bool.eq_iff_iff, Text.sameName_iff, Text.sameName_iff, Text.sameName_iff.mp hn]
        rw [hp, if_pos rfl]
        exact (foldl_addName_insert _ _ hlead).symm
    | false =>
      have hshare : (before ++ c :: after).filter g.takes = (before ++ after).filter g.takes := by
        simp [ht]
      have hrest : (before ++ c :: after).filter (!g.takes ·) =
          before.filter (!g.takes ·) ++ c :: after.filter (!g.takes ·) := by simp [ht]
      rw [hshare, hrest, List.filter_append (p := (!g.takes ·))]
      rw [List.filter_append (p := (!g.takes ·))] at h
      refine .cons (.refl _) (ih _ _ fun x hx => h x ?_)
      rw [List.find?_cons_of_neg (by simpa [takes, extend] using ht)]
      exact hx

/-- A column that has been added adds nothing. -/
lemma addAll_concat_of_mem {c : SelectableColumn} {cs : List SelectableColumn} (h : c ∈ cs)
    (gs : List ColumnGroup) : addAll (cs ++ [c]) gs = addAll cs gs := by
  induction gs generalizing cs with
  | nil => simp
  | cons g gs ih =>
    rw [addAll_cons, addAll_cons]
    cases ht : g.takes c with
    | true =>
      have hname : c.name ∈ (cs.filter g.takes).map (·.name) :=
        List.mem_map_of_mem (List.mem_filter.mpr ⟨h, ht⟩)
      have hmem : c.name ∈ ((cs.filter g.takes).map (·.name)).foldl addName g.columns :=
        mem_foldl_addName.mpr (.inr hname)
      simp [List.filter_append, ht, extend, List.foldl_append, addName_of_mem hmem]
    | false =>
      have hc : c ∈ cs.filter (!g.takes ·) := List.mem_filter.mpr ⟨h, by simp [ht]⟩
      simp [List.filter_append, ht, ih hc]

/-- Columns that were there before, or that come first in the end, may be added in between. -/
lemma same_addAll_between {cs : List SelectableColumn} (before after : List SelectableColumn)
    {gs : List ColumnGroup} (h : ∀ c ∈ cs, c ∈ before ∨ Leads c (addAll (before ++ after) gs)) :
    List.Forall₂ Same (addAll (before ++ after) gs) (addAll (before ++ (cs ++ after)) gs) := by
  induction cs with
  | nil => exact same_refl _
  | cons c cs ih =>
    have hrest := ih fun d hd => h d (List.mem_cons_of_mem c hd)
    rcases h c List.mem_cons_self with hc | hc
    · have heq :
          addAll (before ++ (c :: cs ++ after)) gs = addAll (before ++ (cs ++ after)) gs := by
        have := addAll_concat_of_mem hc gs
        rw [List.cons_append, List.append_cons, addAll_append, this, ← addAll_append]
      rwa [heq]
    · exact same_trans hrest (same_addAll_insert _ _ (hc.same hrest))

/-- The columns of all groups. -/
def listed (gs : List ColumnGroup) : List SelectableColumn :=
  gs.flatMap fun g => g.columns.map fun c => ⟨g.reference, c⟩

lemma filter_listed_cons (p : String → Bool) (name : String) (g : ColumnGroup)
    (gs : List ColumnGroup) :
    (listed (g :: gs)).filter (fun c => p c.qualifier && Text.sameName c.name name) =
      (if p g.reference then
        (g.columns.filter (Text.sameName · name)).map fun c => ⟨g.reference, c⟩ else []) ++
      (listed gs).filter fun c => p c.qualifier && Text.sameName c.name name := by
  rw [listed, List.flatMap_cons, List.filter_append, List.filter_map]
  congr 1
  cases hp : p g.reference <;> simp [hp, Function.comp_def]

/-- A search by name finds the same columns. -/
lemma filter_listed_same {gs gs' : List ColumnGroup} (h : List.Forall₂ Same gs gs')
    (p : String → Bool) (name : String) :
    (listed gs).filter (fun c => p c.qualifier && Text.sameName c.name name) =
      (listed gs').filter fun c => p c.qualifier && Text.sameName c.name name := by
  induction h with
  | nil => rfl
  | cons hg _ ih =>
    rw [filter_listed_cons, filter_listed_cons, hg.reference, hg.columns, ih]

/-- The first column of its name under its qualifier. -/
def First (c : SelectableColumn) (gs : List ColumnGroup) : Prop :=
  (listed gs).find? (fun x => x.qualifier == c.qualifier && Text.sameName x.name c.name) = some c

lemma reference_mem_of_mem_listed {c : SelectableColumn} {gs : List ColumnGroup}
    (h : c ∈ listed gs) : c.qualifier ∈ gs.map (·.reference) := by
  obtain ⟨g, hg, hc⟩ := List.mem_flatMap.mp h
  obtain ⟨name, -, rfl⟩ := List.mem_map.mp hc
  exact List.mem_map_of_mem hg

/-- Where no two groups share a reference name, the first column of its name leads its group. -/
lemma First.leads {c : SelectableColumn} {gs : List ColumnGroup}
    (hd : (gs.map (·.reference)).Nodup) (h : First c gs) : Leads c gs := by
  induction gs with
  | nil => simp [Leads]
  | cons g gs ih =>
    rw [List.map_cons, List.nodup_cons] at hd
    rw [First, ← List.head?_filter, filter_listed_cons (· == c.qualifier)] at h
    by_cases hr : g.reference = c.qualifier
    · have hother : ∀ x ∈ gs, x.takes c = false := by
        intro x hx
        have : x.reference ≠ c.qualifier := by
          intro he
          exact hd.1 (hr ▸ he ▸ List.mem_map_of_mem hx)
        simp [takes, this]
      have hrest : (listed gs).filter
          (fun x => x.qualifier == c.qualifier && Text.sameName x.name c.name) = [] := by
        rw [List.filter_eq_nil_iff]
        intro x hx hq
        simp only [Bool.and_eq_true, beq_iff_eq] at hq
        exact hd.1 (hr ▸ hq.1 ▸ reference_mem_of_mem_listed hx)
      rw [hrest, List.append_nil, if_pos (by simpa using hr), List.head?_map, List.head?_filter,
        Option.map_eq_some_iff] at h
      obtain ⟨name, hname, rfl⟩ := h
      intro x hx
      rw [List.find?_cons] at hx
      cases ht : g.takes ⟨g.reference, name⟩ with
      | true =>
        simp only [ht, Option.some.injEq] at hx
        exact hx ▸ hname
      | false =>
        simp only [ht] at hx
        have := List.find?_some hx
        simp [hother x (List.mem_of_find?_eq_some hx)] at this
    · have ht : g.takes c = false := by simp [takes, hr]
      rw [if_neg (by simpa using hr), List.nil_append, List.head?_filter] at h
      intro x hx
      exact ih hd.2 h x (by simpa [ht] using hx)

end ColumnGroup

end SqlLoom.Report
