import SqlLoom.Proofs.Text
import SqlLoom.Statement.Hoist

/-! What merging the WITH clauses of operands keeps: the tables kept so far stay in front, a clash
once recorded stays, and tables whose names all differ are all kept. Merging fails for the first
table that differs from the first of its name, and else each table is kept or an equal one is. -/
namespace SqlLoom

namespace Hoisted

variable {α : Type} (table : α → CommonTable)

lemma kept_prefix (h : Hoisted α) (xs : List α) :
    h.kept <+: (xs.foldl (add table) h).kept := by
  induction xs generalizing h with
  | nil => exact List.prefix_rfl
  | cons x xs ih =>
    have hx : h.kept <+: (add table h x).kept := by
      unfold add
      split
      · split <;> exact List.prefix_rfl
      · exact List.prefix_append _ _
    exact hx.trans (ih _)

lemma clashes_prefix (h : Hoisted α) (xs : List α) :
    h.clashes <+: (xs.foldl (add table) h).clashes := by
  induction xs generalizing h with
  | nil => exact List.prefix_rfl
  | cons x xs ih =>
    have hx : h.clashes <+: (add table h x).clashes := by
      unfold add
      split
      · split
        · exact List.prefix_rfl
        · exact List.prefix_append _ _
      · exact List.prefix_rfl
    exact hx.trans (ih _)

/-- Nothing is kept that is not given. -/
lemma kept_ofTables_subset (xs : List α) : (ofTables table xs).kept ⊆ xs := by
  suffices ∀ h : Hoisted α, (xs.foldl (add table) h).kept ⊆ h.kept ++ xs by
    simpa [ofTables] using this {}
  intro h
  induction xs generalizing h with
  | nil => simp
  | cons x xs ih =>
    have hx : (add table h x).kept ⊆ h.kept ++ [x] := by
      unfold add
      split
      · split <;> exact List.subset_append_left _ _
      · exact List.Subset.refl _
    refine List.Subset.trans (ih (add table h x)) ?_
    rw [← List.singleton_append, ← List.append_assoc]
    exact List.append_subset.mpr
      ⟨List.Subset.trans hx (List.subset_append_left _ _), List.subset_append_right _ _⟩

/-- A table is kept, or it repeats one that is kept, or it clashes. -/
lemma add_cases (h : Hoisted α) (x : α) :
    add table h x = { h with kept := h.kept ++ [x] } ∨
    (∃ y ∈ h.kept, (table y).equals (table x) = true ∧ add table h x = h) ∨
    (add table h x).clashes ≠ [] := by
  unfold add
  split
  · next y hy =>
    split
    · next he => exact .inr (.inl ⟨y, List.mem_of_find?_eq_some hy, he, rfl⟩)
    · exact .inr (.inr (by simp))
  · exact .inl rfl

lemma kept_foldl_of_pairwise (h : Hoisted α) (xs : List α)
    (hp : (h.kept ++ xs).Pairwise fun x y =>
      Text.sameName (table x).name (table y).name = false) :
    (xs.foldl (add table) h).kept = h.kept ++ xs := by
  induction xs generalizing h with
  | nil => simp
  | cons x xs ih =>
    have hnew : h.kept.find? (fun y => Text.sameName (table y).name (table x).name) = none := by
      rw [List.find?_eq_none]
      intro y hy
      simpa using (List.pairwise_append.mp hp).2.2 y hy x (by simp)
    have hadd : add table h x = { h with kept := h.kept ++ [x] } := by simp [add, hnew]
    rw [List.foldl_cons, hadd, ih _ (by simpa using hp)]
    simp

/-- Tables whose names all differ are all kept. -/
lemma kept_ofTables_of_pairwise (xs : List α)
    (hp : xs.Pairwise fun x y => Text.sameName (table x).name (table y).name = false) :
    (ofTables table xs).kept = xs := by
  simpa [ofTables] using kept_foldl_of_pairwise table {} xs (by simpa using hp)

/-- What is kept, with a function applied to it. -/
def map {β : Type} (f : α → β) (h : Hoisted α) : Hoisted β :=
  { kept := h.kept.map f, clashes := h.clashes }

lemma add_map {β : Type} (table : β → CommonTable) (f : α → β) (h : Hoisted α) (x : α) :
    add table (h.map f) (f x) = (add (table ∘ f) h x).map f := by
  have hfind : (h.map f).kept.find? (fun y => Text.sameName (table y).name (table (f x)).name) =
      (h.kept.find? fun y => Text.sameName (table (f y)).name (table (f x)).name).map f := by
    rw [map, List.find?_map]
    rfl
  unfold add
  rw [hfind]
  simp only [Function.comp_apply]
  cases h.kept.find? fun y => Text.sameName (table (f y)).name (table (f x)).name with
  | none => simp [map]
  | some y =>
    simp only [Option.map_some]
    split <;> rfl

/-- Only the tables decide what is kept. -/
lemma ofTables_map {β : Type} (table : β → CommonTable) (f : α → β) (xs : List α) :
    ofTables table (xs.map f) = (ofTables (table ∘ f) xs).map f := by
  have hfold : ∀ (h : Hoisted α), (xs.map f).foldl (add table) (h.map f) =
      (xs.foldl (add (table ∘ f)) h).map f := by
    induction xs with
    | nil => exact fun h => rfl
    | cons x xs ih =>
      intro h
      rw [List.map_cons, List.foldl_cons, List.foldl_cons, add_map, ih]
  exact hfold {}

section
variable {β : Type} (table' : β → CommonTable) {R : α → β → Prop}
  (hR : ∀ x y, R x y → table x = table' y)
include hR

lemma rel_find? {xs : List α} {ys : List β} (h : List.Forall₂ R xs ys) (n : String) :
    Option.Rel R (xs.find? fun x => Text.sameName (table x).name n)
      (ys.find? fun y => Text.sameName (table' y).name n) := by
  induction h with
  | nil => exact .none
  | @cons x y xs ys hxy _ ih =>
    rw [List.find?_cons, List.find?_cons, hR x y hxy]
    split
    · exact .some hxy
    · exact ih

lemma rel_add {h : Hoisted α} {h' : Hoisted β} {x : α} {y : β}
    (hkept : List.Forall₂ R h.kept h'.kept) (hclashes : h.clashes = h'.clashes) (hxy : R x y) :
    List.Forall₂ R (add table h x).kept (add table' h' y).kept ∧
      (add table h x).clashes = (add table' h' y).clashes := by
  have hfind := rel_find? table table' hR hkept (table x).name
  unfold add
  rw [← hR x y hxy]
  generalize List.find? _ h.kept = found, List.find? _ h'.kept = found' at hfind ⊢
  cases hfind with
  | none => exact ⟨List.rel_append hkept (.cons hxy .nil), hclashes⟩
  | @some u v huv =>
    simp only [hR u v huv]
    split
    · exact ⟨hkept, hclashes⟩
    · exact ⟨hkept, by simp only [hclashes]⟩

/-- Lists that are related member by member are merged alike. -/
lemma rel_ofTables {xs : List α} {ys : List β} (h : List.Forall₂ R xs ys) :
    List.Forall₂ R (ofTables table xs).kept (ofTables table' ys).kept ∧
      (ofTables table xs).clashes = (ofTables table' ys).clashes := by
  have hfold : ∀ (g : Hoisted α) (g' : Hoisted β), List.Forall₂ R g.kept g'.kept →
      g.clashes = g'.clashes →
      List.Forall₂ R (xs.foldl (add table) g).kept (ys.foldl (add table') g').kept ∧
        (xs.foldl (add table) g).clashes = (ys.foldl (add table') g').clashes := by
    induction h with
    | nil => exact fun _ _ hkept hclashes => ⟨hkept, hclashes⟩
    | cons hxy _ ih =>
      intro g g' hkept hclashes
      obtain ⟨hkept', hclashes'⟩ := rel_add table table' hR hkept hclashes hxy
      exact ih _ _ hkept' hclashes'
  exact hfold {} {} .nil rfl

end

end Hoisted

namespace CommonTable

/-- The table differs from the first of its name among those before it. -/
def Differs (before : List CommonTable) (t : CommonTable) : Prop :=
  ∃ u, before.find? (fun u => Text.sameName u.name t.name) = some u ∧ u.equals t = false

/-- `name` belongs to the first table that differs from the first of its name. -/
def FirstClash (ts : List CommonTable) (name : String) : Prop :=
  ∃ before t after, ts = before ++ t :: after ∧ t.name = name ∧ t.Differs before ∧
    ∀ earlier u later, before = earlier ++ u :: later → ¬ u.Differs earlier

end CommonTable

namespace Hoisted

variable {ts : List CommonTable}

lemma ofTables_concat (ts : List CommonTable) (t : CommonTable) :
    ofTables id (ts ++ [t]) = add id (ofTables id ts) t := by
  simp [ofTables]

lemma clashes_prefix_append (before after : List CommonTable) :
    (ofTables id before).clashes <+: (ofTables id (before ++ after)).clashes := by
  simpa [ofTables] using clashes_prefix id (ofTables id before) after

/-- Of each name the first table is kept. -/
lemma find?_kept (name : String) (ts : List CommonTable) :
    (ofTables id ts).kept.find? (fun u => Text.sameName u.name name) =
      ts.find? fun u => Text.sameName u.name name := by
  induction ts using List.reverseRecOn generalizing name with
  | nil => rfl
  | append_singleton ts t ih =>
    rw [ofTables_concat, add]
    cases hfind : (ofTables id ts).kept.find? fun u => Text.sameName (id u).name (id t).name with
    | none => simp [List.find?_append, ih]
    | some u =>
      -- The first of the name of `t` stands before it, so `t` is never the first of a name.
      have hold : (List.find? (fun u => Text.sameName u.name name) ts).or
          ([t].find? fun u => Text.sameName u.name name) =
          ts.find? fun u => Text.sameName u.name name := by
        cases hname : Text.sameName t.name name with
        | false => simp [hname]
        | true =>
          have hu : Text.sameName u.name name = true := by
            have := List.find?_some hfind
            rw [Text.sameName_iff] at hname this ⊢
            exact this.trans hname
          have hmem : u ∈ ts := List.mem_of_find?_eq_some ((ih t.name).symm.trans hfind)
          cases hfirst : ts.find? fun u => Text.sameName u.name name with
          | none => exact absurd hu (List.find?_eq_none.mp hfirst u hmem)
          | some v => rfl
      rw [List.find?_append, hold]
      simp only [id]
      split <;> exact ih name

/-- The kept tables have the names of all tables. -/
lemma forall_kept_iff (name : String) (ts : List CommonTable) :
    (∀ t ∈ (ofTables id ts).kept, Text.sameName t.name name = false) ↔
      ∀ t ∈ ts, Text.sameName t.name name = false := by
  have h := congrArg (· = none) (find?_kept name ts)
  simpa [List.find?_eq_none] using h

lemma clashes_concat_of_differs {t : CommonTable} (h : t.Differs ts) :
    (ofTables id (ts ++ [t])).clashes = (ofTables id ts).clashes ++ [t.name] := by
  obtain ⟨u, hfind, hne⟩ := h
  rw [ofTables_concat, add]
  simp only [id, find?_kept, hfind, hne]
  rfl

lemma clashes_concat_of_not_differs {t : CommonTable} (h : ¬ t.Differs ts) :
    (ofTables id (ts ++ [t])).clashes = (ofTables id ts).clashes := by
  rw [ofTables_concat, add]
  simp only [id, find?_kept]
  cases hfind : ts.find? fun u => Text.sameName u.name t.name with
  | none => rfl
  | some u =>
    cases he : u.equals t with
    | false => exact absurd ⟨u, hfind, he⟩ h
    | true => simp [he]

lemma clashes_eq_nil_iff :
    (ofTables id ts).clashes = [] ↔
      ∀ before t after, ts = before ++ t :: after → ¬ t.Differs before := by
  induction ts using List.reverseRecOn with
  | nil => simp [ofTables]
  | append_singleton ts t ih =>
    constructor
    · intro hnone before u after hsplit hu
      have hpre := clashes_prefix_append (before ++ [u]) after
      rw [List.append_assoc, List.singleton_append, ← hsplit, hnone, clashes_concat_of_differs hu,
        List.prefix_nil] at hpre
      simp at hpre
    · intro hsplit
      rw [clashes_concat_of_not_differs (hsplit ts t [] rfl)]
      exact ih.mpr fun before u after h => hsplit before u (after ++ [t]) (by simp [h])

/-- The first clash recorded is that of the first table that differs from the first of its name. -/
lemma head?_clashes_iff (name : String) :
    (ofTables id ts).clashes.head? = some name ↔ CommonTable.FirstClash ts name := by
  constructor
  · induction ts using List.reverseRecOn with
    | nil => simp [ofTables]
    | append_singleton ts t ih =>
      intro hhead
      cases hold : (ofTables id ts).clashes with
      | nil =>
        by_cases ht : t.Differs ts
        · rw [clashes_concat_of_differs ht, hold] at hhead
          exact ⟨ts, t, [], rfl, by simpa using hhead, ht, clashes_eq_nil_iff.mp hold⟩
        · rw [clashes_concat_of_not_differs ht, hold] at hhead
          simp at hhead
      | cons first rest =>
        obtain ⟨more, hpre⟩ := clashes_prefix_append ts [t]
        rw [← hpre, hold] at hhead
        obtain ⟨before, u, after, hts, hu⟩ := ih (by rw [hold]; simpa using hhead)
        exact ⟨before, u, after ++ [t], by simp [hts], hu⟩
  · rintro ⟨before, t, after, rfl, rfl, ht, hfirst⟩
    obtain ⟨more, hpre⟩ := clashes_prefix_append (before ++ [t]) after
    rw [List.append_assoc, List.singleton_append, clashes_concat_of_differs ht,
      clashes_eq_nil_iff.mpr hfirst] at hpre
    rw [← hpre]
    rfl

/-- A table whose name has not occurred is kept, and no other. -/
lemma kept_concat (ts : List CommonTable) (t : CommonTable) :
    (ofTables id (ts ++ [t])).kept =
      match ts.find? fun u => Text.sameName u.name t.name with
      | some _ => (ofTables id ts).kept
      | none => (ofTables id ts).kept ++ [t] := by
  rw [ofTables_concat, add]
  simp only [id, find?_kept]
  cases ts.find? fun u => Text.sameName u.name t.name with
  | none => rfl
  | some u => dsimp only; split <;> rfl

/-- The tables kept before a kept table are those kept of the tables before it. -/
lemma split_of_kept {k : Nat} {u : CommonTable} (h : (ofTables id ts).kept[k]? = some u) :
    ∃ before after, ts = before ++ u :: after ∧
      (ofTables id ts).kept.take k = (ofTables id before).kept := by
  induction ts using List.reverseRecOn with
  | nil => simp [ofTables] at h
  | append_singleton ts t ih =>
    have hold (h : (ofTables id ts).kept[k]? = some u) :
        ∃ before after, ts ++ [t] = before ++ u :: after ∧
          (ofTables id ts).kept.take k = (ofTables id before).kept := by
      obtain ⟨before, after, hts, hk⟩ := ih h
      exact ⟨before, after ++ [t], by simp [hts], hk⟩
    rw [kept_concat] at h ⊢
    split
    · next hfind =>
      rw [hfind] at h
      exact hold h
    · next hfind =>
      rw [hfind] at h
      rcases Nat.lt_or_ge k (ofTables id ts).kept.length with hk | hk
      · rw [List.getElem?_append_left hk] at h
        rw [List.take_append_of_le_length (Nat.le_of_lt hk)]
        exact hold h
      · rw [List.getElem?_append_right hk, List.getElem?_singleton] at h
        obtain ⟨hlast, rfl⟩ : k - (ofTables id ts).kept.length = 0 ∧ t = u := by simpa using h
        have hk : k = (ofTables id ts).kept.length := by omega
        exact ⟨ts, [], rfl, by simp [hk]⟩

lemma kept_subset (ts : List CommonTable) : (ofTables id ts).kept ⊆ ts := by
  intro u hu
  obtain ⟨k, hk⟩ := List.getElem?_of_mem hu
  obtain ⟨before, after, hts, -⟩ := split_of_kept hk
  simp [hts]

/-- Without a clash, a table is kept or an equal one is, and what is kept before that one stands
before the table. -/
lemma kept_of_split {before after : List CommonTable} {t : CommonTable}
    (hn : (ofTables id (before ++ t :: after)).clashes = []) :
    ∃ k u, (ofTables id (before ++ t :: after)).kept[k]? = some u ∧
      (u = t ∨ u.equals t = true) ∧
      (ofTables id (before ++ t :: after)).kept.take k ⊆ before := by
  have hpre : (ofTables id (before ++ [t])).kept <+: (ofTables id (before ++ t :: after)).kept := by
    simpa [ofTables] using kept_prefix id (ofTables id (before ++ [t])) after
  have hfound : ∃ k u, (ofTables id (before ++ [t])).kept[k]? = some u ∧
      (u = t ∨ u.equals t = true) ∧ (ofTables id (before ++ [t])).kept.take k ⊆ before := by
    rw [kept_concat]
    cases hfind : before.find? fun u => Text.sameName u.name t.name with
    | none =>
      refine ⟨(ofTables id before).kept.length, t, by simp, .inl rfl, ?_⟩
      simpa using kept_subset before
    | some u =>
      have hu : u.equals t = true := by
        by_contra he
        exact clashes_eq_nil_iff.mp hn before t after rfl ⟨u, hfind, by simpa using he⟩
      have hmem : u ∈ (ofTables id before).kept :=
        List.mem_of_find?_eq_some ((find?_kept t.name before).trans hfind)
      obtain ⟨k, hk⟩ := List.getElem?_of_mem hmem
      exact ⟨k, u, hk, .inr hu, fun v hv => kept_subset before (List.mem_of_mem_take hv)⟩
  obtain ⟨k, u, hk, hu, htake⟩ := hfound
  have hlt : k < (ofTables id (before ++ [t])).kept.length := (List.getElem?_eq_some_iff.mp hk).1
  obtain ⟨more, hmore⟩ := hpre
  rw [← hmore]
  refine ⟨k, u, by rw [List.getElem?_append_left hlt, hk], hu, ?_⟩
  rwa [List.take_append_of_le_length (Nat.le_of_lt hlt)]

/-- A change that keeps names and equalities keeps what is hoisted, unless tables clash. -/
lemma ofTables_map_of_equals {f : CommonTable → CommonTable} (hname : ∀ t, (f t).name = t.name)
    (heq : ∀ t u, t.equals u = true → (f t).equals (f u) = true)
    (hn : (ofTables id ts).clashes = []) :
    ofTables id (ts.map f) = (ofTables id ts).map f := by
  induction ts using List.reverseRecOn with
  | nil => rfl
  | append_singleton ts t ih =>
    have hold : (ofTables id ts).clashes = [] := by
      have hpre := clashes_prefix_append ts [t]
      rwa [hn, List.prefix_nil] at hpre
    rw [ofTables_concat] at hn ⊢
    rw [List.map_append, List.map_singleton, ofTables_concat, ih hold, add_map]
    congr 1
    unfold add at hn ⊢
    simp only [id, Function.comp_apply, hname] at hn ⊢
    cases hfind : (ofTables id ts).kept.find? fun u => Text.sameName u.name t.name with
    | none => rfl
    | some u =>
      cases he : u.equals t with
      | false => simp [hfind, he] at hn
      | true => simp [he, heq u t he]

section
variable {before : List CommonTable}
variable (hp : before.Pairwise fun t u => Text.sameName t.name u.name = false)

include hp in
lemma clashes_of_pairwise : (ofTables id before).clashes = [] := by
  refine clashes_eq_nil_iff.mpr fun earlier t after hsplit ⟨u, hfind, _⟩ => ?_
  rw [hsplit, List.pairwise_append] at hp
  have hdistinct := hp.2.2 u (List.mem_of_find?_eq_some hfind) t (List.mem_cons_self ..)
  simp [List.find?_some hfind] at hdistinct

/-- Behind other tables, one that did not clash does if it differs from the first of its name. -/
lemma differs_append_iff {t : CommonTable} (h : ¬ t.Differs ts) :
    t.Differs (before ++ ts) ↔ t.Differs before := by
  unfold CommonTable.Differs at h ⊢
  rw [List.find?_append]
  cases before.find? fun u => Text.sameName u.name t.name with
  | none => simpa using h
  | some u => rfl

include hp in
/-- Tables without clashes, behind tables of different names, clash with those alone. -/
lemma mem_clashes_append (hn : (ofTables id ts).clashes = []) {name : String} :
    name ∈ (ofTables id (before ++ ts)).clashes ↔ ∃ t ∈ ts, t.Differs before ∧ t.name = name := by
  induction ts using List.reverseRecOn with
  | nil => simp [clashes_of_pairwise hp]
  | append_singleton ts t ih =>
    have ht : ¬ t.Differs ts := clashes_eq_nil_iff.mp hn ts t [] rfl
    rw [clashes_concat_of_not_differs ht] at hn
    rw [← List.append_assoc]
    by_cases hd : t.Differs before
    · rw [clashes_concat_of_differs ((differs_append_iff ht).mpr hd), List.mem_append, ih hn]
      simp [or_and_right, exists_or, hd, eq_comm]
    · rw [clashes_concat_of_not_differs (mt (differs_append_iff ht).mp hd), ih hn]
      simp [or_and_right, exists_or, hd]

/-- Tables in front of others, in whose place at most equal ones are left out. -/
lemma flatMap_kept_append {α : Type} {g : CommonTable → List α} (hg : ∀ t ∈ before, g t = [])
    (heq : ∀ t ∈ before, ∀ u ∈ ts, t.equals u = true → g u = [])
    (hd : ∀ t ∈ ts, ¬ t.Differs before) :
    (ofTables id (before ++ ts)).kept.flatMap g = (ofTables id ts).kept.flatMap g := by
  induction ts using List.reverseRecOn with
  | nil =>
    rw [List.append_nil, List.flatMap_eq_nil_iff.mpr fun t ht => hg t (kept_subset before ht)]
    rfl
  | append_singleton ts t ih =>
    have hold := ih (fun u hu v hv => heq u hu v (List.mem_append_left _ hv))
      fun u hu => hd u (List.mem_append_left _ hu)
    rw [← List.append_assoc, kept_concat, kept_concat, List.find?_append]
    cases hfind : before.find? fun u => Text.sameName u.name t.name with
    | none =>
      cases ts.find? fun u => Text.sameName u.name t.name with
      | none => simp [hold]
      | some u => simpa using hold
    | some u =>
      have hequal : u.equals t = true := by
        by_contra hne
        exact hd t (by simp) ⟨u, hfind, by simpa using hne⟩
      have hgt := heq u (List.mem_of_find?_eq_some hfind) t (by simp) hequal
      cases ts.find? fun u => Text.sameName u.name t.name with
      | none => simp [hold, hgt]
      | some v => simpa using hold

end

end Hoisted

namespace WithClause

/-- The clause of the first tables of all names, whether or not others clash with them. -/
def hoisted (ws : List WithClause) : Option WithClause :=
  if ws.isEmpty then none
  else
    some
      { recursive := ws.any (·.recursive)
        tables := (Hoisted.ofTables id (ws.flatMap (·.tables))).kept }

/-- Merging fails with the first clash, and else gives the clause of all kept tables. -/
lemma merge_eq (ws : List WithClause) :
    merge ws =
      match (Hoisted.ofTables id (ws.flatMap (·.tables))).clashes.head? with
      | some name => .error (.duplicateTable name)
      | none => .ok (hoisted ws) := by
  unfold merge hoisted
  cases ws with
  | nil => rfl
  | cons w ws =>
    simp only [List.isEmpty_cons, Bool.false_eq_true, if_false]
    cases (Hoisted.ofTables id ((w :: ws).flatMap (·.tables))).clashes <;> rfl

end WithClause

end SqlLoom
