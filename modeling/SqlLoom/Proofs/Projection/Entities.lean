import Mathlib.Data.Finset.Card
import Mathlib.Data.List.Perm.Basic
import Mathlib.Data.Set.Finite.Basic
import Mathlib.Order.Preorder.Finite
import Mathlib.Order.WellFounded
import SqlLoom.Projection
import SqlLoom.Proofs.Text

/-! The tree of objects that a mapping describes. The descent from the root ends and passes every
entity of an accepted mapping once if and only if the parent of each is the id of a single entity:
ids are not checked to be different. -/
namespace SqlLoom

namespace JsonMapping

variable (m : JsonMapping)

/-- The entities whose objects are nested in that of `e`, up to `n` levels deep, once for every
object. -/
def below : Nat → JsonEntity → List JsonEntity
  | 0, _ => []
  | n + 1, e => (m.children e.id).flatMap fun c => c :: below n c

/-- The entities whose objects are nested in that of the root. -/
def placed : List JsonEntity := m.below m.nested.length m.root

/-- The object of `e` holds that of `c`. -/
def Child (c e : JsonEntity) : Prop := c ∈ m.children e.id

/-- An infinite descent from the root. -/
def Endless (f : Nat → JsonEntity) : Prop :=
  f 0 = m.root ∧ ∀ i, f (i + 1) ∈ m.children (f i).id

/-- At most `n` levels lie below the entity. -/
def Shallow : Nat → JsonEntity → Prop
  | 0, e => m.children e.id = []
  | n + 1, e => ∀ c ∈ m.children e.id, Shallow n c

variable {m}

lemma mem_children {id : String} {c : JsonEntity} :
    c ∈ m.children id ↔ c ∈ m.nested ∧ c.id ≠ id ∧ m.parentOf c = id := by
  simp [children]

namespace Shallow

lemma succ {n : Nat} {e : JsonEntity} (h : m.Shallow n e) : m.Shallow (n + 1) e := by
  induction n generalizing e with
  | zero =>
    intro c hc
    rw [Shallow] at h
    simp [h] at hc
  | succ n ih => exact fun c hc => ih (h c hc)

lemma mono {n k : Nat} {e : JsonEntity} (h : m.Shallow n e) (hk : n ≤ k) : m.Shallow k e := by
  induction hk with
  | refl => exact h
  | step _ ih => exact ih.succ

end Shallow

open Classical in
/-- The entities that some chain of children reaches. -/
noncomputable def descendants (m : JsonMapping) (e : JsonEntity) : Finset JsonEntity :=
  m.nested.toFinset.filter fun c => Relation.TransGen m.Child c e

lemma mem_descendants {c e : JsonEntity} :
    c ∈ m.descendants e ↔ c ∈ m.nested ∧ Relation.TransGen m.Child c e := by
  simp [descendants]

lemma descendants_ssubset {c e : JsonEntity} (hc : m.Child c e) (h : Acc m.Child c) :
    m.descendants c ⊂ m.descendants e := by
  have hsub : m.descendants c ⊆ m.descendants e := by
    intro d hd
    rw [mem_descendants] at hd ⊢
    exact ⟨hd.1, hd.2.tail hc⟩
  refine (Finset.ssubset_iff_of_subset hsub).mpr ⟨c, ?_, fun hself => ?_⟩
  · exact mem_descendants.mpr ⟨(mem_children.mp hc).1, .single hc⟩
  · have hloop := (mem_descendants.mp hself).2
    exact not_acc_iff_exists_descending_chain.mpr ⟨fun _ => c, rfl, fun _ => hloop⟩ h.transGen

/-- A descent that ends passes every entity at most once. -/
lemma shallow_of_acc {e : JsonEntity} (h : Acc m.Child e) :
    m.Shallow (m.descendants e).card e := by
  induction h with
  | intro e he ih =>
    cases hcard : (m.descendants e).card with
    | zero =>
      refine List.eq_nil_iff_forall_not_mem.mpr fun c hc => ?_
      have := Finset.card_lt_card (descendants_ssubset hc (he c hc))
      omega
    | succ n =>
      intro c hc
      have hlt := Finset.card_lt_card (descendants_ssubset hc (he c hc))
      exact (ih c hc).mono (by omega)

lemma acc_of_shallow {n : Nat} {e : JsonEntity} (h : m.Shallow n e) : Acc m.Child e := by
  induction n generalizing e with
  | zero =>
    refine ⟨_, fun c hc => ?_⟩
    rw [Shallow] at h
    simp [Child, h] at hc
  | succ n ih => exact ⟨_, fun c hc => ih (h c hc)⟩

/-- Without an endless descent, no more levels lie below the root than there are entities. -/
lemma shallow_root_iff : m.Shallow m.nested.length m.root ↔ ¬ ∃ f, m.Endless f := by
  have hacc : (¬ ∃ f, m.Endless f) ↔ Acc m.Child m.root := by
    rw [← not_iff_not, not_not, not_acc_iff_exists_descending_chain]
    rfl
  rw [hacc]
  have hsub : m.descendants m.root ⊆ m.nested.toFinset := fun c hc => by
    simpa using (mem_descendants.mp hc).1
  exact ⟨acc_of_shallow, fun h =>
    (shallow_of_acc h).mono ((Finset.card_le_card hsub).trans m.nested.toFinset_card_le)⟩

/-- Beyond the last level nothing is nested. -/
lemma below_of_shallow {n : Nat} {e : JsonEntity} (h : m.Shallow n e) :
    m.below (n + 1) e = m.below n e := by
  induction n generalizing e with
  | zero =>
    rw [Shallow] at h
    simp [below, h]
  | succ n ih =>
    rw [below, below]
    exact List.flatMap_congr fun c hc => by rw [ih (h c hc)]

open scoped List in
/-- An entity is nested as a child of the top or of another entity that is nested. -/
lemma below_succ_perm (n : Nat) (e : JsonEntity) :
    (m.below (n + 1) e).Perm ((e :: m.below n e).flatMap fun c => m.children c.id) := by
  induction n generalizing e with
  | zero => simp [below]
  | succ n ih =>
    calc m.below (n + 2) e
        = (m.children e.id).flatMap fun c => c :: m.below (n + 1) c := rfl
      _ ~ (m.children e.id).flatMap fun c =>
            c :: (c :: m.below n c).flatMap fun d => m.children d.id :=
          List.Perm.flatMap_left _ fun c _ => (ih c).cons c
      _ ~ m.children e.id ++ (m.children e.id).flatMap fun c =>
            (c :: m.below n c).flatMap fun d => m.children d.id := by
          simpa using (List.map_append_flatMap_perm (m.children e.id) id _).symm
      _ = (e :: m.below (n + 1) e).flatMap fun c => m.children c.id := by
          rw [List.flatMap_cons, below, List.flatMap_assoc]

lemma placed_perm (h : m.Shallow m.nested.length m.root) :
    m.placed.Perm ((m.root :: m.placed).flatMap fun c => m.children c.id) := by
  have hperm := below_succ_perm (m := m) m.nested.length m.root
  rwa [below_of_shallow h] at hperm

lemma count_flatMap_children (es : List JsonEntity) (c : JsonEntity) :
    (es.flatMap fun e => m.children e.id).count c =
      es.countP (fun e => c.id != e.id && m.parentOf c == e.id) * m.nested.count c := by
  induction es with
  | nil => simp
  | cons e es ih =>
    rw [List.flatMap_cons, List.count_append, ih, List.countP_cons, Nat.add_mul, Nat.add_comm]
    congr 1
    cases hc : (c.id != e.id && m.parentOf c == e.id) with
    | true =>
      rw [children, if_pos rfl, Nat.one_mul]
      exact List.count_filter (by exact hc)
    | false =>
      have hnot : c ∉ m.children e.id := by
        rw [children, List.mem_filter, hc]
        simp
      rw [List.count_eq_zero.mpr hnot, if_neg Bool.false_ne_true, Nat.zero_mul]

/-- An entity is nested in every object whose entity has the id of its parent. -/
lemma count_placed (h : m.Shallow m.nested.length m.root) {c : JsonEntity}
    (hc : c.id ≠ m.parentOf c) :
    m.placed.count c =
      (m.root :: m.placed).countP (·.id == m.parentOf c) * m.nested.count c := by
  rw [(placed_perm h).count_eq, count_flatMap_children]
  congr 1
  refine List.countP_congr fun e _ => ?_
  simp only [Bool.and_eq_true, bne_iff_ne, beq_iff_eq]
  exact ⟨fun he => he.2.symm, fun he => ⟨he ▸ hc, he.symm⟩⟩

lemma placed_subset (h : m.Shallow m.nested.length m.root) : m.placed ⊆ m.nested := by
  intro c hc
  obtain ⟨e, -, he⟩ := List.mem_flatMap.mp ((placed_perm h).mem_iff.mp hc)
  exact (mem_children.mp he).1

lemma not_mem_placed (h : m.Shallow m.nested.length m.root) {c : JsonEntity}
    (hc : c.id = m.parentOf c) : c ∉ m.placed := by
  intro hmem
  obtain ⟨e, -, he⟩ := List.mem_flatMap.mp ((placed_perm h).mem_iff.mp hmem)
  obtain ⟨-, hne, hparent⟩ := mem_children.mp he
  exact hne (hc.trans hparent)

/-- Whatever holds of the root and passes on to children holds of all ids that are reached. -/
lemma reached_induction {P : String → Prop} (hroot : P m.root.id)
    (hchild : ∀ id, P id → ∀ c ∈ m.children id, P c.id) : ∀ id ∈ m.reached, P id := by
  have hwithin : ∀ n known, (∀ id ∈ known, P id) → ∀ id ∈ m.reachWithin n known, P id := by
    intro n
    induction n with
    | zero => exact fun known hknown => hknown
    | succ n ih =>
      intro known hknown
      refine ih _ fun id hid => ?_
      rw [Text.mem_distinct, List.mem_append, List.mem_flatMap] at hid
      rcases hid with hid | ⟨k, hk, hid⟩
      · exact hknown id hid
      · obtain ⟨c, hc, rfl⟩ := List.mem_map.mp hid
        exact hchild k (hknown k hk) c hc
  exact hwithin _ _ (by simpa using hroot)

/-- Ids that are reached stay reached. -/
lemma subset_reachWithin (n : Nat) (known : List String) : known ⊆ m.reachWithin n known := by
  induction n generalizing known with
  | zero => exact List.Subset.refl known
  | succ n ih =>
    intro id hid
    exact ih _ (Text.mem_distinct.mpr (List.mem_append_left _ hid))

lemma root_reached : m.root.id ∈ m.reached :=
  subset_reachWithin _ _ (List.mem_singleton.mpr rfl)

/-- What acceptance means. -/
lemma validate_eq_ok : m.validate = .ok () ↔
    (∀ e ∈ m.nested, m.entityFault e = none) ∧ ∀ e ∈ m.nested, e.id ∈ m.reached := by
  rw [validate]
  constructor
  · intro hm
    split at hm
    · cases hm
    next hfault =>
      split at hm
      · cases hm
      next horphan =>
        exact ⟨List.findSome?_eq_none_iff.mp hfault, by simpa using List.find?_eq_none.mp horphan⟩
  · rintro ⟨hfault, hreached⟩
    rw [List.findSome?_eq_none_iff.mpr hfault, List.find?_eq_none.mpr (by simpa using hreached)]

lemma parentOf_mem_ids (hm : m.validate = .ok ()) {e : JsonEntity} (he : e ∈ m.nested) :
    m.parentOf e ∈ m.ids := by
  by_contra hnot
  have hfault := (validate_eq_ok.mp hm).1 e he
  simp [entityFault, hnot] at hfault

/-- The parent of an entity of an accepted mapping is reached. -/
lemma parentOf_reached (hm : m.validate = .ok ()) {e : JsonEntity} (he : e ∈ m.nested) :
    m.parentOf e ∈ m.reached := by
  rcases List.mem_cons.mp (parentOf_mem_ids hm he) with hid | hid
  · exact hid ▸ root_reached
  · obtain ⟨c, hc, hid⟩ := List.mem_map.mp hid
    exact hid ▸ (validate_eq_ok.mp hm).2 c hc

/-- A single entity has the id. -/
def UniqueId (m : JsonMapping) (id : String) : Prop :=
  (m.root :: m.nested).countP (·.id == id) = 1

/-- The parent of every entity is the id of a single entity. -/
def ParentsUnique (m : JsonMapping) : Prop := ∀ e ∈ m.nested, m.UniqueId (m.parentOf e)

instance (m : JsonMapping) : DecidablePred m.UniqueId := fun _ => inferInstanceAs (Decidable (_ = 1))

instance (m : JsonMapping) : Decidable m.ParentsUnique :=
  inferInstanceAs (Decidable (∀ e ∈ m.nested, m.UniqueId (m.parentOf e)))

namespace UniqueId

lemma eq_of_id {id : String} {x y : JsonEntity} (h : m.UniqueId id)
    (hx : x ∈ m.root :: m.nested) (hxid : x.id = id)
    (hy : y ∈ m.root :: m.nested) (hyid : y.id = id) : x = y := by
  rw [UniqueId, List.countP_eq_length_filter, List.length_eq_one_iff] at h
  obtain ⟨z, hz⟩ := h
  have honly : ∀ c ∈ m.root :: m.nested, c.id = id → c = z := by
    intro c hc hid
    rw [← List.mem_singleton, ← hz]
    simp [hc, hid]
  exact (honly x hx hxid).trans (honly y hy hyid).symm

lemma root_id_ne {c : JsonEntity} (h : m.UniqueId m.root.id) (hc : c ∈ m.nested) :
    c.id ≠ m.root.id := by
  rw [UniqueId, List.countP_cons_of_pos (by simp)] at h
  simpa using List.countP_eq_zero.mp (Nat.succ.inj h) c hc

/-- An id that a single nested entity has is not that of the root. -/
lemma countP_eq_count {c : JsonEntity} (h : m.UniqueId c.id) (hc : c ∈ m.nested)
    {es : List JsonEntity} (hes : es ⊆ m.nested) :
    (m.root :: es).countP (·.id == c.id) = es.count c := by
  have hroot : m.root.id ≠ c.id := fun hroot => (root_id_ne (hroot ▸ h) hc) hroot.symm
  rw [List.countP_cons_of_neg (by simpa using hroot), List.count]
  refine List.countP_congr fun e he => ?_
  simp only [beq_iff_eq]
  exact ⟨fun hid => h.eq_of_id (List.mem_cons_of_mem _ (hes he)) hid
    (List.mem_cons_of_mem _ hc) rfl, fun heq => heq ▸ rfl⟩

end UniqueId

/-- Where every entity is nested once, its parent is the id of one entity. -/
lemma parentsUnique_of_perm (h : m.Shallow m.nested.length m.root)
    (hp : m.placed.Perm m.nested) : m.ParentsUnique := by
  intro e he
  have hself : e.id ≠ m.parentOf e := fun hself => not_mem_placed h hself (hp.mem_iff.mpr he)
  have hcount := count_placed h hself
  rw [hp.count_eq, (hp.cons m.root).countP_eq] at hcount
  refine Nat.eq_of_mul_eq_mul_right (List.count_pos_iff.mpr he) ?_
  rw [Nat.one_mul]
  exact hcount.symm

lemma uniqueId_of_nodup (hids : m.ids.Nodup) {id : String} (h : id ∈ m.ids) :
    m.UniqueId id := by
  have hone := List.count_eq_one_of_mem hids h
  rwa [ids, ← List.map_cons, List.count, List.countP_map] at hone

/-- Ids that are all different are enough. -/
lemma parentsUnique_of_nodup (hm : m.validate = .ok ()) (hids : m.ids.Nodup) :
    m.ParentsUnique := fun _ he => uniqueId_of_nodup hids (parentOf_mem_ids hm he)

namespace ParentsUnique

/-- A descent never comes back: every step could be traced up again, to the root below itself. -/
lemma not_endless (hu : m.ParentsUnique) {f : Nat → JsonEntity} (hf : m.Endless f) : False := by
  obtain ⟨hroot, hstep⟩ := hf
  have hchild : ∀ i, f (i + 1) ∈ m.nested ∧ (f i).id = m.parentOf (f (i + 1)) := fun i =>
    ⟨(mem_children.mp (hstep i)).1, (mem_children.mp (hstep i)).2.2.symm⟩
  have hmem : ∀ i, f i ∈ m.root :: m.nested := by
    intro i
    cases i with
    | zero => simp [hroot]
    | succ i => exact List.mem_cons_of_mem _ (hchild i).1
  have hback : ∀ i k, f i = f (i + (k + 1)) → f 0 = f (k + 1) := by
    intro i k heq
    induction i with
    | zero => rwa [Nat.zero_add] at heq
    | succ i ih =>
      refine ih ((hu _ (hchild i).1).eq_of_id (hmem i) (hchild i).2 (hmem _) ?_)
      rw [heq]
      have hprev := (hchild (i + (k + 1))).2
      rwa [show i + (k + 1) + 1 = i + 1 + (k + 1) by omega] at hprev
  obtain ⟨i, j, hij, heq⟩ :=
    (List.finite_toSet (m.root :: m.nested)).exists_lt_map_eq_of_forall_mem hmem
  obtain ⟨k, rfl⟩ := Nat.exists_eq_add_of_lt hij
  have hreturn := hback i k heq
  have hunique := hu _ (hchild 0).1
  rw [← (hchild 0).2, hroot] at hunique
  exact hunique.root_id_ne (hchild k).1 (by rw [← hreturn, hroot])

lemma shallow_root (hu : m.ParentsUnique) : m.Shallow m.nested.length m.root :=
  shallow_root_iff.mpr fun ⟨_, hf⟩ => hu.not_endless hf

/-- An id that a single entity has is the id of one object. -/
lemma countP_placed (hu : m.ParentsUnique) : ∀ id ∈ m.reached, m.UniqueId id →
    (m.root :: m.placed).countP (·.id == id) = 1 := by
  have hsh := hu.shallow_root
  refine reached_induction (fun hunique => ?_) fun id ih c hc hunique => ?_
  · rw [List.countP_cons_of_pos (by simp), List.countP_eq_zero.mpr fun e he => ?_]
    simpa using hunique.root_id_ne (placed_subset hsh he)
  · obtain ⟨hmem, hne, rfl⟩ := mem_children.mp hc
    rw [hunique.countP_eq_count hmem (placed_subset hsh), count_placed hsh hne,
      ih (hu c hmem), Nat.one_mul, ← hunique.countP_eq_count hmem (List.Subset.refl _)]
    exact hunique

/-- Every entity is nested in one object. -/
lemma placed_perm_nested (hm : m.validate = .ok ()) (hu : m.ParentsUnique) :
    m.placed.Perm m.nested := by
  have hsh := hu.shallow_root
  rw [List.perm_iff_count]
  intro c
  by_cases hc : c ∈ m.nested
  swap
  · rw [List.count_eq_zero.mpr hc, List.count_eq_zero]
    exact fun hp => hc (placed_subset hsh hp)
  have hone := hu.countP_placed _ (parentOf_reached hm hc) (hu c hc)
  -- its own parent would be the one entity of its id, which no object holds
  have hself : c.id ≠ m.parentOf c := by
    intro hself
    have hunique : m.UniqueId c.id := hself ▸ hu c hc
    rw [← hself, hunique.countP_eq_count hc (placed_subset hsh)] at hone
    exact not_mem_placed hsh hself (List.count_pos_iff.mp (by omega))
  rw [count_placed hsh hself, hone, Nat.one_mul]

end ParentsUnique

end JsonMapping

end SqlLoom
