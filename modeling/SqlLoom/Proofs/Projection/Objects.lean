import SqlLoom.Proofs.Projection.Entities
import SqlLoom.Statement.Exprs

/-! The properties of the objects that a projection builds: those of the columns of every entity,
and one for every nested object. -/
namespace SqlLoom

namespace JsonMapping

variable {m : JsonMapping}

/-- Levels below the last add no columns. -/
lemma columnsWithin_succ {n : Nat} {e : JsonEntity} (h : m.Shallow n e) :
    m.columnsWithin (n + 1) e = m.columnsWithin n e := by
  induction n generalizing e with
  | zero =>
    rw [Shallow] at h
    simp [columnsWithin, h]
  | succ n ih =>
    rw [columnsWithin, columnsWithin]
    congr 1
    exact List.flatMap_congr fun c hc => ih (h c hc)

end JsonMapping

namespace Projection

open JsonMapping

/-- The keys of an argument list with their values. -/
def pairs : List Expr → List (String × Expr)
  | .literal (.string key) :: value :: rest => (key, value) :: pairs rest
  | _ => []

variable (p : Projection) {m : JsonMapping}

/-- The properties of an object, none for any other expression. -/
def ownProperties : Expr → List (String × Expr)
  | .call name args _ _ _ => if name = p.function "build_object" then pairs args else []
  | _ => []

/-- The properties of all objects within an expression. -/
def properties (e : Expr) : List (String × Expr) := e.exprs.flatMap p.ownProperties

def columnProperties (e : JsonEntity) : List (String × Expr) :=
  e.columns.map fun (key, column) => (key, subColumn column)

/-- The property of an entity within the object of its parent. -/
def nestedProperty (m : JsonMapping) (n : Nat) (e : JsonEntity) : String × Expr :=
  (e.propertyName.getD e.name, guard (m.columnsWithin n e) (p.object m n e))

/-- The argument list that builds these properties. -/
def arguments (l : List (String × Expr)) : List Expr :=
  l.flatMap fun (key, value) => [.string key, value]

@[simp] lemma pairs_arguments (l : List (String × Expr)) : pairs (arguments l) = l := by
  induction l with
  | nil => rfl
  | cons a l ih => simpa [arguments, pairs, Expr.string] using ih

lemma properties_call (name : String) (args : List Expr) :
    p.properties (.apply name args) =
      p.ownProperties (.apply name args) ++ (listExprs args ++ [] ++ []).flatMap p.ownProperties :=
  rfl

lemma properties_arguments (l : List (String × Expr)) :
    (listExprs (arguments l)).flatMap p.ownProperties = l.flatMap fun a => p.properties a.2 := by
  induction l with
  | nil => rfl
  | cons a l ih =>
    have hcons : listExprs (arguments (a :: l)) =
        .string a.1 :: (a.2.exprs ++ listExprs (arguments l)) := rfl
    rw [hcons, List.flatMap_cons, List.flatMap_append, ih]
    rfl

lemma properties_apply (l : List (String × Expr)) :
    p.properties (.apply (p.function "build_object") (arguments l)) =
      l ++ l.flatMap fun a => p.properties a.2 := by
  rw [properties_call, ← properties_arguments]
  simp [Expr.apply, ownProperties]

lemma object_zero (e : JsonEntity) :
    p.object m 0 e = .apply (p.function "build_object") (arguments (columnProperties e)) := by
  simp [object, arguments, columnProperties, List.flatMap_map]

lemma object_succ (n : Nat) (e : JsonEntity) :
    p.object m (n + 1) e = .apply (p.function "build_object")
      (arguments (columnProperties e ++ (m.children e.id).map (p.nestedProperty m n))) := by
  simp [object, arguments, columnProperties, nestedProperty, List.flatMap_map]

/-- Levels below the last add nothing to an object. -/
lemma object_succ_of_shallow {n : Nat} {e : JsonEntity} (h : m.Shallow n e) :
    p.object m (n + 1) e = p.object m n e := by
  induction n generalizing e with
  | zero =>
    rw [Shallow] at h
    simp [object_zero, object_succ, h]
  | succ n ih =>
    rw [object_succ, object_succ]
    congr 3
    refine List.map_congr_left fun c hc => ?_
    rw [nestedProperty, nestedProperty, ih (h c hc), columnsWithin_succ (h c hc)]

lemma object_of_shallow {n k : Nat} {e : JsonEntity} (h : m.Shallow n e) (hk : n ≤ k) :
    p.object m k e = p.object m n e := by
  induction hk with
  | refl => rfl
  | step hk ih => rw [object_succ_of_shallow p (h.mono hk), ih]

lemma nestedProperty_of_shallow {n k : Nat} {e : JsonEntity} (h : m.Shallow n e) (hk : n ≤ k) :
    p.nestedProperty m k e = p.nestedProperty m n e := by
  induction hk with
  | refl => rfl
  | step hk ih =>
    rw [← ih, nestedProperty, nestedProperty, object_succ_of_shallow p (h.mono hk),
      columnsWithin_succ (h.mono hk)]

lemma properties_conj (a b : Expr) :
    p.properties (.conj a b) = p.properties a ++ p.properties b := List.flatMap_append

lemma properties_case (x e : Expr) :
    p.properties (.case none [(x, .null)] (some e)) = p.properties x ++ p.properties e := by
  have hparts : p.properties (.case none [(x, .null)] (some e)) =
      ((x.exprs ++ [Expr.null] ++ []) ++ e.exprs).flatMap p.ownProperties := rfl
  rw [hparts, List.append_nil, List.flatMap_append, List.flatMap_append]
  simp [properties, ownProperties, Expr.null]

lemma properties_foldl_conj {es : List Expr} (hes : ∀ e ∈ es, p.properties e = []) {a : Expr}
    (ha : p.properties a = []) : p.properties (es.foldl .conj a) = [] := by
  induction es generalizing a with
  | nil => exact ha
  | cons e es ih =>
    refine ih (fun x hx => hes x (List.mem_cons_of_mem _ hx)) ?_
    rw [properties_conj, ha, hes e List.mem_cons_self, List.nil_append]

/-- The check for nulls builds no objects. -/
@[simp] lemma properties_guard (columns : List String) (e : Expr) :
    p.properties (guard columns e) = p.properties e := by
  rw [guard]
  cases Text.distinct columns with
  | nil => rfl
  | cons c cs =>
    have hnull : p.properties ((cs.map fun c => Expr.isNull (subColumn c) false).foldl .conj
        (.isNull (subColumn c) false)) = [] := by
      refine properties_foldl_conj p (fun x hx => ?_) rfl
      obtain ⟨c, -, rfl⟩ := List.mem_map.mp hx
      rfl
    rw [List.map_cons, Expr.all, properties_case, hnull, List.nil_append]

open scoped List in
/-- The properties within an object are those of its own columns, and for every nested entity its
property and those of its columns. -/
lemma properties_object {n k : Nat} {e : JsonEntity} (h : m.Shallow n e) (hk : n ≤ k) :
    (p.properties (p.object m n e)).Perm (columnProperties e ++
      (m.below n e).flatMap fun c => p.nestedProperty m k c :: columnProperties c) := by
  have hcolumns : ∀ c : JsonEntity,
      (columnProperties c).flatMap (fun a => p.properties a.2) = [] := by
    intro c
    rw [List.flatMap_eq_nil_iff]
    intro a ha
    obtain ⟨b, -, rfl⟩ := List.mem_map.mp ha
    rfl
  induction n generalizing e with
  | zero => simp [object_zero, properties_apply, hcolumns, below]
  | succ n ih =>
    have hchildren : ∀ c ∈ m.children e.id, p.nestedProperty m n c = p.nestedProperty m k c :=
      fun c hc => (nestedProperty_of_shallow p (h c hc) (by omega)).symm
    rw [object_succ, properties_apply, List.flatMap_append, hcolumns, List.nil_append,
      List.append_assoc, List.flatMap_map, List.map_congr_left hchildren, below,
      List.flatMap_assoc]
    refine List.Perm.append_left _ ?_
    calc (m.children e.id).map (p.nestedProperty m k) ++
          (m.children e.id).flatMap (fun c => p.properties (p.nestedProperty m n c).2)
        ~ (m.children e.id).flatMap fun c =>
            p.nestedProperty m k c :: p.properties (p.nestedProperty m n c).2 :=
          List.map_append_flatMap_perm _ _ _
      _ ~ (m.children e.id).flatMap fun c => (c :: m.below n c).flatMap fun d =>
            p.nestedProperty m k d :: columnProperties d :=
          List.Perm.flatMap_left _ fun c hc => by
            simpa [nestedProperty] using ih (h c hc) (by omega)

lemma properties_agg (e : Expr) :
    p.properties (.apply (p.function "agg") [e]) = p.properties e := by
  have hname : p.function "agg" ≠ p.function "build_object" := by
    cases hp : p.useJsonb <;> simp [function, hp]
  have hargs : listExprs [e] = e.exprs ++ [] := rfl
  rw [properties_call, hargs]
  simp [Expr.apply, ownProperties, hname, properties]

lemma build_of_shallow (s : Statement) (hm : m.validate = .ok ())
    (hsh : m.Shallow m.nested.length m.root) :
    ∃ value limit, p.build m s = .ok (.select
        { items := [{ value, aliasName := some m.rootName }]
          froms := [.derived s "_sub"]
          limit }) ∧
      ∀ n ≥ m.nested.length, (p.properties value).Perm (columnProperties m.root ++
        m.placed.flatMap fun e => p.nestedProperty m n e :: columnProperties e) := by
  have hproperties := fun n hn => properties_object p (k := n) hsh hn
  cases hformat : m.format with
  | array =>
    refine ⟨_, _, by simp only [build, hm, hformat]; rfl, fun n hn => ?_⟩
    rw [properties_agg]
    exact hproperties n hn
  | single => exact ⟨_, _, by simp only [build, hm, hformat]; rfl, hproperties⟩

/-- An accepted mapping has a finite document that holds every nested entity once if and only if
the parent of each is the id of a single entity, as it is where all ids differ. Wherever the
document is finite, no level is cut off, and its properties are those of the nested objects and of
the columns. -/
theorem build_properties (s : Statement) (hm : m.validate = .ok ()) :
    (((¬ ∃ f, m.Endless f) ∧ m.placed.Perm m.nested) ↔ m.ParentsUnique) ∧
    (m.ids.Nodup → m.ParentsUnique) ∧
    ((¬ ∃ f, m.Endless f) →
      (∀ n ≥ m.nested.length, p.object m n m.root = p.object m m.nested.length m.root) ∧
      ∃ value limit, p.build m s = .ok (.select
          { items := [{ value, aliasName := some m.rootName }]
            froms := [.derived s "_sub"]
            limit }) ∧
        ∀ n ≥ m.nested.length, (p.properties value).Perm (columnProperties m.root ++
          m.placed.flatMap fun e => p.nestedProperty m n e :: columnProperties e)) := by
  refine ⟨⟨?_, fun hu => ?_⟩, parentsUnique_of_nodup hm, fun hend => ?_⟩
  · rintro ⟨hend, hperm⟩
    exact parentsUnique_of_perm (shallow_root_iff.mpr hend) hperm
  · exact ⟨fun ⟨_, hf⟩ => hu.not_endless hf, hu.placed_perm_nested hm⟩
  · have hsh := shallow_root_iff.mpr hend
    exact ⟨fun n hn => object_of_shallow p hsh hn, build_of_shallow p s hm hsh⟩

def keys : Statement :=
  .select { items := [{ value := .column none "k" }], froms := [.table none "t" none] }

/-- A nested entity with the id of the root. -/
def twins : JsonMapping where
  rootName := "rows"
  root := { id := "r", name := "root", columns := [("id", "k")] }
  nested := [{ id := "r", name := "x", propertyName := some "x", columns := [("k", "k")] }]

/-- An entity below another of the same id. -/
def coil : JsonMapping where
  rootName := "rows"
  root := { id := "r", name := "root", columns := [] }
  nested :=
    [{ id := "a", name := "a", propertyName := some "a", columns := [] },
      { id := "b", name := "b", parentId := some "a", propertyName := some "b", columns := [] },
      { id := "a", name := "c", parentId := some "b", propertyName := some "c", columns := [] }]

/-- The descent of `coil` alternates between the second and the third entity. -/
def coilDescent : Nat → JsonEntity
  | 0 => coil.root
  | 1 => coil.nested[0]
  | n + 2 => if n % 2 = 0 then coil.nested[1] else coil.nested[2]

lemma coilDescent_endless : coil.Endless coilDescent := by
  refine ⟨rfl, fun i => ?_⟩
  match i with
  | 0 => decide
  | 1 => decide
  | n + 2 =>
    rcases Nat.mod_two_eq_zero_or_one n with hn | hn
    · have hnext : (n + 1) % 2 = 1 := by omega
      simp only [coilDescent, hn, hnext]
      decide
    · have hnext : (n + 1) % 2 = 0 := by omega
      simp only [coilDescent, hn, hnext]
      decide

theorem build_properties_shared_id :
    (twins.validate = .ok () ∧ ¬ twins.ParentsUnique ∧
      ∃ value limit, ({} : Projection).build twins keys = .ok (.select
          { items := [{ value, aliasName := some "rows" }]
            froms := [.derived keys "_sub"]
            limit }) ∧
        ({} : Projection).properties value = [("id", subColumn "k")]) ∧
    (coil.validate = .ok () ∧ ∃ f, coil.Endless f) := by
  refine ⟨⟨rfl, by decide, ?_⟩, rfl, coilDescent, coilDescent_endless⟩
  have hend : ¬ ∃ f, twins.Endless f := by
    refine shallow_root_iff.mp fun c hc => ?_
    cases hc
  obtain ⟨-, value, limit, hbuild, hproperties⟩ :=
    (build_properties {} keys (m := twins) rfl).2.2 hend
  exact ⟨value, limit, hbuild, List.perm_singleton.mp (hproperties 1 (by decide))⟩

end Projection

end SqlLoom
