import Mathlib.Tactic.Lemma
import SqlLoom.Proofs.Text
import SqlLoom.Scope

/-! The common tables that can be named from a place, the nearest first, each with the clause it
stands in. From the place of a table and the scopes one reads off where its body is walked. -/
namespace SqlLoom

/-- A table of a WITH clause: the tables of the clause, the index among them, and the scopes
around the clause. -/
structure Declared where
  clause : List CommonTable
  index : Nat
  table : CommonTable
  below : Scopes

namespace Declared

def named (name : String) (t : Declared) : Bool := Text.sameName t.table.name name

/-- The scopes in the body of a table of a plain clause: the earlier tables are visible. -/
def inner (t : Declared) : Scopes :=
  .body t.table.name :: .tables t.clause t.index :: t.below

/-- No earlier table of the clause has the name. -/
def Leads (t : Declared) : Prop :=
  ∀ u ∈ t.clause.take t.index, Text.sameName u.name t.table.name = false

/-- Nearer from every place that sees both. -/
def Before (t u : Declared) : Prop :=
  u.below.length < t.below.length ∨ u.below.length = t.below.length ∧ t.index < u.index

/-- The first `count` tables of a clause. -/
def ofClause (ts : List CommonTable) (count : Nat) (below : Scopes) : List Declared :=
  (ts.take count).zipIdx.map fun (t, i) => ⟨ts, i, t, below⟩

lemma mem_ofClause {ts : List CommonTable} {count : Nat} {below : Scopes} {t : Declared} :
    t ∈ ofClause ts count below ↔
      t.clause = ts ∧ t.below = below ∧ t.index < count ∧ t.clause[t.index]? = some t.table := by
  obtain ⟨clause, i, u, below'⟩ := t
  simp only [ofClause, List.mem_map, Prod.exists, mk.injEq, List.mem_zipIdx_iff_getElem?,
    List.getElem?_take]
  constructor
  · rintro ⟨u, i, h, rfl, rfl, rfl, rfl⟩
    split at h
    · next hi => exact ⟨rfl, rfl, hi, h⟩
    · simp at h
  · rintro ⟨rfl, rfl, hi, h⟩
    exact ⟨u, i, by simp [hi, h], rfl, rfl, rfl, rfl⟩

lemma map_table_ofClause (ts : List CommonTable) (count : Nat) (below : Scopes) :
    (ofClause ts count below).map (·.table) = ts.take count := by
  rw [ofClause, List.map_map]
  exact List.zipIdx_map_fst 0 _

lemma pairwise_ofClause (ts : List CommonTable) (count : Nat) (below : Scopes) :
    (ofClause ts count below).Pairwise Before := by
  rw [ofClause, List.pairwise_map]
  have h : (List.range' 0 (ts.take count).length).Pairwise (· < ·) := List.pairwise_lt_range'
  rw [← List.zipIdx_map_snd 0 (ts.take count), List.pairwise_map] at h
  exact h.imp fun hlt => .inr ⟨rfl, hlt⟩

end Declared

namespace Scopes

/-- Every common table that can be named. -/
def declared : Scopes → List Declared
  | [] => []
  | .tables all visible :: below => Declared.ofClause all visible below ++ declared below
  | _ :: below => declared below

lemma findIn_eq (name : String) (k : Nat) (ts : List CommonTable) :
    findIn name k ts =
      ((ts.zipIdx k).find? fun p => Text.sameName p.1.name name).map fun p => (p.2, p.1) := by
  induction ts generalizing k with
  | nil => rfl
  | cons t ts ih => cases h : Text.sameName t.name name <;> simp [findIn, h, ih]

/-- A name means the first table that is listed under it. -/
lemma resolveTable_eq (name : String) (sc : Scopes) :
    sc.resolveTable name = (sc.declared.find? (·.named name)).map (·.table) := by
  induction sc with
  | nil => rfl
  | cons f sc ih =>
    cases f with
    | tables all visible =>
      rw [declared, List.find?_append, Declared.ofClause, List.find?_map, resolveTable, findTable,
        findIn_eq]
      simp only [Function.comp_def, Declared.named]
      cases ((all.take visible).zipIdx).find? fun p => Text.sameName p.1.name name with
      | none => exact ih
      | some p => rfl
    | body _ => exact ih
    | query _ => exact ih
    | subquery _ => exact ih

lemma mem_declared {sc : Scopes} {t : Declared} :
    t ∈ sc.declared ↔ ∃ visible, .tables t.clause visible :: t.below <:+ sc ∧
      t.index < visible ∧ t.clause[t.index]? = some t.table := by
  induction sc with
  | nil => simp [declared]
  | cons f sc ih =>
    cases f with
    | tables all visible =>
      simp only [declared, List.mem_append, Declared.mem_ofClause, ih, List.suffix_cons_iff,
        List.cons.injEq, Frame.tables.injEq]
      constructor
      · rintro (⟨h, h', hi, ht⟩ | ⟨v, h, hi, ht⟩)
        · exact ⟨visible, .inl ⟨⟨h, rfl⟩, h'⟩, hi, ht⟩
        · exact ⟨v, .inr h, hi, ht⟩
      · rintro ⟨v, ⟨⟨h, rfl⟩, h'⟩ | h, hi, ht⟩
        · exact .inl ⟨h, h', hi, ht⟩
        · exact .inr ⟨v, h, hi, ht⟩
    | _ => simp [declared, ih, List.suffix_cons_iff]

lemma declared_subset {base sc : Scopes} (h : base <:+ sc) : base.declared ⊆ sc.declared := by
  intro t ht
  rw [mem_declared] at ht ⊢
  obtain ⟨v, hs, hi⟩ := ht
  exact ⟨v, hs.trans h, hi⟩

/-- A table is seen from further out already, or its clause stands further in. -/
lemma declared_of_suffix {base sc : Scopes} (h : base <:+ sc) {t : Declared}
    (ht : t ∈ sc.declared) : t ∈ base.declared ∨ base <:+ t.below := by
  rw [mem_declared] at ht ⊢
  obtain ⟨v, hs, hi⟩ := ht
  rcases Nat.lt_or_ge t.below.length base.length with hlt | hge
  · exact .inl ⟨v, List.suffix_of_suffix_length_le hs h hlt, hi⟩
  · exact .inr (List.suffix_of_suffix_length_le h ((List.suffix_cons _ _).trans hs) hge)

lemma below_suffix {sc : Scopes} {t : Declared} (h : t ∈ sc.declared) : t.below <:+ sc := by
  rw [mem_declared] at h
  obtain ⟨v, hs, -⟩ := h
  exact (List.suffix_cons _ _).trans hs

lemma below_length_lt {sc : Scopes} {t : Declared} (h : t ∈ sc.declared) :
    t.below.length < sc.length := by
  rw [mem_declared] at h
  obtain ⟨v, hs, -⟩ := h
  exact hs.length_le

/-- From the body of a table fewer tables can be named. -/
lemma declared_inner_subset {sc : Scopes} {t : Declared} (h : t ∈ sc.declared) :
    t.inner.declared ⊆ sc.declared := by
  intro u hu
  simp only [Declared.inner, declared, List.mem_append, Declared.mem_ofClause] at hu
  rcases hu with ⟨hc, hb, hlt, hu⟩ | hu
  · rw [mem_declared] at h ⊢
    obtain ⟨v, hs, hi, -⟩ := h
    exact ⟨v, by rw [hc, hb]; exact hs, Nat.lt_trans hlt hi, hu⟩
  · exact declared_subset (below_suffix h) hu

/-- A table cannot be named in its own body. -/
lemma not_inner_suffix {sc : Scopes} {t : Declared} (h : t ∈ sc.declared) : ¬t.inner <:+ sc := by
  intro hin
  rw [mem_declared] at h
  obtain ⟨v, hs, hi, -⟩ := h
  have hin' := List.suffix_of_suffix_length_le ((List.suffix_cons _ _).trans hin) hs (by simp)
  have := hin'.eq_of_length (by simp)
  simp only [List.cons.injEq, Frame.tables.injEq, true_and, and_true] at this
  exact absurd this (Nat.ne_of_lt hi)

lemma pairwise_declared (sc : Scopes) : sc.declared.Pairwise Declared.Before := by
  induction sc with
  | nil => exact .nil
  | cons f sc ih =>
    cases f with
    | tables all visible =>
      refine List.pairwise_append.mpr ⟨Declared.pairwise_ofClause all visible sc, ih, ?_⟩
      intro t ht u hu
      rw [Declared.mem_ofClause] at ht
      exact .inl (ht.2.1 ▸ below_length_lt hu)
    | body _ => exact ih
    | query _ => exact ih
    | subquery _ => exact ih

/-- Clauses around one place are told apart by their depths. -/
lemma clause_eq {sc : Scopes} {t u : Declared} (ht : t ∈ sc.declared) (hu : u ∈ sc.declared)
    (h : t.below.length = u.below.length) : t.clause = u.clause ∧ t.below = u.below := by
  rw [mem_declared] at ht hu
  obtain ⟨v, hs, -⟩ := ht
  obtain ⟨w, hs', -⟩ := hu
  have := (List.suffix_of_suffix_length_le hs hs' (by simp [h])).eq_of_length (by simp [h])
  simp only [List.cons.injEq, Frame.tables.injEq] at this
  exact ⟨this.1.1, this.2⟩

/-- The common tables that can be named, the nearest clause first. -/
def visible (sc : Scopes) : List CommonTable := sc.declared.map (·.table)

@[simp] lemma visible_nil : visible [] = [] := rfl

@[simp] lemma visible_tables (all : List CommonTable) (count : Nat) (sc : Scopes) :
    visible (.tables all count :: sc) = all.take count ++ visible sc := by
  rw [visible, declared, List.map_append, Declared.map_table_ofClause, visible]

@[simp] lemma visible_body (name : String) (sc : Scopes) :
    visible (.body name :: sc) = visible sc := rfl

@[simp] lemma visible_query (xs : List Source) (sc : Scopes) :
    visible (.query xs :: sc) = visible sc := rfl

@[simp] lemma visible_subquery (name : Option String) (sc : Scopes) :
    visible (.subquery name :: sc) = visible sc := rfl

lemma resolveTable_eq_none {name : String} {sc : Scopes} :
    sc.resolveTable name = none ↔ ∀ t ∈ sc.visible, Text.sameName t.name name = false := by
  simp [resolveTable_eq, visible, Declared.named]

end Scopes

end SqlLoom
