import Mathlib.Data.List.Induction
import Mathlib.Tactic.Lemma
import SqlLoom.Report.Producers

/-! The places in a statement to which the search for selects comes. A place is a path of steps, and
there is one statement at a place, so a search that keeps one entry for each place loses nothing. -/
namespace SqlLoom

/-- The query of a derived table. -/
def Source.query? : Source → Option Statement
  | .subquery q _ _ _ => some q
  | _ => none

namespace Statement

/-- The statement at the end of a path of steps, the first step first. -/
def at? : Statement → List Nat → Option Statement
  | s, [] => some s
  | .select s, 0 :: i :: path =>
    (s.withClause.bind fun w => w.tables[i]?).bind fun t => t.body.at? path
  | .select s, 1 :: i :: path => (s.sources[i]?.bind Source.query?).bind fun q => q.at? path
  | .setOp b, 2 :: path => b.left.at? path
  | .setOp b, 3 :: path => b.right.at? path
  | .insert i, 4 :: path =>
    match i.source with
    | .query q => q.at? path
    | .rows _ => none
  | .createTable c, 5 :: path => c.query.bind fun q => q.at? path
  | _, _ => none

/-- From the statement at the end of a path one can go on. -/
lemma at?_append {s t : Statement} {path : List Nat} (h : s.at? path = some t)
    (more : List Nat) : s.at? (path ++ more) = t.at? more := by
  fun_induction Statement.at? s path with
  | case1 s =>
    cases h
    rfl
  | case2 s i path ih | case3 s i path ih =>
    obtain ⟨part, hpart, h⟩ := Option.bind_eq_some_iff.mp h
    rw [List.cons_append, List.cons_append, at?, hpart]
    exact ih part h
  | case4 b path ih | case5 b path ih => exact ih h
  | case6 i path q hq ih =>
    rw [List.cons_append, at?, hq]
    exact ih h
  | case7 i path rows hrows => simp at h
  | case8 c path ih =>
    obtain ⟨q, hq, h⟩ := Option.bind_eq_some_iff.mp h
    rw [List.cons_append, at?, hq]
    exact ih q h
  | case9 s path => simp at h

end Statement

namespace Report

variable {root : Statement} {path : List Nat}

/-- The statement at a place, whose steps are kept the last first. -/
def StandsAt (root : Statement) (path : List Nat) (s : Statement) : Prop :=
  root.at? path.reverse = some s

namespace StandsAt

lemma start : StandsAt root [] root := rfl

lemma unique {s t : Statement} (h : StandsAt root path s) (h' : StandsAt root path t) : s = t :=
  Option.some.inj (h.symm.trans h')

/-- From a place one can go on. -/
lemma steps {s t : Statement} (h : StandsAt root path s) (more : List Nat)
    (ht : s.at? more = some t) : StandsAt root (more.reverse ++ path) t := by
  rw [StandsAt, List.reverse_append, List.reverse_reverse, Statement.at?_append h, ht]

lemma table {s : Select} (h : StandsAt root path (.select s)) {w : WithClause}
    (hw : s.withClause = some w) {i : Nat} {t : CommonTable} (ht : w.tables[i]? = some t) :
    StandsAt root (i :: 0 :: path) t.body := by
  refine h.steps [0, i] ?_
  change ((s.withClause.bind fun w => w.tables[i]?).bind fun t => some t.body) = some t.body
  rw [hw, Option.bind_some, ht, Option.bind_some]

lemma derived {s : Select} (h : StandsAt root path (.select s)) {i : Nat} {q : Statement}
    {a : String} {columns : List String} {lateral : Bool}
    (hi : s.sources[i]? = some (.subquery q a columns lateral)) :
    StandsAt root (i :: 1 :: path) q := by
  refine h.steps [1, i] ?_
  change (s.sources[i]?.bind Source.query?).bind some = some q
  rw [hi]
  rfl

lemma left {b : SetOperation} (h : StandsAt root path (.setOp b)) :
    StandsAt root (2 :: path) b.left := h.steps [2] rfl

lemma right {b : SetOperation} (h : StandsAt root path (.setOp b)) :
    StandsAt root (3 :: path) b.right := h.steps [3] rfl

lemma insert {i : Insert} {q : Statement} (h : StandsAt root path (.insert i))
    (hq : i.source = .query q) : StandsAt root (4 :: path) q := by
  refine h.steps [4] ?_
  rw [Statement.at?, hq]
  rfl

lemma createTable {c : CreateTable} {q : Statement} (h : StandsAt root path (.createTable c))
    (hq : c.query = some q) : StandsAt root (5 :: path) q := by
  refine h.steps [5] ?_
  change c.query.bind some = some q
  rw [hq]
  rfl

end StandsAt

/-- The body of every table stands at its place. -/
def BodiesStand (root : Statement) (env : List (Located CommonTable)) : Prop :=
  ∀ t ∈ env, StandsAt root t.path t.node.body

lemma mem_locatedTables {w : Option WithClause} {t : Located CommonTable} :
    t ∈ locatedTables path w ↔
      ∃ c i, w = some c ∧ c.tables[i]? = some t.node ∧ t.path = i :: 0 :: path := by
  obtain ⟨place, node⟩ := t
  cases w with
  | none => simp [locatedTables]
  | some w =>
    simp only [locatedTables, List.mem_reverse, List.mem_map, Prod.exists,
      List.mem_zipIdx_iff_getElem?, Located.mk.injEq, Option.some.injEq]
    constructor
    · rintro ⟨u, i, hu, rfl, rfl⟩
      exact ⟨w, i, rfl, hu, rfl⟩
    · rintro ⟨_, i, rfl, hu, rfl⟩
      exact ⟨node, i, hu, rfl, rfl⟩

lemma bodiesStand_locatedTables {s : Select} (h : StandsAt root path (.select s)) :
    BodiesStand root (locatedTables path s.withClause) := by
  intro t ht
  obtain ⟨w, i, hw, hi, hpath⟩ := mem_locatedTables.mp ht
  rw [hpath]
  exact h.table hw hi

lemma bodiesStand_leadingTables (s : Statement) {path : List Nat} (h : StandsAt root path s) :
    BodiesStand root (leadingTables path s) := by
  fun_induction leadingTables path s with
  | case1 path s => exact bodiesStand_locatedTables h
  | case2 path left => exact ‹_ → _› h.left
  | case3 => exact fun t ht => absurd ht List.not_mem_nil

lemma findLocated_eq_some {name : String} {env before : List (Located CommonTable)}
    {t : Located CommonTable} (h : findLocated name env = some (t, before)) :
    ∃ nearer, env = nearer ++ t :: before ∧ Text.sameName t.node.name name = true ∧
      ∀ u ∈ nearer, Text.sameName u.node.name name = false := by
  induction env with
  | nil => simp [findLocated] at h
  | cons u us ih =>
    rw [findLocated] at h
    split at h
    · next hu =>
      cases h
      exact ⟨[], rfl, hu, nofun⟩
    · next hu =>
      obtain ⟨nearer, rfl, ht, hn⟩ := ih h
      exact ⟨u :: nearer, rfl, ht, List.forall_mem_cons.mpr ⟨by simpa using hu, hn⟩⟩

lemma isSome_findLocated {name : String} {env : List (Located CommonTable)} :
    (findLocated name env).isSome ↔ ∃ t ∈ env, Text.sameName t.node.name name = true := by
  induction env with
  | nil => simp [findLocated]
  | cons u us ih => cases hu : Text.sameName u.node.name name <;> simp [findLocated, hu, ih]

/-- What is found through an entry of a select, given its index. -/
def through (resolver : Option ColumnResolver) (columns : List String) (n : Nat)
    (env : List (Located CommonTable)) (path : List Nat) :
    Source × Nat → List (Located Select) := fun
  | (.table none name _, _) =>
    match findLocated name env with
    | some (t, before) => producersWithin resolver columns n before t.path t.node.body
    | none => []
  | (.subquery q _ _ _, i) => producersWithin resolver columns n env (i :: 1 :: path) q
  | _ => []

lemma producersWithin_select (resolver : Option ColumnResolver) (columns : List String) (n : Nat)
    (env : List (Located CommonTable)) (path : List Nat) (s : Select) :
    producersWithin resolver columns (n + 1) env path (.select s) =
      let env := locatedTables path s.withClause ++ env
      let inner := s.sources.zipIdx.flatMap (through resolver columns n env path)
      if inner.isEmpty && definesAll resolver columns env s then [⟨path, s⟩] else inner :=
  rfl

/-- Whatever is found stands where it is said to be. -/
lemma standsAt_of_mem_producersWithin {resolver : Option ColumnResolver} {columns : List String}
    {n : Nat} {env : List (Located CommonTable)} {path : List Nat} {s : Statement}
    (henv : BodiesStand root env) (hs : StandsAt root path s) :
    ∀ l ∈ producersWithin resolver columns n env path s, StandsAt root l.path (.select l.node) := by
  induction n generalizing env path s with
  | zero => simp [producersWithin]
  | succ n ih =>
    cases s with
    | select s =>
      have hknown : BodiesStand root (locatedTables path s.withClause ++ env) :=
        List.forall_mem_append.mpr ⟨bodiesStand_locatedTables hs, henv⟩
      rw [producersWithin_select]
      dsimp only
      split
      · exact List.forall_mem_singleton.mpr hs
      · rw [List.forall_mem_flatMap]
        rintro ⟨x, i⟩ hx
        have hi : s.sources[i]? = some x := List.mem_zipIdx_iff_getElem?.mp hx
        cases x with
        | table schema name a =>
          cases schema with
          | some schema => exact fun l hl => absurd hl List.not_mem_nil
          | none =>
            cases hfind : findLocated name (locatedTables path s.withClause ++ env) with
            | none => simp [through, hfind]
            | some found =>
              obtain ⟨t, before⟩ := found
              obtain ⟨nearer, heq, -⟩ := findLocated_eq_some hfind
              rw [heq] at hknown
              obtain ⟨ht, hbefore⟩ := List.forall_mem_cons.mp (List.forall_mem_append.mp hknown).2
              simpa only [through, hfind] using ih hbefore ht
        | subquery q a columns lateral => exact ih hknown (hs.derived hi)
        | function _ _ _ => exact fun l hl => absurd hl List.not_mem_nil
    | setOp b =>
      have hknown : BodiesStand root
          (leadingTables (3 :: path) b.right ++ leadingTables (2 :: path) b.left ++ env) :=
        List.forall_mem_append.mpr ⟨List.forall_mem_append.mpr
          ⟨bodiesStand_leadingTables _ hs.right, bodiesStand_leadingTables _ hs.left⟩, henv⟩
      exact List.forall_mem_append.mpr ⟨ih hknown hs.left, ih hknown hs.right⟩
    | insert i =>
      cases hi : i.source with
      | query q => simpa only [producersWithin, hi] using ih henv (hs.insert hi)
      | rows _ => simp [producersWithin, hi]
    | createTable c =>
      cases hc : c.query with
      | some q => simpa only [producersWithin, hc] using ih henv (hs.createTable hc)
      | none => simp [producersWithin, hc]
    | values _ | update _ | delete _ => simp [producersWithin]

lemma uniquePlaces_concat (found : List (Located Select)) (l : Located Select) :
    uniquePlaces (found ++ [l]) =
      if (uniquePlaces found).any (·.path == l.path) then uniquePlaces found
      else uniquePlaces found ++ [l] := by
  simp [uniquePlaces, List.foldl_append]

lemma Located.eq_of_path {l u : Located Select} (hl : StandsAt root l.path (.select l.node))
    (hu : StandsAt root u.path (.select u.node)) (h : l.path = u.path) : l = u := by
  obtain ⟨path, s⟩ := l
  obtain ⟨_, t⟩ := u
  obtain rfl := h
  obtain ⟨⟩ := hl.unique hu
  rfl

/-- Nothing is lost where each place has one select. -/
lemma mem_uniquePlaces {found : List (Located Select)}
    (h : ∀ l ∈ found, StandsAt root l.path (.select l.node)) (l : Located Select) :
    l ∈ uniquePlaces found ↔ l ∈ found := by
  induction found using List.reverseRecOn generalizing l with
  | nil => simp [uniquePlaces]
  | append_singleton found u ih =>
    obtain ⟨hfound, hu⟩ := List.forall_mem_append.mp h
    have ih := ih hfound
    rw [uniquePlaces_concat]
    split
    · next hany =>
      obtain ⟨v, hv, hpath⟩ := List.any_eq_true.mp hany
      have hv := (ih v).mp hv
      obtain rfl : v = u := Located.eq_of_path (hfound v hv)
        (hu u List.mem_cons_self) (beq_iff_eq.mp hpath)
      rw [ih l, List.mem_append, List.mem_singleton]
      exact ⟨.inl, fun hl => hl.elim id fun heq => heq ▸ hv⟩
    · simp [ih]

end Report

end SqlLoom
