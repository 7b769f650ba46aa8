import SqlLoom.Proofs.Fixture.Tables
import SqlLoom.Proofs.Text

/-! Which references a fixture stands in for. An entry that meant the physical table means the
fixture's common table exactly when it has no schema left and the clause in front of the statement
is the nearest one in scope with a table of the name. -/
namespace SqlLoom

open Fixture

namespace Scopes

lemma findIn_append (name : String) (k : Nat) (xs ys : List CommonTable) :
    findIn name k (xs ++ ys) = (findIn name k xs).or (findIn name (k + xs.length) ys) := by
  induction xs generalizing k with
  | nil => simp [findIn]
  | cons x xs ih =>
    simp only [List.cons_append, findIn]
    split
    · rfl
    · rw [ih, List.length_cons, Nat.add_right_comm, Nat.add_assoc]

lemma findIn_map_redirect (own deep : List QualifiedName) (name : String) (k : Nat)
    (ts : List CommonTable) :
    findIn name k (ts.map (.redirect own deep)) =
      (findIn name k ts).map fun (i, t) => (i, t.redirect own deep) := by
  induction ts generalizing k with
  | nil => rfl
  | cons t ts ih =>
    cases h : Text.sameName t.name name <;> simp [findIn, h, ih]

lemma findIn_eq_none_iff {name : String} {k : Nat} {ts : List CommonTable} :
    findIn name k ts = none ↔ ∀ t ∈ ts, Text.sameName t.name name = false := by
  induction ts generalizing k with
  | nil => simp [findIn]
  | cons t ts ih =>
    simp only [findIn, List.mem_cons, forall_eq_or_imp]
    split
    · next h => simp [h]
    · next h => simp [h, ih]

lemma findTable_depth_lt {name : String} {sc : Scopes} {p : TablePlace}
    (h : sc.findTable name = some p) : p.depth < sc.length := by
  induction sc with
  | nil => simp [findTable] at h
  | cons f sc ih =>
    cases f with
    | tables all visible =>
      simp only [findTable] at h
      split at h
      · cases h
        simp
      · exact Nat.lt_succ_of_lt (ih h)
    | body _ => exact Nat.lt_succ_of_lt (ih h)
    | query _ => exact Nat.lt_succ_of_lt (ih h)
    | subquery _ => exact Nat.lt_succ_of_lt (ih h)

end Scopes

/-- The same table after the search. -/
def TablePlace.Redirected (p p' : TablePlace) : Prop :=
  ∃ own deep, p'.table = p.table.redirect own deep

namespace Kin

variable {fixtures : List CommonTable} {sc sc' : Scopes}

lemma length_eq (h : Kin fixtures none sc sc') : sc'.length = sc.length := by
  generalize hn : none = front at h
  induction h with
  | nil => rfl
  | frame _ _ ih => simp [ih hn]
  | fresh _ _ => simp at hn
  | joined _ _ _ _ _ _ _ => simp at hn

lemma depth_le {d : Nat} (h : Kin fixtures (some d) sc sc') : d ≤ sc.length := by
  generalize hn : some d = front at h
  induction h with
  | nil => simp at hn
  | frame _ _ ih => exact Nat.le_succ_of_le (ih hn)
  | fresh _ _ => cases hn; exact Nat.le_refl _
  | joined _ _ _ _ _ _ _ => cases hn; simp

/-- A frame in which the name is not found, or is found on both sides. -/
lemma findTable_frame {f f' : Frame} (hf : FrameKin f f')
    (name : String) (sc sc' : Scopes) :
    (Scopes.findTable name (f :: sc) = Scopes.findTable name sc ∧
      Scopes.findTable name (f' :: sc') = Scopes.findTable name sc') ∨
    ∃ p p', Scopes.findTable name (f :: sc) = some p ∧
      Scopes.findTable name (f' :: sc') = some p' ∧ p.depth = sc.length ∧ p.Redirected p' := by
  cases hf with
  | tables own deep all visible =>
    simp only [Scopes.findTable, ← List.map_take, Scopes.findIn_map_redirect]
    cases hfind : Scopes.findIn name 0 (all.take visible) with
    | none => exact .inl ⟨rfl, rfl⟩
    | some x => exact .inr ⟨_, _, rfl, rfl, rfl, own, deep, rfl⟩
  | other h h' =>
    cases f with
    | tables _ _ => simp [Frame.isTables, Frame.kind] at h
    | _ =>
      cases f' with
      | tables _ _ => simp [Frame.isTables, Frame.kind] at h'
      | _ => exact .inl ⟨rfl, rfl⟩

lemma findTable_none (h : Kin fixtures none sc sc') (name : String) :
    (sc.findTable name = none ∧ sc'.findTable name = none) ∨
    ∃ p p', sc.findTable name = some p ∧ sc'.findTable name = some p' ∧ p.Redirected p' := by
  generalize hn : none = front at h
  induction h with
  | nil => exact .inl ⟨rfl, rfl⟩
  | @frame front f f' sc sc' hf _ ih =>
    rcases findTable_frame hf name sc sc' with ⟨h, h'⟩ | ⟨p, p', h, h', -, hr⟩
    · rw [h, h']
      exact ih hn
    · exact .inr ⟨p, p', h, h', hr⟩
  | fresh _ _ => simp at hn
  | joined _ _ _ _ _ _ _ => simp at hn

/-- The clause in front has the last word, but for the clauses that are nearer. -/
lemma findTable_some {d : Nat} (h : Kin fixtures (some d) sc sc') {name : String} {i : Nat}
    {t : CommonTable} (ht : Scopes.findIn name 0 fixtures = some (i, t))
    (hname : Text.sameName t.name name = true) (hmem : t ∈ fixtures) :
    ((∀ p, sc.findTable name = some p → p.depth < d) ∧ sc'.findTable name = some ⟨d, i, t⟩) ∨
    ∃ p p', sc.findTable name = some p ∧ d ≤ p.depth ∧ sc'.findTable name = some p' ∧
      p.Redirected p' := by
  generalize hn : some d = front at h
  induction h with
  | nil => simp at hn
  | @frame front f f' sc sc' hf hk ih =>
    rcases findTable_frame hf name sc sc' with ⟨h, h'⟩ | ⟨p, p', h, h', hd, hr⟩
    · rw [h, h']
      exact ih hn
    · subst hn
      exact .inr ⟨p, p', h, hd ▸ hk.depth_le, h', hr⟩
  | @fresh sc sc' hk =>
    cases hn
    left
    refine ⟨fun p hp => Scopes.findTable_depth_lt hp, ?_⟩
    rw [Scopes.findTable, List.take_length, ht, hk.length_eq]
  | @joined sc sc' own deep all visible hk hd =>
    cases hn
    left
    have hall : Scopes.findIn name 0 (all.take visible) = none := by
      rw [Scopes.findIn_eq_none_iff]
      intro u hu
      by_contra hne
      have := Text.sameName_trans hname (by simpa using hne)
      rw [hd t hmem u (List.mem_of_mem_take hu)] at this
      simp at this
    constructor
    · intro p hp
      rw [Scopes.findTable, hall] at hp
      exact Scopes.findTable_depth_lt hp
    · rw [Scopes.findTable, List.take_append, List.take_of_length_le (by simp),
        Scopes.findIn_append, ht, hk.length_eq]
      rfl

end Kin

namespace Site

/-- The entry has no schema or loses it, and no clause that is nearer than the one in front has a
table of the name. -/
def Retargeted (x : Site) (schema : Option String) (name : String) : Prop :=
  (schema = none ∨ x.searched = true) ∧
    ∃ d, x.front = some d ∧ ∀ p, x.scopes.findTable name = some p → p.depth < d

end Site

lemma entries_trace (s : Statement) :
    s.sites.map (fun x => (x.source, x.scopes)) = entries s.trace.reverse := by
  rw [Tour.trace_reverse]
  exact map_fronted false [] s

/-- What an entry with a fixture's name refers to once schemas are dropped and tables are in front. -/
lemma Turns.relation {targets : List QualifiedName} {fixtures : List CommonTable} {x : Site}
    {e : Source × Scopes} (h : Turns targets fixtures x e) {schema : Option String}
    {name : String} {a : Option String} (hx : x.source = .table schema name a)
    {target : QualifiedName} (ht : target ∈ targets)
    (hn : Text.sameName target.name name = true)
    (hs : ∀ sch, schema = some sch → target.schema.all (Text.sameName · sch) = true)
    {i : Nat} {t : CommonTable} (hfind : Scopes.findIn name 0 fixtures = some (i, t))
    (hname : Text.sameName t.name name = true) (hmem : t ∈ fixtures) :
    (x.Retargeted schema name → e.2.relation e.1 = .common t) ∧
    (¬x.Retargeted schema name → (∃ sch, e.2.relation e.1 = .physical sch name) ∨
      ∃ u own deep, x.scopes.resolveTable name = some u ∧
        e.2.relation e.1 = .common (u.redirect own deep)) := by
  obtain ⟨src, sc'⟩ := e
  obtain ⟨hsource, hkin⟩ : src = dropSchema (if x.searched then targets else [])
      (.table schema name a) ∧ Kin fixtures x.front x.scopes sc' := ⟨h.1 _ _ _ hx, h.2⟩
  by_cases hbare : schema = none ∨ x.searched = true
  · have hsrc : src = .table none name a := by
      rw [hsource]
      cases schema with
      | none => rfl
      | some sch =>
        have hany : targets.any (shadows sch name) = true :=
          List.any_eq_true.mpr ⟨target, ht, by simp [shadows, hn, hs sch rfl]⟩
        simp [dropSchema, hbare.resolve_left (by simp), hany]
    have common : ∀ {p : TablePlace}, sc'.findTable name = some p →
        Scopes.relation sc' src = .common p.table := by
      intro p hp
      simp [hsrc, Scopes.relation, Scopes.resolveTable, hp]
    cases hfront : x.front with
    | none =>
      have hno : ¬x.Retargeted schema name := by simp [Site.Retargeted, hfront]
      refine ⟨fun hr => absurd hr hno, fun _ => ?_⟩
      rcases (hfront ▸ hkin).findTable_none name with ⟨-, h'⟩ | ⟨p, p', h, h', own, deep, hr⟩
      · exact .inl ⟨none, by simp [hsrc, Scopes.relation, Scopes.resolveTable, h']⟩
      · refine .inr ⟨p.table, own, deep, by simp [Scopes.resolveTable, h], ?_⟩
        rw [common h', hr]
    | some d =>
      rcases (hfront ▸ hkin).findTable_some hfind hname hmem with
        ⟨hd, h'⟩ | ⟨p, p', h, hd, h', own, deep, hr⟩
      · have hyes : x.Retargeted schema name := ⟨hbare, d, hfront, hd⟩
        exact ⟨fun _ => common h', fun hno => absurd hyes hno⟩
      · constructor
        · rintro ⟨-, d', hd', hlt⟩
          rw [hfront, Option.some.injEq] at hd'
          subst hd'
          exact absurd (hlt p h) (Nat.not_lt.mpr hd)
        · intro _
          refine .inr ⟨p.table, own, deep, by simp [Scopes.resolveTable, h], ?_⟩
          rw [common h', hr]
  · obtain ⟨sch, rfl⟩ := Option.ne_none_iff_exists'.mp fun h => hbare (.inl h)
    have hsearch : x.searched = false := by simpa using hbare
    refine ⟨fun hr => absurd hr.1 hbare, fun _ => .inl ⟨some sch, ?_⟩⟩
    rw [hsource, hsearch]
    rfl

namespace Fixture

lemma findIn_of_mem {ts : List CommonTable} {t : CommonTable} {name : String} (k : Nat)
    (hp : ts.Pairwise fun t u => Text.sameName t.name u.name = false) (hm : t ∈ ts)
    (hn : Text.sameName t.name name = true) : ∃ i, Scopes.findIn name k ts = some (i, t) := by
  induction ts generalizing k with
  | nil => simp at hm
  | cons u ts ih =>
    rw [List.pairwise_cons] at hp
    rw [Scopes.findIn]
    rcases List.mem_cons.mp hm with rfl | hm
    · exact ⟨k, by simp [hn]⟩
    · have hu : Text.sameName u.name name = false := by
        by_contra hne
        have := Text.sameName_trans (by simpa using hne) hn
        simp [hp.1 t hm] at this
      simpa [hu] using ih (k + 1) hp.2 hm

/-- The statement itself does not define a table of the fixture's name in front. -/
def Kept (s : Statement) (f : FixtureTable) : Prop :=
  ∀ w, s.withSlot? = some (some w) → w.get? f.target.name = none

instance (s : Statement) (f : FixtureTable) : Decidable (Kept s f) :=
  decidable_of_iff (∀ w ∈ s.withSlot?.join, w.get? f.target.name = none) (by
    simp [Kept, Option.join_eq_some_iff])

/-- The fixtures that are not left out, in their order. -/
def kept (fs : List FixtureTable) (s : Statement) : List FixtureTable :=
  fs.filter (Kept s ·)

lemma mem_kept {fs : List FixtureTable} {s : Statement} {f : FixtureTable} :
    f ∈ kept fs s ↔ f ∈ fs ∧ Kept s f := by
  simp [kept]

lemma filter_slot {s : Statement} {slot : Option WithClause} (h : s.withSlot? = some slot)
    (fs : List FixtureTable) :
    fs.filter (fun f => !slot.any fun w => (w.get? f.target.name).isSome) = kept fs s := by
  refine List.filter_congr fun f _ => ?_
  cases slot with
  | none => simp [Kept, h]
  | some w => cases hw : w.get? f.target.name <;> simp [Kept, h, hw]

/-- What an injection does when it succeeds. -/
lemma inject_eq_ok {fs : List FixtureTable} {s out : Statement} (h : inject fs s = .ok out) :
    (kept fs s = [] ∧ out = s) ∨
    ∃ slot tables, s.withSlot? = some slot ∧ tables ≠ [] ∧
      List.Forall₂ (fun f t => FixtureTable.toCommonTable f = .ok t) (kept fs s) tables ∧
      (tables ++ (slot.getD {}).tables).Pairwise
        (fun t u => Text.sameName t.name u.name = false) ∧
      out = (s.setWith (.joined tables slot)).redirect ((kept fs s).map FixtureTable.target)
        ((kept fs s).map FixtureTable.target) := by
  unfold inject at h
  split at h
  · next he =>
    cases h
    rw [List.isEmpty_iff.mp he]
    exact .inl ⟨rfl, rfl⟩
  · cases hslot : s.withSlot? with
    | none => simp [hslot] at h
    | some slot =>
      simp only [hslot, filter_slot hslot] at h
      cases hT : (kept fs s).mapM FixtureTable.toCommonTable with
      | error e => simp [hT, bind, Except.bind] at h
      | ok tables =>
        have hall := Result.forall₂_of_mapM hT
        simp only [hT, bind, Except.bind] at h
        split at h
        · next he =>
          cases h
          rw [List.isEmpty_iff.mp he, List.forall₂_nil_right_iff] at hall
          exact .inl ⟨hall, rfl⟩
        · next he =>
          split at h
          · simp at h
          · next hp =>
            cases h
            obtain ⟨rfl, hpair⟩ := WithClause.prepend_ok hp
            exact .inr ⟨slot, tables, rfl, by simpa using he, hall, hpair, rfl⟩

lemma inject_ok {fs : List FixtureTable} {s out : Statement} (h : inject fs s = .ok out) :
    ((∀ f ∈ fs, ¬Kept s f) ∧ out = s) ∨
    ∃ slot kept tables, s.withSlot? = some slot ∧ (∀ f ∈ fs, Kept s f → f ∈ kept) ∧
      List.Forall₂ (fun f t => FixtureTable.toCommonTable f = .ok t) kept tables ∧
      (tables ++ (slot.getD {}).tables).Pairwise
        (fun t u => Text.sameName t.name u.name = false) ∧
      out = (s.setWith (.joined tables slot)).redirect (kept.map FixtureTable.target)
        (kept.map FixtureTable.target) := by
  rcases inject_eq_ok h with ⟨hno, rfl⟩ | ⟨slot, tables, hslot, -, hall, hpair, rfl⟩
  · refine .inl ⟨fun f hf hk => ?_, rfl⟩
    have := mem_kept.mpr ⟨hf, hk⟩
    simp [hno] at this
  · exact .inr ⟨slot, kept fs s, tables, hslot, fun f hf hk => mem_kept.mpr ⟨hf, hk⟩, hall, hpair,
      rfl⟩

/-- Every FROM entry of the outcome stands where one of the statement stands. Of those that have
the name of a fixture, and its schema if both have one, exactly the retargeted ones refer to the
fixture; the others refer to a physical table or to a table that the statement itself defines. -/
theorem relation_inject {fs : List FixtureTable} {s out : Statement} (h : inject fs s = .ok out) :
    s.sites.map (fun x => (x.source, x.scopes)) = entries s.trace.reverse ∧
    List.Forall₂ (fun x e => ∀ f ∈ fs, Kept s f → ∀ schema name a,
      x.source = .table schema name a → Text.sameName f.target.name name = true →
      (∀ sch, schema = some sch → f.target.schema.all (Text.sameName · sch) = true) →
      ∃ t, f.toCommonTable = .ok t ∧
        (x.Retargeted schema name → e.2.relation e.1 = .common t) ∧
        (¬x.Retargeted schema name → (∃ sch, e.2.relation e.1 = .physical sch name) ∨
          ∃ u own deep, x.scopes.resolveTable name = some u ∧
            e.2.relation e.1 = .common (u.redirect own deep)))
      s.sites (entries out.trace.reverse) := by
  refine ⟨entries_trace s, ?_⟩
  rcases inject_ok h with ⟨hno, rfl⟩ | ⟨slot, kept, tables, hslot, hmem, hall, hpair, rfl⟩
  · rw [← entries_trace]
    rw [List.forall₂_map_right_iff, List.forall₂_same]
    exact fun x _ f hf hk => absurd hk (hno f hf)
  · have hi : ∀ t ∈ tables, t.Inert := by
      intro t ht
      obtain ⟨f, -, hf⟩ := exists_left_of_forall₂ hall ht
      exact (FixtureTable.inert_of_toCommonTable hf).1
    have hd := (List.pairwise_append.mp hpair).2.2
    have aligned := aligned_fronted (kept.map FixtureTable.target) hi hd false .nil s hslot nofun
    rw [Tour.trace_reverse]
    refine aligned.2.imp fun x e hturn f hf hk schema name a hx hn hs => ?_
    obtain ⟨t, ht, hft⟩ := exists_left_of_forall₂ hall.flip (hmem f hf hk)
    have hname : Text.sameName t.name name = true := by
      rw [(FixtureTable.inert_of_toCommonTable hft).2]
      exact hn
    obtain ⟨i, hfind⟩ := findIn_of_mem 0 (List.pairwise_append.mp hpair).1 ht hname
    exact ⟨t, hft, hturn.relation hx (List.mem_map_of_mem (hmem f hf hk)) hn hs hfind hname ht⟩

/-- A derived table in the FROM of an UPDATE keeps its schema and misses the fixture. -/
theorem relation_inject_update :
    let users : Source := .table (some "public") "users" none
    let derived : Source :=
      .derived (.select { items := [{ value := .column none "id" }], froms := [users] }) "x"
    let s : Statement := .update
      { target := .table none "t" none
        assignments := [⟨"a", .literal (.number "1")⟩]
        froms := [derived] }
    let f : FixtureTable := ⟨⟨"public.users", ["id"]⟩, []⟩
    ∃ out, inject [f] s = .ok out ∧
      ∃ x ∈ s.sites, ∃ e ∈ entries out.trace.reverse, x.source = users ∧
        x.scopes.relation users = .physical (some "public") "users" ∧
        ¬x.Retargeted (some "public") "users" ∧
        ∃ sch, e.2.relation e.1 = .physical sch "users" := by
  intro users derived s f
  have htarget : f.target = ⟨some "public", "users"⟩ := by decide
  have hfixture : f.toCommonTable = .ok ⟨"users", ["id"], FixtureTable.emptyBody ["id"]⟩ := by
    simp [FixtureTable.toCommonTable, htarget, f]
  obtain ⟨out, hout⟩ : ∃ out, inject [f] s = .ok out := by
    cases hi : inject [f] s with
    | ok out => exact ⟨out, rfl⟩
    | error e =>
      simp [inject, s, Statement.withSlot?, hfixture, bind, Except.bind, pure, Except.pure,
        WithClause.prepend, WithClause.pushAll, WithClause.push, WithClause.get?, EStateM.bind,
        EStateM.pure] at hi
  let x : Site := ⟨users, [.query [users], .subquery (some "x"),
    .query [.table none "t" none, derived]], false, some 0⟩
  have hsites : s.sites = [_, _, x] := rfl
  have hx : x ∈ s.sites := by
    rw [hsites]
    exact .tail _ (.tail _ (.head _))
  have hno : ¬x.Retargeted (some "public") "users" := by simp [Site.Retargeted, x]
  obtain ⟨e, he, hrel⟩ := exists_left_of_forall₂ (relation_inject hout).2.flip hx
  have hkept : Kept s f := by
    intro w hw
    simp [s, Statement.withSlot?] at hw
  obtain ⟨t, -, -, hother⟩ := hrel f (by simp) hkept (some "public") "users" none rfl
    (by rw [htarget]; decide) (by rintro _ ⟨⟩; rw [htarget]; decide)
  refine ⟨out, hout, x, hx, e, he, rfl, rfl, hno, ?_⟩
  rcases hother hno with h | ⟨u, own, deep, hu, -⟩
  · exact h
  · simp [x, Scopes.resolveTable, Scopes.findTable] at hu

end Fixture

end SqlLoom
