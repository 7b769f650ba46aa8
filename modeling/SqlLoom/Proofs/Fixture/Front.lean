import SqlLoom.Proofs.Fixture.Alignment

/-! A statement with tables put in front: the clause that has taken them up is in scope where the
sites say so, and everything else is as before. -/
namespace SqlLoom

open Fixture

/-- A table that no search changes and that refers to nothing. -/
structure CommonTable.Inert (t : CommonTable) : Prop where
  redirect (own deep : List QualifiedName) : t.redirect own deep = t
  entries (sc : Scopes) : entries (Tour.statement false t.body sc) = []

/-- The clause with tables before its own. -/
def WithClause.joined (fixtures : List CommonTable) (w : Option WithClause) : WithClause :=
  { recursive := (w.getD {}).recursive, tables := fixtures ++ (w.getD {}).tables }

lemma tables_append (frame : Nat → Frame) (total : Option Nat) (index : Nat)
    (xs ys : List CommonTable) (sc : Scopes) :
    Tour.tables frame total index (xs ++ ys) sc =
      Tour.tables frame total index xs sc ++ Tour.tables frame total (index + xs.length) ys sc := by
  induction xs generalizing index with
  | nil => simp [Tour.tables]
  | cons x xs ih =>
    obtain ⟨n, cs, b⟩ := x
    simp [Tour.tables, ih, Nat.add_comm, Nat.add_left_comm]

lemma entries_inert {ts : List CommonTable} (hi : ∀ t ∈ ts, t.Inert) (frame : Nat → Frame)
    (total : Option Nat) (index : Nat) (sc : Scopes) :
    entries (Tour.tables frame total index ts sc) = [] := by
  induction ts generalizing index with
  | nil => simp [Tour.tables]
  | cons t ts ih =>
    simp only [List.mem_cons, forall_eq_or_imp] at hi
    have hb := hi.1.entries
    obtain ⟨n, cs, b⟩ := t
    simp [Tour.tables, Event.entry?, hb, ih hi.2]

lemma map_redirect_inert {ts : List CommonTable} (hi : ∀ t ∈ ts, t.Inert)
    (own deep : List QualifiedName) : ts.map (.redirect own deep) = ts := by
  conv_rhs => rw [← List.map_id ts]
  exact List.map_congr_left fun t ht => (hi t ht).redirect own deep

lemma sites_select (r : Reach) (s : Select) (sc : Scopes) :
    Sites.statement r false (.select s) sc =
      Sites.withClause r s.withClause sc ++
        Sites.statement r false (.select { s with withClause := none })
          (Walk.withScopes s.withClause sc) := by
  cases s
  rfl

lemma sites_update (r : Reach) (asOperand : Bool) (u : Update) (sc : Scopes) :
    Sites.statement r asOperand (.update u) sc =
      Sites.withClause r u.withClause sc ++
        Sites.statement r asOperand (.update { u with withClause := none })
          (Walk.withScopes u.withClause sc) := by
  cases u
  change _ ++ _ ++ _ ++ _ ++ _ ++ _ = _ ++ ([] ++ _ ++ _ ++ _ ++ _ ++ _)
  simp only [List.append_assoc, List.nil_append]
  rfl

lemma sites_delete (r : Reach) (asOperand : Bool) (u : Delete) (sc : Scopes) :
    Sites.statement r asOperand (.delete u) sc =
      Sites.withClause r u.withClause sc ++
        Sites.statement r asOperand (.delete { u with withClause := none })
          (Walk.withScopes u.withClause sc) := by
  cases u
  change _ ++ _ ++ _ ++ _ ++ _ = _ ++ ([] ++ _ ++ _ ++ _ ++ _)
  simp only [List.append_assoc, List.nil_append]
  rfl

lemma entries_select (s : Select) (sc : Scopes) :
    entries (Tour.statement false (.select s) sc) =
      entries (Tour.withClause s.withClause sc) ++
        entries (Tour.statement false (.select { s with withClause := none })
          (Walk.withScopes s.withClause sc)) := by
  cases s
  change entries (_ ++ Tour.inside _ _ _ ++ Tour.leaves _ _) =
    _ ++ entries ([] ++ Tour.inside _ _ _ ++ [])
  simp only [entries_append, entries_leaves, List.append_nil, List.nil_append]
  rfl

lemma entries_update (asOperand : Bool) (u : Update) (sc : Scopes) :
    entries (Tour.statement asOperand (.update u) sc) =
      entries (Tour.withClause u.withClause sc) ++
        entries (Tour.statement asOperand (.update { u with withClause := none })
          (Walk.withScopes u.withClause sc)) := by
  cases u
  change entries (Tour.again _ _ ++ _ ++ Tour.inside _ _ _ ++ Tour.leaves _ _) =
    _ ++ entries (Tour.again _ _ ++ [] ++ Tour.inside _ _ _ ++ [])
  simp only [entries_append, entries_again, entries_leaves, List.append_nil, List.nil_append]
  rfl

lemma entries_delete (asOperand : Bool) (u : Delete) (sc : Scopes) :
    entries (Tour.statement asOperand (.delete u) sc) =
      entries (Tour.withClause u.withClause sc) ++
        entries (Tour.statement asOperand (.delete { u with withClause := none })
          (Walk.withScopes u.withClause sc)) := by
  cases u
  change entries (Tour.again _ _ ++ _ ++ Tour.inside _ _ _ ++ Tour.leaves _ _) =
    _ ++ entries (Tour.again _ _ ++ [] ++ Tour.inside _ _ _ ++ [])
  simp only [entries_append, entries_again, entries_leaves, List.append_nil, List.nil_append]
  rfl

section
variable (targets : List QualifiedName) {fixtures : List CommonTable} {w₀ : Option WithClause}
variable (hi : ∀ t ∈ fixtures, t.Inert)
variable (hd : ∀ t ∈ fixtures, ∀ u ∈ (w₀.getD {}).tables, Text.sameName t.name u.name = false)

include hi hd in
lemma aligned_joined {sc sc' : Scopes} (h : Kin fixtures none sc sc') :
    Aligned targets fixtures (Sites.withClause { front := some sc.length } w₀ sc)
      (entries (Tour.withClause w₀ sc))
      (entries (Tour.withClause (mapWith (intoQuery targets) (mapFromWith (dropSchema targets)
        (some (.joined fixtures w₀)))) sc')) ∧
    Kin fixtures (some sc.length) (Walk.withScopes w₀ sc)
      (Walk.withScopes (mapWith (intoQuery targets) (mapFromWith (dropSchema targets)
        (some (.joined fixtures w₀)))) sc') := by
  rcases w₀ with _ | ⟨isRecursive, us⟩
  · constructor
    · simpa [Sites.withClause, Tour.withClause, mapWith_redirect, WithClause.joined,
        map_redirect_inert hi, entries_inert hi, Event.entry?] using Aligned.nil
    · simpa [Walk.withScopes, mapWith_redirect, WithClause.joined, map_redirect_inert hi] using
        h.fresh
  · have kin : ∀ visible, Kin fixtures (some sc.length) (.tables us visible :: sc)
        (.tables (fixtures ++ us.map (.redirect targets targets)) (fixtures.length + visible) ::
          sc') := fun visible => h.joined targets targets us visible hd
    constructor
    · have := aligned_tables targets { front := some sc.length } (.tables us)
        (.tables (fixtures ++ us.map (.redirect targets targets)))
        (if isRecursive then some us.length else none)
        (if isRecursive then some (fixtures ++ us).length else none) fixtures.length 0
        (fun k => by cases isRecursive <;> simpa using kin _) us
      simpa [Sites.withClause, Tour.withClause, mapWith_redirect, WithClause.joined,
        map_redirect_inert hi, tables_append, entries_inert hi, Event.entry?] using this
    · simpa [Walk.withScopes, mapWith_redirect, WithClause.joined, map_redirect_inert hi] using
        kin us.length

/-- As an operand, the first select is walked without its clause. -/
lemma entries_operand_setWith (w : WithClause) (sc : Scopes) : (s : Statement) →
    s.leftmost?.isSome → entries (Tour.statement true ((s.setWith w).redirect targets targets) sc) =
      entries (Tour.statement true (s.redirect targets targets) sc)
  | .select ⟨_, _, _, _, _, _, _, _, _, _, _⟩, _ => rfl
  | .setOp ⟨l, op, a, x, o, m, k⟩, h => by
    rw [Statement.setWith, redirect_setOp, redirect_setOp]
    change entries (_ ++ _ ++ _ ++ _ ++ _) = entries (_ ++ _ ++ _ ++ _ ++ _)
    simp only [entries_append, entries_operand_setWith w sc l h]
  | .values _, h => by simp [Statement.leftmost?] at h
  | .insert _, h => by simp [Statement.leftmost?] at h
  | .createTable _, h => by simp [Statement.leftmost?] at h
  | .update _, h => by simp [Statement.leftmost?] at h
  | .delete _, h => by simp [Statement.leftmost?] at h

/-- Without a select in front the place is inside a data change, and no clause is hoisted. -/
lemma operandWiths_setWith (w : WithClause) : (s : Statement) → s.leftmost? = none →
    ((s.setWith w).redirect targets targets).operandWiths =
      (s.redirect targets targets).operandWiths ∧
    ∀ sc, Tour.operandWiths ((s.setWith w).redirect targets targets) sc =
      Tour.operandWiths (s.redirect targets targets) sc
  | .select _, h => by simp [Statement.leftmost?] at h
  | .setOp ⟨l, op, a, x, o, m, k⟩, h => by
    obtain ⟨hl, ht⟩ := operandWiths_setWith w l h
    rw [Statement.setWith, redirect_setOp, redirect_setOp]
    constructor
    · rw [Statement.operandWiths, hl, Statement.operandWiths]
    · intro sc
      simp only [Tour.operandWiths_setOp, Walk.operandScopes, hl, ht]
  | .values _, _ => ⟨rfl, fun _ => rfl⟩
  | .insert ⟨_, _, .rows _, _⟩, _ => ⟨rfl, fun _ => rfl⟩
  | .insert ⟨_, _, .query _, _⟩, _ => ⟨rfl, fun _ => rfl⟩
  | .createTable ⟨_, _, _, _, none⟩, _ => ⟨rfl, fun _ => rfl⟩
  | .createTable ⟨_, _, _, _, some _⟩, _ => ⟨rfl, fun _ => rfl⟩
  | .update ⟨_, _, _, _, _, _⟩, _ => ⟨rfl, fun _ => rfl⟩
  | .delete ⟨_, _, _, _, _⟩, _ => ⟨rfl, fun _ => rfl⟩

include hi hd in
lemma aligned_joined_operands {sc sc' : Scopes} (h : Kin fixtures none sc sc') :
    (s : Statement) → s.leftmost?.isSome → s.withSlot? = some w₀ →
    Aligned targets fixtures (Sites.operandWiths { front := some sc.length } s sc)
      (entries (Tour.operandWiths s sc))
      (entries (Tour.operandWiths
        ((s.setWith (.joined fixtures w₀)).redirect targets targets) sc')) ∧
    Kin fixtures (some sc.length) (Walk.operandScopes s sc)
      (Walk.operandScopes ((s.setWith (.joined fixtures w₀)).redirect targets targets) sc')
  | .select ⟨w, _, _, _, _, _, _, _, _, _, _⟩, _, hw => by
    obtain rfl : w = w₀ := by simpa [Statement.withSlot?] using hw
    rw [Statement.setWith, redirect_select, Walk.operandScopes_select, Walk.operandScopes_select]
    exact aligned_joined targets hi hd h
  | .setOp ⟨l, op, a, x, o, m, k⟩, hl, hw => by
    obtain ⟨ha, hk⟩ := aligned_joined_operands h l hl hw
    have hx := aligned_operandWiths targets { front := some sc.length } hk x
    rw [Statement.setWith, redirect_setOp, Walk.operandScopes_setOp, Walk.operandScopes_setOp]
    exact ⟨ha.both hx, hk.operandScopes targets targets x⟩
  | .values _, hl, _ => by simp [Statement.leftmost?] at hl
  | .insert _, hl, _ => by simp [Statement.leftmost?] at hl
  | .createTable _, hl, _ => by simp [Statement.leftmost?] at hl
  | .update _, hl, _ => by simp [Statement.leftmost?] at hl
  | .delete _, hl, _ => by simp [Statement.leftmost?] at hl

include hi hd in
/-- A statement beside the same statement with tables in front. -/
lemma aligned_fronted (asOperand : Bool) {sc sc' : Scopes} (h : Kin fixtures none sc sc') :
    (s : Statement) → s.withSlot? = some w₀ → (asOperand = true → s.leftmost? = none) →
    Aligned targets fixtures (Sites.fronted asOperand s sc)
      (entries (Tour.statement asOperand s sc))
      (entries (Tour.statement asOperand
        ((s.setWith (.joined fixtures w₀)).redirect targets targets) sc'))
  | .select ⟨w, d, is, fs, js, f, g, u, o, l, k⟩, hw, ha => by
    obtain rfl : asOperand = false := by
      cases asOperand with
      | true => simp [Statement.leftmost?] at ha
      | false => rfl
    obtain rfl : w = w₀ := by simpa [Statement.withSlot?] using hw
    obtain ⟨hfront, hk⟩ := aligned_joined targets hi hd h
    have hrest := aligned_statement targets { front := some sc.length } false hk
      (.select ⟨none, d, is, fs, js, f, g, u, o, l, k⟩)
    rw [Sites.fronted, sites_select, entries_select _ sc, Statement.setWith, redirect_select,
      entries_select _ sc']
    exact hfront.append hrest
  | .setOp ⟨l, op, a, x, o, m, k⟩, hw, ha => by
    rw [Sites.fronted]
    split
    · next hl =>
      obtain rfl : asOperand = false := by
        cases asOperand with
        | true => simp [Statement.leftmost?, Option.isSome_iff_ne_none.mp hl] at ha
        | false => rfl
      obtain ⟨hfront, hk⟩ := aligned_joined_operands targets hi hd h l hl hw
      have hx := aligned_operandWiths targets { front := some sc.length } hk x
      have hrest := aligned_statement targets { front := some sc.length } true
        (hk.operandScopes targets targets x) (.setOp ⟨l, op, a, x, o, m, k⟩)
      rw [Reach.all_own, Reach.all_deep, ← entries_operand_setWith targets (.joined fixtures w₀) _
        (.setOp ⟨l, op, a, x, o, m, k⟩) hl] at hrest
      exact .leaves ((hfront.both hx).both hrest)
    · next hl =>
      have hl : l.leftmost? = none := by simpa using hl
      obtain ⟨hs, ht⟩ := operandWiths_setWith targets (.joined fixtures w₀) l hl
      have tail : ∀ {a a' : Scopes}, Kin fixtures none a a' → Aligned targets fixtures
          (Sites.fronted true l a ++ Sites.statement {} true x a ++ Sites.order {} o a ++
            Sites.option {} m a ++ Sites.option {} k a) _ _ := fun ha =>
        ((((aligned_fronted true ha l hw fun _ => hl).both
          (aligned_statement targets {} true ha x)).both
          (aligned_order targets {} .plain ha o)).both
          (aligned_option targets {} ha m)).both
          (aligned_option targets {} ha k)
      cases asOperand with
      | true => exact tail h
      | false =>
        have hf := aligned_operandWiths targets {} h l
        have hx := aligned_operandWiths targets {} (h.operandScopes targets targets l) x
        rw [Reach.all_own, Reach.all_deep, ← ht] at hf
        have hw : Walk.operandScopes (l.redirect targets targets) sc' = Walk.operandScopes
            ((l.setWith (.joined fixtures w₀)).redirect targets targets) sc' := by
          rw [Walk.operandScopes, Walk.operandScopes, hs]
        have hall := (hf.both hx).both
          (tail ((h.operandScopes targets targets l).operandScopes targets targets x))
        rw [hw] at hall
        exact .leaves hall
  | .values v, hw, _ => by simp [Statement.withSlot?] at hw
  | .insert ⟨tb, cs, .rows rs, is⟩, hw, _ => by simp [Statement.withSlot?] at hw
  | .insert ⟨tb, cs, .query q, is⟩, hw, _ => by
    exact (aligned_fronted false h q hw (by simp)).again.both (aligned_items targets {} h is)
  | .createTable ⟨n, tm, e, cs, some q⟩, hw, _ => by
    exact (aligned_fronted false h q hw (by simp)).again
  | .createTable ⟨n, tm, e, cs, none⟩, hw, _ => by simp [Statement.withSlot?] at hw
  | .update ⟨w, tg, as, fs, f, is⟩, hw, _ => by
    obtain rfl : w = w₀ := by simpa [Statement.withSlot?] using hw
    obtain ⟨hfront, hk⟩ := aligned_joined targets hi hd h
    have hrest := aligned_statement targets { front := some sc.length } asOperand hk
      (.update ⟨none, tg, as, fs, f, is⟩)
    rw [Sites.fronted, sites_update, entries_update _ _ sc, Statement.setWith, redirect_update,
      entries_update _ _ sc']
    exact hfront.append hrest
  | .delete ⟨w, tg, us, f, is⟩, hw, _ => by
    obtain rfl : w = w₀ := by simpa [Statement.withSlot?] using hw
    obtain ⟨hfront, hk⟩ := aligned_joined targets hi hd h
    have hrest := aligned_statement targets { front := some sc.length } asOperand hk
      (.delete ⟨none, tg, us, f, is⟩)
    rw [Sites.fronted, sites_delete, entries_delete _ _ sc, Statement.setWith, redirect_delete,
      entries_delete _ _ sc']
    exact hfront.append hrest

end

lemma FrameKin.refl (f : Frame) : FrameKin f f := by
  cases f with
  | tables all visible =>
    have hid : all.map (CommonTable.redirect [] []) = all := by
      conv_rhs => rw [← List.map_id all]
      refine List.map_congr_left fun t _ => ?_
      obtain ⟨n, cs, b⟩ := t
      simp [CommonTable.redirect, redirect_nil]
    simpa [hid] using FrameKin.tables [] [] all visible
  | _ => exact .other rfl rfl

lemma Kin.refl (sc : Scopes) : Kin [] none sc sc := by
  induction sc with
  | nil => exact .nil
  | cons f sc ih => exact .frame (.refl f) ih

/-- The sites are the entries of the walk, in its order. -/
lemma map_fronted (asOperand : Bool) (sc : Scopes) : (s : Statement) →
    (Sites.fronted asOperand s sc).map (fun x => (x.source, x.scopes)) =
      entries (Tour.statement asOperand s sc)
  | .select s => (aligned_statement [] _ asOperand (Kin.refl sc).fresh (.select s)).1
  | .setOp ⟨l, op, a, x, o, m, k⟩ => by
    rw [Sites.fronted]
    split
    · exact (aligned_statement [] _ asOperand (Kin.refl sc).fresh
        (.setOp ⟨l, op, a, x, o, m, k⟩)).1
    · have tail : ∀ sc, (Sites.fronted true l sc ++ Sites.statement {} true x sc ++
          Sites.order {} o sc ++ Sites.option {} m sc ++ Sites.option {} k sc).map
            (fun x => (x.source, x.scopes)) =
          entries (Tour.statement true l sc) ++ entries (Tour.statement true x sc) ++
            entries (Tour.order .plain o sc) ++ entries (Tour.option m sc) ++
            entries (Tour.option k sc) := by
        intro sc
        simp only [List.map_append, map_fronted true sc l,
          (aligned_statement [] {} true (Kin.refl sc) x).1,
          (aligned_order [] {} .plain (Kin.refl sc) o).1,
          (aligned_option [] {} (Kin.refl sc) m).1, (aligned_option [] {} (Kin.refl sc) k).1]
      cases asOperand with
      | true => simpa [Tour.statement, Event.entry?] using tail sc
      | false =>
        have hl := (aligned_operandWiths [] {} (Kin.refl sc) l).1
        have hx := (aligned_operandWiths [] {} (Kin.refl (Walk.operandScopes l sc)) x).1
        simpa [Tour.statement, Event.entry?, hl, hx] using
          tail (Walk.operandScopes x (Walk.operandScopes l sc))
  | .values v => (aligned_statement [] {} asOperand (Kin.refl sc) (.values v)).1
  | .insert ⟨tb, cs, .rows rs, is⟩ =>
    (aligned_statement [] {} asOperand (Kin.refl sc) (.insert ⟨tb, cs, .rows rs, is⟩)).1
  | .insert ⟨tb, cs, .query q, is⟩ => by
    simp [Sites.fronted, Tour.statement, map_fronted false sc q,
      (aligned_items [] {} (Kin.refl sc) is).1]
  | .createTable ⟨n, tm, e, cs, some q⟩ => by
    simp [Sites.fronted, Tour.statement, map_fronted false sc q]
  | .createTable ⟨n, tm, e, cs, none⟩ => by simp [Sites.fronted, Tour.statement]
  | .update u => (aligned_statement [] _ asOperand (Kin.refl sc).fresh (.update u)).1
  | .delete u => (aligned_statement [] _ asOperand (Kin.refl sc).fresh (.delete u)).1

end SqlLoom
