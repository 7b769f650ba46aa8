import Mathlib.Tactic.Lemma
import SqlLoom.Grammar.Denote
import SqlLoom.Proofs.Result

/-! Where an insertion gets its rows from. -/
namespace SqlLoom.Grammar

/-- Whether there is no WITH clause in front of the body and neither order nor limit behind it.
There may be an offset. -/
def Query.isPlain (q : Query) : Bool := q.withClause.isNone && q.orderBy.isEmpty && q.limit.isNone

namespace Denote

/-- Rows, or a query without the clauses around it. -/
def plainSource : SetExpr → Denotation (List (List SqlLoom.Expr) × Option SqlLoom.Statement)
  | .values _ rs => return (← rows rs, none)
  | b => return ([], some (← setExpr b))

lemma insertSource_some (q : Query) :
    insertSource (some q) = if q.isPlain then plainSource q.body
      else query q >>= fun s => pure ([], some s) := by
  obtain ⟨w, b, os, _, l, _, _, _⟩ := q
  cases w <;> cases b <;> cases os <;> cases l <;> rfl

/-- An insertion of what has been taken from its source. -/
def inserted (table : QualifiedName) (columns : List String) (returning : List SelectItem)
    (taken : List (List SqlLoom.Expr) × Option SqlLoom.Statement) : Denotation SqlLoom.Statement :=
  do
    let built ← SqlLoom.Insert.build table columns taken.1 taken.2
    return .insert { built with returning := ← selectItems returning }

lemma insert_eq (i : Insert) :
    insert i = insertSource i.source >>=
      inserted (qualifiedName i.table) (i.columns.map (·.value)) i.returning := rfl

/-- An insertion of the rows of a query. -/
def insertedQuery (i : Insert) (source : SqlLoom.Statement) : Denotation SqlLoom.Statement := do
  return .insert
    { table := qualifiedName i.table, columns := i.columns.map (·.value), source := .query source,
      returning := ← selectItems i.returning }

lemma insert_of_taken {i : Insert} {n k : Nat} {b : SqlLoom.Statement}
    (h : (insertSource i.source).run n = .ok (([], some b), k)) :
    (insert i).run n = (insertedQuery i b).run k := by
  rw [insert_eq, StateT.run_bind, h]
  rfl

lemma plainSource_of_ne_values {b : SetExpr} (h : ∀ explicitRow rs, b ≠ .values explicitRow rs) :
    plainSource b = setExpr b >>= fun s => pure ([], some s) := by
  cases b with
  | values explicitRow rs => exact absurd rfl (h explicitRow rs)
  | _ => rfl

lemma query_of_isPlain {q : Query} (h : q.isPlain = true) :
    query q = setExpr q.body >>= fun b => expr? q.offset >>= fun o =>
      liftM (modified b [] none o) := by
  obtain ⟨w, b, os, _, l, o, _, _⟩ := q
  cases w <;> cases os <;> cases l <;> simp [Query.isPlain] at h
  simp [query, withClause, orderItems, expr?]

/-- A statement does not stand in its own FROM clause. -/
lemma ne_derived (s : SqlLoom.Select) (name : String) : s.froms ≠ [.derived (.select s) name] := by
  intro h
  have hsize := congrArg sizeOf h
  obtain ⟨w, d, is, fs, js, f, g, having', os, l, o⟩ := s
  simp [Source.derived] at hsize
  omega

/-- A statement with an order or a limit of its own differs from it. -/
lemma ne_of_modified {b s : SqlLoom.Statement} {os : List SqlLoom.OrderItem}
    {l o : Option SqlLoom.Expr} (hmod : isModified os l o = true)
    (h : modified b os l o = .ok s) : b ≠ s := by
  rintro rfl
  cases b with
  | select sb =>
    simp only [modified, hmod, Bool.not_true, Bool.false_eq_true, if_false] at h
    split at h
    · exact ne_derived sb "_sub" (congrArg SqlLoom.Select.froms
        (Statement.select.inj (Except.ok.inj h))).symm
    · next hown =>
      have hsame := congrArg (fun s : SqlLoom.Select => isModified s.orderBy s.limit s.offset)
        (Statement.select.inj (Except.ok.inj h))
      exact hown (hsame.symm.trans hmod)
  | setOp sb =>
    simp only [modified, hmod, Bool.not_true, Bool.false_eq_true, if_false] at h
    split at h
    · cases h
    · next hown =>
      have hsame := congrArg (fun s : SetOperation => isModified s.orderBy s.limit s.offset)
        (Statement.setOp.inj (Except.ok.inj h))
      exact hown (hsame.symm.trans hmod)
  | values | insert | update | delete | createTable => simp [modified, hmod] at h

/-- An insertion takes its query with all clauses around the body, unless the only one is an offset:
then it takes the body alone. -/
theorem insert_query {i : Insert} {q : Query} {n m : Nat} {s : SqlLoom.Statement}
    (hsource : i.source = some q) (hbody : ∀ explicitRow rs, q.body ≠ .values explicitRow rs)
    (hs : (query q).run n = .ok (s, m)) :
    (q.isPlain = false ∨ q.offset = none → (insert i).run n = (insertedQuery i s).run m) ∧
    ∀ o, q.isPlain = true → q.offset = some o → ∃ b k e,
      (setExpr q.body).run n = .ok (b, k) ∧ (expr o).run k = .ok (e, m) ∧
      modified b [] none (some e) = .ok s ∧ b ≠ s ∧
      (insert i).run n = (insertedQuery i b).run k := by
  cases hplain : q.isPlain with
  | false =>
    refine ⟨fun _ => insert_of_taken ?_, fun _ h => absurd h Bool.false_ne_true⟩
    rw [hsource, insertSource_some, hplain, if_neg Bool.false_ne_true, StateT.run_bind, hs]
    rfl
  | true =>
    rw [query_of_isPlain hplain] at hs
    obtain ⟨b, k, hb, hs⟩ := Result.run_bind_eq_ok hs
    obtain ⟨e, l, he, hs⟩ := Result.run_bind_eq_ok hs
    obtain ⟨hmodified, rfl⟩ := Result.run_liftM_eq_ok hs
    have hinsert : (insert i).run n = (insertedQuery i b).run k := by
      refine insert_of_taken ?_
      rw [hsource, insertSource_some, hplain, if_pos rfl, plainSource_of_ne_values hbody,
        StateT.run_bind, hb]
      rfl
    rw [hinsert]
    constructor
    · rintro (h | h)
      · cases h
      · rw [h] at he
        cases he
        cases hmodified
        rfl
    · intro o _ h
      rw [h] at he
      obtain ⟨e', _, he, hsome⟩ := Result.run_bind_eq_ok he
      cases hsome
      exact ⟨b, k, e', hb, he, hmodified, ne_of_modified rfl hmodified, rfl⟩

/-- `INSERT INTO t SELECT a FROM s OFFSET 3` takes `SELECT a FROM s`. -/
theorem insert_query_offset :
    let body : SetExpr := .select
      { opening := { token := .word "SELECT" none, position := none }
        items := [.expr (.ident ⟨"a", none, {}⟩) none]
        froms := [⟨.table [⟨"s", none, {}⟩] "" none "" none "", []⟩]
        groupBy := .exprs [] "" }
    let q : Query := { body, offset := some (.value (.number "3" false)) }
    let i : Insert := { head := "INSERT INTO ", table := [⟨"t", none, {}⟩], source := some q }
    ∃ b s, (setExpr body).run 0 = .ok (b, 0) ∧ (query q).run 0 = .ok (s, 0) ∧ b ≠ s ∧
      (insert i).run 0 = (insertedQuery i b).run 0 := by
  intro body q i
  obtain ⟨s, hs⟩ : ∃ s, (query q).run 0 = .ok (s, 0) := ⟨_, rfl⟩
  obtain ⟨b, k, e, hb, he, -, hne, hinsert⟩ := (insert_query (i := i) rfl nofun hs).2 _ rfl rfl
  cases he
  exact ⟨b, s, hb, hs, hne, hinsert⟩

end Denote

end SqlLoom.Grammar
