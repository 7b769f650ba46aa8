import Mathlib.Tactic.Lemma
import SqlLoom.Statement

/-! The grammar of set operations: `INTERSECT` binds tighter than `UNION` and `EXCEPT`, equal
operators associate to the left, parentheses group, and trailing modifiers belong to the whole query
expression that they end. Tokens are read as one statement at most. -/
namespace SqlLoom

/-- The tokens of a set operation. What stands between the operators is opaque, and so are the
clauses of the modifiers. -/
inductive QueryToken where
  | leaf (query : Statement)
  | operator (keyword : String)
  | opening
  | closing
  | orderBy (items : List OrderItem)
  | limit (count : Expr)
  | offset (count : Expr)

/-- How the operators are spelled. -/
def SetOperator.keyword : SetOperator → Bool → String
  | .union, false => "UNION"
  | .union, true => "UNION ALL"
  | .intersect, false => "INTERSECT"
  | .intersect, true => "INTERSECT ALL"
  | .except, false => "EXCEPT"
  | .except, true => "EXCEPT ALL"

def SetOperator.ofKeyword : String → Option (SetOperator × Bool)
  | "UNION" => some (.union, false)
  | "UNION ALL" => some (.union, true)
  | "INTERSECT" => some (.intersect, false)
  | "INTERSECT ALL" => some (.intersect, true)
  | "EXCEPT" => some (.except, false)
  | "EXCEPT ALL" => some (.except, true)
  | _ => none

lemma SetOperator.ofKeyword_keyword (op : SetOperator) (all : Bool) :
    ofKeyword (op.keyword all) = some (op, all) := by
  cases op <;> cases all <;> rfl

/-- What may follow the body of a query. -/
structure Modifiers where
  orderBy : List OrderItem := []
  limit : Option Expr := none
  offset : Option Expr := none

def Modifiers.tokens (m : Modifiers) : List QueryToken :=
  (if m.orderBy.isEmpty then [] else [.orderBy m.orderBy]) ++ m.limit.toList.map .limit ++
    m.offset.toList.map .offset

namespace Statement

/-- A statement that needs neither operators nor modifiers and has no clause in front. -/
def IsLeaf : Statement → Prop
  | .select s => s.withClause = none ∧ s.orderBy = [] ∧ s.limit = none ∧ s.offset = none
  | .setOp _ => False
  | _ => True

/-- A select or set operation without modifiers, with those given. -/
def modified (m : Modifiers) : Statement → Option Statement
  | .select ⟨w, d, is, fs, js, f, g, h, [], none, none⟩ =>
    some (.select ⟨w, d, is, fs, js, f, g, h, m.orderBy, m.limit, m.offset⟩)
  | .setOp ⟨l, op, a, r, [], none, none⟩ =>
    some (.setOp ⟨l, op, a, r, m.orderBy, m.limit, m.offset⟩)
  | _ => none

end Statement

/-- The parts of a query expression, from the whole down to a single operand. -/
inductive QueryLevel where
  | expression
  | body
  | term
  | primary

/-- The statement that tokens stand for. -/
inductive Reads : QueryLevel → List QueryToken → Statement → Prop
  | leaf {s} : s.IsLeaf → Reads .primary [.leaf s] s
  | group {toks s} : Reads .expression toks s → Reads .primary (.opening :: toks ++ [.closing]) s
  | single {toks s} : Reads .primary toks s → Reads .term toks s
  | intersect {left right l r} (all : Bool) : Reads .term left l → Reads .primary right r →
    Reads .term (left ++ .operator (SetOperator.intersect.keyword all) :: right)
      (.setOp { left := l, op := .intersect, all, right := r })
  | term {toks s} : Reads .term toks s → Reads .body toks s
  | chain {left right l r} (op : SetOperator) (all : Bool) : op ≠ .intersect →
    Reads .body left l → Reads .term right r →
    Reads .body (left ++ .operator (op.keyword all) :: right)
      (.setOp { left := l, op, all, right := r })
  | plain {toks s} : Reads .body toks s → Reads .expression toks s
  | modified {toks s s'} (m : Modifiers) : Reads .body toks s → s.modified m = some s' →
    Reads .expression (toks ++ m.tokens) s'

/-- A query expression that has been opened: its operands read so far with the operators that wait
for another, and its modifiers. -/
structure OpenQuery where
  body : Option (Statement × SetOperator × Bool) := none
  term : Option (Statement × Bool) := none
  modifiers : Modifiers := {}

namespace OpenQuery

/-- The term that ends in an operand. -/
def closeTerm (q : OpenQuery) (s : Statement) : Statement :=
  match q.term with
  | some (l, all) => .setOp { left := l, op := .intersect, all, right := s }
  | none => s

/-- The body that ends in an operand. -/
def closeBody (q : OpenQuery) (s : Statement) : Statement :=
  match q.body with
  | some (l, op, all) => .setOp { left := l, op, all, right := q.closeTerm s }
  | none => q.closeTerm s

/-- The whole query expression. -/
def close (q : OpenQuery) (s : Statement) : Statement :=
  ((q.closeBody s).modified q.modifiers).getD (q.closeBody s)

end OpenQuery

/-- A reader of tokens from left to right: the query expressions that are open, the innermost first,
and the last operand, unless one is due. -/
structure QueryReader where
  opened : List OpenQuery
  operand : Option Statement := none

namespace QueryReader

def step : QueryReader → QueryToken → Option QueryReader
  | ⟨qs, none⟩, .leaf s => some ⟨qs, some s⟩
  | ⟨qs, none⟩, .opening => some ⟨{} :: qs, none⟩
  | ⟨q :: qs, some s⟩, .operator keyword =>
    (SetOperator.ofKeyword keyword).map fun
      | (.intersect, all) => ⟨{ q with term := some (q.closeTerm s, all) } :: qs, none⟩
      | (op, all) => ⟨{ q with body := some (q.closeBody s, op, all), term := none } :: qs, none⟩
  | ⟨q :: qs, some s⟩, .orderBy items =>
    some ⟨{ q with modifiers := { q.modifiers with orderBy := items } } :: qs, some s⟩
  | ⟨q :: qs, some s⟩, .limit count =>
    some ⟨{ q with modifiers := { q.modifiers with limit := some count } } :: qs, some s⟩
  | ⟨q :: qs, some s⟩, .offset count =>
    some ⟨{ q with modifiers := { q.modifiers with offset := some count } } :: qs, some s⟩
  | ⟨q :: qs, some s⟩, .closing => some ⟨qs, some (q.close s)⟩
  | _, _ => none

def run (r : QueryReader) (toks : List QueryToken) : Option QueryReader := toks.foldlM step r

lemma run_append (r : QueryReader) (toks toks' : List QueryToken) :
    r.run (toks ++ toks') = (r.run toks).bind (·.run toks') := List.foldlM_append

lemma run_cons (r : QueryReader) (tok : QueryToken) (toks : List QueryToken) :
    r.run (tok :: toks) = (r.step tok).bind (·.run toks) := List.foldlM_cons

lemma run_modifiers (q : OpenQuery) (qs : List OpenQuery) (s : Statement) (m : Modifiers)
    (hq : q.modifiers = {}) :
    run ⟨q :: qs, some s⟩ m.tokens = some ⟨{ q with modifiers := m } :: qs, some s⟩ := by
  obtain ⟨body, term, modifiers⟩ := q
  obtain ⟨orderBy, limit, offset⟩ := m
  subst hq
  cases orderBy <;> cases limit <;> cases offset <;> rfl

end QueryReader

lemma Statement.getD_modified_empty (s : Statement) : (s.modified {}).getD s = s := by
  unfold modified
  split <;> rfl

/-- What the reader has done after the tokens of a part, wherever the part stands. -/
def QueryLevel.Runs (toks : List QueryToken) (s : Statement) : QueryLevel → Prop
  | .primary => ∀ qs, QueryReader.run ⟨qs, none⟩ toks = some ⟨qs, some s⟩
  | .term => ∀ q qs, q.term = none → ∃ waiting t,
    QueryReader.run ⟨q :: qs, none⟩ toks = some ⟨{ q with term := waiting } :: qs, some t⟩ ∧
      OpenQuery.closeTerm { q with term := waiting } t = s
  | .body => ∀ qs, ∃ q t, QueryReader.run ⟨{} :: qs, none⟩ toks = some ⟨q :: qs, some t⟩ ∧
      q.modifiers = {} ∧ q.closeBody t = s
  | .expression => ∀ qs, ∃ q t, QueryReader.run ⟨{} :: qs, none⟩ toks = some ⟨q :: qs, some t⟩ ∧
      q.close t = s

namespace Reads

open QueryReader

/-- The reader follows every reading, so it settles which reading there is. -/
lemma runs {level : QueryLevel} {toks : List QueryToken} {s : Statement} (h : Reads level toks s) :
    level.Runs toks s := by
  induction h with
  | leaf _ => exact fun qs => rfl
  | group _ ih =>
    intro qs
    obtain ⟨q, t, hrun, hclose⟩ := ih qs
    rw [List.cons_append, run_cons]
    change (run ⟨{} :: qs, none⟩ _) = _
    rw [run_append, hrun, ← hclose]
    rfl
  | single _ ih =>
    intro q qs hq
    exact ⟨none, _, by rw [ih, ← hq], rfl⟩
  | intersect all _ _ ihl ihr =>
    intro q qs hq
    obtain ⟨waiting, t, hrun, hl⟩ := ihl q qs hq
    refine ⟨some (_, all), _, ?_, rfl⟩
    rw [run_append, hrun, Option.bind_some, run_cons]
    simp only [step, SetOperator.ofKeyword_keyword, Option.map_some, Option.bind_some, hl]
    exact ihr _
  | term _ ih =>
    intro qs
    obtain ⟨waiting, t, hrun, hs⟩ := ih {} qs rfl
    exact ⟨_, t, hrun, rfl, hs⟩
  | @chain left right l r op all hop _ _ ihl ihr =>
    intro qs
    obtain ⟨q, t, hrun, hm, hl⟩ := ihl qs
    obtain ⟨waiting, t', hrun', hr⟩ := ihr { q with body := some (l, op, all), term := none } qs rfl
    have hstep : step ⟨q :: qs, some t⟩ (.operator (op.keyword all)) =
        some ⟨{ q with body := some (l, op, all), term := none } :: qs, none⟩ := by
      cases op <;> simp_all [step, SetOperator.ofKeyword_keyword]
    refine ⟨{ q with body := some (l, op, all), term := waiting }, t', ?_, hm, ?_⟩
    · rw [run_append, hrun, Option.bind_some, run_cons, hstep, Option.bind_some, hrun']
    · exact congrArg (fun r => Statement.setOp { left := l, op, all, right := r }) hr
  | plain _ ih =>
    intro qs
    obtain ⟨q, t, hrun, hm, hs⟩ := ih qs
    exact ⟨q, t, hrun, by rw [OpenQuery.close, hm, hs, Statement.getD_modified_empty]⟩
  | modified m _ hs' ih =>
    intro qs
    obtain ⟨q, t, hrun, hm, hs⟩ := ih qs
    refine ⟨{ q with modifiers := m }, t, ?_, ?_⟩
    · rw [run_append, hrun, Option.bind_some, run_modifiers q qs t m hm]
    · change ((q.closeBody t).modified m).getD (q.closeBody t) = _
      rw [hs, hs', Option.getD_some]

/-- Tokens stand for one statement at most. -/
lemma unique {toks : List QueryToken} {s s' : Statement} (h : Reads .expression toks s)
    (h' : Reads .expression toks s') : s = s' := by
  obtain ⟨q, t, hrun, rfl⟩ := h.runs []
  obtain ⟨q', t', hrun', rfl⟩ := h'.runs []
  rw [hrun] at hrun'
  cases hrun'
  rfl

end Reads

end SqlLoom
