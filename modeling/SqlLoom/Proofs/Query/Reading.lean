import SqlLoom.Proofs.Layout.Front
import SqlLoom.Proofs.Query.Grammar

/-! Set operations read back. What is written for one, behind the clause in front, is read as the
same tree and as no other. -/
namespace SqlLoom

/-- How a token is written: an operator on a line of its own, a modifier at the start of a line. -/
def QueryToken.pieces (d : Nat) : QueryToken → List Piece
  | .leaf s => Layout.statement d (.operand .union false) s
  | .operator keyword => [.gap d, .word keyword, .gap d]
  | .opening => [.word "("]
  | .closing => [.word ")"]
  | .orderBy items => .gap d :: .word "ORDER BY " :: Layout.commaed (Layout.order d items)
  | .limit count => .gap d :: .word "LIMIT " :: Layout.expr d count
  | .offset count => .gap d :: .word "OFFSET " :: Layout.expr d count

namespace Layout

def tokens (d : Nat) (toks : List QueryToken) : List Piece := toks.flatMap (·.pieces d)

@[simp] lemma tokens_nil (d : Nat) : tokens d [] = [] := rfl

@[simp] lemma tokens_cons (d : Nat) (tok : QueryToken) (toks : List QueryToken) :
    tokens d (tok :: toks) = tok.pieces d ++ tokens d toks := rfl

@[simp] lemma tokens_append (d : Nat) (toks toks' : List QueryToken) :
    tokens d (toks ++ toks') = tokens d toks ++ tokens d toks' := List.flatMap_append

lemma setOpText_eq (op : SetOperator) (all : Bool) : setOpText op all = op.keyword all := by
  cases op <;> cases all <;> rfl

lemma chained_tokens (d : Nat) (left right : List QueryToken) (op : SetOperator) (all : Bool) :
    chained d (tokens d left) op all (tokens d right) =
      tokens d (left ++ .operator (op.keyword all) :: right) := by
  simp [chained, QueryToken.pieces, setOpText_eq]

lemma parenthesized_tokens (d : Nat) (toks : List QueryToken) :
    parenthesized (tokens d toks) = tokens d (.opening :: toks ++ [.closing]) := by
  simp [parenthesized, QueryToken.pieces]

lemma listed_order (d : Nat) (o : List OrderItem) :
    listed "ORDER BY " (order d o) =
      if o.isEmpty then [] else [.word "ORDER BY " :: commaed (order d o)] := by
  cases o with
  | nil => rfl
  | cons item o =>
    obtain ⟨v, a, n⟩ := item
    rfl

lemma modifiers_isEmpty (d : Nat) (o : List OrderItem) (l k : Option Expr) :
    (listed "ORDER BY " (order d o) ++ clause d "LIMIT " l ++ clause d "OFFSET " k).isEmpty =
      (Modifiers.tokens ⟨o, l, k⟩).isEmpty := by
  cases o <;> cases l <;> cases k <;> simp [listed_order, clause, Modifiers.tokens]

lemma stacked_modifiers (d : Nat) (part : List Piece) (parts : List (List Piece))
    (o : List OrderItem) (l k : Option Expr) :
    stacked d (part :: (parts ++
        (listed "ORDER BY " (order d o) ++ clause d "LIMIT " l ++ clause d "OFFSET " k))) =
      stacked d (part :: parts) ++ tokens d (Modifiers.tokens ⟨o, l, k⟩) := by
  rw [stacked_cons, stacked_cons, List.flatMap_append, List.append_assoc]
  cases o <;> cases l <;> cases k <;>
    simp [listed_order, clause, Modifiers.tokens, QueryToken.pieces]

lemma stacked_tokens (d : Nat) (toks : List QueryToken) (o : List OrderItem) (l k : Option Expr) :
    stacked d (tokens d toks ::
        (listed "ORDER BY " (order d o) ++ clause d "LIMIT " l ++ clause d "OFFSET " k)) =
      tokens d (toks ++ Modifiers.tokens ⟨o, l, k⟩) := by
  have h := stacked_modifiers d (tokens d toks) [] o l k
  rw [List.nil_append] at h
  rw [h, tokens_append]
  simp [stacked]

end Layout

/-- The part of a query expression that an operand makes up when it is not put in parentheses. -/
def SetOperator.operandLevel (parent : SetOperator) (right : Bool) : QueryLevel :=
  if right then .primary else if parent = .intersect then .term else .body

/-- The part of a query expression that is made with an operator. -/
def SetOperator.chainLevel (op : SetOperator) : QueryLevel :=
  if op = .intersect then .term else .body

namespace Reads

variable {toks : List QueryToken} {s : Statement}

lemma operand (h : Reads .primary toks s) (parent : SetOperator) (right : Bool) :
    Reads (parent.operandLevel right) toks s := by
  unfold SetOperator.operandLevel
  split
  · exact h
  · split
    · exact .single h
    · exact .term (.single h)

lemma chained {left right : List QueryToken} {l r : Statement} {op : SetOperator} (all : Bool)
    (hl : Reads (op.operandLevel false) left l) (hr : Reads .primary right r) :
    Reads op.chainLevel (left ++ .operator (op.keyword all) :: right)
      (.setOp { left := l, op, all, right := r }) := by
  cases op with
  | intersect => exact .intersect all hl hr
  | union => exact .chain .union all (by decide) hl (.single hr)
  | except => exact .chain .except all (by decide) hl (.single hr)

lemma body {op : SetOperator} (h : Reads op.chainLevel toks s) : Reads .body toks s := by
  cases op with
  | intersect => exact .term h
  | union => exact h
  | except => exact h

/-- Without parentheses an operand is read where it stands. -/
lemma bare {parent op : SetOperator} {right modified : Bool}
    (hn : Layout.operandNests parent op right modified = false) (h : Reads op.chainLevel toks s) :
    Reads (parent.operandLevel right) toks s := by
  simp only [Layout.operandNests, Bool.or_eq_false_iff] at hn
  obtain ⟨⟨rfl, -⟩, hn⟩ := hn
  by_cases hp : parent = .intersect
  · have hop : op = .intersect := by simpa [hp] using hn
    subst hp hop
    exact h
  · simpa [SetOperator.operandLevel, hp] using h.body

end Reads

lemma Modifiers.tokens_eq_nil {m : Modifiers} (h : m.tokens = []) : m = {} := by
  obtain ⟨o, l, k⟩ := m
  cases o <;> cases l <;> cases k <;> simp_all [tokens]

namespace Layout

lemma reads_leaf {parent : SetOperator} {right : Bool} {s : Statement} (hs : s.IsLeaf)
    (hp : ∀ d, statement d (.operand parent right) s = statement d (.operand .union false) s) :
    ∃ toks, Reads (parent.operandLevel right) toks s ∧
      ∀ d, statement d (.operand parent right) s = tokens d toks :=
  ⟨[.leaf s], .operand (.leaf hs) parent right, fun d => by simp [hp d, QueryToken.pieces]⟩

/-- Every operand is written as tokens that read back to it, at the level its place asks for. -/
lemma reads_operand (parent : SetOperator) (right : Bool) : (s : Statement) →
    ∃ toks, Reads (parent.operandLevel right) toks s.clearOperandWiths ∧
      ∀ d, statement d (.operand parent right) s = tokens d toks
  | .select ⟨w, isDistinct, is, fs, js, f, g, h, o, l, k⟩ => by
    have hplain : (Statement.select
        ⟨none, isDistinct, is, fs, js, f, g, h, [], none, none⟩).IsLeaf := ⟨rfl, rfl, rfl, rfl⟩
    cases hm : Modifiers.tokens ⟨o, l, k⟩ with
    | nil =>
      cases Modifiers.tokens_eq_nil hm
      exact ⟨_, .operand (.leaf hplain) parent right, fun d => by
        simp [statement, QueryToken.pieces]⟩
    | cons tok toks =>
      have hbody : Reads .body _ _ := .term (.single (.leaf hplain))
      refine ⟨_, .operand (.group (.modified ⟨o, l, k⟩ hbody rfl)) parent right, fun d => ?_⟩
      have hsome : (Modifiers.tokens ⟨o, l, k⟩).isEmpty = false := by rw [hm]; rfl
      rw [← parenthesized_tokens, tokens_append]
      simp only [statement, modifiers_isEmpty, hsome, List.cons_append, stacked_modifiers]
      simp [QueryToken.pieces, statement, order, listed, clause]
  | .setOp ⟨l, op, a, r, o, m, k⟩ => by
    obtain ⟨left, hl, hleft⟩ := reads_operand op false l
    obtain ⟨right', hr, hright⟩ := reads_operand op true r
    have hchain := Reads.chained a hl hr
    have hpieces : ∀ d, chained d (statement d (.operand op false) l) op a
        (statement d (.operand op true) r) =
          tokens d (left ++ .operator (op.keyword a) :: right') := fun d => by
      rw [hleft, hright, chained_tokens]
    cases hnests : operandNests parent op right (!(Modifiers.tokens ⟨o, m, k⟩).isEmpty) with
    | true =>
      refine ⟨_, .operand (.group (.modified ⟨o, m, k⟩ hchain.body rfl)) parent right, fun d => ?_⟩
      simp only [statement, modifiers_isEmpty, hnests, if_true, hpieces, stacked_tokens,
        parenthesized_tokens]
    | false =>
      have hm : Modifiers.tokens ⟨o, m, k⟩ = [] := by
        simp only [operandNests, Bool.or_eq_false_iff] at hnests
        simpa using hnests.1.2
      cases Modifiers.tokens_eq_nil hm
      refine ⟨_, hchain.bare hnests, fun d => ?_⟩
      simp only [statement, modifiers_isEmpty, hnests, hpieces]
      rfl
  | .values v => reads_leaf (s := .values v) trivial fun _ => by cases v; rfl
  | .insert ⟨t, cs, source, is⟩ =>
    reads_leaf (s := .insert ⟨t, cs, source, is⟩) trivial fun _ => by cases source <;> rfl
  | .createTable c => reads_leaf (s := .createTable c) trivial fun _ => by cases c; rfl
  | .update u => reads_leaf (s := .update u) trivial fun _ => by cases u; rfl
  | .delete u => reads_leaf (s := .delete u) trivial fun _ => by cases u; rfl

/-- A set operation without its clauses is written as tokens that read back to it. -/
lemma reads_body (b : SetOperation) :
    ∃ toks, Reads .expression toks (Statement.setOp b).clearOperandWiths ∧
      ∀ d, body d b = tokens d toks := by
  obtain ⟨l, op, a, r, o, m, k⟩ := b
  obtain ⟨left, hl, hleft⟩ := reads_operand op false l
  obtain ⟨right, hr, hright⟩ := reads_operand op true r
  refine ⟨_, .modified ⟨o, m, k⟩ (Reads.chained a hl hr).body rfl, fun d => ?_⟩
  simp only [body, hleft, hright, chained_tokens, stacked_tokens]

/-- The text of a token, given the numbers of the parameters. -/
def tokenText (o : FormatOptions) (number : String → Nat) (tok : QueryToken) : String :=
  String.join ((tok.pieces 0).map (pieceText o number))

lemma join_tokens (o : FormatOptions) (number : String → Nat) (toks : List QueryToken) :
    String.join ((tokens 0 toks).map (pieceText o number)) =
      String.join (toks.map (tokenText o number)) := by
  induction toks with
  | nil => rfl
  | cons tok toks ih => simp [tokenText, ih]

/-- The text of pieces behind others, with the numbers that parameters have in the whole. -/
lemma text_append_numbered (o : FormatOptions) (ps qs : List Piece) :
    text o (ps ++ qs) = text o ps ++ String.join (qs.map (pieceText o fun name =>
      (Registry.names (occurrences (ps ++ qs))).idxOf name + 1)) := by
  rw [text_append, occurrences_append, ← Registry.texts_ofOccurrences]
  rfl

end Layout

/-- Behind the clause in front, a set operation is written as tokens that stand for the tree itself,
operand clauses aside, and for no other tree. -/
theorem Statement.reads_setOp (b : SetOperation) :
    let s := Statement.setOp b
    let w := WithClause.hoisted s.operandWiths
    ∃ toks : List QueryToken,
      (∀ t, Reads .expression toks t ↔ t = s.clearOperandWiths) ∧
      (∀ d, Layout.statement d .whole s =
        Layout.clashing s.operandWiths ++ Layout.front d w ++ Layout.tokens d toks) ∧
      ∀ o, Layout.text o (Layout.statement 0 .whole s) =
        Layout.lead o w ++ String.join (toks.map (Layout.tokenText o fun name =>
          (Registry.names (Layout.occurrences (Layout.statement 0 .whole s))).idxOf name + 1)) := by
  intro s w
  obtain ⟨toks, hreads, hbody⟩ := Layout.reads_body b
  have hpieces := fun d => Layout.statement_setOp d b
  simp only [hbody] at hpieces
  refine ⟨toks, fun t => ⟨fun h => h.unique hreads, fun h => h ▸ hreads⟩, hpieces, fun o => ?_⟩
  simp only [s, hpieces]
  rw [Layout.text_append_numbered, Layout.text_clashing, Layout.text_front, Layout.join_tokens]

end SqlLoom
