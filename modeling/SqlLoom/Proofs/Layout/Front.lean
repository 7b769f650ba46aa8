import SqlLoom.Proofs.Layout.Marks
import SqlLoom.Proofs.Layout.Texts
import SqlLoom.Proofs.Statement.Hoist

/-! The two parts of a set operation that is written out: the clause in front, made of the WITH
clauses of the operands, and the body, in which none of them shows. -/
namespace SqlLoom

namespace Layout

lemma stacked_cons (d : Nat) (part : List Piece) (parts : List (List Piece)) :
    stacked d (part :: parts) = part ++ parts.flatMap (.gap d :: ·) := by
  induction parts generalizing part with
  | nil => simp [stacked]
  | cons next parts ih =>
    have := ih next
    simp only [stacked] at this ⊢
    simp [List.intercalate_cons_cons, this]

lemma stacked_append (d : Nat) (parts : List (List Piece)) (part : List Piece)
    (rest : List (List Piece)) :
    stacked d (parts ++ part :: rest) =
      parts.flatMap (· ++ [.gap d]) ++ stacked d (part :: rest) := by
  induction parts with
  | nil => rfl
  | cons first parts ih =>
    have hrest : parts ++ part :: rest ≠ [] := by simp
    obtain ⟨next, more, hmore⟩ := List.exists_cons_of_ne_nil hrest
    have hfirst : stacked d (first :: (parts ++ part :: rest)) =
        first ++ [.gap d] ++ stacked d (parts ++ part :: rest) := by
      rw [hmore]
      simp [stacked, List.intercalate_cons_cons]
    rw [List.cons_append, hfirst, ih, List.flatMap_cons, ← List.append_assoc]

lemma tables_eq (d : Nat) (ts : List CommonTable) :
    tables d ts = ts.map fun t =>
      (t, tablePieces d t.name t.columns (statement (d + 1) .whole t.body)) := by
  induction ts with
  | nil => rfl
  | cons t ts ih =>
    obtain ⟨n, cs, b⟩ := t
    simp [tables, ih]

lemma operandWiths_setOp (d : Nat) (b : SetOperation) :
    operandWiths d (.setOp b) = operandWiths d b.left ++ operandWiths d b.right := by
  cases b
  rfl

lemma operandWiths_eq (d : Nat) : (s : Statement) →
    operandWiths d s = s.operandWiths.map fun w => (w.recursive, tables d w.tables)
  | .select ⟨none, _, _, _, _, _, _, _, _, _, _⟩ => rfl
  | .select ⟨some ⟨_, _⟩, _, _, _, _, _, _, _, _, _, _⟩ => rfl
  | .setOp ⟨l, _, _, r, _, _, _⟩ => by
    simp [operandWiths_setOp, Statement.operandWiths, operandWiths_eq d l, operandWiths_eq d r]
  | .values _ => rfl
  | .insert _ => rfl
  | .createTable _ => rfl
  | .update _ => rfl
  | .delete _ => rfl

lemma marks_hoistedWith (d : Nat) (clauses : List (Bool × List (CommonTable × List Piece))) :
    marks (hoistedWith d clauses).2.flatten =
      marks ((Hoisted.ofTables Prod.fst (clauses.flatMap (·.2))).kept.map (·.2)).flatten := by
  cases clauses with
  | nil => rfl
  | cons c cs => simp [hoistedWith]

/-- The tables that clash are marked, and the others are written as one clause. -/
lemma hoistedWith_eq (d : Nat) (ws : List WithClause) :
    hoistedWith d (ws.map fun w => (w.recursive, tables d w.tables)) =
      ((Hoisted.ofTables id (ws.flatMap (·.tables))).clashes.map .clash,
        withClause d (WithClause.hoisted ws)) := by
  have htables : (ws.map fun w => (w.recursive, tables d w.tables)).flatMap (·.2) =
      tables d (ws.flatMap (·.tables)) := by
    simp [List.flatMap_map, List.map_flatMap, tables_eq]
  have hmerged : Hoisted.ofTables Prod.fst (tables d (ws.flatMap (·.tables))) =
      (Hoisted.ofTables id (ws.flatMap (·.tables))).map fun t =>
        (t, tablePieces d t.name t.columns (statement (d + 1) .whole t.body)) := by
    rw [tables_eq, Hoisted.ofTables_map]
    rfl
  unfold hoistedWith WithClause.hoisted
  simp only [htables, hmerged]
  cases ws with
  | nil => rfl
  | cons w ws =>
    simp [Hoisted.map, withClause, tables_eq, Function.comp_def]

/-- A clause before the statement it belongs to. -/
def front (d : Nat) (w : Option WithClause) : List Piece :=
  (withClause d w).flatMap (· ++ [.gap d])

/-- The text of a clause, if there is one, and of the blank or line break after it. -/
def lead (o : FormatOptions) : Option WithClause → String
  | none => ""
  | some w => w.format o ++ if o.pretty then "\n" else " "

lemma text_front (o : FormatOptions) (w : Option WithClause) : text o (front 0 w) = lead o w := by
  cases w with
  | none => rfl
  | some w =>
    obtain ⟨r, ts⟩ := w
    have hfront : front 0 (some ⟨r, ts⟩) =
        List.flatten (withClause 0 (some ⟨r, ts⟩)) ++ [.gap 0] := by
      simp [front, withClause]
    rw [hfront, text_append, lead, WithClause.format]
    cases h : o.pretty <;> simp [texts, pieceText, lineBreak, indent, h]

/-- A set operation without the clauses of its operands. -/
def body (d : Nat) (b : SetOperation) : List Piece :=
  stacked d
    (chained d (statement d (.operand b.op false) b.left) b.op b.all
        (statement d (.operand b.op true) b.right) ::
      (listed "ORDER BY " (order d b.orderBy) ++ clause d "LIMIT " b.limit ++
        clause d "OFFSET " b.offset))

/-- The tables of clauses that clash, of which nothing is written. -/
def clashing (ws : List WithClause) : List Piece :=
  (Hoisted.ofTables id (ws.flatMap (·.tables))).clashes.map .clash

lemma text_clashing (o : FormatOptions) (ws : List WithClause) (ps : List Piece) :
    text o (clashing ws ++ ps) = text o ps := by
  unfold clashing
  induction (Hoisted.ofTables id (ws.flatMap (·.tables))).clashes with
  | nil => rfl
  | cons name names ih => simpa [text, texts, pieceText] using ih

lemma statement_setOp (d : Nat) (b : SetOperation) :
    statement d .whole (.setOp b) =
      clashing (Statement.setOp b).operandWiths ++
        front d (WithClause.hoisted (Statement.setOp b).operandWiths) ++ body d b := by
  obtain ⟨l, op, a, r, o, m, k⟩ := b
  have hws : operandWiths d l ++ operandWiths d r =
      (l.operandWiths ++ r.operandWiths).map fun w => (w.recursive, tables d w.tables) := by
    rw [List.map_append, operandWiths_eq, operandWiths_eq]
  simp only [statement, hws, hoistedWith_eq, stacked_append, clashing, front, body,
    Statement.operandWiths, List.append_assoc]

/-- An operand is written without its clauses. -/
lemma statement_clearOperandWiths (d : Nat) (parent : SetOperator) (right : Bool) :
    (s : Statement) →
    statement d (.operand parent right) s.clearOperandWiths = statement d (.operand parent right) s
  | .select ⟨_, _, _, _, _, _, _, _, _, _, _⟩ => rfl
  | .setOp ⟨l, op, a, r, o, m, k⟩ => by
    simp only [Statement.clearOperandWiths, statement, statement_clearOperandWiths d op false l,
      statement_clearOperandWiths d op true r]
  | .values _ => rfl
  | .insert _ => rfl
  | .createTable _ => rfl
  | .update _ => rfl
  | .delete _ => rfl

end Layout

lemma Statement.operandWiths_clearOperandWiths : (s : Statement) →
    s.clearOperandWiths.operandWiths = []
  | .select _ => rfl
  | .setOp ⟨l, _, _, r, _, _, _⟩ => by
    simp [clearOperandWiths, operandWiths, operandWiths_clearOperandWiths l,
      operandWiths_clearOperandWiths r]
  | .values _ => rfl
  | .insert _ => rfl
  | .createTable _ => rfl
  | .update _ => rfl
  | .delete _ => rfl

/-- Without its clauses a set operation is its body. -/
lemma Layout.statement_clearOperandWiths_whole (d : Nat) (b : SetOperation) :
    statement d .whole (Statement.setOp b).clearOperandWiths = body d b := by
  obtain ⟨l, op, a, r, o, m, k⟩ := b
  have hnone := Statement.operandWiths_clearOperandWiths (.setOp ⟨l, op, a, r, o, m, k⟩)
  rw [Statement.clearOperandWiths] at hnone ⊢
  rw [statement_setOp, hnone]
  simp only [body, statement_clearOperandWiths]
  rfl

end SqlLoom
