import Mathlib.Tactic.Lemma
import SqlLoom.Render

/-! The pieces that matter to parameters: slots and clashes. Words, names, gaps and parentheses
around them change neither the occurrences nor the first clash. -/
namespace SqlLoom.Layout

/-- The slots and clashes among pieces. -/
def marks (ps : List Piece) : List Piece :=
  ps.filter fun
    | .slot _ | .clash _ => true
    | _ => false

@[simp] lemma marks_nil : marks [] = [] := rfl

@[simp] lemma marks_word (s : String) (ps : List Piece) : marks (.word s :: ps) = marks ps := rfl

@[simp] lemma marks_name (s : String) (ps : List Piece) : marks (.name s :: ps) = marks ps := rfl

@[simp] lemma marks_slot (o : Occurrence) (ps : List Piece) :
    marks (.slot o :: ps) = .slot o :: marks ps := rfl

@[simp] lemma marks_clash (table : String) (ps : List Piece) :
    marks (.clash table :: ps) = .clash table :: marks ps := rfl

@[simp] lemma marks_gap (d : Nat) (ps : List Piece) : marks (.gap d :: ps) = marks ps := rfl

@[simp] lemma marks_opening (d : Nat) (ps : List Piece) : marks (.opening d :: ps) = marks ps := rfl

@[simp] lemma marks_closing (d : Nat) (ps : List Piece) : marks (.closing d :: ps) = marks ps := rfl

@[simp] lemma marks_append (ps qs : List Piece) : marks (ps ++ qs) = marks ps ++ marks qs := by
  simp [marks]

lemma marks_intercalate {sep : List Piece} (h : marks sep = []) (parts : List (List Piece)) :
    marks (List.intercalate sep parts) = marks parts.flatten := by
  induction parts with
  | nil => rfl
  | cons p ps ih =>
    cases ps with
    | nil => simp
    | cons q qs => simpa [List.intercalate_cons_cons, h] using ih

@[simp] lemma marks_commaed (parts : List (List Piece)) :
    marks (commaed parts) = marks parts.flatten := marks_intercalate rfl parts

@[simp] lemma marks_stacked (d : Nat) (parts : List (List Piece)) :
    marks (stacked d parts) = marks parts.flatten := marks_intercalate rfl parts

@[simp] lemma marks_names (xs : List String) : marks (names xs) = [] := by
  rw [names, marks_commaed]
  induction xs with
  | nil => rfl
  | cons x xs ih => simpa using ih

@[simp] lemma marks_parenthesized (ps : List Piece) : marks (parenthesized ps) = marks ps := by
  simp [parenthesized]

@[simp] lemma marks_columnList (xs : List String) : marks (columnList xs) = [] := by
  unfold columnList
  split <;> simp

@[simp] lemma marks_qualified (schema : Option String) (name : String) :
    marks (qualified schema name) = [] := by
  cases schema <;> rfl

@[simp] lemma marks_aliased (a : Option String) : marks (aliased a) = [] := by
  cases a <;> rfl

@[simp] lemma marks_listed (keyword : String) (parts : List (List Piece)) :
    marks (listed keyword parts).flatten = marks parts.flatten := by
  cases parts <;> simp [listed]

@[simp] lemma marks_operandOf (parent : BinaryOp) (right : Bool) (e : Expr) (ps : List Piece) :
    marks (operandOf parent right e ps) = marks ps := by
  unfold operandOf
  split <;> simp

@[simp] lemma marks_nestedAt (d : Nat) (ps : List Piece) : marks (nestedAt d ps) = marks ps := by
  simp [nestedAt]

@[simp] lemma marks_tablePieces (d : Nat) (name : String) (columns : List String)
    (body : List Piece) : marks (tablePieces d name columns body) = marks body := by
  simp [tablePieces]

@[simp] lemma marks_withPieces (d : Nat) (isRecursive : Bool) (tables : List (List Piece)) :
    marks (withPieces d isRecursive tables) = marks tables.flatten := marks_intercalate rfl tables

@[simp] lemma marks_valuesPieces (d : Nat) (rows : List (List Piece)) :
    marks (valuesPieces d rows) = marks rows.flatten := marks_intercalate rfl rows

@[simp] lemma marks_chained (d : Nat) (left : List Piece) (op : SetOperator) (all : Bool)
    (right : List Piece) :
    marks (chained d left op all right) = marks left ++ marks right := by
  simp [chained]

@[simp] lemma marks_insertColumns (cs : List String) : marks (insertColumns cs) = [] := by
  unfold insertColumns
  split <;> simp

@[simp] lemma marks_createHead (name : QualifiedName) (temporary ifNotExists : Bool)
    (columns : List ColumnDefinition) :
    marks (createHead name temporary ifNotExists columns) = [] := by
  have hc : marks (columns.map fun c => [.name c.name, .word (" " ++ c.dataType)]).flatten = [] := by
    induction columns with
    | nil => rfl
    | cons c cs ih => simpa using ih
  by_cases h : columns.isEmpty
  · simp [createHead, h]
  · simpa [createHead, h] using hc

@[simp] lemma marks_starred (parts : List (List Piece)) [Decidable (parts = [])] :
    marks (if parts = [] then [.word "*"] else commaed parts) = marks parts.flatten := by
  cases parts <;> simp

@[simp] lemma marks_ite_parenthesized (p : Prop) [Decidable p] (ps : List Piece) :
    marks (if p then ps else parenthesized ps) = marks ps := by
  split <;> simp

/-- Without parentheses there are no modifiers. -/
lemma marks_operandNests (d : Nat) (parent op : SetOperator) (right : Bool) (chain : List Piece)
    (modifiers : List (List Piece)) :
    marks (if operandNests parent op right (!modifiers.isEmpty) then
        parenthesized (stacked d (chain :: modifiers)) else chain) =
      marks chain ++ marks modifiers.flatten := by
  split
  · simp
  · next h =>
    have hm : modifiers = [] := by
      simp only [operandNests, Bool.or_eq_true, not_or, Bool.not_eq_true', Bool.not_eq_false] at h
      simpa using h.1.2
    simp [hm]

@[simp] lemma occurrences_marks (ps : List Piece) : occurrences (marks ps) = occurrences ps := by
  induction ps with
  | nil => rfl
  | cons p ps ih => cases p <;> simp_all [occurrences]

@[simp] lemma clash?_marks (ps : List Piece) : clash? (marks ps) = clash? ps := by
  induction ps with
  | nil => rfl
  | cons p ps ih => cases p <;> simp_all [clash?]

@[simp] lemma occurrences_append (ps qs : List Piece) :
    occurrences (ps ++ qs) = occurrences ps ++ occurrences qs := by
  simp [occurrences]

lemma clash?_append (ps qs : List Piece) : clash? (ps ++ qs) = (clash? ps).or (clash? qs) := by
  simp [clash?]

lemma clash?_append_eq_none {ps qs : List Piece} :
    clash? (ps ++ qs) = none ↔ clash? ps = none ∧ clash? qs = none := by
  simp [clash?]

lemma clash?_clashes {tables : List String} :
    clash? (tables.map .clash) = none ↔ tables = [] := by
  cases tables <;> simp [clash?]

end SqlLoom.Layout
