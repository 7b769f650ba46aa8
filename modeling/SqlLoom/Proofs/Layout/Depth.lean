import SqlLoom.Proofs.Layout.Front

/-! Statements one level deeper. They have the same pieces with every line break one level deeper,
so on one line their texts are the same. -/
namespace SqlLoom

/-- The piece with its line break one level deeper. -/
@[simp] def Piece.deeper : Piece → Piece
  | .word s => .word s
  | .name s => .name s
  | .slot o => .slot o
  | .gap d => .gap (d + 1)
  | .opening d => .opening (d + 1)
  | .closing d => .closing (d + 1)
  | .clash table => .clash table

namespace Layout

def deeper (ps : List Piece) : List Piece := ps.map Piece.deeper

@[simp] lemma deeper_nil : deeper [] = [] := rfl

@[simp] lemma deeper_cons (p : Piece) (ps : List Piece) :
    deeper (p :: ps) = p.deeper :: deeper ps := rfl

@[simp] lemma deeper_append (ps qs : List Piece) : deeper (ps ++ qs) = deeper ps ++ deeper qs :=
  List.map_append

lemma deeper_intercalate (sep : List Piece) (parts : List (List Piece)) :
    deeper (List.intercalate sep parts) = List.intercalate (deeper sep) (parts.map deeper) := by
  induction parts with
  | nil => rfl
  | cons p ps ih =>
    cases ps with
    | nil => simp
    | cons q qs => simpa [List.intercalate_cons_cons] using ih

@[simp] lemma deeper_commaed (parts : List (List Piece)) :
    deeper (commaed parts) = commaed (parts.map deeper) := deeper_intercalate _ _

@[simp] lemma deeper_stacked (d : Nat) (parts : List (List Piece)) :
    deeper (stacked d parts) = stacked (d + 1) (parts.map deeper) := deeper_intercalate _ _

@[simp] lemma deeper_parenthesized (ps : List Piece) :
    deeper (parenthesized ps) = parenthesized (deeper ps) := by
  simp [parenthesized]

@[simp] lemma deeper_names (xs : List String) : deeper (names xs) = names xs := by
  simp [names, Function.comp_def]

@[simp] lemma deeper_columnList (xs : List String) : deeper (columnList xs) = columnList xs := by
  unfold columnList
  split <;> simp

@[simp] lemma deeper_qualified (schema : Option String) (name : String) :
    deeper (qualified schema name) = qualified schema name := by
  cases schema <;> rfl

@[simp] lemma deeper_aliased (a : Option String) : deeper (aliased a) = aliased a := by
  cases a <;> rfl

@[simp] lemma deeper_listed (keyword : String) (parts : List (List Piece)) :
    (listed keyword parts).map deeper = listed keyword (parts.map deeper) := by
  cases parts <;> simp [listed]

@[simp] lemma deeper_operandOf (parent : BinaryOp) (right : Bool) (e : Expr) (ps : List Piece) :
    deeper (operandOf parent right e ps) = operandOf parent right e (deeper ps) := by
  unfold operandOf
  split <;> simp

@[simp] lemma deeper_nestedAt (d : Nat) (ps : List Piece) :
    deeper (nestedAt d ps) = nestedAt (d + 1) (deeper ps) := by
  simp [nestedAt]

@[simp] lemma deeper_tablePieces (d : Nat) (name : String) (columns : List String)
    (body : List Piece) :
    deeper (tablePieces d name columns body) = tablePieces (d + 1) name columns (deeper body) := by
  simp [tablePieces]

@[simp] lemma deeper_withPieces (d : Nat) (isRecursive : Bool) (tables : List (List Piece)) :
    deeper (withPieces d isRecursive tables) =
      withPieces (d + 1) isRecursive (tables.map deeper) := by
  simp [withPieces, deeper_intercalate]

@[simp] lemma deeper_valuesPieces (d : Nat) (rows : List (List Piece)) :
    deeper (valuesPieces d rows) = valuesPieces (d + 1) (rows.map deeper) := by
  simp [valuesPieces, deeper_intercalate]

@[simp] lemma deeper_chained (d : Nat) (left : List Piece) (op : SetOperator) (all : Bool)
    (right : List Piece) :
    deeper (chained d left op all right) =
      chained (d + 1) (deeper left) op all (deeper right) := by
  simp [chained]

@[simp] lemma deeper_insertColumns (cs : List String) :
    deeper (insertColumns cs) = insertColumns cs := by
  unfold insertColumns
  split <;> simp

@[simp] lemma deeper_createHead (name : QualifiedName) (temporary ifNotExists : Bool)
    (columns : List ColumnDefinition) :
    deeper (createHead name temporary ifNotExists columns) =
      createHead name temporary ifNotExists columns := by
  by_cases h : columns.isEmpty
  · simp [createHead, h]
  · simp [createHead, h, Function.comp_def]

@[simp] lemma deeper_starred (parts : List (List Piece)) [Decidable (parts = [])] :
    deeper (if parts = [] then [.word "*"] else commaed parts) =
      if parts.map deeper = [] then [.word "*"] else commaed (parts.map deeper) := by
  cases parts <;> simp

@[simp] lemma deeper_clashes (tables : List String) :
    deeper (tables.map .clash) = tables.map .clash := by
  simp [deeper]

/-- A table of a WITH clause with its pieces one level deeper. -/
def deeperTable (t : CommonTable × List Piece) : CommonTable × List Piece := (t.1, deeper t.2)

/-- The clauses of operands with the pieces of their tables one level deeper. -/
def deeperClause (c : Bool × List (CommonTable × List Piece)) :
    Bool × List (CommonTable × List Piece) := (c.1, c.2.map deeperTable)

lemma hoistedWith_succ (d : Nat) (clauses : List (Bool × List (CommonTable × List Piece))) :
    hoistedWith (d + 1) (clauses.map deeperClause) =
      (deeper (hoistedWith d clauses).1, (hoistedWith d clauses).2.map deeper) := by
  have htables : (clauses.map deeperClause).flatMap (·.2) =
      (clauses.flatMap (·.2)).map deeperTable := by
    simp [List.flatMap_map, List.map_flatMap, deeperClause]
  have hkept : (Hoisted.ofTables Prod.fst ((clauses.map deeperClause).flatMap (·.2))) =
      (Hoisted.ofTables Prod.fst (clauses.flatMap (·.2))).map deeperTable := by
    rw [htables, Hoisted.ofTables_map]
    rfl
  cases clauses with
  | nil => rfl
  | cons c cs =>
    simp only [hoistedWith, hkept]
    simp [Hoisted.map, deeperClause, deeperTable, Function.comp_def]

lemma modifiers_succ {d : Nat} {o : List OrderItem} {l k : Option Expr}
    (ho : order (d + 1) o = (order d o).map deeper)
    (hl : clause (d + 1) "LIMIT " l = (clause d "LIMIT " l).map deeper)
    (hk : clause (d + 1) "OFFSET " k = (clause d "OFFSET " k).map deeper) :
    listed "ORDER BY " (order (d + 1) o) ++ clause (d + 1) "LIMIT " l ++
        clause (d + 1) "OFFSET " k =
      (listed "ORDER BY " (order d o) ++ clause d "LIMIT " l ++
        clause d "OFFSET " k).map deeper := by
  simp [ho, hl, hk]

mutual
lemma expr_succ (d : Nat) : (e : Expr) → expr (d + 1) e = deeper (expr d e)
  | .column q n => by cases q <;> rfl
  | .literal _ => rfl
  | .parameter _ _ => rfl
  | .call n args isDistinct f w => by
    simp [expr, exprs_succ d args, filterPieces_succ d f, window_succ d w]
  | .binary l op r => by simp [expr, expr_succ d l, expr_succ d r]
  | .unary op e => by cases op <;> simp [expr, expr_succ d e]
  | .tuple es => by simp [expr, exprs_succ d es]
  | .array es => by simp [expr, exprs_succ d es]
  | .inList e es neg => by simp [expr, expr_succ d e, exprs_succ d es]
  | .wildcard q => by cases q <;> rfl
  | .case o bs e => by
    simp [expr, after_succ d " " o, branches_succ d bs, after_succ d " ELSE " e]
  | .subquery q => by simp [expr, statement_succ (d + 1) .whole q]
  | .exists q => by simp [expr, statement_succ (d + 1) .whole q]
  | .inSubquery e q neg => by simp [expr, expr_succ d e, statement_succ (d + 1) .whole q]
  | .between e l h neg => by simp [expr, expr_succ d e, expr_succ d l, expr_succ d h]
  | .isNull e neg => by simp [expr, expr_succ d e]
  | .cast e t short => by cases short <;> simp [expr, expr_succ d e]
  | .nested e => by simp [expr, expr_succ d e]
  | .raw _ => rfl
lemma exprs_succ (d : Nat) : (es : List Expr) → exprs (d + 1) es = (exprs d es).map deeper
  | [] => rfl
  | e :: es => by simp [exprs, expr_succ d e, exprs_succ d es]
lemma after_succ (d : Nat) (keyword : String) : (e : Option Expr) →
    after (d + 1) keyword e = deeper (after d keyword e)
  | none => rfl
  | some e => by simp [after, expr_succ d e]
lemma clause_succ (d : Nat) (keyword : String) : (e : Option Expr) →
    clause (d + 1) keyword e = (clause d keyword e).map deeper
  | none => rfl
  | some e => by simp [clause, expr_succ d e]
lemma filterPieces_succ (d : Nat) : (e : Option Expr) →
    filterPieces (d + 1) e = deeper (filterPieces d e)
  | none => rfl
  | some e => by simp [filterPieces, expr_succ d e]
lemma branches_succ (d : Nat) : (bs : List (Expr × Expr)) →
    branches (d + 1) bs = deeper (branches d bs)
  | [] => rfl
  | (c, r) :: bs => by simp [branches, expr_succ d c, expr_succ d r, branches_succ d bs]
lemma window_succ (d : Nat) : (w : Option Window) → window (d + 1) w = deeper (window d w)
  | none => rfl
  | some ⟨some _, _, _, _⟩ => rfl
  | some ⟨none, p, o, f⟩ => by
    simp [window, exprs_succ d p, order_succ d o, deeper_intercalate, Function.comp_def]
lemma order_succ (d : Nat) : (os : List OrderItem) → order (d + 1) os = (order d os).map deeper
  | [] => rfl
  | ⟨v, a, n⟩ :: os => by simp [order, expr_succ d v, order_succ d os]
lemma items_succ (d : Nat) : (is : List SelectItem) → items (d + 1) is = (items d is).map deeper
  | [] => rfl
  | ⟨v, a⟩ :: is => by simp [items, expr_succ d v, items_succ d is]
lemma source_succ (d : Nat) : (s : Source) → source (d + 1) s = deeper (source d s)
  | .table s n a => by simp [source]
  | .subquery q a cs l => by simp [source, statement_succ (d + 1) .whole q]
  | .function n args a => by simp [source, exprs_succ d args]
lemma sources_succ (d : Nat) : (ss : List Source) →
    sources (d + 1) ss = (sources d ss).map deeper
  | [] => rfl
  | s :: ss => by simp [sources, source_succ d s, sources_succ d ss]
lemma condition_succ (d : Nat) : (c : Option JoinCondition) →
    condition (d + 1) c = deeper (condition d c)
  | some (.predicate e) => by simp [condition, expr_succ d e]
  | some (.shared cs) => by simp [condition]
  | some .natural => rfl
  | none => rfl
lemma joins_succ (d : Nat) : (js : List Join) → joins (d + 1) js = (joins d js).map deeper
  | [] => rfl
  | ⟨t, s, c⟩ :: js => by
    simp [joins, source_succ d s, condition_succ d c, joins_succ d js]
lemma rows_succ (d : Nat) : (rs : List (List Expr)) → rows (d + 1) rs = (rows d rs).map deeper
  | [] => rfl
  | r :: rs => by simp [rows, exprs_succ d r, rows_succ d rs]
lemma assignments_succ (d : Nat) : (as : List Assignment) →
    assignments (d + 1) as = (assignments d as).map deeper
  | [] => rfl
  | ⟨c, v⟩ :: as => by simp [assignments, expr_succ d v, assignments_succ d as]
lemma tables_succ (d : Nat) : (ts : List CommonTable) →
    tables (d + 1) ts = (tables d ts).map deeperTable
  | [] => rfl
  | ⟨n, cs, b⟩ :: ts => by
    simp [tables, deeperTable, statement_succ (d + 1) .whole b, tables_succ d ts]
lemma withClause_succ (d : Nat) : (w : Option WithClause) →
    withClause (d + 1) w = (withClause d w).map deeper
  | none => rfl
  | some ⟨r, ts⟩ => by
    simp [withClause, tables_succ d ts, deeperTable, Function.comp_def]
lemma operandWiths_succ (d : Nat) : (s : Statement) →
    operandWiths (d + 1) s = (operandWiths d s).map deeperClause
  | .select ⟨some ⟨r, ts⟩, _, _, _, _, _, _, _, _, _, _⟩ =>
    congrArg (fun tables => [(r, tables)]) (tables_succ d ts)
  | .select ⟨none, _, _, _, _, _, _, _, _, _, _⟩ => rfl
  | .setOp ⟨l, _, _, r, _, _, _⟩ => by
    simp [operandWiths_setOp, operandWiths_succ d l, operandWiths_succ d r]
  | .values _ => rfl
  | .insert _ => rfl
  | .createTable _ => rfl
  | .update _ => rfl
  | .delete _ => rfl
/-- A statement one level deeper has the same pieces, with their line breaks one level deeper. -/
lemma statement_succ (d : Nat) (p : Placement) : (s : Statement) →
    statement (d + 1) p s = deeper (statement d p s)
  | .select ⟨w, isDistinct, is, fs, js, f, g, h, o, l, k⟩ => by
    have hmodifiers := modifiers_succ (order_succ d o) (clause_succ d "LIMIT " l)
      (clause_succ d "OFFSET " k)
    have hclauses := And.intro (items_succ d is) <| And.intro (sources_succ d fs) <|
      And.intro (joins_succ d js) <| And.intro (clause_succ d "WHERE " f) <|
      And.intro (exprs_succ d g) (clause_succ d "HAVING " h)
    cases p with
    | whole => simp [statement, hclauses, hmodifiers, withClause_succ d w]
    | operand parent right =>
      simp only [statement, hclauses, hmodifiers, apply_ite deeper, List.isEmpty_map]
      simp
  | .setOp ⟨l, op, a, r, o, m, k⟩ => by
    have hmodifiers := modifiers_succ (order_succ d o) (clause_succ d "LIMIT " m)
      (clause_succ d "OFFSET " k)
    have hchain : chained (d + 1) (statement (d + 1) (.operand op false) l) op a
          (statement (d + 1) (.operand op true) r) =
        deeper (chained d (statement d (.operand op false) l) op a
          (statement d (.operand op true) r)) := by
      rw [statement_succ d (.operand op false) l, statement_succ d (.operand op true) r,
        deeper_chained]
    cases p with
    | whole =>
      have hfront := hoistedWith_succ d (operandWiths d l ++ operandWiths d r)
      rw [List.map_append, ← operandWiths_succ d l, ← operandWiths_succ d r] at hfront
      simp only [statement, hfront, hchain, hmodifiers]
      simp
    | operand parent right =>
      simp only [statement, hchain, hmodifiers, apply_ite deeper, List.isEmpty_map]
      simp only [deeper_parenthesized, deeper_stacked, List.map_cons]
  | .values ⟨rs, _⟩ => by simp [statement, rows_succ d rs]
  | .insert ⟨t, cs, .rows rs, is⟩ => by
    cases p with
    | whole => simp [statement, rows_succ d rs, items_succ d is]
    | operand parent right => simp [statement, rows_succ (d + 1) rs, items_succ (d + 1) is]
  | .insert ⟨t, cs, .query q, is⟩ => by
    cases p with
    | whole => simp [statement, statement_succ d .whole q, items_succ d is]
    | operand parent right =>
      simp [statement, statement_succ (d + 1) .whole q, items_succ (d + 1) is]
  | .createTable ⟨n, tm, e, cs, q⟩ => by
    cases p with
    | whole => simp [statement, asQuery_succ d q]
    | operand parent right => simp [statement, asQuery_succ (d + 1) q]
  | .update ⟨w, t, as, fs, f, is⟩ => by
    have hclauses := fun d => And.intro (withClause_succ d w) <| And.intro (source_succ d t) <|
      And.intro (assignments_succ d as) <| And.intro (sources_succ d fs) <|
      And.intro (clause_succ d "WHERE " f) (items_succ d is)
    cases p with
    | whole => simp [statement, hclauses d]
    | operand parent right => simp [statement, hclauses (d + 1)]
  | .delete ⟨w, t, us, f, is⟩ => by
    have hclauses := fun d => And.intro (withClause_succ d w) <| And.intro (source_succ d t) <|
      And.intro (sources_succ d us) <| And.intro (clause_succ d "WHERE " f) (items_succ d is)
    cases p with
    | whole => simp [statement, hclauses d]
    | operand parent right => simp [statement, hclauses (d + 1)]
lemma asQuery_succ (d : Nat) : (q : Option Statement) →
    asQuery (d + 1) q = deeper (asQuery d q)
  | none => rfl
  | some q => by simp [asQuery, statement_succ d .whole q]
end

@[simp] lemma marks_deeper (ps : List Piece) : marks (deeper ps) = marks ps := by
  induction ps with
  | nil => rfl
  | cons p ps ih => cases p <;> simpa using ih

/-- On one line depth is not seen. -/
lemma texts_deeper (o : FormatOptions) (r : Registry) (ps : List Piece) :
    texts { o with pretty := false } r (deeper ps) = texts { o with pretty := false } r ps := by
  induction ps generalizing r with
  | nil => rfl
  | cons p ps ih => cases p <;> simp [texts, pieceText, ih]

end Layout

end SqlLoom
