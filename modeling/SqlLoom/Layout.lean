import SqlLoom.Binding
import SqlLoom.Statement.Hoist

/-! Statements as sequences of pieces. A piece says what is written and leaves open how names are
quoted, how placeholders look and where lines are broken; `Piece.text` settles that. -/
namespace SqlLoom

inductive Piece where
  /-- Text that no option changes. -/
  | word (s : String)
  | name (s : String)
  | slot (o : Occurrence)
  /-- A blank, or a new line at a depth. -/
  | gap (depth : Nat)
  /-- The parenthesis before a nested statement. -/
  | opening (depth : Nat)
  | closing (depth : Nat)
  /-- Nothing written: a hoisted table differs from another of its name. -/
  | clash (table : String)

/-- Where a statement stands. -/
inductive Placement where
  | whole
  /-- An operand of a set operation, on its right side or not. -/
  | operand (parent : SetOperator) (right : Bool)

namespace Layout

def comma : List Piece := [.word ", "]

def commaed (parts : List (List Piece)) : List Piece := List.intercalate comma parts

def names (xs : List String) : List Piece := commaed (xs.map fun x => [.name x])

def parenthesized (ps : List Piece) : List Piece := .word "(" :: ps ++ [.word ")"]

/-- A list of columns in parentheses, or nothing. -/
def columnList (xs : List String) : List Piece :=
  if xs.isEmpty then [] else parenthesized (names xs)

def qualified (schema : Option String) (name : String) : List Piece :=
  match schema with
  | some s => [.name s, .word ".", .name name]
  | none => [.name name]

def aliased : Option String → List Piece
  | some a => [.word " AS ", .name a]
  | none => []

/-- Clauses one below the other. -/
def stacked (depth : Nat) (parts : List (List Piece)) : List Piece :=
  List.intercalate [.gap depth] parts

/-- A list under a keyword, if there is anything to list. -/
def listed (keyword : String) (parts : List (List Piece)) : List (List Piece) :=
  if parts.isEmpty then [] else [.word keyword :: commaed parts]

def literalText : Literal → String
  | .null => "NULL"
  | .bool true => "TRUE"
  | .bool false => "FALSE"
  | .number n => n
  | .string s => Text.enclose '\'' '\'' s

/-- How tightly an operator binds. -/
def precedence : BinaryOp → Nat
  | .or => 1
  | .and => 2
  | .eq | .notEq | .lt | .ltEq | .gt | .gtEq => 4
  | .like | .ilike | .notLike | .notIlike => 5
  | .concat => 6
  | .plus | .minus => 7
  | .multiply | .divide | .modulo => 8

def opText : BinaryOp → String
  | .eq => "="
  | .notEq => "<>"
  | .lt => "<"
  | .ltEq => "<="
  | .gt => ">"
  | .gtEq => ">="
  | .and => "AND"
  | .or => "OR"
  | .plus => "+"
  | .minus => "-"
  | .multiply => "*"
  | .divide => "/"
  | .modulo => "%"
  | .like => "LIKE"
  | .ilike => "ILIKE"
  | .notLike => "NOT LIKE"
  | .notIlike => "NOT ILIKE"
  | .concat => "||"

def associates : BinaryOp → Bool
  | .and | .or | .plus | .multiply | .concat => true
  | _ => false

/-- Whether an operand must be put in parentheses. Comparisons do not chain. -/
def needsParens (parent : BinaryOp) (right : Bool) : Expr → Bool
  | .binary _ op _ =>
    precedence op < precedence parent ||
      (precedence op == precedence parent &&
        (precedence parent == precedence .eq || (right && !associates parent)))
  | _ => false

def operandOf (parent : BinaryOp) (right : Bool) (e : Expr) (ps : List Piece) : List Piece :=
  if needsParens parent right e then parenthesized ps else ps

def boundText : FrameBound → String
  | .currentRow => "CURRENT ROW"
  | .preceding none => "UNBOUNDED PRECEDING"
  | .preceding (some n) => toString n ++ " PRECEDING"
  | .following none => "UNBOUNDED FOLLOWING"
  | .following (some n) => toString n ++ " FOLLOWING"

def modeText : FrameMode → String
  | .rows => "ROWS"
  | .range => "RANGE"
  | .groups => "GROUPS"

def frameText (f : WindowFrame) : String :=
  match f.stop with
  | some stop => modeText f.mode ++ " BETWEEN " ++ boundText f.start ++ " AND " ++ boundText stop
  | none => modeText f.mode ++ " " ++ boundText f.start

def directionText (ascending nullsFirst : Option Bool) : String :=
  (match ascending with
    | some true => " ASC"
    | some false => " DESC"
    | none => "") ++
  (match nullsFirst with
    | some true => " NULLS FIRST"
    | some false => " NULLS LAST"
    | none => "")

def notText (negated : Bool) : String := if negated then "NOT " else ""

def joinText : JoinType → String
  | .inner => "JOIN"
  | .left => "LEFT JOIN"
  | .right => "RIGHT JOIN"
  | .full => "FULL JOIN"
  | .cross => "CROSS JOIN"

def setOpText (op : SetOperator) (all : Bool) : String :=
  (match op with
    | .union => "UNION"
    | .intersect => "INTERSECT"
    | .except => "EXCEPT") ++ if all then " ALL" else ""

/-- A statement one level deeper, in parentheses. -/
def nestedAt (depth : Nat) (ps : List Piece) : List Piece :=
  .opening depth :: ps ++ [.closing depth]

/-- A table of a WITH clause, from the pieces of its body. -/
def tablePieces (depth : Nat) (name : String) (columns : List String) (body : List Piece) :
    List Piece :=
  .name name :: columnList columns ++ .word " AS " :: nestedAt depth body

def withText (isRecursive : Bool) : String := if isRecursive then "WITH RECURSIVE " else "WITH "

def withPieces (depth : Nat) (isRecursive : Bool) (tables : List (List Piece)) : List Piece :=
  .word (withText isRecursive) :: List.intercalate [.word ",", .gap depth] tables

def valuesPieces (depth : Nat) (rows : List (List Piece)) : List Piece :=
  .word "VALUES " :: List.intercalate [.word ",", .gap (depth + 1)] rows

/-- Two operands with the operator on a line of its own. -/
def chained (depth : Nat) (left : List Piece) (op : SetOperator) (all : Bool)
    (right : List Piece) : List Piece :=
  left ++ .gap depth :: .word (setOpText op all) :: .gap depth :: right

/-- The clause in front of a set operation, made of the tables of all operands. -/
def hoistedWith (depth : Nat) (clauses : List (Bool × List (CommonTable × List Piece))) :
    List Piece × List (List Piece) :=
  let h := Hoisted.ofTables Prod.fst (clauses.flatMap (·.2))
  (h.clashes.map .clash,
    if clauses.isEmpty then []
    else [withPieces depth (clauses.any (·.1)) (h.kept.map (·.2))])

def insertColumns (cs : List String) : List Piece :=
  if cs.isEmpty then [] else .word " " :: parenthesized (names cs)

def createHead (name : QualifiedName) (temporary ifNotExists : Bool)
    (columns : List ColumnDefinition) : List Piece :=
  .word ("CREATE " ++ (if temporary then "TEMPORARY " else "") ++ "TABLE " ++
      if ifNotExists then "IF NOT EXISTS " else "") ::
    qualified name.schema name.name ++
    if columns.isEmpty then []
    else
      .word " " ::
        parenthesized (commaed (columns.map fun c => [.name c.name, .word (" " ++ c.dataType)]))

/-- Whether a set operation below another needs parentheses. -/
def operandNests (parent op : SetOperator) (right modified : Bool) : Bool :=
  right || modified || (parent == .intersect && op != .intersect)

mutual
def expr (d : Nat) : Expr → List Piece
  | .column (some q) n => [.name q, .word ".", .name n]
  | .column none n => [.name n]
  | .literal v => [.word (literalText v)]
  | .parameter n v => [.slot ⟨n, v⟩]
  | .call n args isDistinct f w =>
    .word n :: .word "(" :: .word (if isDistinct then "DISTINCT " else "") ::
      commaed (exprs d args) ++ .word ")" :: filterPieces d f ++ window d w
  | .binary l op r =>
    operandOf op false l (expr d l) ++ .word (" " ++ opText op ++ " ") ::
      operandOf op true r (expr d r)
  | .unary .not e => .word "NOT " :: expr d e
  | .unary .minus e => .word "-" :: expr d e
  | .unary .plus e => .word "+" :: expr d e
  | .tuple es => parenthesized (commaed (exprs d es))
  | .array es => .word "ARRAY[" :: commaed (exprs d es) ++ [.word "]"]
  | .inList e es neg =>
    expr d e ++ .word (" " ++ notText neg ++ "IN (") :: commaed (exprs d es) ++ [.word ")"]
  | .wildcard (some q) => [.name q, .word ".*"]
  | .wildcard none => [.word "*"]
  | .case o bs e =>
    .word "CASE" :: after d " " o ++ branches d bs ++ after d " ELSE " e ++ [.word " END"]
  | .subquery q => nestedAt d (statement (d + 1) .whole q)
  | .exists q => .word "EXISTS " :: nestedAt d (statement (d + 1) .whole q)
  | .inSubquery e q neg =>
    expr d e ++ .word (" " ++ notText neg ++ "IN ") :: nestedAt d (statement (d + 1) .whole q)
  | .between e l h neg =>
    expr d e ++ .word (" " ++ notText neg ++ "BETWEEN ") :: expr d l ++ .word " AND " :: expr d h
  | .isNull e neg => expr d e ++ [.word (if neg then " IS NOT NULL" else " IS NULL")]
  | .cast e t true => expr d e ++ [.word ("::" ++ t)]
  | .cast e t false => .word "CAST(" :: expr d e ++ [.word (" AS " ++ t ++ ")")]
  | .nested e => parenthesized (expr d e)
  | .raw s => [.word s]
def exprs (d : Nat) : List Expr → List (List Piece)
  | [] => []
  | e :: es => expr d e :: exprs d es
/-- An expression after a keyword, or nothing. -/
def after (d : Nat) (keyword : String) : Option Expr → List Piece
  | none => []
  | some e => .word keyword :: expr d e
/-- A clause of one expression, or none. -/
def clause (d : Nat) (keyword : String) : Option Expr → List (List Piece)
  | none => []
  | some e => [.word keyword :: expr d e]
def filterPieces (d : Nat) : Option Expr → List Piece
  | none => []
  | some e => .word " FILTER (WHERE " :: expr d e ++ [.word ")"]
def branches (d : Nat) : List (Expr × Expr) → List Piece
  | [] => []
  | (c, r) :: bs => .word " WHEN " :: expr d c ++ .word " THEN " :: expr d r ++ branches d bs
def window (d : Nat) : Option Window → List Piece
  | none => []
  | some ⟨some n, _, _, _⟩ => [.word " OVER ", .name n]
  | some ⟨none, p, o, f⟩ =>
    .word " OVER (" ::
      List.intercalate [.word " "]
        (listed "PARTITION BY " (exprs d p) ++ listed "ORDER BY " (order d o) ++
          f.toList.map fun f => [.word (frameText f)]) ++
      [.word ")"]
def order (d : Nat) : List OrderItem → List (List Piece)
  | [] => []
  | ⟨v, a, n⟩ :: os => (expr d v ++ [.word (directionText a n)]) :: order d os
def items (d : Nat) : List SelectItem → List (List Piece)
  | [] => []
  | ⟨v, a⟩ :: is => (expr d v ++ aliased a) :: items d is
def source (d : Nat) : Source → List Piece
  | .table s n a => qualified s n ++ aliased a
  | .subquery q a cs l =>
    .word (if l then "LATERAL " else "") :: nestedAt d (statement (d + 1) .whole q) ++
      .word " AS " :: .name a :: columnList cs
  | .function n args a => .word n :: parenthesized (commaed (exprs d args)) ++ aliased a
def sources (d : Nat) : List Source → List (List Piece)
  | [] => []
  | s :: ss => source d s :: sources d ss
def condition (d : Nat) : Option JoinCondition → List Piece
  | some (.predicate e) => .word " ON " :: expr d e
  | some (.shared cs) => .word " USING " :: parenthesized (names cs)
  | some .natural => []
  | none => []
def joins (d : Nat) : List Join → List (List Piece)
  | [] => []
  | ⟨t, s, c⟩ :: js =>
    let natural := match c with
      | some .natural => "NATURAL "
      | _ => ""
    (.word (natural ++ joinText t ++ " ") :: source d s ++ condition d c) :: joins d js
def rows (d : Nat) : List (List Expr) → List (List Piece)
  | [] => []
  | r :: rs => parenthesized (commaed (exprs d r)) :: rows d rs
def assignments (d : Nat) : List Assignment → List (List Piece)
  | [] => []
  | ⟨c, v⟩ :: as => (.name c :: .word " = " :: expr d v) :: assignments d as
/-- The tables of a WITH clause, each with its pieces. -/
def tables (d : Nat) : List CommonTable → List (CommonTable × List Piece)
  | [] => []
  | ⟨n, cs, b⟩ :: ts =>
    (⟨n, cs, b⟩, tablePieces d n cs (statement (d + 1) .whole b)) :: tables d ts
def withClause (d : Nat) : Option WithClause → List (List Piece)
  | none => []
  | some ⟨r, ts⟩ => [withPieces d r ((tables d ts).map (·.2))]
/-- The WITH clauses of the operands of a set operation. -/
def operandWiths (d : Nat) : Statement → List (Bool × List (CommonTable × List Piece))
  | .select ⟨some ⟨r, ts⟩, _, _, _, _, _, _, _, _, _, _⟩ => [(r, tables d ts)]
  | .setOp ⟨l, _, _, r, _, _, _⟩ => operandWiths d l ++ operandWiths d r
  | _ => []
def statement (d : Nat) (placement : Placement) : Statement → List Piece
  | .select ⟨w, isDistinct, is, fs, js, f, g, h, o, l, k⟩ =>
    let list := items d is
    let modifiers := listed "ORDER BY " (order d o) ++ clause d "LIMIT " l ++ clause d "OFFSET " k
    let clauses :=
      (.word (if isDistinct then "SELECT DISTINCT " else "SELECT ") ::
          (if list.isEmpty then [.word "*"] else commaed list)) ::
        listed "FROM " (sources d fs) ++ joins d js ++ clause d "WHERE " f ++
        listed "GROUP BY " (exprs d g) ++ clause d "HAVING " h ++ modifiers
    match placement with
    | .whole => stacked d (withClause d w ++ clauses)
    | .operand _ _ =>
      if modifiers.isEmpty then stacked d clauses else parenthesized (stacked d clauses)
  | .setOp ⟨l, op, a, r, o, m, k⟩ =>
    let modifiers := listed "ORDER BY " (order d o) ++ clause d "LIMIT " m ++ clause d "OFFSET " k
    let chain := chained d (statement d (.operand op false) l) op a
      (statement d (.operand op true) r)
    match placement with
    | .whole =>
      let (clashes, front) := hoistedWith d (operandWiths d l ++ operandWiths d r)
      clashes ++ stacked d (front ++ chain :: modifiers)
    | .operand parent right =>
      if operandNests parent op right (!modifiers.isEmpty) then
        parenthesized (stacked d (chain :: modifiers))
      else chain
  | .values ⟨rs, _⟩ => valuesPieces d (rows d rs)
  | .insert ⟨t, cs, .rows rs, is⟩ =>
    let write := fun d => stacked d
      ((.word "INSERT INTO " :: qualified t.schema t.name ++ insertColumns cs) ::
        valuesPieces d (rows d rs) :: listed "RETURNING " (items d is))
    match placement with
    | .whole => write d
    | .operand _ _ => nestedAt d (write (d + 1))
  | .insert ⟨t, cs, .query q, is⟩ =>
    let write := fun d => stacked d
      ((.word "INSERT INTO " :: qualified t.schema t.name ++ insertColumns cs) ::
        statement d .whole q :: listed "RETURNING " (items d is))
    match placement with
    | .whole => write d
    | .operand _ _ => nestedAt d (write (d + 1))
  | .createTable ⟨n, tm, e, cs, q⟩ =>
    let write := fun d =>
      createHead n tm e cs ++ asQuery d q
    match placement with
    | .whole => write d
    | .operand _ _ => nestedAt d (write (d + 1))
  | .update ⟨w, t, as, fs, f, is⟩ =>
    let write := fun d => stacked d
      (withClause d w ++ (.word "UPDATE " :: source d t) ::
        (.word "SET " :: commaed (assignments d as)) :: listed "FROM " (sources d fs) ++
        clause d "WHERE " f ++ listed "RETURNING " (items d is))
    match placement with
    | .whole => write d
    | .operand _ _ => nestedAt d (write (d + 1))
  | .delete ⟨w, t, us, f, is⟩ =>
    let write := fun d => stacked d
      (withClause d w ++ (.word "DELETE FROM " :: source d t) ::
        listed "USING " (sources d us) ++ clause d "WHERE " f ++
        listed "RETURNING " (items d is))
    match placement with
    | .whole => write d
    | .operand _ _ => nestedAt d (write (d + 1))
def asQuery (d : Nat) : Option Statement → List Piece
  | none => []
  | some q => .word " AS" :: .gap d :: statement d .whole q
end

end Layout

end SqlLoom
