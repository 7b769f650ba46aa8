import SqlLoom.Layout

/-! SQL text and reconciled parameters of a statement under rendering options. -/
namespace SqlLoom

structure FormatOptions where
  preset : Preset := .named
  /-- Quote every name. -/
  quoteNames : Bool := true
  /-- One clause a line, nested statements indented. -/
  pretty : Bool := false
  deriving DecidableEq, Repr

structure Rendered where
  sql : String
  params : Params

namespace Layout

def indent (depth : Nat) : String := String.ofList (List.replicate (4 * depth) ' ')

def lineBreak (depth : Nat) : String := "\n" ++ indent depth

/-- The text of a piece, given the number of its parameter. -/
def pieceText (o : FormatOptions) (number : String → Nat) : Piece → String
  | .word s => s
  | .name s => if o.quoteNames then o.preset.quoteName s else s
  | .slot s => o.preset.placeholder s.name (number s.name)
  | .gap d => if o.pretty then lineBreak d else " "
  | .opening d => if o.pretty then "(" ++ lineBreak (d + 1) else "("
  | .closing d => if o.pretty then lineBreak d ++ ")" else ")"
  | .clash _ => ""

/-- Parameters are registered as their pieces are written. -/
def texts (o : FormatOptions) (r : Registry) : List Piece → List String
  | [] => []
  | p :: ps =>
    pieceText o (fun name => r.nextSlot name + 1) p ::
      texts o (match p with
        | .slot s => r.register s
        | _ => r) ps

def text (o : FormatOptions) (ps : List Piece) : String := String.join (texts o {} ps)

def occurrences (ps : List Piece) : List Occurrence :=
  ps.filterMap fun
    | .slot s => some s
    | _ => none

/-- The first table that clashes with another of its name. -/
def clash? (ps : List Piece) : Option String :=
  ps.findSome? fun
    | .clash table => some table
    | _ => none

end Layout

namespace Statement

/-- Fails when tables clash, and else when one parameter is bound to two values. -/
def format (o : FormatOptions) (s : Statement) : Result Rendered :=
  let ps := Layout.statement 0 .whole s
  match Layout.clash? ps with
  | some table => .error (.duplicateTable table)
  | none =>
    match (Registry.ofOccurrences (Layout.occurrences ps)).finish o.preset with
    | .error e => .error e
    | .ok params => .ok { sql := Layout.text o ps, params }

end Statement

namespace Expr

/-- The text of a lone expression. -/
def format (o : FormatOptions) (e : Expr) : String := Layout.text o (Layout.expr 0 e)

end Expr

namespace WithClause

def format (o : FormatOptions) (w : WithClause) : String :=
  Layout.text o (List.flatten (Layout.withClause 0 (some w)))

end WithClause

namespace Rendered

def toJson (r : Rendered) : Json := .obj [("sql", .str r.sql), ("params", r.params.toJson)]

end Rendered

end SqlLoom
