import SqlLoom.Grammar.Denote

/-! SQL text to statements. -/
namespace SqlLoom

namespace Grammar.Failure

/-- The text in front of the first occurrence of a mark. -/
def beforeMark (mark : List Char) : List Char → List Char
  | [] => []
  | c :: cs => if mark.isPrefixOf (c :: cs) then [] else c :: beforeMark mark cs

/-- The text behind the last occurrence of a mark. -/
def behindMark (mark : List Char) : List Char → Option (List Char)
  | [] => none
  | c :: cs =>
    match behindMark mark cs with
    | some rest => some rest
    | none => if mark.isPrefixOf (c :: cs) then some ((c :: cs).drop mark.length) else none

/-- The number at the start of a text, unless it has no digits or more than a word holds. -/
def leadingNumber (cs : List Char) : Option Nat :=
  let digits := cs.takeWhile (·.isDigit)
  let n := digits.foldl (fun n c => 10 * n + (c.toNat - '0'.toNat)) 0
  if digits.isEmpty || n ≥ Nat.pow 2 64 then none else some n

/-- The place that a text names last. -/
def namedPosition (text : List Char) : Option Position := do
  let line ← leadingNumber (← behindMark lineMark.toList text)
  let column ← leadingNumber (← behindMark columnMark.toList text)
  return ⟨line, column⟩

/-- The message and the place are told apart by the marks in the text of the failure, so that marks
in the text that was read count as well. -/
def toError (f : Failure) : Error :=
  let text := f.text.toList
  .malformed (String.ofList (beforeMark (" at " ++ lineMark).toList text)) (namedPosition text)

end Grammar.Failure

namespace Statement

/-- Every statement of a text. Placeholders without a name are numbered through all of them. -/
def parseMany (d : Grammar.Dialect) (sql : String) : Result (List Statement) :=
  match Grammar.read d sql with
  | .error e => .error e.toError
  | .ok parsed => ((parsed.mapM Grammar.Denote.statement).run 0).map (·.1)

/-- The one statement of a text. -/
def parse (d : Grammar.Dialect) (sql : String) : Result Statement := do
  match ← parseMany d sql with
  | [s] => return s
  | ss => throw (.malformed ("expected 1 statement, found " ++ toString ss.length) none)

end Statement

namespace Select

/-- The one select of a text. -/
def parse (sql : String) : Result Select := do
  match ← Statement.parse .postgres sql with
  | .select s => return s
  | _ => throw (.unsupported "expected a plain SELECT")

end Select

end SqlLoom
