import SqlLoom.Scalar

/-! Why an operation fails, and the one wording of each cause. -/
namespace SqlLoom

/-- A place in SQL text, counted from 1 in characters. -/
structure Position where
  line : Nat
  column : Nat
  deriving DecidableEq, Repr

inductive Error where
  | malformed (message : String) (position : Option Position)
  /-- A wildcard over a table whose columns nobody can name. -/
  | unresolvedWildcard (table : Option String)
  | columnResolution (column reason : String)
  /-- A select item without a name, where the names become a column list. -/
  | unnamedOutput (position : Nat) (item : String)
  | unknownParent (entity parent : String)
  | missingPropertyName (entity : String)
  /-- One parameter bound to two values. -/
  | conflictingParameter (name : String) (first second : Scalar)
  | missingOperand (what : String)
  /-- Two common tables of one name in one clause. -/
  | duplicateTable (name : String)
  | unsupported (what : String)
  | invalidCondition (key reason : String)

abbrev Result (α : Type) := Except Error α

def Position.text (p : Position) : String :=
  "line " ++ toString p.line ++ ", column " ++ toString p.column

namespace Error

def quoteName (s : String) : String := "'" ++ s ++ "'"

def positionText : Option Position → String
  | some p => " at " ++ p.text
  | none => ""

def wildcardText : Option String → String
  | some t => quoteName t
  | none => "an unknown source"

def message : Error → String
  | .malformed m p => "syntax error: " ++ m ++ positionText p
  | .unresolvedWildcard t => "wildcard over " ++ wildcardText t ++ " requires a table column resolver"
  | .columnResolution c reason => "cannot resolve column " ++ quoteName c ++ ": " ++ reason
  | .unnamedOutput n item =>
    "cannot infer insert columns: select item " ++ toString n ++ " (" ++ quoteName item ++
      ") has no name"
  | .unknownParent e p => "entity " ++ quoteName e ++ " references unknown parent " ++ quoteName p
  | .missingPropertyName e => "entity " ++ quoteName e ++ " is nested but has no propertyName"
  | .conflictingParameter n first second =>
    "parameter " ++ quoteName n ++ " is bound to conflicting values " ++ first.display ++ " and " ++
      second.display
  | .missingOperand what => "missing operand: " ++ what
  | .duplicateTable n =>
    "common table " ++ quoteName n ++ " is already defined in this WITH clause"
  | .unsupported what => "unsupported statement: " ++ what
  | .invalidCondition key reason => "invalid condition for " ++ quoteName key ++ ": " ++ reason

end Error

end SqlLoom
