import SqlLoom.Binding
import SqlLoom.Walk

/-! Placeholders of a statement, in the order of its text. -/
namespace SqlLoom.Report

def placeholder : Event → Option Occurrence
  | .value _ (.parameter name value) _ => some ⟨name, value⟩
  | _ => none

/-- Every occurrence. -/
def parameters (s : Statement) : List Occurrence := s.trace.reverse.filterMap placeholder

/-- Each name once, in the order of first appearance. -/
def parameterNames (s : Statement) : List String := Text.distinct ((parameters s).map (·.name))

end SqlLoom.Report
