import SqlLoom.Fixture
import SqlLoom.Nesting
import SqlLoom.Normalize

/-! Named steps from statement to statement, run one after the other. -/
namespace SqlLoom

structure Pass where
  name : String
  description : String
  run : Statement → Result Statement

namespace Pass

def simplifyNesting : Pass :=
  ⟨"simplify_nesting", "Removes unnecessary parenthesized expressions",
    fun s => .ok s.simplifyNesting⟩

def normalize : Pass :=
  ⟨"normalize", "Wraps set operations and VALUES lists into a single select",
    fun s => s.normalize.map .select⟩

def fixtures (fs : List FixtureTable) : Pass :=
  ⟨"inject_fixtures", "Prepends literal fixture tables as CTEs", Fixture.inject fs⟩

def defaults : List Pass := [simplifyNesting]

/-- Each pass takes what the one before it returns; the first failure ends the run. -/
def runAll (passes : List Pass) (s : Statement) : Result Statement :=
  passes.foldlM (fun s p => p.run s) s

end Pass

end SqlLoom
