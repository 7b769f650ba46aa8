import SqlLoom.Statement.Exprs

/-! Parentheses that cannot change the meaning: around a column, literal, parameter or wildcard,
and around another pair. -/
namespace SqlLoom

namespace Expr

/-- Whether a pair of parentheses around the expression does nothing. -/
def standsAlone : Expr → Bool
  | .column _ _ | .literal _ | .parameter _ _ | .wildcard _ | .nested _ => true
  | _ => false

def dropPair : Expr → Expr
  | .nested e => if e.standsAlone then e else .nested e
  | e => e

end Expr

namespace Statement

def simplifyNesting (s : Statement) : Statement := s.mapExprs Expr.dropPair

end Statement

end SqlLoom
