import LivePreview.Script.Walk

/-!
# Calls of `require`
-/

namespace LivePreview.Module

open Script

/-- The specifier of a call of `require` with a string alone. -/
def requireCall? : Expr → Option String
  | .call _ (.name _ callee) _ [.literal _ (.string specifier)] _ _ =>
    if callee == "require" then some specifier.text else none
  | _ => none

/-- The specifiers that the statements pass to `require` by hand. -/
def requireCalls (statements : List Stmt) : List String :=
  (Stmt.listExpressions statements).filterMap requireCall?

end LivePreview.Module
