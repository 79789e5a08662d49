import DocQuery.Op
import DocQuery.Value.Basic

/-!
Expressions.
-/

namespace DocQuery

inductive Expr where
  | literal (v : Value)
  /-- A name, looked up where the expression is evaluated. -/
  | name (name : String)
  | binary (op : Op) (left right : Expr)
  /-- A call. Only variables name functions. -/
  | call (callee : Expr) (args : List Expr)
  /-- Indexing, by `object.name` as well as by `object[index]`. -/
  | index (object index : Expr)
  | not (operand : Expr)
  | list (items : List Expr)
  | object (entries : List (String × Expr))
  deriving Inhabited

namespace Expr

/-- The expression `object.name`. -/
def property (object : Expr) (name : String) : Expr := index object (literal (.string name))

end Expr

structure NamedExpr where
  name : String
  expr : Expr

end DocQuery
