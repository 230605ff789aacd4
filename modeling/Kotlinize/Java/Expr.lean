import Kotlinize.Java.Ty
import Kotlinize.Literal

/-!
# Java expressions

The resolved expressions of a Java program. Whether a name, a field or the result of a call may be
null is known to the front end and stands in the expression.
-/

namespace Kotlinize.Java

/-- **A Java expression.** -/
inductive Expr where
  | literal (value : Literal)
  /-- A variable or other simple name. -/
  | name (name : String) (nullable : Bool)
  | fieldAccess (receiver : Expr) (name : String) (nullable : Bool)
  | methodCall (callee : Expr) (typeArguments : List Ty) (arguments : List Expr)
      (resultNullable : Bool)
  /-- The creation of an array, as in `new T[d1][d2]…`: the type of the whole array, and the sizes
  that were written. -/
  | newArray (type : Ty) (dimensions : List Expr)
  /-- An anonymous class, as in `new Super(args) { members }`, with the members already in
  Kotlin. -/
  | newAnonymous (supertype : ClassTy) (arguments : List Expr) (members : List String)
deriving BEq, Inhabited

end Kotlinize.Java
