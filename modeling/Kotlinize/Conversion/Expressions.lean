import Kotlinize.Conversion.Types
import Kotlinize.Java.Expr
import Kotlinize.Kotlin.Expr

/-!
# Converting expressions

Java expressions as Kotlin expressions: each part is converted on its own, in its place.
-/

namespace Kotlinize.Java

/-- A Java name as a Kotlin identifier. -/
def kotlinName (name : String) (nullable : Bool) : Kotlin.Identifier :=
  { Kotlin.Identifier.plain name with nullable }

mutual

/-- **The Kotlin expression of a Java expression.** -/
def Expr.convert (config : Config) : Expr → Kotlin.Expr
  | .literal value => .literal value
  | .name ident nullable => .ident (kotlinName ident nullable)
  | .fieldAccess receiver field nullable =>
    .member (receiver.convert config) (kotlinName field nullable)
  | .methodCall callee typeArguments arguments resultNullable =>
    .call (callee.convert config) (Ty.convertAll config typeArguments)
      (Expr.convertAll config arguments) resultNullable
  | .newArray type dimensions =>
    .newArray (type.convert config) (Expr.convertAll config dimensions)
  | .newAnonymous supertype arguments members =>
    .anonymous (supertype.convert config) (Expr.convertAll config arguments)
      (members.map .verbatim)

/-- The Kotlin expressions of several Java expressions. -/
def Expr.convertAll (config : Config) : List Expr → List Kotlin.Expr
  | [] => []
  | e :: rest => e.convert config :: Expr.convertAll config rest

end

end Kotlinize.Java
