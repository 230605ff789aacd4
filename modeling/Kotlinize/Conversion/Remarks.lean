import Kotlinize.Conversion.Expressions
import Kotlinize.Notice

/-!
# Notices of a conversion

What converting a type or an expression has to remark, in the order in which the parts are
converted: the name of a class before its arguments, the arguments of a call before its type
arguments.
-/

namespace Kotlinize.Conversion

/-- The notices of naming a class. -/
def namingNotices (config : Config) (c : Java.ClassTy) : List Notice :=
  if (fixedIdentifier? config c).isNone ∧ (writtenName? c).isNone then
    [.canonicalName c.canonicalText (shortName c)]
  else []

/-- The notices of converting a primitive type. -/
def primitiveNotices (name : String) : List Notice :=
  if name = "void" ∨ primitiveTypes.contains name then [] else [.unknownPrimitive name]

end Kotlinize.Conversion

namespace Kotlinize.Java

mutual

/-- **The notices of converting a type.** -/
def Ty.notices (config : Config) : Ty → List Notice
  | .primitive name => Conversion.primitiveNotices name
  | .array component => component.notices config
  | .classType c => c.notices config
  | .wildcard none => []
  | .wildcard (some bound) => bound.notices config
  | .ellipsis component => component.notices config

/-- The notices of converting the bound of a wildcard. -/
def Bound.notices (config : Config) : Bound → List Notice
  | .upper t => t.notices config
  | .lower t => t.notices config

/-- **The notices of converting a class type.** -/
def ClassTy.notices (config : Config) : ClassTy → List Notice
  | ⟨canonicalText, className, parameters, reference, declaration⟩ =>
    Conversion.namingNotices config
        ⟨canonicalText, className, parameters, reference, declaration⟩
      ++ (match parameters, declaration with
        | [], some d => d.rawNotices config canonicalText
        | parameters, _ => Ty.noticesOfAll config parameters)

/-- The notices of making up arguments for a raw use of a declared class. -/
def Declaration.rawNotices (config : Config) (canonicalText : String) :
    Declaration → List Notice
  | ⟨_, []⟩ => []
  | ⟨_, p :: rest⟩ =>
    .rawType canonicalText (rest.length + 1) :: TypeParameter.rawNotices config (p :: rest)

/-- The notices of the arguments for the type parameters of a raw use. -/
def TypeParameter.rawNotices (config : Config) : List TypeParameter → List Notice
  | [] => []
  | ⟨_, bounds⟩ :: rest =>
    ClassTy.boundNotices config bounds ++ TypeParameter.rawNotices config rest

/-- The notices of the argument for a type parameter with the given bounds. -/
def ClassTy.boundNotices (config : Config) : List ClassTy → List Notice
  | [] => []
  | ⟨_, _, parameters, _, _⟩ :: _ => Ty.noticesOfAll config parameters

/-- The notices of converting several types. -/
def Ty.noticesOfAll (config : Config) : List Ty → List Notice
  | [] => []
  | t :: rest => t.notices config ++ Ty.noticesOfAll config rest

end

mutual

/-- **The notices of converting an expression.** -/
def Expr.notices (config : Config) : Expr → List Notice
  | .literal _ => []
  | .name _ _ => []
  | .fieldAccess receiver _ _ => receiver.notices config
  | .methodCall callee typeArguments arguments _ =>
    callee.notices config ++ Expr.noticesOfAll config arguments
      ++ Ty.noticesOfAll config typeArguments
  | .newArray type dimensions => type.notices config ++ Expr.noticesOfAll config dimensions
  | .newAnonymous supertype arguments _ =>
    supertype.notices config ++ Expr.noticesOfAll config arguments

/-- The notices of converting several expressions. -/
def Expr.noticesOfAll (config : Config) : List Expr → List Notice
  | [] => []
  | e :: rest => e.notices config ++ Expr.noticesOfAll config rest

end

end Kotlinize.Java
