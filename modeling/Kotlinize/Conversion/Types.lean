import Kotlinize.Conversion.Naming
import Kotlinize.Kotlin.Ty
import Kotlinize.Text.Case

/-!
# Converting types

Java types as Kotlin types. Arrays and classes come from Java without knowledge of null, so they
admit it. A raw use of a class gets one argument for each declared type parameter: the first bound
of that parameter, or `*` if it has none.
-/

namespace Kotlinize.Conversion

/-- The primitive types of Java. -/
def primitiveTypes : List String :=
  ["boolean", "byte", "char", "double", "float", "int", "long", "short"]

/-- The Kotlin type of a primitive Java type; a name that is not known is kept. -/
def primitive (name : String) : Kotlin.Ty :=
  if name = "void" then .unit
  else if primitiveTypes.contains name then .ofPrimitive (Text.capitalized name)
  else .ofPrimitive name

theorem exists_primitive_eq (name : String) : ∃ id, primitive name = .primitive id := by
  unfold primitive
  split
  · exact ⟨_, rfl⟩
  · split <;> exact ⟨_, rfl⟩

end Kotlinize.Conversion

namespace Kotlinize.Java

mutual

/-- **The Kotlin type of a Java type.** -/
def Ty.convert (config : Config) : Ty → Kotlin.Ty
  | .primitive name => Conversion.primitive name
  | .array component => .arrayOf (component.convert config)
  | .classType c => c.convert config
  | .wildcard none => .starProjection
  | .wildcard (some bound) => bound.convert config
  | .ellipsis component => .vararg (component.convert config)

/-- The Kotlin projection for the bound of a wildcard. -/
def Bound.convert (config : Config) : Bound → Kotlin.Ty
  | .upper t => .outProjection (t.convert config)
  | .lower t => .inProjection (t.convert config)

/-- **The Kotlin type of a Java class type.** -/
def ClassTy.convert (config : Config) : ClassTy → Kotlin.Ty
  | ⟨canonicalText, className, parameters, reference, declaration⟩ =>
    .classType
      (Conversion.identifier config ⟨canonicalText, className, parameters, reference, declaration⟩)
      (match parameters, declaration with
        | [], some d => d.rawArguments config
        | parameters, _ => Ty.convertAll config parameters) true

/-- The arguments for a raw use of a declared class. -/
def Declaration.rawArguments (config : Config) : Declaration → List Kotlin.Ty
  | ⟨_, typeParameters⟩ => TypeParameter.rawArguments config typeParameters

/-- The arguments for the type parameters of a raw use. -/
def TypeParameter.rawArguments (config : Config) : List TypeParameter → List Kotlin.Ty
  | [] => []
  | ⟨_, bounds⟩ :: rest =>
    ClassTy.convertBounds config bounds :: TypeParameter.rawArguments config rest

/-- The argument for a type parameter with the given bounds: the first of them, named without its
package. -/
def ClassTy.convertBounds (config : Config) : List ClassTy → Kotlin.Ty
  | [] => .starProjection
  | ⟨canonicalText, className, parameters, reference, declaration⟩ :: _ =>
    .classType
      (.plain
        (Conversion.shortName ⟨canonicalText, className, parameters, reference, declaration⟩))
      (Ty.convertAll config parameters) true

/-- The Kotlin types of several Java types. -/
def Ty.convertAll (config : Config) : List Ty → List Kotlin.Ty
  | [] => []
  | t :: rest => t.convert config :: Ty.convertAll config rest

end

end Kotlinize.Java
