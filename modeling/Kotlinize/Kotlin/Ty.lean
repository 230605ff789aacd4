import Kotlinize.Kotlin.Name

/-!
# Kotlin types

Types as Kotlin code writes them. Arrays of primitives have names of their own (`IntArray`), other
arrays are a generic class; a question mark after an array or a class admits null.
-/

namespace Kotlinize.Kotlin

/-- **A Kotlin type.** -/
inductive Ty where
  | primitive (name : Identifier)
  | array (element : Ty) (nullable : Bool)
  | classType (name : Identifier) (arguments : List Ty) (nullable : Bool)
  /-- Any argument at all, written `*`. -/
  | starProjection
  /-- A covariant argument, written `out T`. -/
  | outProjection (bound : Ty)
  /-- A contravariant argument, written `in T`. -/
  | inProjection (bound : Ty)
  /-- The type of a variable-arity parameter, written as the type of its elements. -/
  | vararg (component : Ty)
deriving Inhabited

namespace Ty

mutual

/-- Whether two types are the same. -/
def beq : Ty → Ty → Bool
  | .primitive a, .primitive b => a == b
  | .array e n, .array f m => e.beq f && n == m
  | .classType a ts n, .classType b us m => a == b && beqAll ts us && n == m
  | .starProjection, .starProjection => true
  | .outProjection t, .outProjection u => t.beq u
  | .inProjection t, .inProjection u => t.beq u
  | .vararg t, .vararg u => t.beq u
  | _, _ => false

/-- Whether the types of two lists are the same. -/
def beqAll : List Ty → List Ty → Bool
  | [], [] => true
  | t :: ts, u :: us => t.beq u && beqAll ts us
  | _, _ => false

end

instance : BEq Ty := ⟨beq⟩

/-- A primitive type of the given name. -/
def ofPrimitive (name : String) : Ty :=
  .primitive (.plain name)

/-- The type with one value. -/
def unit : Ty :=
  ofPrimitive "Unit"

/-- The nullable array of a type. -/
def arrayOf (element : Ty) : Ty :=
  .array element true

/-- The nullable class type with a given name and arguments. -/
def ofClass (name : String) (arguments : List Ty) : Ty :=
  .classType (.plain name) arguments true

/-- **Whether a type admits null.** -/
def isNullable : Ty → Bool
  | .primitive _ => false
  | .array _ nullable => nullable
  | .classType _ _ nullable => nullable
  | .starProjection => false
  | .outProjection bound => bound.isNullable
  | .inProjection bound => bound.isNullable
  | .vararg component => component.isNullable

/-- The element type of an array type. -/
def element? : Ty → Option Ty
  | .array element _ => some element
  | _ => none

/-- Whether a type is an array type. -/
def isArray (t : Ty) : Bool :=
  t.element?.isSome

/-- The number of array types around the innermost element type. -/
def arrayDepth : Ty → Nat
  | .array element _ => element.arrayDepth + 1
  | _ => 0

/-- The arguments of a class type. -/
def arguments : Ty → List Ty
  | .classType _ arguments _ => arguments
  | _ => []

/-! ## Levels against sizes

The creation of an array goes through the levels of its type and through the sizes that were given
for them, and the two may run out in either order. What is written about a creation follows that
walk, so its cases are stated once. -/

/-- **Induction along the levels of an array and a list of sizes.** A level with a level inside it,
and with a size left for that one, is `nested`. A level that takes a size is the `last` one if it
has no level inside or no size is left. Without a level or without a size nothing is constructed,
and the type is `bare`. -/
theorem levels_induction {α : Type} {motive : Ty → List α → Prop}
    (nested : ∀ e m n size next rest, motive (.array e m) (next :: rest) →
      motive (.array (.array e m) n) (size :: next :: rest))
    (last : ∀ e n size rest, (e.isArray = false ∨ rest = []) → motive (.array e n) (size :: rest))
    (bare : ∀ t sizes, (t.isArray = false ∨ sizes = []) → motive t sizes)
    (t : Ty) (sizes : List α) : motive t sizes := by
  induction sizes generalizing t with
  | nil => exact bare t [] (.inr rfl)
  | cons size rest ih =>
    cases t with
    | array e n =>
      cases e with
      | array e m =>
        cases rest with
        | nil => exact last _ n size [] (.inr rfl)
        | cons next rest => exact nested e m n size next rest (ih (.array e m))
      | _ => exact last _ n size rest (.inl rfl)
    | _ => exact bare _ _ (.inl rfl)

/-! ## Code -/

/-- The mark of a type that admits null. -/
def nullMark (nullable : Bool) : String :=
  if nullable then "?" else ""

/-- Type arguments in angle brackets, given their code; nothing if there are none. -/
def argumentList (arguments : List String) : String :=
  if arguments.isEmpty then "" else "<" ++ ", ".intercalate arguments ++ ">"

mutual

/-- **A type as Kotlin code.** -/
def text : Ty → String
  | .primitive name => name.text
  | .array (.primitive name) nullable => name.text ++ "Array" ++ nullMark nullable
  | .array element nullable => "Array<" ++ element.text ++ ">" ++ nullMark nullable
  | .classType name arguments nullable =>
    name.text ++ argumentList (texts arguments) ++ nullMark nullable
  | .starProjection => "*"
  | .outProjection bound => "out " ++ bound.text
  | .inProjection bound => "in " ++ bound.text
  | .vararg component => component.text

/-- Several types as Kotlin code. -/
def texts : List Ty → List String
  | [] => []
  | t :: rest => t.text :: texts rest

end

/-- Code without a question mark at its end. -/
def withoutMark (code : String) : String :=
  if code.toList.getLast? = some '?' then String.ofList code.toList.dropLast else code

/-- **A type in the place of a constructor**: without a question mark at its end. -/
def constructorText (t : Ty) : String :=
  withoutMark t.text

end Ty

end Kotlinize.Kotlin
