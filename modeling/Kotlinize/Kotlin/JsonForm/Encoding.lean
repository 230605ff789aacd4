import Kotlinize.Kotlin.Expr
import Kotlinize.Literal.Json
import Kotlinize.Text.Case

/-!
# Writing Kotlin syntax as JSON

The JSON form of Kotlin syntax: a variant under its name, a record as the object of all its
fields, with `null` for what is absent.
-/

namespace Kotlinize.Kotlin

/-- The JSON form of an identifier. -/
def Identifier.toJson (id : Identifier) : Json :=
  .obj [("name", .str id.name), ("nullable", .bool id.nullable), ("quoted", .bool id.quoted)]

mutual

/-- **The JSON form of a type.** -/
def Ty.toJson : Ty → Json
  | .primitive name => .obj [("Primitive", name.toJson)]
  | .array element nullable =>
    .obj [("Array", .obj [("element", element.toJson), ("nullable", .bool nullable)])]
  | .classType name arguments nullable => .obj [("Class", .obj [
      ("name", name.toJson),
      ("arguments", .arr (Ty.allToJson arguments)),
      ("nullable", .bool nullable)])]
  | .starProjection => .str "StarProjection"
  | .outProjection bound => .obj [("OutProjection", bound.toJson)]
  | .inProjection bound => .obj [("InProjection", bound.toJson)]
  | .vararg component => .obj [("Vararg", component.toJson)]

/-- The JSON forms of several types. -/
def Ty.allToJson : List Ty → List Json
  | [] => []
  | t :: rest => t.toJson :: Ty.allToJson rest

end

/-- The name of a modifier. -/
def Modifier.name (m : Modifier) : String :=
  Text.capitalized m.keyword

/-- The JSON form of a modifier. -/
def Modifier.toJson (m : Modifier) : Json :=
  .str m.name

/-- The JSON form of a type parameter. -/
def TypeParameter.toJson (p : TypeParameter) : Json :=
  .obj [("name", p.name.toJson), ("bound", .ofOption Ty.toJson p.bound)]

/-- The JSON form of a call, given those of its parts. -/
def callForm (callee : Json) (typeArguments : List Ty) (arguments : List Json)
    (resultNullable : Bool) : Json :=
  .obj [
    ("callee", callee),
    ("type_arguments", .arr (Ty.allToJson typeArguments)),
    ("arguments", .arr arguments),
    ("result_nullable", .bool resultNullable)]

/-- The JSON form of an array creation, given those of its sizes. -/
def creationForm (type : Ty) (sizes : List Json) : Json :=
  .obj [("ty", type.toJson), ("dimensions", .arr sizes)]

/-- The JSON form of the body of an anonymous object, given those of its members. -/
def objectBodyForm (members : List Json) : Json :=
  .obj [("members", .arr members)]

mutual

/-- **The JSON form of an expression.** -/
def Expr.toJson : Expr → Json
  | .literal value => .obj [("Literal", value.toJson Text.capitalized)]
  | .ident name => .obj [("Ident", name.toJson)]
  | .member receiver name =>
    .obj [("CallChain", .obj [("receiver", receiver.toJson), ("member", name.toJson)])]
  | .call callee typeArguments arguments resultNullable =>
    .obj [("MethodCall",
      callForm callee.toJson typeArguments (Expr.allToJson arguments) resultNullable)]
  | .newArray type sizes => .obj [("NewArray", creationForm type (Expr.allToJson sizes))]
  | .anonymous supertype arguments members => .obj [("AnonymousObject", .obj [
      ("supertype", supertype.toJson),
      ("arguments", .arr (Expr.allToJson arguments)),
      ("body", objectBodyForm (Member.allToJson members))])]

/-- The JSON forms of several expressions. -/
def Expr.allToJson : List Expr → List Json
  | [] => []
  | e :: rest => e.toJson :: Expr.allToJson rest

/-- **The JSON form of a member.** -/
def Member.toJson : Member → Json
  | .property name type initializer mutable => .obj [("Property", .obj [
      ("name", name.toJson),
      ("ty", type.toJson),
      ("initializer", match initializer with
        | none => .null
        | some e => e.toJson),
      ("mutable", .bool mutable)])]
  | .classMember declaration => .obj [("Class", declaration.toJson)]
  | .verbatim code => .obj [("Verbatim", .str code)]

/-- The JSON forms of several members. -/
def Member.allToJson : List Member → List Json
  | [] => []
  | m :: rest => m.toJson :: Member.allToJson rest

/-- **The JSON form of a class declaration.** -/
def Class.toJson : Class → Json
  | ⟨name, modifiers, typeParameters, superclass, interfaces, superArguments, members⟩ => .obj [
      ("name", name.toJson),
      ("modifiers", .arr (modifiers.map Modifier.toJson)),
      ("type_parameters", .arr (typeParameters.map TypeParameter.toJson)),
      ("extends", .ofOption Ty.toJson superclass),
      ("implements", .arr (Ty.allToJson interfaces)),
      ("base_class_arguments", .arr (Expr.allToJson superArguments)),
      ("members", .arr (Member.allToJson members))]

end

/-- The JSON form of a call. -/
def Call.toJson (c : Call) : Json :=
  callForm c.callee.toJson c.typeArguments (Expr.allToJson c.arguments) c.resultNullable

/-- The JSON form of an array creation. -/
def ArrayCreation.toJson (a : ArrayCreation) : Json :=
  creationForm a.type (Expr.allToJson a.sizes)

/-- The JSON form of the body of an anonymous object. -/
def ObjectBody.toJson (b : ObjectBody) : Json :=
  objectBodyForm (Member.allToJson b.members)

/-- The JSON form of an import. -/
def Import.toJson (i : Import) : Json :=
  .obj [("name", .str i.name)]

/-- The JSON form of a file. -/
def File.toJson (f : File) : Json :=
  .obj [
    ("package_name", .str f.packageName),
    ("imports", .arr (f.imports.map Import.toJson)),
    ("classes", .arr (f.classes.map Class.toJson)),
    ("main_function", .str f.mainFunction)]

end Kotlinize.Kotlin
