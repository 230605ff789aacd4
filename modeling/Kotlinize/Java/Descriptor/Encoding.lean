import Kotlinize.Java.Expr
import Kotlinize.Literal.Json

/-!
# Writing descriptors

The JSON form in which Java types and expressions are handed over. Every field is written, with
`null` for what is unknown.
-/

namespace Kotlinize.Java

/-- The descriptor of a written reference. -/
def Reference.toJson : Reference → Json
  | ⟨name, none⟩ => .obj [("name", .str name), ("qualifier", .null)]
  | ⟨name, some qualifier⟩ => .obj [("name", .str name), ("qualifier", qualifier.toJson)]

mutual

/-- **The descriptor of a type.** -/
def Ty.toJson : Ty → Json
  | .primitive name => .obj [("kind", .str "primitive"), ("name", .str name)]
  | .array component => .obj [("kind", .str "array"), ("component", component.toJson)]
  | .classType c => .obj (("kind", .str "class") :: c.members)
  | .wildcard none => .obj [("kind", .str "wildcard"), ("bound", .null)]
  | .wildcard (some bound) => .obj [("kind", .str "wildcard"), ("bound", bound.toJson)]
  | .ellipsis component => .obj [("kind", .str "ellipsis"), ("component", component.toJson)]

/-- The descriptor of a wildcard's bound. -/
def Bound.toJson : Bound → Json
  | .upper type => .obj [("extends", type.toJson)]
  | .lower type => .obj [("super", type.toJson)]

/-- The members of the descriptor of a class type. -/
def ClassTy.members : ClassTy → List (String × Json)
  | ⟨canonicalText, className, parameters, reference, declaration⟩ => [
      ("canonical_text", .str canonicalText),
      ("class_name", .ofOption .str className),
      ("parameters", .arr (Ty.allToJson parameters)),
      ("reference", .ofOption Reference.toJson reference),
      ("resolved", match declaration with
        | none => .null
        | some d => d.toJson)]

/-- The descriptor of a declaration. -/
def Declaration.toJson : Declaration → Json
  | ⟨qualifiedName, typeParameters⟩ => .obj [
      ("qualified_name", .ofOption .str qualifiedName),
      ("type_parameters", .arr (TypeParameter.allToJson typeParameters))]

/-- The descriptor of a type parameter. -/
def TypeParameter.toJson : TypeParameter → Json
  | ⟨name, bounds⟩ => .obj [("name", .str name), ("bounds", .arr (ClassTy.allToJson bounds))]

/-- The descriptors of several types. -/
def Ty.allToJson : List Ty → List Json
  | [] => []
  | t :: rest => t.toJson :: Ty.allToJson rest

/-- The descriptors of several type parameters. -/
def TypeParameter.allToJson : List TypeParameter → List Json
  | [] => []
  | p :: rest => p.toJson :: TypeParameter.allToJson rest

/-- The descriptors of several class types. -/
def ClassTy.allToJson : List ClassTy → List Json
  | [] => []
  | c :: rest => .obj c.members :: ClassTy.allToJson rest

end

/-- **The descriptor of a class type**, where nothing but a class type can stand. -/
def ClassTy.toJson (c : ClassTy) : Json :=
  .obj c.members

mutual

/-- **The descriptor of an expression.** -/
def Expr.toJson : Expr → Json
  | .literal value => .obj [("kind", .str "literal"), ("value", value.toJson id)]
  | .name ident nullable =>
    .obj [("kind", .str "name"), ("name", .str ident), ("nullable", .bool nullable)]
  | .fieldAccess receiver field nullable => .obj [
      ("kind", .str "field_access"),
      ("receiver", receiver.toJson),
      ("name", .str field),
      ("nullable", .bool nullable)]
  | .methodCall callee typeArguments arguments resultNullable => .obj [
      ("kind", .str "method_call"),
      ("callee", callee.toJson),
      ("type_arguments", .arr (Ty.allToJson typeArguments)),
      ("arguments", .arr (Expr.allToJson arguments)),
      ("result_nullable", .bool resultNullable)]
  | .newArray type dimensions => .obj [
      ("kind", .str "new_array"),
      ("type", type.toJson),
      ("dimensions", .arr (Expr.allToJson dimensions))]
  | .newAnonymous supertype arguments members => .obj [
      ("kind", .str "new_anonymous"),
      ("supertype", supertype.toJson),
      ("arguments", .arr (Expr.allToJson arguments)),
      ("members", .arr (members.map .str))]

/-- The descriptors of several expressions. -/
def Expr.allToJson : List Expr → List Json
  | [] => []
  | e :: rest => e.toJson :: Expr.allToJson rest

end

end Kotlinize.Java
