import Kotlinize.Kotlin.Expr
import Kotlinize.Kotlin.JsonForm.Encoding
import Kotlinize.Literal.Json

/-!
# Reading Kotlin syntax from JSON

Every node of Kotlin syntax is read from its JSON form. As for descriptors, the decoders of
recursive nodes are told how deep to look, and one level more than the nesting of the value is
always enough.
-/

namespace Kotlinize.Kotlin

/-- **Reads an identifier.** -/
def Identifier.decoder : Decoder Identifier :=
  .record {
    title := "struct Identifier"
    fields := Identifier.mk
      <$> .required "name" .text
      <*> .required "nullable" .flag
      <*> .required "quoted" .flag }

/-! ## Types -/

/-- The variants of types, given a decoder for the types they contain. -/
def Ty.cases (type : Decoder Ty) : List (String × Payload Ty) := [
  ("Primitive", .value (Identifier.decoder.map .primitive)),
  ("Array", .fields (Ty.array
    <$> .required "element" type
    <*> .required "nullable" .flag)),
  ("Class", .fields (Ty.classType
    <$> .required "name" Identifier.decoder
    <*> .required "arguments" (.list type)
    <*> .required "nullable" .flag)),
  ("StarProjection", .unit .starProjection),
  ("OutProjection", .value (type.map .outProjection)),
  ("InProjection", .value (type.map .inProjection)),
  ("Vararg", .value (type.map .vararg))]

/-- Types, looked at so many levels deep. -/
def Ty.decoderAt : Nat → Decoder Ty
  | 0 => .tooDeep
  | n + 1 => .variant (Ty.cases (Ty.decoderAt n))

/-- **Reads a type.** -/
def Ty.decoder : Decoder Ty := fun scope v =>
  Ty.decoderAt (v.depth + 1) scope v

/-! ## Parts of classes -/

/-- All modifiers. -/
def Modifier.all : List Modifier :=
  [.publicAccess, .protectedAccess, .privateAccess, .internalAccess, .openClass, .abstractClass,
    .finalClass, .overriding]

/-- **Reads a modifier.** -/
def Modifier.decoder : Decoder Modifier :=
  .variant (Modifier.all.map fun m => (m.name, .unit m))

/-- A type parameter, given a decoder for its bound. -/
def TypeParameter.record (type : Decoder Ty) : Record TypeParameter where
  title := "struct TypeParameter"
  fields := TypeParameter.mk
    <$> .required "name" Identifier.decoder
    <*> .optional "bound" type

/-! ## Expressions, members and classes -/

/-- A call, given decoders for what it contains. -/
def Call.record (expr : Decoder Expr) (type : Decoder Ty) : Record Call where
  title := "struct MethodCallExpression"
  fields := Call.mk
    <$> .required "callee" expr
    <*> .required "type_arguments" (.list type)
    <*> .required "arguments" (.list expr)
    <*> .required "result_nullable" .flag

/-- An array creation, given decoders for what it contains. -/
def ArrayCreation.record (expr : Decoder Expr) (type : Decoder Ty) : Record ArrayCreation where
  title := "struct ArrayWithoutInitializationExpression"
  fields := ArrayCreation.mk
    <$> .required "ty" type
    <*> .required "dimensions" (.list expr)

/-- The body of an anonymous object, given a decoder for its members. -/
def ObjectBody.record (member : Decoder Member) : Record ObjectBody where
  title := "struct AnonymousClass"
  fields := ObjectBody.mk <$> .required "members" (.list member)

/-- An anonymous object with the given body. -/
def ObjectBody.toExpr (supertype : Ty) (arguments : List Expr) (body : ObjectBody) : Expr :=
  .anonymous supertype arguments body.members

/-- The variants of expressions, given decoders for what they contain. -/
def Expr.cases (expr : Decoder Expr) (member : Decoder Member) (type : Decoder Ty) :
    List (String × Payload Expr) := [
  ("Literal", .value ((Literal.decoder Text.capitalized).map .literal)),
  ("Ident", .value (Identifier.decoder.map .ident)),
  ("CallChain", .fields (Expr.member
    <$> .required "receiver" expr
    <*> .required "member" Identifier.decoder)),
  ("MethodCall", .value ((Decoder.record (Call.record expr type)).map Call.toExpr)),
  ("NewArray", .value ((Decoder.record (ArrayCreation.record expr type)).map
    ArrayCreation.toExpr)),
  ("AnonymousObject", .fields (ObjectBody.toExpr
    <$> .required "supertype" type
    <*> .required "arguments" (.list expr)
    <*> .required "body" (.record (ObjectBody.record member))))]

/-- The variants of members, given decoders for what they contain. -/
def Member.cases (expr : Decoder Expr) (declaration : Decoder Class) (type : Decoder Ty) :
    List (String × Payload Member) := [
  ("Property", .fields (Member.property
    <$> .required "name" Identifier.decoder
    <*> .required "ty" type
    <*> .optional "initializer" expr
    <*> .required "mutable" .flag)),
  ("Class", .value (declaration.map .classMember)),
  ("Verbatim", .value (Decoder.text.map .verbatim))]

/-- A class declaration, given decoders for what it contains. -/
def Class.record (expr : Decoder Expr) (member : Decoder Member) (type : Decoder Ty) :
    Record Class where
  title := "struct Class"
  fields := Class.mk
    <$> .required "name" Identifier.decoder
    <*> .required "modifiers" (.list Modifier.decoder)
    <*> .required "type_parameters" (.list (.record (TypeParameter.record type)))
    <*> .optional "extends" type
    <*> .required "implements" (.list type)
    <*> .required "base_class_arguments" (.list expr)
    <*> .required "members" (.list member)

mutual

/-- Expressions, looked at so many levels deep. -/
def Expr.decoderAt : Nat → Decoder Expr
  | 0 => .tooDeep
  | n + 1 => .variant (Expr.cases (Expr.decoderAt n) (Member.decoderAt n) (Ty.decoderAt n))

/-- Members, looked at so many levels deep. -/
def Member.decoderAt : Nat → Decoder Member
  | 0 => .tooDeep
  | n + 1 => .variant (Member.cases (Expr.decoderAt n) (Class.decoderAt n) (Ty.decoderAt n))

/-- Class declarations, looked at so many levels deep. -/
def Class.decoderAt : Nat → Decoder Class
  | 0 => .tooDeep
  | n + 1 => .record (Class.record (Expr.decoderAt n) (Member.decoderAt n) (Ty.decoderAt n))

end

/-- **Reads an expression.** -/
def Expr.decoder : Decoder Expr := fun scope v =>
  Expr.decoderAt (v.depth + 1) scope v

/-- **Reads a member.** -/
def Member.decoder : Decoder Member := fun scope v =>
  Member.decoderAt (v.depth + 1) scope v

/-- **Reads a class declaration.** -/
def Class.decoder : Decoder Class := fun scope v =>
  Class.decoderAt (v.depth + 1) scope v

/-- **Reads a type parameter.** -/
def TypeParameter.decoder : Decoder TypeParameter :=
  .record (TypeParameter.record Ty.decoder)

/-- **Reads a call.** -/
def Call.decoder : Decoder Call :=
  .record (Call.record Expr.decoder Ty.decoder)

/-- **Reads an array creation.** -/
def ArrayCreation.decoder : Decoder ArrayCreation :=
  .record (ArrayCreation.record Expr.decoder Ty.decoder)

/-- **Reads the body of an anonymous object.** -/
def ObjectBody.decoder : Decoder ObjectBody :=
  .record (ObjectBody.record Member.decoder)

/-- **Reads an import.** -/
def Import.decoder : Decoder Import :=
  .record {
    title := "struct Import"
    fields := Import.mk <$> .required "name" .text }

/-- **Reads a file.** -/
def File.decoder : Decoder File :=
  .record {
    title := "struct File"
    fields := File.mk
      <$> .required "package_name" .text
      <*> .required "imports" (.list Import.decoder)
      <*> .required "classes" (.list Class.decoder)
      <*> .required "main_function" .text }

end Kotlinize.Kotlin
