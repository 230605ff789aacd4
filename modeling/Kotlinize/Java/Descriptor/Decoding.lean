import Kotlinize.Java.Expr
import Kotlinize.Json.Parser
import Kotlinize.Literal.Json

/-!
# Reading descriptors

Java types and expressions are read from JSON values. The decoders are recursions on how deep
they look; a value never nests deeper than its `Json.depth`, so looking one level deeper than that
is always enough (`Reference.decoder`, `Ty.decoder`, `ClassTy.decoder`, `Expr.decoder`).
-/

namespace Kotlinize.Java

/-! ## Types -/

/-- A reference, given a decoder for its qualifier. -/
def Reference.record (qualifier : Decoder Reference) : Record Reference where
  title := "struct Reference"
  fields := Reference.mk
    <$> .required "name" .text
    <*> .defaulted "qualifier" (.nullable qualifier) none

/-- References, looked at so many levels deep. -/
def Reference.decoderAt : Nat → Decoder Reference
  | 0 => .tooDeep
  | n + 1 => .record (Reference.record (Reference.decoderAt n))

/-- **Reads a reference.** -/
def Reference.decoder : Decoder Reference := fun scope v =>
  Reference.decoderAt (v.depth + 1) scope v

/-- A type parameter, given a decoder for its bounds. -/
def TypeParameter.record (bound : Decoder ClassTy) : Record TypeParameter where
  title := "struct TypeParameter"
  fields := TypeParameter.mk
    <$> .required "name" .text
    <*> .defaulted "bounds" (.list bound) []

/-- A declaration, given a decoder for the bounds of its type parameters. -/
def Declaration.record (bound : Decoder ClassTy) : Record Declaration where
  title := "struct ClassDeclaration"
  fields := Declaration.mk
    <$> .defaulted "qualified_name" (.nullable .text) none
    <*> .defaulted "type_parameters" (.list (.record (TypeParameter.record bound))) []

/-- A class type, given decoders for what it contains. -/
def ClassTy.record (type : Decoder Ty) (reference : Decoder Reference) (bound : Decoder ClassTy) :
    Record ClassTy where
  title := "struct SourceClassType"
  fields := ClassTy.mk
    <$> .required "canonical_text" .text
    <*> .defaulted "class_name" (.nullable .text) none
    <*> .defaulted "parameters" (.list type) []
    <*> .defaulted "reference" (.nullable reference) none
    <*> .defaulted "resolved" (.nullable (.record (Declaration.record bound))) none

/-- The bound of a wildcard, given a decoder for its type. -/
def Bound.decoder (type : Decoder Ty) : Decoder Bound :=
  .variant [("extends", .value (type.map .upper)), ("super", .value (type.map .lower))]

/-- The kinds of types, given decoders for what they contain. -/
def Ty.cases (type : Decoder Ty) (reference : Decoder Reference) (bound : Decoder ClassTy) :
    List (String × Record Ty) := [
  ("primitive", {
    title := "struct variant SourceType::Primitive"
    fields := Ty.primitive <$> .required "name" .text }),
  ("array", {
    title := "struct variant SourceType::Array"
    fields := Ty.array <$> .required "component" type }),
  ("class", {
    title := (ClassTy.record type reference bound).title
    fields := Ty.classType <$> (ClassTy.record type reference bound).fields }),
  ("wildcard", {
    title := "struct variant SourceType::Wildcard"
    fields := Ty.wildcard <$> .defaulted "bound" (.nullable (Bound.decoder type)) none }),
  ("ellipsis", {
    title := "struct variant SourceType::Ellipsis"
    fields := Ty.ellipsis <$> .required "component" type })]

mutual

/-- Types, looked at so many levels deep. -/
def Ty.decoderAt : Nat → Decoder Ty
  | 0 => .tooDeep
  | n + 1 => .tagged "SourceType"
      (Ty.cases (Ty.decoderAt n) (Reference.decoderAt n) (ClassTy.decoderAt n))

/-- Class types, looked at so many levels deep. -/
def ClassTy.decoderAt : Nat → Decoder ClassTy
  | 0 => .tooDeep
  | n + 1 => .record
      (ClassTy.record (Ty.decoderAt n) (Reference.decoderAt n) (ClassTy.decoderAt n))

end

/-- **Reads a type.** -/
def Ty.decoder : Decoder Ty := fun scope v =>
  Ty.decoderAt (v.depth + 1) scope v

/-- **Reads a class type**, where nothing but a class type can stand. -/
def ClassTy.decoder : Decoder ClassTy := fun scope v =>
  ClassTy.decoderAt (v.depth + 1) scope v

/-! ## Expressions -/

/-- The kinds of expressions, given decoders for what they contain. -/
def Expr.cases (expr : Decoder Expr) (type : Decoder Ty) (supertype : Decoder ClassTy) :
    List (String × Record Expr) := [
  ("literal", {
    title := "struct variant SourceExpr::Literal"
    fields := Expr.literal <$> .required "value" (Literal.decoder id) }),
  ("name", {
    title := "struct variant SourceExpr::Name"
    fields := Expr.name
      <$> .required "name" .text
      <*> .defaulted "nullable" .flag false }),
  ("field_access", {
    title := "struct variant SourceExpr::FieldAccess"
    fields := Expr.fieldAccess
      <$> .required "receiver" expr
      <*> .required "name" .text
      <*> .defaulted "nullable" .flag false }),
  ("method_call", {
    title := "struct variant SourceExpr::MethodCall"
    fields := Expr.methodCall
      <$> .required "callee" expr
      <*> .defaulted "type_arguments" (.list type) []
      <*> .defaulted "arguments" (.list expr) []
      <*> .defaulted "result_nullable" .flag false }),
  ("new_array", {
    title := "struct variant SourceExpr::NewArray"
    fields := Expr.newArray
      <$> .required "type" type
      <*> .required "dimensions" (.list expr) }),
  ("new_anonymous", {
    title := "struct variant SourceExpr::NewAnonymous"
    fields := Expr.newAnonymous
      <$> .required "supertype" supertype
      <*> .defaulted "arguments" (.list expr) []
      <*> .defaulted "members" (.list .text) [] })]

/-- Expressions, looked at so many levels deep. -/
def Expr.decoderAt : Nat → Decoder Expr
  | 0 => .tooDeep
  | n + 1 => .tagged "SourceExpr"
      (Expr.cases (Expr.decoderAt n) (Ty.decoderAt n) (ClassTy.decoderAt n))

/-- **Reads an expression.** -/
def Expr.decoder : Decoder Expr := fun scope v =>
  Expr.decoderAt (v.depth + 1) scope v

/-! ## Whole descriptors -/

/-- **Why a descriptor cannot be read.** -/
inductive ReadError where
  /-- The text is not JSON. -/
  | notJson (cause : Json.SyntaxError)
  /-- The value is no type descriptor. -/
  | notType (cause : Mismatch)
  /-- The value is no expression descriptor. -/
  | notExpr (cause : Mismatch)

/-- The wording of a read error. -/
def ReadError.message : ReadError → String
  | .notJson cause => "invalid JSON: " ++ cause.message
  | .notType cause => "invalid type descriptor: " ++ cause.message
  | .notExpr cause => "invalid expression descriptor: " ++ cause.message

/-- **Reads a type descriptor** from a JSON value. -/
def readType (v : Json) : Except ReadError Ty :=
  (Ty.decoder .outer v).mapError .notType

/-- **Reads an expression descriptor** from a JSON value. -/
def readExpr (v : Json) : Except ReadError Expr :=
  (Expr.decoder .outer v).mapError .notExpr

/-- **Reads a type descriptor** from JSON text. -/
def readTypeText (text : String) : Except ReadError Ty := do
  readType (← (Json.parse text).mapError .notJson)

end Kotlinize.Java
