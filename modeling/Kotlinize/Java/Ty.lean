import Kotlinize.Text.Dotted

/-!
# Java types

The resolved types of a Java program, as a front end hands them over. A class type carries all
that is known about one use of a class: its canonical text, its short name, the type arguments
that were written, the reference that was written, and the declaration it resolved to. Any of the
last four may be unknown.
-/

namespace Kotlinize.Java

/-- **A reference to a class as it was written**: a name, qualified by another reference if it
stands after a dot. -/
structure Reference where
  name : String
  qualifier : Option Reference
deriving BEq, Inhabited

namespace Reference

/-- A reference without qualifier. -/
def simple (name : String) : Reference :=
  ⟨name, none⟩

/-- The reference that a dotted name is written as: its last segment, qualified by the ones
before. -/
def ofDotted (path : String) : Reference :=
  match Text.segments path with
  | [] => simple ""
  | first :: rest => rest.foldl (fun qualifier name => ⟨name, some qualifier⟩) (simple first)

/-- Whether a reference has a qualifier. -/
def isQualified (r : Reference) : Bool :=
  r.qualifier.isSome

/-- The names of a reference, the outermost qualifier first. -/
def segments : Reference → List String
  | ⟨name, none⟩ => [name]
  | ⟨name, some qualifier⟩ => qualifier.segments ++ [name]

end Reference

mutual

/-- **A Java type.** -/
inductive Ty where
  /-- A primitive type, or `void`. -/
  | primitive (name : String)
  | array (component : Ty)
  | classType (type : ClassTy)
  /-- A wildcard `?`, with a bound if there is one. -/
  | wildcard (bound : Option Bound)
  /-- The type of a variable-arity parameter. -/
  | ellipsis (component : Ty)

/-- **The bound of a wildcard.** -/
inductive Bound where
  /-- From above, as in `? extends T`. -/
  | upper (type : Ty)
  /-- From below, as in `? super T`. -/
  | lower (type : Ty)

/-- **One use of a class as a type.** -/
structure ClassTy where
  /-- The canonical text of the type. -/
  canonicalText : String
  /-- The short name of the class. -/
  className : Option String
  /-- The type arguments that were written. -/
  parameters : List Ty
  /-- The reference that was written. -/
  reference : Option Reference
  /-- The declaration that the class resolved to. -/
  declaration : Option Declaration

/-- **The declaration of a class.** -/
structure Declaration where
  qualifiedName : Option String
  typeParameters : List TypeParameter

/-- **A type parameter of a declaration.** -/
structure TypeParameter where
  name : String
  bounds : List ClassTy

end

deriving instance BEq for Ty, Bound, ClassTy, Declaration, TypeParameter
deriving instance Inhabited for Ty, Declaration, TypeParameter

namespace ClassTy

/-- A class known by its canonical text only. -/
def ofCanonical (canonicalText : String) : ClassTy :=
  ⟨canonicalText, none, [], none, none⟩

/-- The last segment of a dotted name. -/
def lastSegment (name : String) : String :=
  (Text.segments name).getLastD name

/-- A class that was written by its short name and resolved to the given qualified name. -/
def resolved (qualifiedName : String) : ClassTy :=
  let short := lastSegment qualifiedName
  ⟨qualifiedName, some short, [], some (.simple short), some ⟨some qualifiedName, []⟩⟩

/-- The same use with another written reference. -/
def withReference (c : ClassTy) (reference : Reference) : ClassTy :=
  { c with reference := some reference }

/-- The same use with other type arguments. -/
def withParameters (c : ClassTy) (parameters : List Ty) : ClassTy :=
  { c with parameters }

/-- The same use of a class whose declaration has the given type parameters. -/
def withTypeParameters (c : ClassTy) (typeParameters : List TypeParameter) : ClassTy :=
  let declaration := c.declaration.getD ⟨none, []⟩
  { c with declaration := some { declaration with typeParameters } }

/-- The type parameters that the class is declared with, as far as known. -/
def declaredParameters (c : ClassTy) : List TypeParameter :=
  match c.declaration with
  | none => []
  | some d => d.typeParameters

/-- The qualified name that the class resolved to. -/
def qualifiedName? (c : ClassTy) : Option String :=
  match c.declaration with
  | none => none
  | some d => d.qualifiedName

/-- Whether the use leaves out type arguments that the declaration asks for. -/
def isRaw (c : ClassTy) : Bool :=
  c.parameters.isEmpty && !c.declaredParameters.isEmpty

end ClassTy

end Kotlinize.Java
