import Kotlinize.Kotlin.Ty
import Kotlinize.Literal

/-!
# Kotlin expressions and declarations

Expressions, class members and classes contain one another: an anonymous object has members, a
property has an initializer, a class has members and calls the constructor of its superclass.
-/

namespace Kotlinize.Kotlin

/-- **A modifier of a class.** -/
inductive Modifier where
  | publicAccess
  | protectedAccess
  | privateAccess
  | internalAccess
  | openClass
  | abstractClass
  | finalClass
  | overriding
deriving DecidableEq, Inhabited

/-- The keyword of a modifier. -/
def Modifier.keyword : Modifier → String
  | .publicAccess => "public"
  | .protectedAccess => "protected"
  | .privateAccess => "private"
  | .internalAccess => "internal"
  | .openClass => "open"
  | .abstractClass => "abstract"
  | .finalClass => "final"
  | .overriding => "override"

/-- **A type parameter of a class**, with its bound if it has one. -/
structure TypeParameter where
  name : Identifier
  bound : Option Ty
deriving BEq, Inhabited

mutual

/-- **A Kotlin expression.** -/
inductive Expr where
  | literal (value : Literal)
  | ident (name : Identifier)
  /-- A member of a receiver. -/
  | member (receiver : Expr) (name : Identifier)
  | call (callee : Expr) (typeArguments : List Ty) (arguments : List Expr)
      (resultNullable : Bool)
  /-- A new array of the given type, with the sizes of its levels from the outermost in. -/
  | newArray (type : Ty) (sizes : List Expr)
  /-- An anonymous object, as in `object : Super(args) { members }`. -/
  | anonymous (supertype : Ty) (arguments : List Expr) (members : List Member)

/-- **A member of a class.** -/
inductive Member where
  | property (name : Identifier) (type : Ty) (initializer : Option Expr) (mutable : Bool)
  | classMember (declaration : Class)
  /-- Code that was made elsewhere. -/
  | verbatim (code : String)

/-- **A class declaration.** -/
structure Class where
  name : Identifier
  modifiers : List Modifier
  typeParameters : List TypeParameter
  superclass : Option Ty
  interfaces : List Ty
  /-- The arguments for the constructor of the superclass. -/
  superArguments : List Expr
  members : List Member

end

deriving instance Inhabited for Expr, Member, Class

mutual

/-- **Whether two expressions are the same.** Literals are compared as the values that they stand
for, so a NaN differs from itself. -/
def Expr.beq : Expr → Expr → Bool
  | .literal v, .literal w => v == w
  | .ident a, .ident b => a == b
  | .member d a, .member e b => d.beq e && a == b
  | .call d ts ds n, .call e us es m => d.beq e && ts == us && Expr.beqAll ds es && n == m
  | .newArray t ds, .newArray u es => t == u && Expr.beqAll ds es
  | .anonymous t ds ms, .anonymous u es ns => t == u && Expr.beqAll ds es && Member.beqAll ms ns
  | _, _ => false
termination_by structural e => e

/-- Whether the expressions of two lists are the same. -/
def Expr.beqAll : List Expr → List Expr → Bool
  | [], [] => true
  | d :: ds, e :: es => d.beq e && Expr.beqAll ds es
  | _, _ => false
termination_by structural es => es

/-- Whether two members are the same. -/
def Member.beq : Member → Member → Bool
  | .property a t none v, .property b u none w => a == b && t == u && v == w
  | .property a t (some d) v, .property b u (some e) w => a == b && t == u && d.beq e && v == w
  | .classMember c, .classMember d => c.beq d
  | .verbatim s, .verbatim t => s == t
  | _, _ => false
termination_by structural m => m

/-- Whether the members of two lists are the same. -/
def Member.beqAll : List Member → List Member → Bool
  | [], [] => true
  | m :: ms, n :: ns => m.beq n && Member.beqAll ms ns
  | _, _ => false
termination_by structural ms => ms

/-- Whether two class declarations are the same. -/
def Class.beq : Class → Class → Bool
  | ⟨a, modifiers, ps, superclass, interfaces, ds, ms⟩,
    ⟨b, modifiers', qs, superclass', interfaces', es, ns⟩ =>
    a == b && modifiers == modifiers' && ps == qs && superclass == superclass'
      && interfaces == interfaces' && Expr.beqAll ds es && Member.beqAll ms ns
termination_by structural c => c

end

instance : BEq Expr := ⟨Expr.beq⟩
instance : BEq Member := ⟨Member.beq⟩
instance : BEq Class := ⟨Class.beq⟩

/-- **A call** on its own. -/
structure Call where
  callee : Expr
  typeArguments : List Ty
  arguments : List Expr
  resultNullable : Bool
deriving BEq, Inhabited

/-- **The creation of an array** on its own. -/
structure ArrayCreation where
  type : Ty
  sizes : List Expr
deriving BEq, Inhabited

/-- **The body of an anonymous object** on its own. -/
structure ObjectBody where
  members : List Member
deriving BEq, Inhabited

/-- **An import.** -/
structure Import where
  name : String
deriving DecidableEq, Inhabited

/-- **A source file.** -/
structure File where
  /-- Empty for the default package. -/
  packageName : String
  imports : List Import
  classes : List Class
  /-- The code of the main function, made elsewhere. -/
  mainFunction : String
deriving BEq, Inhabited

namespace Expr

/-- **Whether an expression may evaluate to null.** -/
def isNullable : Expr → Bool
  | .literal value => value.isNull
  | .ident name => name.nullable
  | .member _ name => name.nullable
  | .call callee _ _ resultNullable => callee.isNullable || resultNullable
  | .newArray _ _ => false
  | .anonymous _ _ _ => false

end Expr

namespace Call

/-- A call without type arguments whose result is null only if its callee is. -/
def of (callee : Expr) (arguments : List Expr) : Call :=
  ⟨callee, [], arguments, false⟩

/-- The expression that a call is. -/
def toExpr (c : Call) : Expr :=
  .call c.callee c.typeArguments c.arguments c.resultNullable

/-- Whether a call may evaluate to null. -/
def isNullable (c : Call) : Bool :=
  c.toExpr.isNullable

end Call

/-- The expression that creates an array. -/
def ArrayCreation.toExpr (a : ArrayCreation) : Expr :=
  .newArray a.type a.sizes

/-- A type parameter of the given name. -/
def TypeParameter.of (name : String) (bound : Option Ty) : TypeParameter :=
  ⟨.plain name, bound⟩

namespace Member

/-- A property that cannot be assigned to. -/
def val (name : String) (type : Ty) (initializer : Option Expr) : Member :=
  .property (.plain name) type initializer false

/-- A property that can be assigned to. -/
def var (name : String) (type : Ty) (initializer : Option Expr) : Member :=
  .property (.plain name) type initializer true

end Member

/-- An empty class of the given name. -/
def Class.named (name : String) : Class :=
  ⟨.plain name, [], [], none, [], [], []⟩

/-- A class that extends a superclass, with arguments for its constructor. -/
def Class.extending (c : Class) (superclass : Ty) (arguments : List Expr) : Class :=
  { c with superclass := some superclass, superArguments := arguments }

/-- A file of the given package with nothing in it. -/
def File.inPackage (packageName : String) : File :=
  ⟨packageName, [], [], ""⟩

end Kotlinize.Kotlin
