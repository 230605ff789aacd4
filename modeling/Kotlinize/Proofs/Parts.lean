import Kotlinize.Kotlin.Expr

/-!
# The parts of a node

Statements about Kotlin code often ask something of every name that the code
contains: that no name holds a bracket, a line feed or a question mark. Others
say something of every expression inside an expression, of every literal, or of
the code that was made elsewhere. All these parts are collected here in the order
in which they stand, those inside types and inside nested declarations included,
and such a statement is then one about a list.
-/

namespace Kotlinize.Kotlin

/-! ## Identifiers

Identifiers are collected from types too, and from the declarations of type
parameters. The parts of a type are asked for by themselves in many places, since a
type is written without the expression that it stands in. -/

mutual

/-- **The identifiers of a type.** -/
def Ty.identifiers : Ty → List Identifier
  | .primitive name => [name]
  | .array element _ => element.identifiers
  | .classType name arguments _ => name :: Ty.identifiersOfAll arguments
  | .starProjection => []
  | .outProjection bound => bound.identifiers
  | .inProjection bound => bound.identifiers
  | .vararg component => component.identifiers

/-- The identifiers of several types. -/
def Ty.identifiersOfAll : List Ty → List Identifier
  | [] => []
  | t :: rest => t.identifiers ++ Ty.identifiersOfAll rest

end

/-- The identifiers of several types are those of each. -/
theorem Ty.identifiersOfAll_eq_flatMap (ts : List Ty) :
    Ty.identifiersOfAll ts = ts.flatMap Ty.identifiers := by
  induction ts with
  | nil => rfl
  | cons t rest ih => rw [Ty.identifiersOfAll, ih, List.flatMap_cons]

/-- The identifiers of a type parameter: its name and those of its bound. -/
def TypeParameter.identifiers (p : TypeParameter) : List Identifier :=
  p.name :: (match p.bound with
    | none => []
    | some bound => bound.identifiers)

mutual

/-- **The identifiers of an expression.** -/
def Expr.identifiers : Expr → List Identifier
  | .literal _ => []
  | .ident name => [name]
  | .member receiver name => receiver.identifiers ++ [name]
  | .call callee typeArguments arguments _ =>
    callee.identifiers ++ Ty.identifiersOfAll typeArguments ++ Expr.identifiersOfAll arguments
  | .newArray type sizes => type.identifiers ++ Expr.identifiersOfAll sizes
  | .anonymous supertype arguments members =>
    supertype.identifiers ++ Expr.identifiersOfAll arguments ++ Member.identifiersOfAll members

/-- The identifiers of several expressions. -/
def Expr.identifiersOfAll : List Expr → List Identifier
  | [] => []
  | e :: rest => e.identifiers ++ Expr.identifiersOfAll rest

/-- **The identifiers of a member**; code made elsewhere has none. -/
def Member.identifiers : Member → List Identifier
  | .property name type none _ => name :: type.identifiers
  | .property name type (some initializer) _ =>
    name :: type.identifiers ++ initializer.identifiers
  | .classMember declaration => declaration.identifiers
  | .verbatim _ => []

/-- The identifiers of several members. -/
def Member.identifiersOfAll : List Member → List Identifier
  | [] => []
  | m :: rest => m.identifiers ++ Member.identifiersOfAll rest

/-- **The identifiers of a class declaration.** -/
def Class.identifiers : Class → List Identifier
  | ⟨name, _, typeParameters, superclass, interfaces, superArguments, members⟩ =>
    name :: typeParameters.flatMap TypeParameter.identifiers
      ++ (match superclass with
        | none => []
        | some t => t.identifiers)
      ++ Ty.identifiersOfAll interfaces ++ Expr.identifiersOfAll superArguments
      ++ Member.identifiersOfAll members

end

/-- **The identifiers of the body of an anonymous object.** -/
def ObjectBody.identifiers (b : ObjectBody) : List Identifier :=
  Member.identifiersOfAll b.members

/-! ## Expressions

Each list begins with the expression itself, so that a statement about all parts of
an expression is one about the expression as well. A member or a class is no
expression, and contributes those inside it. -/

mutual

/-- **The expressions inside an expression**, itself first. -/
def Expr.subexpressions : Expr → List Expr
  | .literal value => [.literal value]
  | .ident name => [.ident name]
  | .member receiver name => .member receiver name :: receiver.subexpressions
  | .call callee typeArguments arguments resultNullable =>
    .call callee typeArguments arguments resultNullable :: callee.subexpressions
      ++ Expr.subexpressionsOfAll arguments
  | .newArray type sizes => .newArray type sizes :: Expr.subexpressionsOfAll sizes
  | .anonymous supertype arguments members =>
    .anonymous supertype arguments members :: Expr.subexpressionsOfAll arguments
      ++ Member.subexpressionsOfAll members

/-- The expressions inside several expressions. -/
def Expr.subexpressionsOfAll : List Expr → List Expr
  | [] => []
  | e :: rest => e.subexpressions ++ Expr.subexpressionsOfAll rest

/-- The expressions inside a member. -/
def Member.subexpressions : Member → List Expr
  | .property _ _ none _ => []
  | .property _ _ (some initializer) _ => initializer.subexpressions
  | .classMember declaration => declaration.subexpressions
  | .verbatim _ => []

/-- The expressions inside several members. -/
def Member.subexpressionsOfAll : List Member → List Expr
  | [] => []
  | m :: rest => m.subexpressions ++ Member.subexpressionsOfAll rest

/-- The expressions inside a class declaration. -/
def Class.subexpressions : Class → List Expr
  | ⟨_, _, _, _, _, superArguments, members⟩ =>
    Expr.subexpressionsOfAll superArguments ++ Member.subexpressionsOfAll members

end

/-! ## Literals

A literal is a part of expressions only, and types are passed over. The nodes that
are not expressions but are read and written by themselves have their literals here,
too. -/

mutual

/-- **The literals of an expression.** -/
def Expr.literals : Expr → List Literal
  | .literal value => [value]
  | .ident _ => []
  | .member receiver _ => receiver.literals
  | .call callee _ arguments _ => callee.literals ++ Expr.literalsOfAll arguments
  | .newArray _ sizes => Expr.literalsOfAll sizes
  | .anonymous _ arguments members =>
    Expr.literalsOfAll arguments ++ Member.literalsOfAll members

/-- The literals of several expressions. -/
def Expr.literalsOfAll : List Expr → List Literal
  | [] => []
  | e :: rest => e.literals ++ Expr.literalsOfAll rest

/-- **The literals of a member**; code made elsewhere has none. -/
def Member.literals : Member → List Literal
  | .property _ _ none _ => []
  | .property _ _ (some initializer) _ => initializer.literals
  | .classMember declaration => declaration.literals
  | .verbatim _ => []

/-- The literals of several members. -/
def Member.literalsOfAll : List Member → List Literal
  | [] => []
  | m :: rest => m.literals ++ Member.literalsOfAll rest

/-- **The literals of a class declaration.** -/
def Class.literals : Class → List Literal
  | ⟨_, _, _, _, _, superArguments, members⟩ =>
    Expr.literalsOfAll superArguments ++ Member.literalsOfAll members

end

/-- The literals of a call. -/
def Call.literals (c : Call) : List Literal :=
  c.toExpr.literals

/-- The literals of an array creation. -/
def ArrayCreation.literals (a : ArrayCreation) : List Literal :=
  a.toExpr.literals

/-- The literals of the body of an anonymous object. -/
def ObjectBody.literals (b : ObjectBody) : List Literal :=
  Member.literalsOfAll b.members

/-- The literals of a file. -/
def File.literals (f : File) : List Literal :=
  f.classes.flatMap Class.literals

/-! ## Code made elsewhere

The members of a class may be given as code that was made elsewhere. It is written
as it stands, so nothing is known about it, and what is said of the code of a node
often has to ask the same of this code. -/

mutual

/-- **The code in an expression that was made elsewhere.** -/
def Expr.verbatims : Expr → List String
  | .literal _ => []
  | .ident _ => []
  | .member receiver _ => receiver.verbatims
  | .call callee _ arguments _ => callee.verbatims ++ Expr.verbatimsOfAll arguments
  | .newArray _ sizes => Expr.verbatimsOfAll sizes
  | .anonymous _ arguments members =>
    Expr.verbatimsOfAll arguments ++ Member.verbatimsOfAll members

/-- The code in several expressions that was made elsewhere. -/
def Expr.verbatimsOfAll : List Expr → List String
  | [] => []
  | e :: rest => e.verbatims ++ Expr.verbatimsOfAll rest

/-- **The code in a member that was made elsewhere.** -/
def Member.verbatims : Member → List String
  | .property _ _ none _ => []
  | .property _ _ (some initializer) _ => initializer.verbatims
  | .classMember declaration => declaration.verbatims
  | .verbatim code => [code]

/-- The code in several members that was made elsewhere. -/
def Member.verbatimsOfAll : List Member → List String
  | [] => []
  | m :: rest => m.verbatims ++ Member.verbatimsOfAll rest

/-- **The code in a class declaration that was made elsewhere.** -/
def Class.verbatims : Class → List String
  | ⟨_, _, _, _, _, superArguments, members⟩ =>
    Expr.verbatimsOfAll superArguments ++ Member.verbatimsOfAll members

end

/-- The code in the body of an anonymous object that was made elsewhere. -/
def ObjectBody.verbatims (b : ObjectBody) : List String :=
  Member.verbatimsOfAll b.members

end Kotlinize.Kotlin
