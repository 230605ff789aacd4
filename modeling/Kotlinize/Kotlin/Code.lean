import Kotlinize.Kotlin.Expr
import Kotlinize.Kotlin.LiteralText
import Kotlinize.Text.Lines

/-!
# Kotlin code

Expressions, members, classes and files as Kotlin code. Every line but the first is indented by
the level at which the code stands, so the code of a node is a function of the node and of that
level; `toKotlin` is the code at the outermost level.
-/

namespace Kotlinize.Kotlin

/-- The blanks before a line at the given level: four for each. -/
def indentation (level : Nat) : String :=
  String.ofList (List.replicate (4 * level) ' ')

/-- Arguments in parentheses, given their code. -/
def argumentText (arguments : List String) : String :=
  "(" ++ ", ".intercalate arguments ++ ")"

/-- The creation of an array of the given type, given the code of its sizes. Each level that has a
level inside it wraps the creation of that one in braces. A level without another inside takes one
size and ignores the others. -/
def creationText : Ty → List String → String
  | .array (.array e m) n, size :: next :: rest =>
    (Ty.array (.array e m) n).constructorText ++ "(" ++ size ++ ", \x7b"
      ++ creationText (.array e m) (next :: rest) ++ "\x7d)"
  | .array e n, size :: _ => (Ty.array e n).constructorText ++ "(" ++ size ++ ")"
  | t, _ => t.constructorText

/-- The last level that is constructed takes one size. -/
theorem creationText_last {e : Ty} {n : Bool} {size : String} {rest : List String}
    (h : e.isArray = false ∨ rest = []) :
    creationText (.array e n) (size :: rest)
      = (Ty.array e n).constructorText ++ "(" ++ size ++ ")" := by
  rcases h with h | rfl
  · cases e with
    | array e m => cases h
    | _ => rfl
  · cases e <;> rfl

/-- Without a level or without a size nothing is written but the name of the type. -/
theorem creationText_bare {t : Ty} {sizes : List String} (h : t.isArray = false ∨ sizes = []) :
    creationText t sizes = t.constructorText := by
  rcases h with h | rfl
  · cases t with
    | array e n => cases h
    | _ => rfl
  · cases t with
    | array e n => cases e <;> rfl
    | _ => rfl

/-- Lines of code made elsewhere: all but the first are indented, unless empty. -/
def verbatimText (level : Nat) (code : String) : String :=
  match Text.lines code with
  | [] => ""
  | first :: rest =>
    first ++ String.join (rest.map fun line =>
      "\n" ++ (if line.isEmpty then "" else indentation level) ++ line)

/-- A type parameter with its bound. -/
def TypeParameter.text (p : TypeParameter) : String :=
  p.name.text ++ (match p.bound with
    | none => ""
    | some bound => " : " ++ bound.text)

/-- The supertypes of a class, given the code of the arguments of its superclass. -/
def supertypeText (superclass : Option Ty) (superArguments : List String) (interfaces : List Ty) :
    String :=
  let base := match superclass with
    | none => []
    | some t => [t.constructorText ++ argumentText superArguments]
  let all := base ++ interfaces.map Ty.constructorText
  if all.isEmpty then "" else " : " ++ ", ".intercalate all

/-- What a class declaration says before its body. -/
def headText (name : Identifier) (modifiers : List Modifier) (typeParameters : List TypeParameter) :
    String :=
  String.join (modifiers.map fun m => m.keyword ++ " ") ++ "class " ++ name.text
    ++ Ty.argumentList (typeParameters.map TypeParameter.text)

/-- A body in braces at the given level, given the code of its members at the next one. -/
def bodyText (level : Nat) (members : List String) : String :=
  "\x7b\n" ++ String.join (members.map fun m => indentation (level + 1) ++ m ++ "\n")
    ++ indentation level ++ "\x7d"

mutual

/-- **An expression as Kotlin code**, at the given level. -/
def Expr.text (level : Nat) : Expr → String
  | .literal value => value.text
  | .ident name => name.text
  | .member receiver name =>
    receiver.text level ++ (if receiver.isNullable then "?." else ".") ++ name.text
  | .call callee typeArguments arguments _ =>
    callee.text level ++ Ty.argumentList (Ty.texts typeArguments)
      ++ argumentText (Expr.texts level arguments)
  | .newArray type sizes => creationText type (Expr.texts level sizes)
  | .anonymous supertype arguments members =>
    "object : " ++ supertype.constructorText ++ argumentText (Expr.texts level arguments) ++ " "
      ++ bodyText level (Member.texts (level + 1) members)

/-- Several expressions as Kotlin code. -/
def Expr.texts (level : Nat) : List Expr → List String
  | [] => []
  | e :: rest => e.text level :: Expr.texts level rest

/-- **A member as Kotlin code**, at the given level. -/
def Member.text (level : Nat) : Member → String
  | .property name type none mutable =>
    (if mutable then "var " else "val ") ++ name.text ++ ": " ++ type.text
  | .property name type (some initializer) mutable =>
    (if mutable then "var " else "val ") ++ name.text ++ ": " ++ type.text ++ " = "
      ++ initializer.text level
  | .classMember declaration => declaration.text level
  | .verbatim code => verbatimText level code

/-- Several members as Kotlin code. -/
def Member.texts (level : Nat) : List Member → List String
  | [] => []
  | m :: rest => m.text level :: Member.texts level rest

/-- **A class declaration as Kotlin code**, at the given level. -/
def Class.text (level : Nat) : Class → String
  | ⟨name, modifiers, typeParameters, superclass, interfaces, superArguments, members⟩ =>
    headText name modifiers typeParameters
      ++ supertypeText superclass (Expr.texts level superArguments) interfaces ++ " "
      ++ bodyText level (Member.texts (level + 1) members)

end

/-- **The body of an anonymous object as Kotlin code**, at the given level. -/
def ObjectBody.text (level : Nat) (b : ObjectBody) : String :=
  bodyText level (Member.texts (level + 1) b.members)

/-- **An import as Kotlin code.** -/
def Import.text (i : Import) : String :=
  "import " ++ i.name

/-- **A file as Kotlin code**, at the given level. -/
def File.text (level : Nat) (f : File) : String :=
  (if f.packageName.isEmpty then "" else "package " ++ f.packageName ++ "\n")
    ++ "\n".intercalate (f.imports.map Import.text) ++ "\n\n"
    ++ "\n".intercalate (f.classes.map (Class.text level)) ++ "\n" ++ f.mainFunction

/-- An expression as Kotlin code. -/
def Expr.toKotlin (e : Expr) : String :=
  e.text 0

/-- A call as Kotlin code. -/
def Call.toKotlin (c : Call) : String :=
  c.toExpr.toKotlin

/-- The creation of an array as Kotlin code. -/
def ArrayCreation.toKotlin (a : ArrayCreation) : String :=
  a.toExpr.toKotlin

/-- A member as Kotlin code. -/
def Member.toKotlin (m : Member) : String :=
  m.text 0

/-- A class declaration as Kotlin code. -/
def Class.toKotlin (c : Class) : String :=
  c.text 0

/-- The body of an anonymous object as Kotlin code. -/
def ObjectBody.toKotlin (b : ObjectBody) : String :=
  b.text 0

/-- A file as Kotlin code. -/
def File.toKotlin (f : File) : String :=
  f.text 0

end Kotlinize.Kotlin
