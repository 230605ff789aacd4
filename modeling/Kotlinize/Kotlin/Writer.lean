import Kotlinize.Kotlin.Code

/-!
# Writing code piece by piece

A `Writer` holds the code written so far and the level at which the next piece stands. A node is
written in **steps**: pieces of code, the blanks of the current level, going one level in and
coming out again. Nodes are written one after another onto the same writer; a body raises the
level for its members and lowers it again.
-/

namespace Kotlinize.Kotlin

/-- **One step of writing.** -/
inductive Step where
  /-- A piece of code is written as it is. -/
  | put (code : String)
  /-- The blanks of the current level are written. -/
  | indent
  /-- The code that follows stands one level further in. -/
  | enter
  /-- The code that follows stands one level further out. -/
  | leave
deriving DecidableEq, Inhabited

/-- **Code while it is written.** -/
structure Writer where
  output : String
  /-- The level of the code that comes next. -/
  level : Nat
deriving Inhabited

namespace Writer

/-- A writer that has written nothing. -/
def new : Writer :=
  ⟨"", 0⟩

/-- Takes one step. -/
def step (w : Writer) : Step → Writer
  | .put code => { w with output := w.output ++ code }
  | .indent => { w with output := w.output ++ indentation w.level }
  | .enter => { w with level := w.level + 1 }
  | .leave => { w with level := w.level - 1 }

/-- **Takes steps one after another.** -/
def run (w : Writer) (steps : List Step) : Writer :=
  steps.foldl step w

/-- What a new writer writes in the given steps. -/
def emit (steps : List Step) : String :=
  (new.run steps).output

end Writer

/-- The steps of several things with a piece of code between them. -/
def joinedSteps (separator : String) (parts : List (List Step)) : List Step :=
  [.put separator].intercalate parts

/-- The steps that write an identifier. -/
def Identifier.steps (id : Identifier) : List Step :=
  [.put id.text]

/-! ## Types -/

/-- The steps that write the mark of a type that admits null. -/
def Ty.markSteps (nullable : Bool) : List Step :=
  if nullable then [.put "?"] else []

/-- The steps that write type arguments in angle brackets, given those of each; none if there are
no arguments. -/
def Ty.argumentListSteps (arguments : List (List Step)) : List Step :=
  if arguments.isEmpty then [] else .put "<" :: joinedSteps ", " arguments ++ [.put ">"]

mutual

/-- **The steps that write a type.** -/
def Ty.steps : Ty → List Step
  | .primitive name => name.steps
  | .array (.primitive name) nullable => name.steps ++ [.put "Array"] ++ Ty.markSteps nullable
  | .array element nullable =>
    .put "Array<" :: element.steps ++ [.put ">"] ++ Ty.markSteps nullable
  | .classType name arguments nullable =>
    name.steps ++ Ty.argumentListSteps (Ty.stepsOfAll arguments) ++ Ty.markSteps nullable
  | .starProjection => [.put "*"]
  | .outProjection bound => .put "out " :: bound.steps
  | .inProjection bound => .put "in " :: bound.steps
  | .vararg component => component.steps

/-- The steps that write each of several types. -/
def Ty.stepsOfAll : List Ty → List (List Step)
  | [] => []
  | t :: rest => t.steps :: Ty.stepsOfAll rest

end

/-- The steps that write a type in the place of a constructor. The type is written by a writer of
its own first, and a question mark at the end is taken away. -/
def Ty.constructorSteps (t : Ty) : List Step :=
  [.put (Ty.withoutMark (Writer.emit t.steps))]

/-! ## Expressions and declarations -/

/-- The steps that write arguments in parentheses, given those of each. -/
def argumentSteps (arguments : List (List Step)) : List Step :=
  .put "(" :: joinedSteps ", " arguments ++ [.put ")"]

/-- The steps that write the creation of an array, given those of its sizes. -/
def creationSteps : Ty → List (List Step) → List Step
  | .array (.array e m) n, size :: next :: rest =>
    (Ty.array (.array e m) n).constructorSteps ++ [.put "("] ++ size ++ [.put ", \x7b"]
      ++ creationSteps (.array e m) (next :: rest) ++ [.put "\x7d)"]
  | .array e n, size :: _ =>
    (Ty.array e n).constructorSteps ++ [.put "("] ++ size ++ [.put ")"]
  | t, _ => t.constructorSteps

theorem creationSteps_last {e : Ty} {n : Bool} {size : List Step} {rest : List (List Step)}
    (h : e.isArray = false ∨ rest = []) :
    creationSteps (.array e n) (size :: rest)
      = (Ty.array e n).constructorSteps ++ [.put "("] ++ size ++ [.put ")"] := by
  rcases h with h | rfl
  · cases e with
    | array e m => cases h
    | _ => rfl
  · cases e <;> rfl

theorem creationSteps_bare {t : Ty} {sizes : List (List Step)}
    (h : t.isArray = false ∨ sizes = []) : creationSteps t sizes = t.constructorSteps := by
  rcases h with h | rfl
  · cases t with
    | array e n => cases h
    | _ => rfl
  · cases t with
    | array e n => cases e <;> rfl
    | _ => rfl

/-- The steps that write a line of code made elsewhere after another one. -/
def lineSteps (line : String) : List Step :=
  if line.isEmpty then [.put "\n", .put line] else [.put "\n", .indent, .put line]

/-- The steps that write code made elsewhere. -/
def verbatimSteps (code : String) : List Step :=
  match Text.lines code with
  | [] => []
  | first :: rest => .put first :: rest.flatMap lineSteps

/-- The steps that write a type parameter with its bound. -/
def TypeParameter.steps (p : TypeParameter) : List Step :=
  p.name.steps ++ (match p.bound with
    | none => []
    | some bound => .put " : " :: bound.steps)

/-- The steps that write the supertypes of a class, given those of the arguments of its
superclass. -/
def supertypeSteps (superclass : Option Ty) (superArguments : List (List Step))
    (interfaces : List Ty) : List Step :=
  match superclass with
  | some t =>
    .put " : " :: t.constructorSteps ++ argumentSteps superArguments
      ++ (if interfaces.isEmpty then [] else [.put ", "])
      ++ joinedSteps ", " (interfaces.map Ty.constructorSteps)
  | none =>
    if interfaces.isEmpty then []
    else .put " : " :: joinedSteps ", " (interfaces.map Ty.constructorSteps)

/-- The steps that write what a class declaration says before its supertypes. -/
def headSteps (name : Identifier) (modifiers : List Modifier)
    (typeParameters : List TypeParameter) : List Step :=
  (modifiers.flatMap fun m => [.put m.keyword, .put " "]) ++ [.put "class "] ++ name.steps
    ++ Ty.argumentListSteps (typeParameters.map TypeParameter.steps)

/-- The steps that write a body in braces, given those of its members: the members stand one level
further in, each on lines of its own. -/
def bodySteps (members : List (List Step)) : List Step :=
  .put "\x7b\n" :: .enter :: (members.flatMap fun m => .indent :: m ++ [.put "\n"])
    ++ [.leave, .indent, .put "\x7d"]

mutual

/-- **The steps that write an expression.** -/
def Expr.steps : Expr → List Step
  | .literal value => [.put value.text]
  | .ident name => name.steps
  | .member receiver name =>
    receiver.steps ++ [.put (if receiver.isNullable then "?." else ".")] ++ name.steps
  | .call callee typeArguments arguments _ =>
    callee.steps ++ Ty.argumentListSteps (Ty.stepsOfAll typeArguments)
      ++ argumentSteps (Expr.stepsOfAll arguments)
  | .newArray type sizes => creationSteps type (Expr.stepsOfAll sizes)
  | .anonymous supertype arguments members =>
    .put "object : " :: supertype.constructorSteps ++ argumentSteps (Expr.stepsOfAll arguments)
      ++ [.put " "] ++ bodySteps (Member.stepsOfAll members)

/-- The steps that write each of several expressions. -/
def Expr.stepsOfAll : List Expr → List (List Step)
  | [] => []
  | e :: rest => e.steps :: Expr.stepsOfAll rest

/-- **The steps that write a member.** -/
def Member.steps : Member → List Step
  | .property name type none mutable =>
    .put (if mutable then "var " else "val ") :: name.steps ++ [.put ": "] ++ type.steps
  | .property name type (some initializer) mutable =>
    .put (if mutable then "var " else "val ") :: name.steps ++ [.put ": "] ++ type.steps
      ++ [.put " = "] ++ initializer.steps
  | .classMember declaration => declaration.steps
  | .verbatim code => verbatimSteps code

/-- The steps that write each of several members. -/
def Member.stepsOfAll : List Member → List (List Step)
  | [] => []
  | m :: rest => m.steps :: Member.stepsOfAll rest

/-- **The steps that write a class declaration.** -/
def Class.steps : Class → List Step
  | ⟨name, modifiers, typeParameters, superclass, interfaces, superArguments, members⟩ =>
    headSteps name modifiers typeParameters
      ++ supertypeSteps superclass (Expr.stepsOfAll superArguments) interfaces ++ [.put " "]
      ++ bodySteps (Member.stepsOfAll members)

end

/-- The steps that write the body of an anonymous object. -/
def ObjectBody.steps (b : ObjectBody) : List Step :=
  bodySteps (Member.stepsOfAll b.members)

/-- The steps that write an import. -/
def Import.steps (i : Import) : List Step :=
  [.put "import ", .put i.name]

/-- **The steps that write a file.** -/
def File.steps (f : File) : List Step :=
  (if f.packageName.isEmpty then [] else [.put "package ", .put f.packageName, .put "\n"])
    ++ joinedSteps "\n" (f.imports.map Import.steps) ++ [.put "\n\n"]
    ++ joinedSteps "\n" (f.classes.map Class.steps) ++ [.put "\n", .put f.mainFunction]

/-! ## Writing -/

/-- Writes an identifier. -/
def Identifier.write (id : Identifier) (w : Writer) : Writer :=
  w.run id.steps

/-- Writes a type. -/
def Ty.write (t : Ty) (w : Writer) : Writer :=
  w.run t.steps

/-- Writes an expression. -/
def Expr.write (e : Expr) (w : Writer) : Writer :=
  w.run e.steps

/-- Writes a call. -/
def Call.write (c : Call) (w : Writer) : Writer :=
  w.run c.toExpr.steps

/-- Writes an array creation. -/
def ArrayCreation.write (a : ArrayCreation) (w : Writer) : Writer :=
  w.run a.toExpr.steps

/-- Writes an import. -/
def Import.write (i : Import) (w : Writer) : Writer :=
  w.run i.steps

/-- Writes a member. -/
def Member.write (m : Member) (w : Writer) : Writer :=
  w.run m.steps

/-- Writes a class declaration. -/
def Class.write (c : Class) (w : Writer) : Writer :=
  w.run c.steps

/-- Writes the body of an anonymous object. -/
def ObjectBody.write (b : ObjectBody) (w : Writer) : Writer :=
  w.run b.steps

/-- Writes a file. -/
def File.write (f : File) (w : Writer) : Writer :=
  w.run f.steps

end Kotlinize.Kotlin
