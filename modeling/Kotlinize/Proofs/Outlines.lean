import Kotlinize.Conversion.Expressions
import Kotlinize.Proofs.Origins
import Kotlinize.Proofs.Parts
import Mathlib.Logic.Function.Basic

/-!
# What a converted expression still says

Converting a type may forget something: two uses of a class that were written in
different ways can become the same Kotlin type. Converting an expression forgets
nothing beyond that. Every literal, name, flag, argument, size and member stands in
the Kotlin expression, in its place and once.

To say so, the types have to be told from everything else. An `Outline` is a Java
expression whose types are left open: `Outline τ σ` has values of `τ` where types
stand, and values of `σ` where the supertype of an anonymous class stands. A Java
expression has an outline for every reading of its types (`Expr.outline`), and the
reading that matters here is the conversion of types (`Expr.withKotlinTypes`).

Conversion goes through this outline (`Outline.toKotlin_withKotlinTypes`), and the
outline can be read off the Kotlin expression (`Outline.outline_toKotlin`). Taken
together, the outline that a converted expression shows is the outline of the Java
expression with its types converted (`Expr.outline_convert`), so that each part is
where it was, and the two determine each other. The same holds when expressions are
compared by `==`, which differs from equality on floating-point literals: NaN is not
`==` to itself, and the two zeros are `==` to each other.
-/

namespace Kotlinize

namespace Java

/-! ## Outlines

Types stand in three places of an expression: as the arguments of a call, as the
type of an array, and as the supertype of an anonymous class, where only a class can
stand. The last one has a parameter of its own, since Java reads it as a class
type. -/

/-- **A Java expression with its types left open.** -/
inductive Outline (τ σ : Type) where
  | literal (value : Literal)
  | name (name : String) (nullable : Bool)
  | fieldAccess (receiver : Outline τ σ) (name : String) (nullable : Bool)
  | methodCall (callee : Outline τ σ) (typeArguments : List τ) (arguments : List (Outline τ σ))
      (resultNullable : Bool)
  | newArray (type : τ) (dimensions : List (Outline τ σ))
  | newAnonymous (supertype : σ) (arguments : List (Outline τ σ)) (members : List String)

namespace Outline

variable {τ σ : Type} [BEq τ] [BEq σ]

mutual

/-- Whether two outlines are the same, with literals compared as the values that they stand for. -/
def beq : Outline τ σ → Outline τ σ → Bool
  | .literal v, .literal w => v == w
  | .name a n, .name b m => a == b && n == m
  | .fieldAccess o a n, .fieldAccess p b m => o.beq p && (a == b && n == m)
  | .methodCall o ts os n, .methodCall p us ps m =>
    o.beq p && ts == us && beqAll os ps && n == m
  | .newArray t os, .newArray u ps => t == u && beqAll os ps
  | .newAnonymous c os ms, .newAnonymous d ps ns => c == d && beqAll os ps && ms == ns
  | _, _ => false
termination_by structural o => o

/-- Whether the outlines of two lists are the same. -/
def beqAll : List (Outline τ σ) → List (Outline τ σ) → Bool
  | [], [] => true
  | o :: os, p :: ps => o.beq p && beqAll os ps
  | _, _ => false
termination_by structural os => os

end

instance : BEq (Outline τ σ) := ⟨beq⟩

end Outline

section

variable {τ σ : Type} (type : Ty → τ) (supertype : ClassTy → σ)

mutual

/-- **The outline of an expression**, given what its types are read as. -/
def Expr.outline : Expr → Outline τ σ
  | .literal value => .literal value
  | .name ident nullable => .name ident nullable
  | .fieldAccess receiver field nullable => .fieldAccess receiver.outline field nullable
  | .methodCall callee typeArguments arguments resultNullable =>
    .methodCall callee.outline (typeArguments.map type) (Expr.outlineAll arguments) resultNullable
  | .newArray t dimensions => .newArray (type t) (Expr.outlineAll dimensions)
  | .newAnonymous c arguments members =>
    .newAnonymous (supertype c) (Expr.outlineAll arguments) members

/-- The outlines of several expressions. -/
def Expr.outlineAll : List Expr → List (Outline τ σ)
  | [] => []
  | e :: rest => e.outline :: Expr.outlineAll rest

end

end

/-- **An expression with its types converted**, and nothing else. -/
def Expr.withKotlinTypes (config : Config) (e : Expr) : Outline Kotlin.Ty Kotlin.Ty :=
  e.outline (Ty.convert config) (ClassTy.convert config)

/-! ## Outlines forget nothing but types

An outline is only as good as what it leaves in. That it leaves in everything but
the types is shown by putting the types back. -/

mutual

/-- The expression with a given outline, where the types were left as they are. -/
def Outline.toExpr : Outline Ty ClassTy → Expr
  | .literal value => .literal value
  | .name ident nullable => .name ident nullable
  | .fieldAccess receiver field nullable => .fieldAccess receiver.toExpr field nullable
  | .methodCall callee typeArguments arguments resultNullable =>
    .methodCall callee.toExpr typeArguments (Outline.toExprAll arguments) resultNullable
  | .newArray type dimensions => .newArray type (Outline.toExprAll dimensions)
  | .newAnonymous supertype arguments members =>
    .newAnonymous supertype (Outline.toExprAll arguments) members

/-- The expressions with given outlines. -/
def Outline.toExprAll : List (Outline Ty ClassTy) → List Expr
  | [] => []
  | o :: rest => o.toExpr :: Outline.toExprAll rest

end

mutual

/-- The expression comes back from its outline, if no type was changed. -/
theorem Outline.toExpr_outline : ∀ e : Expr, (e.outline id id).toExpr = e
  | .literal _ => rfl
  | .name _ _ => rfl
  | .fieldAccess receiver _ _ => by
    rw [Expr.outline, Outline.toExpr, Outline.toExpr_outline receiver]
  | .methodCall callee _ arguments _ => by
    rw [Expr.outline, Outline.toExpr, Outline.toExpr_outline callee,
      Outline.toExprAll_outlineAll arguments, List.map_id]
  | .newArray _ dimensions => by
    rw [Expr.outline, Outline.toExpr, Outline.toExprAll_outlineAll dimensions]
    rfl
  | .newAnonymous _ arguments _ => by
    rw [Expr.outline, Outline.toExpr, Outline.toExprAll_outlineAll arguments]
    rfl

theorem Outline.toExprAll_outlineAll : ∀ es : List Expr,
    Outline.toExprAll (Expr.outlineAll id id es) = es
  | [] => rfl
  | e :: rest => by
    rw [Expr.outlineAll, Outline.toExprAll, Outline.toExpr_outline e,
      Outline.toExprAll_outlineAll rest]

end

/-- **An outline with the types as they are is the expression.** -/
theorem Expr.outline_injective : Function.Injective (Expr.outline id id) :=
  Function.LeftInverse.injective Outline.toExpr_outline

/-! ## From outlines to Kotlin

The second half of a conversion, when all types are converted already. There is no
setting among its arguments: whatever the settings change, they change types. -/

mutual

/-- **The Kotlin expression with a given outline.** -/
def Outline.toKotlin : Outline Kotlin.Ty Kotlin.Ty → Kotlin.Expr
  | .literal value => .literal value
  | .name ident nullable => .ident (kotlinName ident nullable)
  | .fieldAccess receiver field nullable => .member receiver.toKotlin (kotlinName field nullable)
  | .methodCall callee typeArguments arguments resultNullable =>
    .call callee.toKotlin typeArguments (Outline.toKotlinAll arguments) resultNullable
  | .newArray type dimensions => .newArray type (Outline.toKotlinAll dimensions)
  | .newAnonymous supertype arguments members =>
    .anonymous supertype (Outline.toKotlinAll arguments) (members.map .verbatim)

/-- The Kotlin expressions with given outlines. -/
def Outline.toKotlinAll : List (Outline Kotlin.Ty Kotlin.Ty) → List Kotlin.Expr
  | [] => []
  | o :: rest => o.toKotlin :: Outline.toKotlinAll rest

end

mutual

/-- **Conversion goes through the outline**: it looks at no type but to convert it. -/
theorem Outline.toKotlin_withKotlinTypes (config : Config) :
    ∀ e : Expr, (e.withKotlinTypes config).toKotlin = e.convert config
  | .literal _ => rfl
  | .name _ _ => rfl
  | .fieldAccess receiver field nullable => by
    show Kotlin.Expr.member (receiver.withKotlinTypes config).toKotlin (kotlinName field nullable)
      = .member (receiver.convert config) (kotlinName field nullable)
    rw [Outline.toKotlin_withKotlinTypes config receiver]
  | .methodCall callee typeArguments arguments resultNullable => by
    show Kotlin.Expr.call (callee.withKotlinTypes config).toKotlin
        (typeArguments.map (Ty.convert config)) (Outline.toKotlinAll _) resultNullable
      = .call (callee.convert config) (Ty.convertAll config typeArguments)
        (Expr.convertAll config arguments) resultNullable
    -- the outline maps over the type arguments, the conversion walks through them
    rw [Outline.toKotlin_withKotlinTypes config callee,
      Outline.toKotlinAll_withKotlinTypes config arguments, Ty.convertAll_eq_map]
  | .newArray type dimensions =>
    congrArg (Kotlin.Expr.newArray (type.convert config))
      (Outline.toKotlinAll_withKotlinTypes config dimensions)
  | .newAnonymous supertype arguments members =>
    congrArg (Kotlin.Expr.anonymous (supertype.convert config) · (members.map .verbatim))
      (Outline.toKotlinAll_withKotlinTypes config arguments)

/-- Several expressions, each converted through its outline. -/
theorem Outline.toKotlinAll_withKotlinTypes (config : Config) :
    ∀ es : List Expr,
      Outline.toKotlinAll (Expr.outlineAll (Ty.convert config) (ClassTy.convert config) es)
        = Expr.convertAll config es
  | [] => rfl
  | e :: rest => by
    show (e.withKotlinTypes config).toKotlin :: Outline.toKotlinAll _
      = e.convert config :: Expr.convertAll config rest
    rw [Outline.toKotlin_withKotlinTypes config e,
      Outline.toKotlinAll_withKotlinTypes config rest]

end

end Java

/-! ## And back

A Kotlin expression has more forms than a conversion makes, so reading off an
outline has to do something with the others. They are read as well as can be, and
nothing below depends on how. -/

namespace Kotlin

mutual

/-- **The outline that a Kotlin expression shows.** Members that were not made elsewhere are not
shown; a conversion makes none. -/
def Expr.outline : Expr → Java.Outline Ty Ty
  | .literal value => .literal value
  | .ident id => .name id.name id.nullable
  | .member receiver id => .fieldAccess receiver.outline id.name id.nullable
  | .call callee typeArguments arguments resultNullable =>
    .methodCall callee.outline typeArguments (Expr.outlineAll arguments) resultNullable
  | .newArray type sizes => .newArray type (Expr.outlineAll sizes)
  | .anonymous supertype arguments members =>
    .newAnonymous supertype (Expr.outlineAll arguments) (Member.verbatimsOfAll members)

/-- The outlines that several Kotlin expressions show. -/
def Expr.outlineAll : List Expr → List (Java.Outline Ty Ty)
  | [] => []
  | e :: rest => e.outline :: Expr.outlineAll rest

end

/-- Code that was made elsewhere comes back from the members that hold it. -/
theorem Member.verbatimsOfAll_map_verbatim (codes : List String) :
    Member.verbatimsOfAll (codes.map .verbatim) = codes := by
  induction codes with
  | nil => rfl
  | cons code rest ih =>
    rw [List.map_cons, Member.verbatimsOfAll, ih]
    rfl

/-- Members that were made elsewhere are the same if their code is. -/
theorem Member.beqAll_map_verbatim (codes codes' : List String) :
    Member.beqAll (codes.map .verbatim) (codes'.map .verbatim) = (codes == codes') := by
  induction codes generalizing codes' with
  | nil => cases codes' <;> rfl
  | cons code rest ih =>
    cases codes' with
    | nil => rfl
    | cons code' rest' =>
      rw [List.map_cons, List.map_cons, Member.beqAll, ih rest', List.cons_beq_cons]
      rfl

end Kotlin

namespace Java

mutual

/-- **The outline can be read off the Kotlin expression.** -/
theorem Outline.outline_toKotlin : ∀ o : Outline Kotlin.Ty Kotlin.Ty, o.toKotlin.outline = o
  | .literal _ => rfl
  | .name _ _ => rfl
  | .fieldAccess receiver _ _ => by
    rw [Outline.toKotlin, Kotlin.Expr.outline, Outline.outline_toKotlin receiver]
    rfl
  | .methodCall callee _ arguments _ => by
    rw [Outline.toKotlin, Kotlin.Expr.outline, Outline.outline_toKotlin callee,
      Outline.outlineAll_toKotlinAll arguments]
  | .newArray _ dimensions => by
    rw [Outline.toKotlin, Kotlin.Expr.outline, Outline.outlineAll_toKotlinAll dimensions]
  | .newAnonymous _ arguments members => by
    rw [Outline.toKotlin, Kotlin.Expr.outline, Outline.outlineAll_toKotlinAll arguments,
      Kotlin.Member.verbatimsOfAll_map_verbatim members]

theorem Outline.outlineAll_toKotlinAll : ∀ os : List (Outline Kotlin.Ty Kotlin.Ty),
    Kotlin.Expr.outlineAll (Outline.toKotlinAll os) = os
  | [] => rfl
  | o :: rest => by
    rw [Outline.toKotlinAll, Kotlin.Expr.outlineAll, Outline.outline_toKotlin o,
      Outline.outlineAll_toKotlinAll rest]

end

/-- Different outlines become different Kotlin expressions. -/
theorem Outline.toKotlin_injective : Function.Injective Outline.toKotlin :=
  Function.LeftInverse.injective Outline.outline_toKotlin

/-! ## Comparing by value

Equality of expressions is not what `==` asks for, since literals are compared as
values. The comparison of outlines is written out in the same way as that of Kotlin
expressions, and the two are followed side by side. -/

/-- A name in Kotlin shows the Java name and its flag, and nothing more. -/
theorem kotlinName_beq (name name' : String) (nullable nullable' : Bool) :
    (kotlinName name nullable == kotlinName name' nullable')
      = (name == name' && nullable == nullable') := by
  rw [Bool.eq_iff_iff]
  simp [kotlinName, Kotlin.Identifier.plain]

mutual

/-- **Kotlin expressions are the same by `==` if their outlines are.** -/
theorem Outline.beq_toKotlin : ∀ o p : Outline Kotlin.Ty Kotlin.Ty,
    o.toKotlin.beq p.toKotlin = o.beq p
  | .literal _, p => by
    cases p <;> rfl
  | .name a n, p => by
    -- here and below: outlines of different kinds become expressions of different kinds
    cases p with
    | name b m => exact kotlinName_beq a b n m
    | _ => rfl
  | .fieldAccess o a n, p => by
    cases p with
    | fieldAccess p b m =>
      rw [toKotlin, toKotlin, Kotlin.Expr.beq, beq, Outline.beq_toKotlin o p, kotlinName_beq]
    | _ => rfl
  | .methodCall o _ os _, p => by
    cases p with
    | methodCall p _ ps _ =>
      rw [toKotlin, toKotlin, Kotlin.Expr.beq, beq, Outline.beq_toKotlin o p,
        Outline.beqAll_toKotlinAll os ps]
    | _ => rfl
  | .newArray _ os, p => by
    cases p with
    | newArray _ ps =>
      rw [toKotlin, toKotlin, Kotlin.Expr.beq, beq, Outline.beqAll_toKotlinAll os ps]
    | _ => rfl
  | .newAnonymous _ os ms, p => by
    cases p with
    | newAnonymous _ ps ns =>
      rw [toKotlin, toKotlin, Kotlin.Expr.beq, beq, Outline.beqAll_toKotlinAll os ps,
        Kotlin.Member.beqAll_map_verbatim ms ns]
    | _ => rfl

theorem Outline.beqAll_toKotlinAll : ∀ os ps : List (Outline Kotlin.Ty Kotlin.Ty),
    Kotlin.Expr.beqAll (Outline.toKotlinAll os) (Outline.toKotlinAll ps) = Outline.beqAll os ps
  | [], ps => by
    cases ps <;> rfl
  | o :: os, ps => by
    cases ps with
    | nil => rfl
    | cons p ps =>
      rw [toKotlinAll, toKotlinAll, Kotlin.Expr.beqAll, beqAll, Outline.beq_toKotlin o p,
        Outline.beqAll_toKotlinAll os ps]

end

/-- **The outline of a converted expression is that of the expression**, with its types converted:
nothing is lost on the way, and nothing moved. -/
theorem Expr.outline_convert (config : Config) (e : Expr) :
    (e.convert config).outline = e.withKotlinTypes config := by
  rw [← Outline.toKotlin_withKotlinTypes, Outline.outline_toKotlin]

/-- **Converting an expression forgets nothing but what converting its types forgets.** Everything
else stands in the Kotlin expression where it stood in the Java expression: the outline that is read
off the one is the outline of the other, with its types converted. And nothing more stands there:
it is the Kotlin expression with that outline. So two expressions become the same Kotlin expression
just if they are the same once their types are converted, and likewise if sameness is asked by
`==`. The outline leaves out nothing but types: with the types as they are it determines the
expression. -/
theorem conversion_forgets_only_types (config : Config) (a b : Expr) :
    (a.convert config).outline = a.withKotlinTypes config
      ∧ a.convert config = (a.withKotlinTypes config).toKotlin
      ∧ (a.convert config = b.convert config ↔ a.withKotlinTypes config = b.withKotlinTypes config)
      ∧ (a.convert config == b.convert config)
        = (a.withKotlinTypes config == b.withKotlinTypes config)
      ∧ (a.outline id id = b.outline id id ↔ a = b) := by
  refine ⟨a.outline_convert config, (Outline.toKotlin_withKotlinTypes config a).symm, ?_⟩
  rw [← Outline.toKotlin_withKotlinTypes config a, ← Outline.toKotlin_withKotlinTypes config b]
  exact ⟨Outline.toKotlin_injective.eq_iff, Outline.beq_toKotlin _ _,
    Expr.outline_injective.eq_iff⟩

end Java

end Kotlinize
