import Kotlinize.Conversion.Expressions
import Kotlinize.Proofs.Parts

/-!
# What the settings change

A conversion has one setting: whether resolved classes are named by their
qualified names. Converting the same type under both settings gives two Kotlin
types, and this module says how far apart they can be.

The comparison is made along the Java type, because a name may differ only where
a use of a class stands for it. `Ty.Agree t a b` relates a Java type `t` to two
Kotlin types of the same shape: the same constructors, the same flags, the same
numbers of arguments. They may part in the names of classes, and
`ClassTy.NamesAgree` says how: only if the use resolved to a qualified name, and
not for the three classes that the settings leave alone. The head of an argument
that was made up for a raw use is never renamed (`TypeParameter.Agree.bounded`).

Expressions are compared in the same way, and since nothing but names inside
types differs, the settings have no say in which expressions may be null.
-/

namespace Kotlinize.Java

/-- **The classes that have one name under all settings.** -/
def settledNames : List String :=
  [Conversion.objectName, Conversion.iterableName, Conversion.iteratorName]

/-- **How the two names of one use of a class are related.** -/
structure ClassTy.NamesAgree (c : ClassTy) (short full : Kotlin.Identifier) : Prop where
  /-- The names differ only if the class resolved to a name that is not settled. -/
  differ : short ≠ full → ∃ q, c.qualifiedName? = some q ∧ q ∉ settledNames
  /-- In that case one of them is the qualified name. -/
  qualified : ∀ q, c.qualifiedName? = some q → q ∉ settledNames →
    full = .verbatim (Kotlin.escapeDotted q)

mutual

/-- **Two Kotlin types that a Java type may become** under the two settings. -/
inductive Ty.Agree : Ty → Kotlin.Ty → Kotlin.Ty → Prop
  | primitive {name : String} {id : Kotlin.Identifier} :
    Ty.Agree (.primitive name) (.primitive id) (.primitive id)
  | array {t : Ty} {a b : Kotlin.Ty} {nullable : Bool} :
    Ty.Agree t a b → Ty.Agree (.array t) (.array a nullable) (.array b nullable)
  | classType {c : ClassTy} {a b : Kotlin.Ty} :
    ClassTy.Agree c a b → Ty.Agree (.classType c) a b
  | unbounded : Ty.Agree (.wildcard none) .starProjection .starProjection
  | upper {t : Ty} {a b : Kotlin.Ty} :
    Ty.Agree t a b → Ty.Agree (.wildcard (some (.upper t))) (.outProjection a) (.outProjection b)
  | lower {t : Ty} {a b : Kotlin.Ty} :
    Ty.Agree t a b → Ty.Agree (.wildcard (some (.lower t))) (.inProjection a) (.inProjection b)
  | ellipsis {t : Ty} {a b : Kotlin.Ty} :
    Ty.Agree t a b → Ty.Agree (.ellipsis t) (.vararg a) (.vararg b)

/-- **Two Kotlin types that one use of a class may become.** -/
inductive ClassTy.Agree : ClassTy → Kotlin.Ty → Kotlin.Ty → Prop
  | written {c : ClassTy} {short full : Kotlin.Identifier} {as bs : List Kotlin.Ty}
      {nullable : Bool} :
    c.isRaw = false → c.NamesAgree short full → Ty.AgreeAll c.parameters as bs →
    ClassTy.Agree c (.classType short as nullable) (.classType full bs nullable)
  | raw {c : ClassTy} {short full : Kotlin.Identifier} {as bs : List Kotlin.Ty}
      {nullable : Bool} :
    c.isRaw = true → c.NamesAgree short full → TypeParameter.AgreeAll c.declaredParameters as bs →
    ClassTy.Agree c (.classType short as nullable) (.classType full bs nullable)

/-- Two lists of Kotlin types that several Java types may become. -/
inductive Ty.AgreeAll : List Ty → List Kotlin.Ty → List Kotlin.Ty → Prop
  | nil : Ty.AgreeAll [] [] []
  | cons {t : Ty} {ts : List Ty} {a b : Kotlin.Ty} {as bs : List Kotlin.Ty} :
    Ty.Agree t a b → Ty.AgreeAll ts as bs → Ty.AgreeAll (t :: ts) (a :: as) (b :: bs)

/-- Two arguments that may be made up for a type parameter. -/
inductive TypeParameter.Agree : TypeParameter → Kotlin.Ty → Kotlin.Ty → Prop
  | unbounded {name : String} :
    TypeParameter.Agree ⟨name, []⟩ .starProjection .starProjection
  | bounded {name : String} {c : ClassTy} {rest : List ClassTy} {id : Kotlin.Identifier}
      {as bs : List Kotlin.Ty} {nullable : Bool} :
    Ty.AgreeAll c.parameters as bs →
    TypeParameter.Agree ⟨name, c :: rest⟩ (.classType id as nullable) (.classType id bs nullable)

/-- Two lists of arguments that may be made up for several type parameters. -/
inductive TypeParameter.AgreeAll : List TypeParameter → List Kotlin.Ty → List Kotlin.Ty → Prop
  | nil : TypeParameter.AgreeAll [] [] []
  | cons {p : TypeParameter} {ps : List TypeParameter} {a b : Kotlin.Ty} {as bs : List Kotlin.Ty} :
    TypeParameter.Agree p a b → TypeParameter.AgreeAll ps as bs →
    TypeParameter.AgreeAll (p :: ps) (a :: as) (b :: bs)

end

/-! ## Names

Which of the two names a class gets is decided in `Conversion.fixedIdentifier?`,
which alone reads the settings. Once it gives the same under both, all that is tried
after it is the same as well, and so the names are compared there and nowhere
else. -/

/-- The fixed name of a class does not depend on the settings where it is settled. -/
theorem fixedIdentifier?_of_settled {c : ClassTy} {q : String} (hq : c.qualifiedName? = some q)
    (hsettled : q ∈ settledNames) :
    Conversion.fixedIdentifier? ⟨false⟩ c = Conversion.fixedIdentifier? ⟨true⟩ c := by
  unfold Conversion.fixedIdentifier?
  rw [hq]
  have hcases : q = Conversion.objectName ∨ q = Conversion.iterableName
      ∨ q = Conversion.iteratorName := by
    simpa [settledNames] using hsettled
  rcases hcases with rfl | rfl | rfl <;> decide

/-- Elsewhere the fixed name is the qualified name, if the settings ask for it. -/
theorem fixedIdentifier?_of_not_settled {c : ClassTy} {q : String}
    (hq : c.qualifiedName? = some q) (hsettled : q ∉ settledNames) :
    Conversion.fixedIdentifier? ⟨true⟩ c = some (.verbatim (Kotlin.escapeDotted q)) := by
  have hobject : q ≠ Conversion.objectName := fun h => hsettled (h ▸ List.mem_cons_self)
  unfold Conversion.fixedIdentifier?
  rw [hq]
  exact if_pos ⟨hobject, rfl⟩

/-- **The two names of a class are related.** -/
theorem ClassTy.namesAgree_identifier (c : ClassTy) :
    c.NamesAgree (Conversion.identifier ⟨false⟩ c) (Conversion.identifier ⟨true⟩ c) where
  differ := by
    intro hne
    cases hq : c.qualifiedName? with
    | none =>
      -- for a class that did not resolve the settings are not asked
      refine absurd ?_ hne
      unfold Conversion.identifier Conversion.fixedIdentifier?
      rw [hq]
    | some q =>
      refine ⟨q, rfl, fun hsettled => hne ?_⟩
      unfold Conversion.identifier
      rw [fixedIdentifier?_of_settled hq hsettled]
  qualified := by
    intro q hq hsettled
    unfold Conversion.identifier
    rw [fixedIdentifier?_of_not_settled hq hsettled]

/-! ## Types

The induction is that of the conversion. Arguments that are made up for a raw use
come from the declared parameters and not from the type, so that they need a
relation of their own, and the four statements are proved together. -/

mutual

/-- **Converting a type under both settings.** -/
theorem Ty.agree_convert : ∀ t : Ty, t.Agree (t.convert ⟨false⟩) (t.convert ⟨true⟩)
  | .primitive name => by
    rw [Ty.convert, Ty.convert]
    unfold Conversion.primitive
    split
    · exact .primitive
    · split <;> exact .primitive
  | .array component => .array component.agree_convert
  | .classType c => .classType c.agree_convert
  | .wildcard none => .unbounded
  | .wildcard (some (.upper t)) => .upper t.agree_convert
  | .wildcard (some (.lower t)) => .lower t.agree_convert
  | .ellipsis component => .ellipsis component.agree_convert

/-- **Converting one use of a class under both settings.** -/
theorem ClassTy.agree_convert : ∀ c : ClassTy, c.Agree (c.convert ⟨false⟩) (c.convert ⟨true⟩)
  | ⟨_, _, t :: parameters, _, _⟩ =>
    .written rfl (ClassTy.namesAgree_identifier _) (Ty.agreeAll_convertAll (t :: parameters))
  | ⟨_, _, [], _, none⟩ =>
    .written rfl (ClassTy.namesAgree_identifier _) .nil
  | ⟨_, _, [], _, some ⟨_, []⟩⟩ =>
    .written rfl (ClassTy.namesAgree_identifier _) .nil
  | ⟨_, _, [], _, some ⟨_, p :: typeParameters⟩⟩ =>
    .raw rfl (ClassTy.namesAgree_identifier _)
      (TypeParameter.agreeAll_rawArguments (p :: typeParameters))

/-- Converting several types under both settings. -/
theorem Ty.agreeAll_convertAll : ∀ ts : List Ty,
    Ty.AgreeAll ts (Ty.convertAll ⟨false⟩ ts) (Ty.convertAll ⟨true⟩ ts)
  | [] => .nil
  | t :: rest => .cons t.agree_convert (Ty.agreeAll_convertAll rest)

/-- Making up arguments for type parameters under both settings. -/
theorem TypeParameter.agreeAll_rawArguments : ∀ ps : List TypeParameter,
    TypeParameter.AgreeAll ps (TypeParameter.rawArguments ⟨false⟩ ps)
      (TypeParameter.rawArguments ⟨true⟩ ps)
  | [] => .nil
  | ⟨_, []⟩ :: rest => .cons .unbounded (TypeParameter.agreeAll_rawArguments rest)
  | ⟨_, ⟨_, _, parameters, _, _⟩ :: _⟩ :: rest =>
    .cons (.bounded (Ty.agreeAll_convertAll parameters))
      (TypeParameter.agreeAll_rawArguments rest)

end

/-! ## Expressions

Names in an expression, unlike those in its types, do not depend on the settings,
and the relation asks for equal identifiers. Null is expected of an expression by
its flags, which the relation keeps; it is followed through the expressions inside
without another look at the conversion. -/

mutual

/-- **Two Kotlin expressions that a Java expression may become** under the two settings. -/
inductive Expr.Agree : Expr → Kotlin.Expr → Kotlin.Expr → Prop
  | literal {value : Literal} :
    Expr.Agree (.literal value) (.literal value) (.literal value)
  | name {name : String} {nullable : Bool} {id : Kotlin.Identifier} :
    Expr.Agree (.name name nullable) (.ident id) (.ident id)
  | fieldAccess {receiver : Expr} {name : String} {nullable : Bool} {a b : Kotlin.Expr}
      {id : Kotlin.Identifier} :
    Expr.Agree receiver a b →
    Expr.Agree (.fieldAccess receiver name nullable) (.member a id) (.member b id)
  | methodCall {callee : Expr} {ts : List Ty} {es : List Expr} {resultNullable : Bool}
      {a b : Kotlin.Expr} {ss us : List Kotlin.Ty} {as bs : List Kotlin.Expr} :
    Expr.Agree callee a b → Ty.AgreeAll ts ss us → Expr.AgreeAll es as bs →
    Expr.Agree (.methodCall callee ts es resultNullable) (.call a ss as resultNullable)
      (.call b us bs resultNullable)
  | newArray {t : Ty} {es : List Expr} {s u : Kotlin.Ty} {as bs : List Kotlin.Expr} :
    Ty.Agree t s u → Expr.AgreeAll es as bs →
    Expr.Agree (.newArray t es) (.newArray s as) (.newArray u bs)
  | newAnonymous {c : ClassTy} {es : List Expr} {codes : List String} {s u : Kotlin.Ty}
      {as bs : List Kotlin.Expr} {members : List Kotlin.Member} :
    ClassTy.Agree c s u → Expr.AgreeAll es as bs →
    Expr.Agree (.newAnonymous c es codes) (.anonymous s as members) (.anonymous u bs members)

/-- Two lists of Kotlin expressions that several Java expressions may become. -/
inductive Expr.AgreeAll : List Expr → List Kotlin.Expr → List Kotlin.Expr → Prop
  | nil : Expr.AgreeAll [] [] []
  | cons {e : Expr} {es : List Expr} {a b : Kotlin.Expr} {as bs : List Kotlin.Expr} :
    Expr.Agree e a b → Expr.AgreeAll es as bs → Expr.AgreeAll (e :: es) (a :: as) (b :: bs)

end

mutual

/-- **Converting an expression under both settings.** -/
theorem Expr.agree_convert : ∀ e : Expr, e.Agree (e.convert ⟨false⟩) (e.convert ⟨true⟩)
  | .literal _ => .literal
  | .name _ _ => .name
  | .fieldAccess receiver _ _ => .fieldAccess receiver.agree_convert
  | .methodCall callee typeArguments arguments _ =>
    .methodCall callee.agree_convert (Ty.agreeAll_convertAll typeArguments)
      (Expr.agreeAll_convertAll arguments)
  | .newArray type dimensions =>
    .newArray type.agree_convert (Expr.agreeAll_convertAll dimensions)
  | .newAnonymous supertype arguments _ =>
    .newAnonymous supertype.agree_convert (Expr.agreeAll_convertAll arguments)

/-- Converting several expressions under both settings. -/
theorem Expr.agreeAll_convertAll : ∀ es : List Expr,
    Expr.AgreeAll es (Expr.convertAll ⟨false⟩ es) (Expr.convertAll ⟨true⟩ es)
  | [] => .nil
  | e :: rest => .cons e.agree_convert (Expr.agreeAll_convertAll rest)

end

/-- The settings have no say in whether an expression may be null. -/
theorem Expr.Agree.isNullable_eq : ∀ {e : Expr} {a b : Kotlin.Expr}, e.Agree a b →
    a.isNullable = b.isNullable
  | _, _, _, .literal => rfl
  | _, _, _, .name => rfl
  | _, _, _, .fieldAccess _ => rfl
  | _, _, _, .methodCall hcallee _ _ => by
    rw [Kotlin.Expr.isNullable, Kotlin.Expr.isNullable, hcallee.isNullable_eq]
  | _, _, _, .newArray _ _ => rfl
  | _, _, _, .newAnonymous _ _ => rfl

mutual

/-- Nor in which of the expressions inside it may be null. -/
theorem Expr.Agree.map_isNullable_eq : ∀ {e : Expr} {a b : Kotlin.Expr}, e.Agree a b →
    a.subexpressions.map Kotlin.Expr.isNullable = b.subexpressions.map Kotlin.Expr.isNullable
  | _, _, _, .literal => rfl
  | _, _, _, .name => rfl
  | _, _, _, .fieldAccess hreceiver => by
    rw [Kotlin.Expr.subexpressions, Kotlin.Expr.subexpressions, List.map_cons, List.map_cons,
      hreceiver.map_isNullable_eq]
    rfl
  | _, _, _, h@(.methodCall hcallee _ harguments) => by
    have hself := h.isNullable_eq
    rw [Kotlin.Expr.subexpressions, Kotlin.Expr.subexpressions, List.map_append, List.map_append,
      List.map_cons, List.map_cons, hself, hcallee.map_isNullable_eq,
      harguments.map_isNullable_eq]
  | _, _, _, .newArray _ hsizes => by
    rw [Kotlin.Expr.subexpressions, Kotlin.Expr.subexpressions, List.map_cons, List.map_cons,
      hsizes.map_isNullable_eq]
    rfl
  | _, _, _, .newAnonymous _ harguments => by
    rw [Kotlin.Expr.subexpressions, Kotlin.Expr.subexpressions, List.map_append, List.map_append,
      List.map_cons, List.map_cons, harguments.map_isNullable_eq]
    rfl

/-- Nor in which of the expressions inside several of them. -/
theorem Expr.AgreeAll.map_isNullable_eq : ∀ {es : List Expr} {as bs : List Kotlin.Expr},
    Expr.AgreeAll es as bs →
    (Kotlin.Expr.subexpressionsOfAll as).map Kotlin.Expr.isNullable
      = (Kotlin.Expr.subexpressionsOfAll bs).map Kotlin.Expr.isNullable
  | _, _, _, .nil => rfl
  | _, _, _, .cons he hes => by
    rw [Kotlin.Expr.subexpressionsOfAll, Kotlin.Expr.subexpressionsOfAll, List.map_append,
      List.map_append, he.map_isNullable_eq, hes.map_isNullable_eq]

end

/-- **The settings only rename classes.** The two Kotlin types of a Java type, and the two Kotlin
expressions of a Java expression, differ in nothing but the names of resolved classes, and the
same expressions inside them may be null. -/
theorem settings_rename_only :
    (∀ t : Ty, t.Agree (t.convert ⟨false⟩) (t.convert ⟨true⟩))
      ∧ ∀ e : Expr, e.Agree (e.convert ⟨false⟩) (e.convert ⟨true⟩)
        ∧ (e.convert ⟨false⟩).isNullable = (e.convert ⟨true⟩).isNullable
        ∧ (e.convert ⟨false⟩).subexpressions.map Kotlin.Expr.isNullable
            = (e.convert ⟨true⟩).subexpressions.map Kotlin.Expr.isNullable := by
  refine ⟨Ty.agree_convert, fun e => ?_⟩
  have hagree := e.agree_convert
  exact ⟨hagree, hagree.isNullable_eq, hagree.map_isNullable_eq⟩

end Kotlinize.Java
