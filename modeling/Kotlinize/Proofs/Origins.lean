import Kotlinize.Conversion.Types

/-!
# Where the parts of a converted type come from

A Kotlin type has parts: the element of an array, the arguments of a class, what is
below a projection. A path through these parts leads to any type inside it
(`Kotlin.Ty.at?`). For a converted type this module says what stands at the end of
each path.

Most parts are converted from a Java type of their own, but not all: a raw use of a
class has arguments that were made up from the type parameters of its declaration,
and only inside these does one meet Java types again. So a part comes from a Java
type or from a type parameter, its `Origin`. What the parts of one origin come from
is said by `Origin.Part`, case by case, and agrees with the parts of what it is
converted to (`Origin.part?_convert`); along a path this is `Origin.at?_convert`.
Statements about types at any depth of a converted type become statements about one
origin, and the number of the arguments of a class is the first of them.
-/

namespace Kotlinize

/-! ## Paths through a Kotlin type

A path makes it possible to speak about one occurrence of a type inside another,
where a list of all parts would not tell two equal ones apart. -/

namespace Kotlin.Ty

/-- **A direction in which a part of a type lies.** -/
inductive Direction where
  /-- The element of an array, or what is below a projection or a variable-arity parameter. -/
  | inside
  /-- The argument of a class with the given index. -/
  | argument (index : Nat)
deriving DecidableEq

/-- **The part of a type in a direction.** -/
def part? : Ty → Direction → Option Ty
  | .array element _, .inside => some element
  | .outProjection bound, .inside => some bound
  | .inProjection bound, .inside => some bound
  | .vararg component, .inside => some component
  | .classType _ arguments _, .argument i => arguments[i]?
  | _, _ => none

/-- **The type at the end of a path** from part to part. -/
def at? : Ty → List Direction → Option Ty
  | t, [] => some t
  | t, d :: path => (t.part? d).bind fun s => s.at? path

@[simp] theorem at?_nil (t : Ty) : t.at? [] = some t := rfl

@[simp] theorem at?_cons (t : Ty) (d : Direction) (path : List Direction) :
    t.at? (d :: path) = (t.part? d).bind fun s => s.at? path := rfl

end Kotlin.Ty

namespace Java

open Kotlin.Ty (Direction)

/-! ## Arguments

Conversion walks through type arguments and type parameters by recursions of its
own, because these contain types again. Here they become maps over lists, which can
be indexed. -/

/-- Written type arguments are converted one by one. -/
theorem Ty.convertAll_eq_map (config : Config) (ts : List Ty) :
    Ty.convertAll config ts = ts.map (Ty.convert config) := by
  induction ts with
  | nil => rfl
  | cons t rest ih => rw [Ty.convertAll, ih, List.map_cons]

/-- The argument that is made up for a type parameter. -/
def TypeParameter.argument (config : Config) (p : TypeParameter) : Kotlin.Ty :=
  ClassTy.convertBounds config p.bounds

/-- One argument is made up for each type parameter. -/
theorem TypeParameter.rawArguments_eq_map (config : Config) (ps : List TypeParameter) :
    TypeParameter.rawArguments config ps = ps.map (TypeParameter.argument config) := by
  induction ps with
  | nil => rfl
  | cons p rest ih =>
    obtain ⟨name, bounds⟩ := p
    rw [TypeParameter.rawArguments, ih]
    rfl

/-- A type parameter without bounds is replaced by `*`. -/
theorem TypeParameter.argument_of_nil (config : Config) {p : TypeParameter} (h : p.bounds = []) :
    p.argument config = .starProjection := by
  unfold TypeParameter.argument
  rw [h]
  rfl

/-- **The first bound stands for a type parameter**, with its own arguments. -/
theorem TypeParameter.argument_of_cons (config : Config) {p : TypeParameter} {b : ClassTy}
    {rest : List ClassTy} (h : p.bounds = b :: rest) :
    p.argument config = .classType (.plain (Conversion.shortName b))
      (b.parameters.map (Ty.convert config)) true := by
  obtain ⟨canonicalText, className, parameters, reference, declaration⟩ := b
  unfold TypeParameter.argument
  rw [h, ← Ty.convertAll_eq_map]
  rfl

/-- A bound is never lost: `*` stands for parameters without bounds only. -/
theorem TypeParameter.argument_eq_starProjection_iff (config : Config) (p : TypeParameter) :
    p.argument config = .starProjection ↔ p.bounds = [] := by
  refine ⟨fun hstar => ?_, p.argument_of_nil config⟩
  cases hbounds : p.bounds with
  | nil => rfl
  | cons b rest =>
    rw [p.argument_of_cons config hbounds] at hstar
    cases hstar

/-- **The arguments of a class in Kotlin**: those that were written, or one for each declared type
parameter if none was. -/
def ClassTy.arguments (config : Config) (c : ClassTy) : List Kotlin.Ty :=
  if c.parameters = [] then c.declaredParameters.map (TypeParameter.argument config)
  else c.parameters.map (Ty.convert config)

/-- **What a class type becomes**: its name, its arguments, and the flag for null. -/
theorem ClassTy.convert_eq (config : Config) (c : ClassTy) :
    c.convert config
      = .classType (Conversion.identifier config c) (c.arguments config) true := by
  obtain ⟨canonicalText, className, parameters, reference, declaration⟩ := c
  unfold ClassTy.arguments
  cases parameters with
  | cons p rest =>
    rw [if_neg (List.cons_ne_nil p rest), ← Ty.convertAll_eq_map]
    rfl
  | nil =>
    rw [if_pos rfl, ← TypeParameter.rawArguments_eq_map]
    cases declaration with
    | none => rfl
    | some d =>
      obtain ⟨qualifiedName, typeParameters⟩ := d
      rfl

/-! ## Origins

Two kinds of things become Kotlin types, and the arguments made up for a raw use are
not converted from any Java type. With both kinds among the origins, the parts of
what an origin becomes have origins again, and paths can be followed. -/

/-- **What a part of a converted type comes from.** -/
inductive Origin where
  /-- A Java type, which the part was converted from. -/
  | type (t : Ty)
  /-- A type parameter, which the part was made up for. -/
  | parameter (p : TypeParameter)

namespace Origin

/-- The Kotlin type for an origin. -/
def convert (config : Config) : Origin → Kotlin.Ty
  | type t => t.convert config
  | parameter p => p.argument config

/-- **The origins that the parts of an origin have.** -/
inductive Part : Origin → Direction → Origin → Prop
  | component {t : Ty} : Part (type (.array t)) .inside (type t)
  | upper {t : Ty} : Part (type (.wildcard (some (.upper t)))) .inside (type t)
  | lower {t : Ty} : Part (type (.wildcard (some (.lower t)))) .inside (type t)
  | ellipsis {t : Ty} : Part (type (.ellipsis t)) .inside (type t)
  /-- A type argument that was written. -/
  | argument {c : ClassTy} {i : Nat} {t : Ty} :
    c.parameters[i]? = some t → Part (type (.classType c)) (.argument i) (type t)
  /-- A type parameter of the declaration, if no type argument was written. -/
  | raw {c : ClassTy} {i : Nat} {p : TypeParameter} :
    c.parameters = [] → c.declaredParameters[i]? = some p →
    Part (type (.classType c)) (.argument i) (parameter p)
  /-- A type argument of the first bound. -/
  | bound {p : TypeParameter} {b : ClassTy} {rest : List ClassTy} {i : Nat} {t : Ty} :
    p.bounds = b :: rest → b.parameters[i]? = some t →
    Part (parameter p) (.argument i) (type t)

/-- **The origin at the end of a path** from part to part. -/
inductive At : Origin → List Direction → Origin → Prop
  | nil {o : Origin} : At o [] o
  | cons {o o' o'' : Origin} {d : Direction} {path : List Direction} :
    Part o d o' → At o' path o'' → At o (d :: path) o''

/-- The part of a class in a direction is one of its arguments. -/
theorem getElem?_arguments (config : Config) {c : ClassTy} {i : Nat} {k : Kotlin.Ty} :
    (c.arguments config)[i]? = some k
      ↔ ∃ o, Part (type (.classType c)) (.argument i) o ∧ o.convert config = k := by
  unfold ClassTy.arguments
  -- written arguments and made-up ones are never mixed in one use
  by_cases hraw : c.parameters = []
  · rw [if_pos hraw, List.getElem?_map, Option.map_eq_some_iff]
    constructor
    · rintro ⟨p, hp, rfl⟩
      exact ⟨parameter p, .raw hraw hp, rfl⟩
    · rintro ⟨o, hpart, rfl⟩
      cases hpart with
      | argument ht => simp [hraw] at ht
      | raw _ hp => exact ⟨_, hp, rfl⟩
  · rw [if_neg hraw, List.getElem?_map, Option.map_eq_some_iff]
    constructor
    · rintro ⟨t, ht, rfl⟩
      exact ⟨type t, .argument ht, rfl⟩
    · rintro ⟨o, hpart, rfl⟩
      cases hpart with
      | argument ht => exact ⟨_, ht, rfl⟩
      | raw hnil _ => exact absurd hnil hraw

/-- **The parts of what an origin becomes** are what the parts of the origin become. -/
theorem part?_convert (config : Config) (o : Origin) (d : Direction) (k : Kotlin.Ty) :
    (o.convert config).part? d = some k ↔ ∃ o', Part o d o' ∧ o'.convert config = k := by
  constructor
  · intro h
    -- each origin becomes a Kotlin type whose constructor fixes the directions that lead on
    cases o with
    | parameter p =>
      cases hbounds : p.bounds with
      | nil =>
        rw [convert, p.argument_of_nil config hbounds] at h
        cases h
      | cons b rest =>
        rw [convert, p.argument_of_cons config hbounds] at h
        cases d with
        | inside => cases h
        | argument i =>
          rw [Kotlin.Ty.part?, List.getElem?_map, Option.map_eq_some_iff] at h
          obtain ⟨t, ht, rfl⟩ := h
          exact ⟨type t, .bound hbounds ht, rfl⟩
    | type t =>
      cases t with
      | primitive name =>
        obtain ⟨id, hid⟩ := Conversion.exists_primitive_eq name
        rw [convert, Ty.convert, hid] at h
        cases h
      | array component =>
        cases d with
        | inside => exact ⟨_, .component, Option.some.inj h⟩
        | argument i => cases h
      | classType c =>
        rw [convert, Ty.convert, ClassTy.convert_eq] at h
        cases d with
        | inside => cases h
        | argument i => exact (getElem?_arguments config).mp h
      | wildcard bound =>
        cases bound with
        | none => cases h
        | some bound =>
          cases d with
          | argument i => cases bound <;> cases h
          | inside =>
            cases bound with
            | upper t => exact ⟨_, .upper, Option.some.inj h⟩
            | lower t => exact ⟨_, .lower, Option.some.inj h⟩
      | ellipsis component =>
        cases d with
        | inside => exact ⟨_, .ellipsis, Option.some.inj h⟩
        | argument i => cases h
  · rintro ⟨o', hpart, rfl⟩
    cases hpart with
    | component | upper | lower | ellipsis => rfl
    | argument ht =>
      rw [convert, Ty.convert, ClassTy.convert_eq]
      exact (getElem?_arguments config).mpr ⟨_, .argument ht, rfl⟩
    | raw hnil hp =>
      rw [convert, Ty.convert, ClassTy.convert_eq]
      exact (getElem?_arguments config).mpr ⟨_, .raw hnil hp, rfl⟩
    | @bound p b rest i t hbounds ht =>
      show (p.argument config).part? (.argument i) = some (t.convert config)
      rw [p.argument_of_cons config hbounds, Kotlin.Ty.part?, List.getElem?_map, ht]
      rfl

/-- **Along a path the same holds.** -/
theorem at?_convert (config : Config) (o : Origin) (path : List Direction) (k : Kotlin.Ty) :
    (o.convert config).at? path = some k ↔ ∃ o', At o path o' ∧ o'.convert config = k := by
  induction path generalizing o with
  | nil =>
    rw [Kotlin.Ty.at?_nil, Option.some_inj]
    constructor
    · intro h
      exact ⟨o, .nil, h⟩
    · rintro ⟨o', ⟨⟩, h⟩
      exact h
  | cons d path ih =>
    rw [Kotlin.Ty.at?_cons, Option.bind_eq_some_iff]
    constructor
    · rintro ⟨s, hs, hk⟩
      -- the Kotlin type one step on comes from a part, and the rest of the path starts there
      obtain ⟨o', hpart, rfl⟩ := (part?_convert config o d s).mp hs
      obtain ⟨o'', hat, rfl⟩ := (ih o').mp hk
      exact ⟨o'', .cons hpart hat, rfl⟩
    · rintro ⟨o'', hat, rfl⟩
      cases hat with
      | cons hpart hat =>
        exact ⟨_, (part?_convert config o d _).mpr ⟨_, hpart, rfl⟩, (ih _).mpr ⟨o'', hat, rfl⟩⟩

end Origin

/-! ## Numbers of arguments

A class in a converted type is a use of a class, or it stands for a type parameter
with a bound. For the uses, written arguments and declared parameters decide how
many arguments there are; the bounds keep their own. -/

/-- **A use of a class that conversion reaches** in a type, at the end of a path. -/
def Ty.Reaches (t : Ty) (path : List Direction) (c : ClassTy) : Prop :=
  Origin.At (.type t) path (.type (.classType c))

/-- The Kotlin type at the end of the path to a use of a class. -/
theorem Ty.Reaches.at?_convert {t : Ty} {path : List Direction} {c : ClassTy}
    (h : t.Reaches path c) (config : Config) :
    (t.convert config).at? path
      = some (.classType (Conversion.identifier config c) (c.arguments config) true) :=
  (Origin.at?_convert config (.type t) path _).mpr ⟨_, h, c.convert_eq config⟩

/-- Nothing else than a class or a type parameter with a bound becomes a class. -/
theorem Origin.cases_of_convert_eq_classType {config : Config} {o : Origin}
    {name : Kotlin.Identifier} {arguments : List Kotlin.Ty} {nullable : Bool}
    (h : o.convert config = .classType name arguments nullable) :
    (∃ c, o = .type (.classType c)) ∨ ∃ p b rest, o = .parameter p ∧ p.bounds = b :: rest := by
  cases o with
  | parameter p =>
    cases hbounds : p.bounds with
    | nil =>
      rw [convert, p.argument_of_nil config hbounds] at h
      cases h
    | cons b rest => exact .inr ⟨p, b, rest, rfl, hbounds⟩
  | type t =>
    cases t with
    | primitive name =>
      obtain ⟨id, hid⟩ := Conversion.exists_primitive_eq name
      rw [convert, Ty.convert, hid] at h
      cases h
    | array component => cases h
    | classType c => exact .inl ⟨c, rfl⟩
    | wildcard bound =>
      cases bound with
      | none => cases h
      | some bound => cases bound <;> cases h
    | ellipsis component => cases h

/-- **A class has as many arguments as were written, or as its declaration asks for**, at every
depth of a converted type. If type arguments were written, they are converted one by one. Otherwise
there is one argument for each declared type parameter, and none if the class was not resolved: `*`
for a parameter without bounds, and else the first of its bounds, whatever further ones there are.
Apart from these bounds every class in the converted type is one that conversion reaches. -/
theorem arguments_at_every_depth (config : Config) (t : Ty) :
    (∀ path c, t.Reaches path c →
      ∃ arguments, (t.convert config).at? path
          = some (.classType (Conversion.identifier config c) arguments true)
        ∧ (c.parameters ≠ [] → arguments = c.parameters.map (Ty.convert config))
        ∧ (c.parameters = [] → c.declaration = none → arguments = [])
        ∧ (c.parameters = [] → arguments.length = c.declaredParameters.length
          ∧ ∀ (i : Nat) (p : TypeParameter), c.declaredParameters[i]? = some p →
            ∃ a, arguments[i]? = some a ∧ (a = .starProjection ↔ p.bounds = [])
              ∧ ∀ b rest, p.bounds = b :: rest →
                a = .classType (.plain (Conversion.shortName b))
                  (b.parameters.map (Ty.convert config)) true))
      ∧ ∀ path name arguments nullable,
        (t.convert config).at? path = some (.classType name arguments nullable) →
          (∃ c, t.Reaches path c)
            ∨ ∃ p b rest, Origin.At (.type t) path (.parameter p) ∧ p.bounds = b :: rest := by
  refine ⟨fun path c hreaches => ?_, fun path name arguments nullable hat => ?_⟩
  · refine ⟨_, hreaches.at?_convert config, ?_, ?_, ?_⟩
    · intro hne
      exact if_neg hne
    · intro hnil hunresolved
      rw [ClassTy.arguments, if_pos hnil, ClassTy.declaredParameters, hunresolved]
      rfl
    · intro hnil
      rw [ClassTy.arguments, if_pos hnil]
      refine ⟨List.length_map _, fun i p hp => ⟨p.argument config, ?_, ?_, ?_⟩⟩
      · rw [List.getElem?_map, hp]
        rfl
      · exact p.argument_eq_starProjection_iff config
      · exact fun b rest hbounds => p.argument_of_cons config hbounds
  · obtain ⟨o, hat, hconvert⟩ := (Origin.at?_convert config (.type t) path _).mp hat
    rcases Origin.cases_of_convert_eq_classType hconvert with ⟨c, rfl⟩ | ⟨p, b, rest, rfl, hbounds⟩
    · exact .inl ⟨c, hat⟩
    · exact .inr ⟨p, b, rest, hat, hbounds⟩

/-- A raw use with two type parameters: the second has two bounds, and inside the first of them
stands another raw use. -/
theorem arguments_at_every_depth_bounds :
    let list := (ClassTy.ofCanonical "List").withTypeParameters [⟨"E", []⟩]
    let comparable := (ClassTy.ofCanonical "Comparable").withParameters [.classType list]
    let map := (ClassTy.ofCanonical "Map").withTypeParameters
      [⟨"K", []⟩, ⟨"V", [comparable, .ofCanonical "Serializable"]⟩]
    let t : Ty := .array (.classType map)
    t.Reaches [.inside, .argument 1, .argument 0] list
      ∧ (∃ a, (t.convert {}).at? [.inside, .argument 1, .argument 0]
        = some (.classType (.plain "List") [a] true))
      ∧ (t.convert {}).text = "Array<Map<*, Comparable<List<*>?>?>?>?" := by
  intro list comparable map t
  have hreaches : t.Reaches [.inside, .argument 1, .argument 0] list :=
    .cons .component (.cons (.raw rfl rfl) (.cons (.bound rfl rfl) .nil))
  refine ⟨hreaches, ?_, by decide +kernel⟩
  obtain ⟨arguments, hat, -, -, hraw⟩ := (arguments_at_every_depth {} t).1 _ _ hreaches
  obtain ⟨a, rfl⟩ := List.length_eq_one_iff.mp (hraw rfl).1
  exact ⟨a, hat⟩

end Java

end Kotlinize
