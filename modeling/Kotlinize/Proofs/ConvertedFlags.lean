import Kotlinize.Proofs.ArrayCreation
import Kotlinize.Proofs.Origins
import Kotlinize.Proofs.Parts

/-!
# The flags of converted types

Java says of no type whether it admits null, so a conversion has to decide, and it
decides the same way everywhere: arrays and classes admit null, at every depth, and
nothing else does. The names in a converted type say nothing about null on their
own, and those of primitive types are escaped if they are keywords.

There are several places where arrays, classes and names are made: converting a
type, making up an argument for a raw use, and three ways of making a name. Each of
them is a case of what an origin becomes (`Origin.hasJavaFlags_convert`), and since
everything inside a converted type has an origin, nothing else is to be looked at.
Whether the type as a whole admits null, and how many levels of arrays it has, can
then be read off the Java type.
-/

namespace Kotlinize

/-! ## Flags and names in a Kotlin type

The flags of a type are asked for at its top only. Everything inside is at the top
of what some path leads to, names included. -/

namespace Kotlin.Ty

/-- **The flags that a conversion sets**, at the top of a type. -/
def HasJavaFlags : Ty → Prop
  | .primitive name => name.nullable = false ∧ name.quoted = true
  | .array _ nullable => nullable = true
  | .classType name _ nullable => name.nullable = false ∧ nullable = true
  | .starProjection => True
  | .outProjection _ => True
  | .inProjection _ => True
  | .vararg _ => True

/-- The name at the top of a type. -/
def name? : Ty → Option Identifier
  | .primitive name => some name
  | .classType name _ _ => some name
  | _ => none

/-- The name at the top has no flag of its own. -/
theorem HasJavaFlags.nullable_name {t : Ty} (h : t.HasJavaFlags) {id : Identifier}
    (hid : t.name? = some id) : id.nullable = false := by
  cases t with
  | primitive name =>
    cases hid
    exact h.1
  | classType name arguments nullable =>
    cases hid
    exact h.1
  | _ => cases hid

mutual

/-- **Every identifier of a type is the name at the end of a path.** -/
theorem exists_at?_of_mem_identifiers : ∀ (t : Ty) (id : Identifier), id ∈ t.identifiers →
    ∃ path s, t.at? path = some s ∧ s.name? = some id
  | .primitive name, id, h => by
    rw [List.mem_singleton.mp h]
    exact ⟨[], .primitive name, rfl, rfl⟩
  | .array element _, id, h => by
    obtain ⟨path, s, hs⟩ := exists_at?_of_mem_identifiers element id h
    exact ⟨.inside :: path, s, hs⟩
  | .classType name arguments nullable, id, h => by
    rcases List.mem_cons.mp h with rfl | h
    · exact ⟨[], .classType id arguments nullable, rfl, rfl⟩
    · obtain ⟨i, t, ht, path, s, hs, hname⟩ := exists_getElem?_of_mem_identifiers arguments id h
      refine ⟨.argument i :: path, s, ?_, hname⟩
      rw [at?_cons, part?, ht, Option.bind_some, hs]
  | .starProjection, id, h => absurd h List.not_mem_nil
  | .outProjection bound, id, h => by
    obtain ⟨path, s, hs⟩ := exists_at?_of_mem_identifiers bound id h
    exact ⟨.inside :: path, s, hs⟩
  | .inProjection bound, id, h => by
    obtain ⟨path, s, hs⟩ := exists_at?_of_mem_identifiers bound id h
    exact ⟨.inside :: path, s, hs⟩
  | .vararg component, id, h => by
    obtain ⟨path, s, hs⟩ := exists_at?_of_mem_identifiers component id h
    exact ⟨.inside :: path, s, hs⟩

/-- The same for several types, with the index of the one that has the identifier. -/
theorem exists_getElem?_of_mem_identifiers : ∀ (ts : List Ty) (id : Identifier),
    id ∈ identifiersOfAll ts →
    ∃ (i : Nat) (t : Ty), ts[i]? = some t ∧ ∃ path s, t.at? path = some s ∧ s.name? = some id
  | [], id, h => absurd h List.not_mem_nil
  | t :: rest, id, h => by
    rcases List.mem_append.mp h with h | h
    · exact ⟨0, t, rfl, exists_at?_of_mem_identifiers t id h⟩
    · obtain ⟨i, s, hs, hpath⟩ := exists_getElem?_of_mem_identifiers rest id h
      exact ⟨i + 1, s, hs, hpath⟩

end

end Kotlin.Ty

namespace Java

/-! ## Flags at the top

Each origin is looked at once. The name of a class comes from one of several
sources, and none of them sets a flag on it. -/

/-- The name of a primitive type has no flag and may be escaped, be the type known or not. -/
theorem hasJavaFlags_primitive (name : String) : (Conversion.primitive name).HasJavaFlags := by
  unfold Conversion.primitive
  split
  · exact ⟨rfl, rfl⟩
  · split <;> exact ⟨rfl, rfl⟩

/-- However a class is named, its name says nothing about null. -/
theorem nullable_identifier (config : Config) (c : ClassTy) :
    (Conversion.identifier config c).nullable = false := by
  unfold Conversion.identifier
  cases hfixed : Conversion.fixedIdentifier? config c with
  | none => cases Conversion.writtenName? c <;> rfl
  | some id =>
    -- two ways to a fixed name, and both make an identifier without flag
    unfold Conversion.fixedIdentifier? at hfixed
    cases hq : c.qualifiedName? with
    | none =>
      rw [hq] at hfixed
      cases hfixed
    | some q =>
      rw [hq] at hfixed
      simp only at hfixed
      split at hfixed
      · cases hfixed
        rfl
      · split at hfixed
        · cases hfixed
          rfl
        · cases hfixed

/-- **What an origin becomes has the flags of a conversion.** -/
theorem Origin.hasJavaFlags_convert (config : Config) (o : Origin) :
    (o.convert config).HasJavaFlags := by
  cases o with
  | parameter p =>
    cases hbounds : p.bounds with
    | nil =>
      rw [convert, p.argument_of_nil config hbounds]
      trivial
    | cons b rest =>
      rw [convert, p.argument_of_cons config hbounds]
      exact ⟨rfl, rfl⟩
  | type t =>
    cases t with
    | primitive name => exact hasJavaFlags_primitive name
    | array component => rfl
    | classType c =>
      rw [convert, Ty.convert, ClassTy.convert_eq]
      exact ⟨nullable_identifier config c, rfl⟩
    | wildcard bound =>
      cases bound with
      | none => trivial
      | some bound => cases bound <;> trivial
    | ellipsis component => trivial

/-- And so has everything inside a converted type. -/
theorem Ty.hasJavaFlags_of_at? {config : Config} {t : Ty} {path : List Kotlin.Ty.Direction}
    {k : Kotlin.Ty} (h : (t.convert config).at? path = some k) : k.HasJavaFlags := by
  obtain ⟨o, -, rfl⟩ := (Origin.at?_convert config (.type t) path k).mp h
  exact o.hasJavaFlags_convert config

/-! ## The type as a whole

Ellipses and bounded wildcards pass the question on to what is inside them, and so a
type may admit null without being an array or a class itself. -/

/-- **A type around another** that says nothing about null itself. -/
inductive Ty.Wraps : Ty → Ty → Prop
  | ellipsis {t : Ty} : Wraps (.ellipsis t) t
  | upper {t : Ty} : Wraps (.wildcard (some (.upper t))) t
  | lower {t : Ty} : Wraps (.wildcard (some (.lower t))) t

/-- **What is left of a type** when some outer ellipses and bounded wildcards are taken away. -/
inductive Ty.StripsTo : Ty → Ty → Prop
  | refl {t : Ty} : StripsTo t t
  | step {u t s : Ty} : Wraps u t → StripsTo t s → StripsTo u s

/-- **An array or a class.** -/
inductive Ty.IsReference : Ty → Prop
  | array {component : Ty} : IsReference (.array component)
  | classType {c : ClassTy} : IsReference (.classType c)

/-- The number of array levels around a type. -/
def Ty.outerArrays : Ty → Nat
  | .array component => component.outerArrays + 1
  | _ => 0

/-- What is taken away says nothing about null. -/
theorem Ty.StripsTo.isNullable_convert (config : Config) {t s : Ty} (h : t.StripsTo s) :
    (t.convert config).isNullable = (s.convert config).isNullable := by
  induction h with
  | refl => rfl
  | step hwraps _ ih => cases hwraps <;> exact ih

theorem Ty.IsReference.isNullable_convert (config : Config) {t : Ty} (h : t.IsReference) :
    (t.convert config).isNullable = true := by
  cases h with
  | array => rfl
  | @classType c =>
    rw [Ty.convert, ClassTy.convert_eq]
    rfl

/-- **Where null is admitted, an array or a class is left** below ellipses and wildcards. -/
theorem Ty.exists_stripsTo_of_isNullable (config : Config) : ∀ t : Ty,
    (t.convert config).isNullable = true → ∃ s, t.StripsTo s ∧ s.IsReference
  | .primitive name, h => by
    obtain ⟨id, hid⟩ := Conversion.exists_primitive_eq name
    rw [Ty.convert, hid] at h
    cases h
  | .array _, _ => ⟨_, .refl, .array⟩
  | .classType _, _ => ⟨_, .refl, .classType⟩
  | .wildcard none, h => nomatch h
  | .wildcard (some (.upper t)), h => by
    obtain ⟨s, hstrips, hs⟩ := t.exists_stripsTo_of_isNullable config h
    exact ⟨s, .step .upper hstrips, hs⟩
  | .wildcard (some (.lower t)), h => by
    obtain ⟨s, hstrips, hs⟩ := t.exists_stripsTo_of_isNullable config h
    exact ⟨s, .step .lower hstrips, hs⟩
  | .ellipsis t, h => by
    obtain ⟨s, hstrips, hs⟩ := t.exists_stripsTo_of_isNullable config h
    exact ⟨s, .step .ellipsis hstrips, hs⟩

/-- Levels of arrays are converted one for one. -/
theorem Ty.arrayDepth_convert (config : Config) (t : Ty) :
    (t.convert config).arrayDepth = t.outerArrays := by
  fun_induction Ty.outerArrays t with
  | case1 component ih =>
    show (component.convert config).arrayDepth + 1 = _
    rw [ih]
  | case2 t hnot => exact Kotlin.Ty.arrayDepth_of_not_isArray (Ty.isArray_convert hnot config)

/-- **Arrays and classes admit null in a converted type, and nothing else does.** At every depth the
flags of arrays and classes are set, the names of primitive types are escaped where they have to be,
and no name has a flag of its own. So the type as a whole admits null if and only if an array or a
class is left of the Java type below ellipses and bounded wildcards, and it has as many levels of
arrays as the Java type. -/
theorem only_references_admit_null (config : Config) (t : Ty) :
    (∀ path k, (t.convert config).at? path = some k →
      (∀ element nullable, k = .array element nullable → nullable = true)
        ∧ (∀ name arguments nullable, k = .classType name arguments nullable → nullable = true)
        ∧ ∀ name, k = .primitive name → name.quoted = true)
      ∧ (∀ id ∈ (t.convert config).identifiers, id.nullable = false)
      ∧ ((t.convert config).isNullable = true ↔ ∃ s, t.StripsTo s ∧ s.IsReference)
      ∧ (t.convert config).arrayDepth = t.outerArrays := by
  refine ⟨fun path k hk => ?_, fun id hid => ?_, ⟨t.exists_stripsTo_of_isNullable config, ?_⟩,
    t.arrayDepth_convert config⟩
  · have hflags := Ty.hasJavaFlags_of_at? hk
    refine ⟨?_, ?_, ?_⟩
    · rintro element nullable rfl
      exact hflags
    · rintro name arguments nullable rfl
      exact hflags.2
    · rintro name rfl
      exact hflags.2
  · obtain ⟨path, k, hk, hname⟩ := Kotlin.Ty.exists_at?_of_mem_identifiers _ id hid
    exact (Ty.hasJavaFlags_of_at? hk).nullable_name hname
  · rintro ⟨s, hstrips, hs⟩
    rw [hstrips.isNullable_convert config]
    exact hs.isNullable_convert config

end Java

end Kotlinize
