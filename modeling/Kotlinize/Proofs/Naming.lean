import Kotlinize.Proofs.ClassNames
import Kotlinize.Proofs.Origins

/-!
# The ways of naming a class

A class with a qualified name can be named by three routes. The settings may ask for
qualified names: then the name that the class resolved to is cut at its dots, and its
segments are escaped and joined again. Or the qualified name was written as a
reference: then the chain of qualifiers is walked, and its names are escaped and
joined. Or the class is named without its package, by the last segment, which is
escaped only when the name becomes code.

The routes agree for every text that can stand in the place of a qualified name, be
it empty, without dots, or with nothing between two dots. The first two give the same
code (`text_convert_written`), and the third gives the last segment of it
(`getLast?_segments_append_mark`). What is excepted are the classes that have a
Kotlin class in their place and the interfaces of iteration.
-/

namespace Kotlinize

namespace Kotlin

/-- The last segment of an escaped name with a mark behind it. -/
theorem getLast?_segments_append_mark (q : String) :
    (Text.segments (escapeDotted q ++ "?")).getLast?
      = some (escapeKeyword (Java.ClassTy.lastSegment q) ++ "?") := by
  have hne := Text.segments_ne_nil q
  have hlast : Java.ClassTy.lastSegment q = (Text.segments q).getLast hne := by
    rw [Java.ClassTy.lastSegment, List.getLastD_eq_getLast?, List.getLast?_eq_some_getLast hne]
    rfl
  -- the mark is no dot, so it goes to the last segment, which is the last one of the name, escaped
  rw [Text.segments_append (by decide), List.getLast?_concat, hlast]
  simp only [segments_escapeDotted, List.getLast_map]

end Kotlin

namespace Java

/-! ## References

A dotted text is made into a reference from its first segment on, each further one
around what is there already. Reading the names off again, from the outermost
qualifier on, gives the segments in their order. -/

/-- A reference that is built from the outside in has its names in their order. -/
theorem Reference.segments_foldl (names : List String) (r : Reference) :
    (names.foldl (fun qualifier name => ⟨name, some qualifier⟩) r).segments
      = r.segments ++ names := by
  induction names generalizing r with
  | nil => exact (List.append_nil _).symm
  | cons name rest ih =>
    rw [List.foldl_cons, ih, Reference.segments, List.append_assoc]
    rfl

/-- **The names of a dotted reference are the segments of the text.** -/
theorem Reference.segments_ofDotted (path : String) :
    (Reference.ofDotted path).segments = Text.segments path := by
  unfold Reference.ofDotted
  cases hsegments : Text.segments path with
  | nil => exact absurd hsegments (Text.segments_ne_nil path)
  | cons first rest => exact Reference.segments_foldl rest (.simple first)

/-- A reference without qualifier has one name. -/
theorem Reference.segments_of_not_isQualified {r : Reference} (h : r.isQualified = false) :
    r.segments = [r.name] := by
  obtain ⟨name, qualifier⟩ := r
  cases qualifier with
  | none => rfl
  | some qualifier => cases h

/-- A text that is written without qualifier has no dot. -/
theorem segments_of_not_isQualified {q : String}
    (h : (Reference.ofDotted q).isQualified = false) : Text.segments q = [q] := by
  have hone := Reference.segments_of_not_isQualified h
  rw [Reference.segments_ofDotted] at hone
  rw [hone, ← Text.eq_of_segments_eq_singleton hone]

/-! ## The three routes

Each route is followed from the class to its code, for a class without arguments.
The first two end in the same text, `escapeDotted q ++ "?"`, and no condition on `q`
is needed for the second. -/

/-- The code of a class without arguments is its name, with a mark. -/
theorem ClassTy.text_convert {config : Config} {c : ClassTy} (h : c.arguments config = []) :
    (c.convert config).text = (Conversion.identifier config c).text ++ "?" := by
  rw [ClassTy.convert_eq, h]
  show (Conversion.identifier config c).text ++ "" ++ "?" = _
  rw [String.append_empty]

/-- **By the name that the class resolved to**, cut at its dots. -/
theorem text_convert_qualified {q : String} (h : q ≠ Conversion.objectName) :
    ((ClassTy.resolved q).convert { fullyQualified := true }).text
      = Kotlin.escapeDotted q ++ "?" := by
  have hfixed : Conversion.fixedIdentifier? { fullyQualified := true } (.resolved q)
      = some (.verbatim (Kotlin.escapeDotted q)) :=
    if_pos ⟨h, rfl⟩
  rw [ClassTy.text_convert rfl, Conversion.identifier, hfixed]
  rfl

/-- A name that the table does not list has no Kotlin class in its place. -/
theorem kotlinClass?_of_notMem {q : String} (h : q ∉ Conversion.kotlinClasses.map Prod.fst) :
    Conversion.kotlinClass? q = none := by
  refine List.lookup_eq_none_iff.mpr fun p hp => ?_
  rw [bne_iff_ne]
  rintro rfl
  exact h (List.mem_map_of_mem hp)

/-- Without a Kotlin class in its place, a class is named by its own short name, or
by its canonical text if it has none. -/
theorem shortName_of_kotlinClass? {c : ClassTy}
    (h : Conversion.kotlinClass? c.canonicalText = none) :
    Conversion.shortName c = c.className.getD c.canonicalText := by
  rw [Conversion.shortName, h]

/-- A text without dots has no Kotlin class in its place. -/
theorem notMem_kotlinClasses_of_segments {q : String} (h : Text.segments q = [q]) :
    q ∉ Conversion.kotlinClasses.map Prod.fst := by
  have hall : ∀ java ∈ Conversion.kotlinClasses.map Prod.fst, Text.segments java ≠ [java] := by
    decide
  exact fun hmem => hall q hmem h

/-- **By the reference that was written**, walked from the last name back. -/
theorem text_convert_written (q : String) :
    (((ClassTy.ofCanonical q).withReference (.ofDotted q)).convert {}).text
      = Kotlin.escapeDotted q ++ "?" := by
  rw [ClassTy.text_convert rfl]
  cases hqualified : (Reference.ofDotted q).isQualified with
  | true =>
    have hwritten : Conversion.writtenName? ((ClassTy.ofCanonical q).withReference (.ofDotted q))
        = some (Kotlin.escapeDotted q) := by
      show (if (Reference.ofDotted q).isQualified then _ else none) = _
      rw [if_pos hqualified, Conversion.dottedName, Reference.segments_ofDotted]
      rfl
    rw [Conversion.identifier, hwritten]
    rfl
  | false =>
    -- no dot: the canonical text is the name, and it is escaped as a whole
    have hone := segments_of_not_isQualified hqualified
    have hwritten : Conversion.writtenName? ((ClassTy.ofCanonical q).withReference (.ofDotted q))
        = none := by
      show (if (Reference.ofDotted q).isQualified then _ else none) = _
      rw [hqualified]
      rfl
    have hshort : Conversion.shortName ((ClassTy.ofCanonical q).withReference (.ofDotted q)) = q :=
      shortName_of_kotlinClass? (kotlinClass?_of_notMem (notMem_kotlinClasses_of_segments hone))
    have hescape : Kotlin.escapeDotted q = Kotlin.escapeKeyword q := by
      rw [Kotlin.escapeDotted, hone, Kotlin.escapeSegments, List.map_singleton, Text.dotted,
        String.intercalate_singleton]
    rw [identifier_eq_shortName rfl hwritten, hshort, hescape]
    rfl

/-- **By the name without its package.** -/
theorem text_convert_short {q : String} (htable : q ∉ Conversion.kotlinClasses.map Prod.fst)
    (hiterable : q ≠ Conversion.iterableName) (hiterator : q ≠ Conversion.iteratorName) :
    ((ClassTy.resolved q).convert {}).text
      = Kotlin.escapeKeyword (ClassTy.lastSegment q) ++ "?" := by
  have hfixed : Conversion.fixedIdentifier? {} (.resolved q) = none := by
    show (if q ≠ Conversion.objectName ∧ false = true then _
      else if q = Conversion.iterableName ∨ q = Conversion.iteratorName then _ else none) = none
    rw [if_neg (by simp), if_neg (by simp [hiterable, hiterator])]
  have hshort : Conversion.shortName (.resolved q) = ClassTy.lastSegment q :=
    shortName_of_kotlinClass? (kotlinClass?_of_notMem htable)
  rw [ClassTy.text_convert rfl, identifier_eq_shortName hfixed rfl, hshort]
  rfl

/-- **The ways of naming a class agree**, for every text in the place of its qualified name. A class
that resolved to it is named, if the settings ask for qualified names, like a class that was not
resolved but written with that name. And unless the class has a Kotlin class in its place or is an
interface of iteration, the name without package is the last segment of that name. -/
theorem ways_of_naming_agree (q : String) (hobject : q ≠ Conversion.objectName) :
    let code := ((ClassTy.resolved q).convert { fullyQualified := true }).text
    code = (((ClassTy.ofCanonical q).withReference (.ofDotted q)).convert {}).text
      ∧ (q ∉ Conversion.kotlinClasses.map Prod.fst → q ≠ Conversion.iterableName →
        q ≠ Conversion.iteratorName →
        (Text.segments code).getLast? = some ((ClassTy.resolved q).convert {}).text) := by
  intro code
  have hcode : code = Kotlin.escapeDotted q ++ "?" := text_convert_qualified hobject
  rw [hcode]
  refine ⟨(text_convert_written q).symm, fun htable hiterable hiterator => ?_⟩
  rw [text_convert_short htable hiterable hiterator]
  exact Kotlin.getLast?_segments_append_mark q

/-- A text with an empty segment and with keywords, one of them at its end. -/
theorem ways_of_naming_agree_keywords :
    let q := "org..in.fun"
    q ≠ Conversion.objectName
      ∧ ((ClassTy.resolved q).convert { fullyQualified := true }).text = "org..`in`.`fun`?"
      ∧ (((ClassTy.ofCanonical q).withReference (.ofDotted q)).convert {}).text
        = "org..`in`.`fun`?"
      ∧ ((ClassTy.resolved q).convert {}).text = "`fun`?" := by
  intro q
  have hobject : q ≠ Conversion.objectName := by decide
  obtain ⟨hsame, hlast⟩ := ways_of_naming_agree q hobject
  have hcode : ((ClassTy.resolved q).convert { fullyQualified := true }).text
      = "org..`in`.`fun`?" := by
    decide +kernel
  refine ⟨hobject, hcode, hsame.symm.trans hcode, ?_⟩
  have hshort := hlast (by decide) (by decide) (by decide)
  rw [hcode] at hshort
  exact (Option.some.inj hshort).symm

end Java

end Kotlinize
