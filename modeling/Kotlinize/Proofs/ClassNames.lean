import Kotlinize.Conversion.Types
import Kotlinize.Proofs.DottedNames
import Mathlib.Data.List.TakeWhile

/-!
# The names of converted classes

Every class in a converted type has a Kotlin name, taken from one of several
sources: the qualified name that the class resolved to, the reference that was
written, the Kotlin class in its place, its short name, or its canonical text.
This module says which of these sources give a name that Kotlin can read, which
is a dotted sequence of identifiers with the keywords among them in backquotes.

All of them do if the Java names are identifiers themselves, up to the last one.
A canonical text is used in full: where it has type arguments, they become a part
of the name.

What may stand in an identifier beyond visible ASCII is a matter of character
tables that the conversion never looks at, so it is a parameter here, the
`Alphabet`. The uses of classes that a type consists of are listed by `Ty.uses`,
in the order in which the Kotlin type names them.
-/

namespace Kotlinize

/-! ## Identifiers

Within visible ASCII both languages agree on what an identifier is made of, and
nothing that separates names or encloses arguments is among it. That is all that the
statements below use, so they hold for every choice of the other characters. -/

/-- **The characters of identifiers** outside visible ASCII. -/
structure Alphabet where
  /-- Whether an identifier may begin with the character. -/
  begins : Char → Bool
  /-- Whether an identifier may go on with the character. -/
  goesOn : Char → Bool

namespace Alphabet

variable (a : Alphabet)

/-- Whether a character is one of visible ASCII or a blank. -/
def isVisible (c : Char) : Bool :=
  ' ' ≤ c && c ≤ '~'

/-- Whether an identifier may begin with a character. -/
def isFirst (c : Char) : Bool :=
  if isVisible c then c.isAlpha || c == '_' || c == '$' else a.begins c

/-- Whether an identifier may go on with a character. -/
def isFurther (c : Char) : Bool :=
  if isVisible c then c.isAlphanum || c == '_' || c == '$' else a.goesOn c

/-- **Whether a text is an identifier.** -/
def isIdentifier (s : String) : Bool :=
  match s.toList with
  | [] => false
  | c :: rest => a.isFirst c && rest.all a.isFurther

/-- **Whether a text is a dotted sequence of identifiers.** -/
def isDotted (s : String) : Bool :=
  (Text.segments s).all a.isIdentifier

end Alphabet

namespace Text

/-- A canonical text up to its type arguments. -/
def beforeArguments (s : String) : String :=
  String.ofList (s.toList.takeWhile (· != '<'))

/-- The type arguments of a canonical text, in their angle brackets; nothing if there are none. -/
def typeArguments (s : String) : String :=
  String.ofList (s.toList.dropWhile (· != '<'))

end Text

/-- **Whether a text is canonical**: a dotted name, possibly with type arguments after it. -/
def Alphabet.isCanonical (a : Alphabet) (s : String) : Bool :=
  a.isDotted (Text.beforeArguments s)
    && (Text.typeArguments s == "" || (Text.typeArguments s).toList.getLast? == some '>')

/-- Whether what names a use of a class is made of identifiers. -/
def Java.ClassTy.hasIdentifiers (a : Alphabet) (c : ClassTy) : Bool :=
  a.isCanonical c.canonicalText && c.className.all a.isIdentifier
    && c.reference.all (fun r => r.segments.all a.isIdentifier)
    && c.qualifiedName?.all a.isDotted

/-! ## Kotlin names

Only the keywords that Java does not have are of interest, since no others can come
from Java names. -/

namespace Kotlin

/-- Whether Kotlin reads a text as one segment of a name: an identifier that is no keyword, or a
keyword in backquotes. -/
def isSegment (a : Alphabet) (s : String) : Bool :=
  (a.isIdentifier s && !isKeyword s) || keywords.any fun k => s == "`" ++ k ++ "`"

/-- **Whether Kotlin reads a text as a name**, possibly dotted. -/
def isName (a : Alphabet) (s : String) : Bool :=
  (Text.segments s).all (isSegment a)

mutual

/-- **The names of the classes in a type**, from left to right. -/
def Ty.classNames : Ty → List Identifier
  | .primitive _ => []
  | .array element _ => element.classNames
  | .classType name arguments _ => name :: Ty.classNamesOfAll arguments
  | .starProjection => []
  | .outProjection bound => bound.classNames
  | .inProjection bound => bound.classNames
  | .vararg component => component.classNames

/-- The names of the classes in several types. -/
def Ty.classNamesOfAll : List Ty → List Identifier
  | [] => []
  | t :: rest => t.classNames ++ Ty.classNamesOfAll rest

end

end Kotlin

/-! ## Uses of classes

A class is used where a type names it. It is also used where a raw type leaves out
its arguments: the first bound of each type parameter stands in for the argument,
and it is named in a way of its own, always without its package. -/

namespace Java

/-- Whether a class has a name without its package: that of the Kotlin class in its place, or its
short name. -/
def ClassTy.hasShortName (c : ClassTy) : Bool :=
  (Conversion.kotlinClass? c.canonicalText).isSome || c.className.isSome

/-- **A use of a class that gets a name of its own.** -/
inductive ClassUse where
  /-- A class that the type itself names. -/
  | named (type : ClassTy)
  /-- The bound of a type parameter, in the place of an argument that a raw use leaves out. -/
  | bound (type : ClassTy)

namespace ClassUse

/-- The class that is used. -/
def type : ClassUse → ClassTy
  | named c => c
  | bound c => c

/-- The Kotlin name of the class. -/
def identifier (config : Config) : ClassUse → Kotlin.Identifier
  | named c => Conversion.identifier config c
  | bound c => .plain (Conversion.shortName c)

/-- **Whether nothing but the canonical text is left to name the class.** -/
def isNamedByText (config : Config) : ClassUse → Bool
  | named c => (Conversion.fixedIdentifier? config c).isNone
    && (Conversion.writtenName? c).isNone && !c.hasShortName
  | bound c => !c.hasShortName

end ClassUse

mutual

/-- **The uses of classes in a type**, from left to right. -/
def Ty.uses : Ty → List ClassUse
  | .primitive _ => []
  | .array component => component.uses
  | .classType c => c.uses
  | .wildcard none => []
  | .wildcard (some bound) => bound.uses
  | .ellipsis component => component.uses

/-- The uses of classes in the bound of a wildcard. -/
def Bound.uses : Bound → List ClassUse
  | .upper t => t.uses
  | .lower t => t.uses

/-- The uses of classes in a class type: its own, and those in its arguments. -/
def ClassTy.uses : ClassTy → List ClassUse
  | ⟨canonicalText, className, parameters, reference, declaration⟩ =>
    .named ⟨canonicalText, className, parameters, reference, declaration⟩ ::
      (match parameters, declaration with
        | [], some d => d.rawUses
        | parameters, _ => Ty.usesOfAll parameters)

/-- The uses of classes in the arguments for a raw use. -/
def Declaration.rawUses : Declaration → List ClassUse
  | ⟨_, typeParameters⟩ => TypeParameter.rawUses typeParameters

/-- The uses of classes in the arguments for type parameters. -/
def TypeParameter.rawUses : List TypeParameter → List ClassUse
  | [] => []
  | ⟨_, bounds⟩ :: rest => ClassTy.boundUses bounds ++ TypeParameter.rawUses rest

/-- The uses of classes in the argument for a type parameter with the given bounds. -/
def ClassTy.boundUses : List ClassTy → List ClassUse
  | [] => []
  | ⟨canonicalText, className, parameters, reference, declaration⟩ :: _ =>
    .bound ⟨canonicalText, className, parameters, reference, declaration⟩ ::
      Ty.usesOfAll parameters

/-- The uses of classes in several types. -/
def Ty.usesOfAll : List Ty → List ClassUse
  | [] => []
  | t :: rest => t.uses ++ Ty.usesOfAll rest

end

mutual

/-- **A converted type names the classes that are used, in their order.** -/
theorem Ty.classNames_convert (config : Config) :
    ∀ t : Ty, (t.convert config).classNames = t.uses.map (ClassUse.identifier config)
  | .primitive name => by
    obtain ⟨id, hid⟩ := Conversion.exists_primitive_eq name
    rw [Ty.convert, hid]
    rfl
  | .array component => component.classNames_convert config
  | .classType c => c.classNames_convert config
  | .wildcard none => rfl
  | .wildcard (some bound) => bound.classNames_convert config
  | .ellipsis component => component.classNames_convert config

/-- The classes in the bound of a wildcard. -/
theorem Bound.classNames_convert (config : Config) :
    ∀ b : Bound, (b.convert config).classNames = b.uses.map (ClassUse.identifier config)
  | .upper t => t.classNames_convert config
  | .lower t => t.classNames_convert config

/-- A class type names its own class first, and then those in its arguments. -/
theorem ClassTy.classNames_convert (config : Config) :
    ∀ c : ClassTy, (c.convert config).classNames = c.uses.map (ClassUse.identifier config)
  | ⟨_, _, [], _, some d⟩ => congrArg (_ :: ·) (d.classNames_rawArguments config)
  | ⟨_, _, [], _, none⟩ => rfl
  | ⟨_, _, p :: rest, _, _⟩ => congrArg (_ :: ·) (Ty.classNames_convertAll config (p :: rest))

theorem Declaration.classNames_rawArguments (config : Config) :
    ∀ d : Declaration,
      Kotlin.Ty.classNamesOfAll (d.rawArguments config)
        = d.rawUses.map (ClassUse.identifier config)
  | ⟨_, typeParameters⟩ => TypeParameter.classNames_rawArguments config typeParameters

/-- The classes in the arguments that a raw use leaves out, one parameter after another. -/
theorem TypeParameter.classNames_rawArguments (config : Config) :
    ∀ ps : List TypeParameter,
      Kotlin.Ty.classNamesOfAll (TypeParameter.rawArguments config ps)
        = (TypeParameter.rawUses ps).map (ClassUse.identifier config)
  | [] => rfl
  | ⟨_, bounds⟩ :: rest => by
    rw [TypeParameter.rawArguments, Kotlin.Ty.classNamesOfAll, TypeParameter.rawUses,
      List.map_append, ClassTy.classNames_convertBounds config bounds,
      TypeParameter.classNames_rawArguments config rest]

theorem ClassTy.classNames_convertBounds (config : Config) :
    ∀ bounds : List ClassTy,
      (ClassTy.convertBounds config bounds).classNames
        = (ClassTy.boundUses bounds).map (ClassUse.identifier config)
  | [] => rfl
  | ⟨_, _, parameters, _, _⟩ :: _ =>
    congrArg (_ :: ·) (Ty.classNames_convertAll config parameters)

theorem Ty.classNames_convertAll (config : Config) :
    ∀ ts : List Ty,
      Kotlin.Ty.classNamesOfAll (Ty.convertAll config ts)
        = (Ty.usesOfAll ts).map (ClassUse.identifier config)
  | [] => rfl
  | t :: rest => by
    rw [Ty.convertAll, Kotlin.Ty.classNamesOfAll, Ty.usesOfAll, List.map_append,
      t.classNames_convert config, Ty.classNames_convertAll config rest]

end

end Java

/-! ## Dotted sequences of identifiers

An identifier has no dot and no angle bracket in it. So the segments of a dotted
sequence are the identifiers that it was made of, and escaping them one by one gives
a name. -/

namespace Text

/-- A canonical text without type arguments is all that stands before them. -/
theorem beforeArguments_of_typeArguments {s : String} (h : typeArguments s = "") :
    beforeArguments s = s := by
  have hdrop : s.toList.dropWhile (· != '<') = [] := by
    simpa [typeArguments] using h
  have hsplit := List.takeWhile_append_dropWhile (p := (· != '<')) (l := s.toList)
  rw [hdrop, List.append_nil] at hsplit
  rw [beforeArguments, hsplit, String.ofList_toList]

/-- Type arguments begin with an angle bracket. -/
theorem mem_of_typeArguments {s : String} (h : typeArguments s ≠ "") : '<' ∈ s.toList := by
  refine Classical.byContradiction fun hmem => h ?_
  have hall : ∀ c ∈ s.toList, (c != '<') = true := by
    intro c hc
    rw [bne_iff_ne]
    rintro rfl
    exact hmem hc
  rw [typeArguments, List.dropWhile_eq_nil_iff.mpr hall]

end Text

namespace Alphabet

variable {a : Alphabet}

/-- What an identifier may begin with, it may go on with. -/
theorem isFurther_of_isFirst {c : Char} (hvisible : isVisible c) (h : a.isFirst c) :
    a.isFurther c := by
  rw [isFirst, if_pos hvisible] at h
  rw [isFurther, if_pos hvisible]
  simp only [Bool.or_eq_true] at h ⊢
  rcases h with (h | h) | h
  · exact .inl (.inl (by simp [Char.isAlphanum, h]))
  · exact .inl (.inr h)
  · exact .inr h

/-- An identifier holds no visible character but letters, digits, `_` and `$`. -/
theorem isFurther_of_mem {s : String} (h : a.isIdentifier s) {c : Char} (hc : c ∈ s.toList)
    (hvisible : isVisible c) : a.isFurther c := by
  unfold isIdentifier at h
  split at h
  · cases h
  · rename_i first rest heq
    rw [Bool.and_eq_true, List.all_eq_true] at h
    rw [heq, List.mem_cons] at hc
    rcases hc with rfl | hc
    · exact isFurther_of_isFirst hvisible h.1
    · exact h.2 c hc

/-- An identifier has no dots. -/
theorem dot_notMem {s : String} (h : a.isIdentifier s) : '.' ∉ s.toList := fun hmem =>
  absurd (isFurther_of_mem h hmem (by decide)) (by simp [isFurther, isVisible])

end Alphabet

namespace Kotlin

variable {a : Alphabet}

/-- **An identifier is a segment of a name once it is escaped**, be it a keyword or not. -/
theorem isSegment_escapeKeyword {s : String} (h : a.isIdentifier s) :
    isSegment a (escapeKeyword s) := by
  unfold escapeKeyword isSegment
  by_cases hkeyword : isKeyword s
  · rw [if_pos hkeyword, Bool.or_eq_true, List.any_eq_true]
    exact .inr ⟨s, by simpa [isKeyword] using hkeyword, beq_self_eq_true _⟩
  · rw [if_neg hkeyword]
    simp [h, hkeyword]

/-- **Identifiers escaped one by one make a name.** -/
theorem isName_escapeSegments {names : List String} (hne : names ≠ [])
    (h : ∀ name ∈ names, a.isIdentifier name) : isName a (escapeSegments names) := by
  have hdots : ∀ name ∈ names, '.' ∉ name.toList := fun name hname =>
    Alphabet.dot_notMem (h name hname)
  rw [isName, segments_escapeSegments hne hdots, List.all_map, List.all_eq_true]
  exact fun name hname => isSegment_escapeKeyword (h name hname)

/-- A single identifier is a name once it is escaped. -/
theorem isName_escapeKeyword {s : String} (h : a.isIdentifier s) : isName a (escapeKeyword s) := by
  have hone : escapeSegments [s] = escapeKeyword s := by
    simp [escapeSegments, Text.dotted]
  rw [← hone]
  exact isName_escapeSegments (List.cons_ne_nil s []) (by simpa using h)

/-- A dotted sequence of identifiers is a name once its segments are escaped. -/
theorem isName_escapeDotted {s : String} (h : a.isDotted s) : isName a (escapeDotted s) :=
  isName_escapeSegments (Text.segments_ne_nil s) (List.all_eq_true.mp h)

end Kotlin

namespace Java

variable {a : Alphabet}

/-! ## The sources of names

Conversion asks the sources one after another and takes the first that answers. Each
of them is followed on its own, up to the short name; whatever is left over is named
by its canonical text. -/

theorem Reference.segments_ne_nil : ∀ r : Reference, r.segments ≠ []
  | ⟨_, none⟩ => List.cons_ne_nil _ _
  | ⟨_, some _⟩ => List.append_ne_nil_of_right_ne_nil _ (List.cons_ne_nil _ _)

/-- What the names of a class are made of. -/
structure ClassTy.Identifiers (a : Alphabet) (c : ClassTy) : Prop where
  canonicalText : a.isCanonical c.canonicalText
  className : ∀ name, c.className = some name → a.isIdentifier name
  reference : ∀ r, c.reference = some r → ∀ name ∈ r.segments, a.isIdentifier name
  qualifiedName : ∀ q, c.qualifiedName? = some q → a.isDotted q

/-- The test of the names of a class, field by field. -/
theorem ClassTy.identifiers_of_hasIdentifiers {c : ClassTy} (h : c.hasIdentifiers a) :
    c.Identifiers a := by
  simp only [hasIdentifiers, Bool.and_eq_true] at h
  obtain ⟨⟨⟨htext, hname⟩, hreference⟩, hqualified⟩ := h
  refine ⟨htext, fun name heq => ?_, fun r heq => ?_, fun q heq => ?_⟩
  · simpa [heq] using hname
  · simpa [heq] using hreference
  · simpa [heq] using hqualified

/-- **The qualified name**, where it is asked for or names an interface of
iteration. It is escaped here, and it is not escaped again when the type is
written. -/
theorem isName_fixedIdentifier? {config : Config} {c : ClassTy} (h : c.Identifiers a)
    {id : Kotlin.Identifier} (hid : Conversion.fixedIdentifier? config c = some id) :
    Kotlin.isName a id.text := by
  unfold Conversion.fixedIdentifier? at hid
  cases hq : c.qualifiedName? with
  | none => rw [hq] at hid; cases hid
  | some q =>
    rw [hq] at hid
    have hname : Kotlin.isName a (Kotlin.escapeDotted q) :=
      Kotlin.isName_escapeDotted (h.qualifiedName q hq)
    simp only at hid
    split at hid
    · cases hid
      exact hname
    · split at hid
      · rename_i hiterates
        cases hid
        -- neither name of the interfaces of iteration has a keyword in it
        have hsame : Kotlin.escapeDotted q = q := by
          rcases hiterates with rfl | rfl <;> decide
        rw [hsame] at hname
        exact hname
      · cases hid

/-- **The reference that was written**, if it has a qualifier. -/
theorem isName_writtenName? {c : ClassTy} (h : c.Identifiers a) {name : String}
    (hname : Conversion.writtenName? c = some name) : Kotlin.isName a name := by
  unfold Conversion.writtenName? at hname
  cases hr : c.reference with
  | none => rw [hr] at hname; cases hname
  | some r =>
    rw [hr] at hname
    simp only at hname
    split at hname
    · cases hname
      exact Kotlin.isName_escapeSegments r.segments_ne_nil (h.reference r hr)
    · cases hname

/-- The Kotlin classes that stand in for Java classes have identifiers for names. -/
theorem isIdentifier_of_kotlinClass? {text name : String}
    (h : Conversion.kotlinClass? text = some name) : a.isIdentifier name := by
  have hall : Conversion.kotlinClasses.all (fun p => a.isIdentifier p.2) = true := rfl
  exact List.all_eq_true.mp hall _ (List.mem_of_lookup h)

/-- **The name without its package**: that of the Kotlin class, or the last segment. -/
theorem isName_shortName {c : ClassTy} (h : c.Identifiers a) (hshort : c.hasShortName) :
    Kotlin.isName a (Kotlin.Identifier.plain (Conversion.shortName c)).text := by
  refine Kotlin.isName_escapeKeyword ?_
  show a.isIdentifier (Conversion.shortName c)
  unfold Conversion.shortName
  cases hclass : Conversion.kotlinClass? c.canonicalText with
  | some name => exact isIdentifier_of_kotlinClass? hclass
  | none =>
    rw [ClassTy.hasShortName, hclass] at hshort
    obtain ⟨name, hname⟩ := Option.isSome_iff_exists.mp hshort
    rw [hname]
    exact h.className name hname

/-- A class without short name falls back on its canonical text. -/
theorem shortName_of_not_hasShortName {c : ClassTy} (hshort : c.hasShortName = false) :
    Conversion.shortName c = c.canonicalText := by
  rw [ClassTy.hasShortName, Bool.or_eq_false_iff] at hshort
  have hclass : Conversion.kotlinClass? c.canonicalText = none := by simpa using hshort.1
  have hname : c.className = none := by simpa using hshort.2
  rw [Conversion.shortName, hclass, hname]
  rfl

/-- A class without fixed name and without qualified reference is named without its package. -/
theorem identifier_eq_shortName {config : Config} {c : ClassTy}
    (hfixed : Conversion.fixedIdentifier? config c = none)
    (hwritten : Conversion.writtenName? c = none) :
    Conversion.identifier config c = .plain (Conversion.shortName c) := by
  rw [Conversion.identifier, hfixed, hwritten]

/-- **Every source of names but the canonical text gives a name.** -/
theorem ClassUse.isName_identifier {config : Config} {use : ClassUse}
    (h : use.type.Identifiers a) (hnamed : use.isNamedByText config = false) :
    Kotlin.isName a (use.identifier config).text := by
  cases use with
  | bound c => exact isName_shortName h (by simpa [isNamedByText] using hnamed)
  | named c =>
    show Kotlin.isName a (Conversion.identifier config c).text
    cases hfixed : Conversion.fixedIdentifier? config c with
    | some id =>
      rw [Conversion.identifier, hfixed]
      exact isName_fixedIdentifier? h hfixed
    | none =>
      cases hwritten : Conversion.writtenName? c with
      | some name =>
        rw [Conversion.identifier, hfixed, hwritten]
        exact isName_writtenName? h hwritten
      | none =>
        rw [identifier_eq_shortName hfixed hwritten]
        exact isName_shortName h (by simpa [isNamedByText, hfixed, hwritten] using hnamed)

/-- Where only the canonical text is left, it is the name, escaped as a whole. -/
theorem ClassUse.identifier_of_isNamedByText {config : Config} {use : ClassUse}
    (hnamed : use.isNamedByText config) :
    use.identifier config = .plain use.type.canonicalText := by
  cases use with
  | bound c =>
    have hshort : c.hasShortName = false := by simpa [isNamedByText] using hnamed
    rw [identifier, shortName_of_not_hasShortName hshort]
    rfl
  | named c =>
    simp only [isNamedByText, Bool.and_eq_true, Option.isNone_iff_eq_none,
      Bool.not_eq_true'] at hnamed
    obtain ⟨⟨hfixed, hwritten⟩, hshort⟩ := hnamed
    rw [identifier, identifier_eq_shortName hfixed hwritten, shortName_of_not_hasShortName hshort]
    rfl

/-! ## Canonical texts

A canonical text is escaped as a whole and not segment by segment. For a text
without dots the two are the same. For any other text escaping does nothing at all,
because no keyword has a dot or an angle bracket in it. -/

/-- A dotted text that is escaped as a whole is a name if it is a single identifier, or if no
segment asks to be escaped. -/
theorem isName_escapeKeyword_of_isDotted {text : String} (htext : a.isDotted text)
    (h : (Text.segments text).length = 1
      ∨ ∀ name ∈ Text.segments text, Kotlin.isKeyword name = false) :
    Kotlin.isName a (Kotlin.escapeKeyword text) := by
  rw [Alphabet.isDotted, List.all_eq_true] at htext
  rcases h with hone | hkeyword
  · obtain ⟨name, hname⟩ := List.length_eq_one_iff.mp hone
    have hsame : text = name := Text.eq_of_segments_eq_singleton hname
    exact Kotlin.isName_escapeKeyword (htext text (by rw [hname, hsame]; exact List.mem_cons_self))
  · have hwhole : Kotlin.isKeyword text = false := by
      rw [← Bool.not_eq_true]
      intro h
      -- a keyword has no dots, so as a text it would be its own and only segment
      have hmem : text ∈ Text.segments text := Kotlin.segments_of_isKeyword h ▸ List.mem_cons_self
      exact Bool.false_ne_true ((hkeyword text hmem).symm.trans h)
    rw [Kotlin.escapeKeyword_of_not_isKeyword hwhole, Kotlin.isName, List.all_eq_true]
    intro name hname
    simp [Kotlin.isSegment, htext name hname, hkeyword name hname]

theorem isDotted_of_isCanonical {text : String} (h : a.isCanonical text)
    (harguments : Text.typeArguments text = "") : a.isDotted text := by
  rw [Alphabet.isCanonical, Bool.and_eq_true,
    Text.beforeArguments_of_typeArguments harguments] at h
  exact h.1

/-- **Class names can be read, up to canonical texts.** The first part identifies the classes of
the converted type with the uses in the Java type. The name of each of these is one that Kotlin can
read, unless nothing but the canonical text was left. Then that text is the name in full: it can be
read if it has no type arguments, and it includes them if it has some. Whether a canonical text with
a keyword between its dots can be read is not said. -/
theorem class_names_of_convert (a : Alphabet) (config : Config) (t : Ty)
    (h : ∀ use ∈ t.uses, use.type.hasIdentifiers a) :
    (t.convert config).classNames = t.uses.map (ClassUse.identifier config)
    ∧ ∀ use ∈ t.uses,
      let code := (use.identifier config).text
      let text := use.type.canonicalText
      let names := Text.segments (Text.beforeArguments text)
      (use.isNamedByText config = false → Kotlin.isName a code)
      ∧ (use.isNamedByText config → use.identifier config = .plain text)
      ∧ (use.isNamedByText config → Text.typeArguments text = "" →
        (names.length = 1 ∨ ∀ name ∈ names, Kotlin.isKeyword name = false) →
          Kotlin.isName a code)
      ∧ (use.isNamedByText config → Text.typeArguments text ≠ "" → code = text) := by
  refine ⟨t.classNames_convert config, fun use huse => ?_⟩
  intro code text names
  have hidentifiers := ClassTy.identifiers_of_hasIdentifiers (h use huse)
  have hcode (hnamed : use.isNamedByText config) : code = Kotlin.escapeKeyword text := by
    show (use.identifier config).text = _
    rw [use.identifier_of_isNamedByText hnamed]
    rfl
  refine ⟨use.isName_identifier hidentifiers, use.identifier_of_isNamedByText, ?_, ?_⟩
  · intro hnamed harguments hnames
    have hsegments : names = Text.segments text :=
      congrArg Text.segments (Text.beforeArguments_of_typeArguments harguments)
    rw [hsegments] at hnames
    rw [hcode hnamed]
    exact isName_escapeKeyword_of_isDotted
      (isDotted_of_isCanonical hidentifiers.canonicalText harguments) hnames
  · intro hnamed harguments
    rw [hcode hnamed]
    exact Kotlin.escapeKeyword_of_not_isKeyword
      (Kotlin.not_isKeyword_of_mem (Text.mem_of_typeArguments harguments))

/-- A keyword in a package is escaped where the class was written with that package. -/
theorem class_names_of_convert_reference :
    let a : Alphabet := ⟨fun _ => false, fun _ => false⟩
    let c := (ClassTy.ofCanonical "com.example.in.Box").withReference
      (.ofDotted "com.example.in.Box")
    (∀ use ∈ (Ty.classType c).uses, use.type.hasIdentifiers a)
    ∧ Kotlin.isName a (Conversion.identifier {} c).text
    ∧ (Conversion.identifier {} c).text = "com.example.`in`.Box" := by
  intro a c
  have h : ∀ use ∈ (Ty.classType c).uses, use.type.hasIdentifiers a := by
    intro use huse
    cases List.mem_singleton.mp huse
    decide +kernel
  have hname := ((class_names_of_convert a {} (.classType c) h).2 (.named c)
    List.mem_cons_self).1 (by decide +kernel)
  exact ⟨h, hname, by decide +kernel⟩

/-- **Type arguments become a part of a name** where only the canonical text is known. -/
theorem type_arguments_in_class_name :
    let t : Ty := .classType (.ofCanonical "java.util.List<java.lang.String>")
    (∀ a : Alphabet, ∀ use ∈ t.uses, use.type.hasIdentifiers a)
    ∧ ∃ id ∈ (t.convert {}).classNames, ∀ a : Alphabet, Kotlin.isName a id.text = false := by
  intro t
  refine ⟨?_, .plain "java.util.List<java.lang.String>", List.mem_cons_self, fun _ => rfl⟩
  intro a use huse
  cases List.mem_singleton.mp huse
  rfl

end Java

end Kotlinize
