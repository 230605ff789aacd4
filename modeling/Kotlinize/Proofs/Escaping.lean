import Kotlinize.Proofs.Naming
import Mathlib.Logic.Function.Basic

/-!
# Escaping dotted names

A dotted name is escaped segment by segment. Since escaping puts a dot nowhere, the
segments of the escaped name are the escaped segments (`segments_escapeDotted`), and
what holds of one segment carries over to the name: no segment is left that Kotlin
would read as a keyword, escaping once more changes nothing, and the name comes back
when the backquotes are deleted, unless it had some of its own.

A reference as it was written is a dotted name in another form, a chain from the last
name to the outermost qualifier. It is determined by its names
(`Reference.segments_injective`), and so the two forms translate into each other: the
chain that a text is cut into is named by the escaped text, and the name of a chain is
cut into the chain of the escaped names. Both hold of texts with empty segments as
well.
-/

namespace Kotlinize

namespace Kotlin

/-- The quote around an escaped keyword. -/
def backquote : Char := '\x60'

/-! ## One segment

Deleting the backquotes undoes escaping only for a name that had none, since those
of the name itself are deleted with the others. -/

/-- Escaping adds nothing but backquotes. -/
theorem without_escapeKeyword {name : String} (h : backquote ∉ name.toList) :
    Text.without backquote (escapeKeyword name) = name := by
  have hname := Text.without_of_notMem h
  unfold escapeKeyword
  split
  · rw [Text.without_append, Text.without_append, hname]
    show "" ++ name ++ "" = name
    rw [String.empty_append, String.append_empty]
  · exact hname

/-! ## All segments

The facts about one segment carry over because cutting an escaped name at its dots
gives the escaped segments. For a text without dots this is a single segment, the
text itself. -/

/-- Escaping once more changes nothing. -/
theorem escapeDotted_escapeDotted (s : String) :
    escapeDotted (escapeDotted s) = escapeDotted s := by
  have hescaped : escapeKeyword ∘ escapeKeyword = escapeKeyword :=
    funext escapeKeyword_escapeKeyword
  rw [escapeDotted, segments_escapeDotted, escapeSegments, List.map_map, hescaped]
  rfl

/-- A name without backquotes is what remains when those of the escaped name are deleted. -/
theorem without_escapeDotted {s : String} (h : backquote ∉ s.toList) :
    Text.without backquote (escapeDotted s) = s := by
  have hback : ∀ name ∈ Text.segments s,
      (Text.without backquote ∘ escapeKeyword) name = id name := fun name hname =>
    without_escapeKeyword (Text.notMem_of_mem_segments h hname)
  rw [escapeDotted, escapeSegments, Text.without_dotted (by decide), List.map_map,
    List.map_congr_left hback, List.map_id, Text.dotted_segments]

/-- **Escaping a dotted name is complete, stable and reversible.** No segment of the escaped name
is a keyword, and escaping it again changes nothing. A name without backquotes is what is left of
the escaped name when its backquotes are deleted, so no other such name is escaped to the same. -/
theorem escaping_complete_stable_reversible (s : String) :
    (∀ name ∈ Text.segments (escapeDotted s), name ∉ keywords)
      ∧ escapeDotted (escapeDotted s) = escapeDotted s
      ∧ (backquote ∉ s.toList →
        Text.without backquote (escapeDotted s) = s
          ∧ ∀ t : String, backquote ∉ t.toList → escapeDotted t = escapeDotted s → t = s) := by
  refine ⟨fun segment hsegment => ?_, escapeDotted_escapeDotted s, fun hs => ?_⟩
  · rw [segments_escapeDotted] at hsegment
    obtain ⟨name, -, rfl⟩ := List.mem_map.mp hsegment
    simpa [isKeyword] using isKeyword_escapeKeyword name
  · refine ⟨without_escapeDotted hs, fun t ht hsame => ?_⟩
    calc t = Text.without backquote (escapeDotted t) := (without_escapeDotted ht).symm
      _ = Text.without backquote (escapeDotted s) := by rw [hsame]
      _ = s := without_escapeDotted hs

/-- A name with two keywords, an empty segment and a dot at its end. -/
theorem escaping_complete_stable_reversible_keywords :
    let s := "when..x.in."
    backquote ∉ s.toList
      ∧ escapeDotted s = "`when`..x.`in`."
      ∧ "`in`" ∈ Text.segments (escapeDotted s) ∧ "`in`" ∉ keywords
      ∧ escapeDotted "`when`..x.`in`." = "`when`..x.`in`."
      ∧ Text.without backquote "`when`..x.`in`." = s
      ∧ ∀ t : String, backquote ∉ t.toList → escapeDotted t = "`when`..x.`in`." → t = s := by
  intro s
  have hs : backquote ∉ s.toList := by decide
  have hescaped : escapeDotted s = "`when`..x.`in`." := by decide +kernel
  have hmem : "`in`" ∈ Text.segments (escapeDotted s) := by decide +kernel
  obtain ⟨hkeywords, hstable, hreversible⟩ := escaping_complete_stable_reversible s
  have hnone := hkeywords _ hmem
  rw [hescaped] at hstable hreversible
  exact ⟨hs, hescaped, hmem, hnone, hstable, hreversible hs⟩

end Kotlin

/-! ## References

A reference is a chain that begins with its last name, so it is not a list of names
by its constructors. Equations between references are proved between their lists of
names instead, where cutting and escaping are known, and `segments_injective` brings
them back. -/

namespace Java

namespace Reference

/-- The reference with another text for each of its names. -/
def mapNames (f : String → String) : Reference → Reference
  | ⟨name, none⟩ => ⟨f name, none⟩
  | ⟨name, some qualifier⟩ => ⟨f name, some (qualifier.mapNames f)⟩

/-- The names of the reference with other texts are these texts. -/
theorem segments_mapNames (f : String → String) :
    ∀ r : Reference, (r.mapNames f).segments = r.segments.map f
  | ⟨_, none⟩ => rfl
  | ⟨_, some qualifier⟩ => by
    rw [mapNames, segments, segments, qualifier.segments_mapNames f, List.map_append]
    rfl

/-- **The names of a reference determine it.** -/
theorem segments_injective : Function.Injective segments
  | ⟨_, none⟩, ⟨_, none⟩, h => by
    rw [List.singleton_inj.mp h]
  | ⟨name, none⟩, ⟨name', some qualifier⟩, h => by
    -- a qualified reference has at least two names
    have hlast : [] ++ [name] = qualifier.segments ++ [name'] := h
    exact absurd (List.append_inj_left' hlast rfl).symm qualifier.segments_ne_nil
  | ⟨name, some qualifier⟩, ⟨name', none⟩, h => by
    have hlast : qualifier.segments ++ [name] = [] ++ [name'] := h
    exact absurd (List.append_inj_left' hlast rfl) qualifier.segments_ne_nil
  | ⟨name, some qualifier⟩, ⟨name', some qualifier'⟩, h => by
    have hlast : qualifier.segments ++ [name] = qualifier'.segments ++ [name'] := h
    obtain ⟨hqualifier, hname⟩ := List.append_inj' hlast rfl
    rw [segments_injective hqualifier, List.singleton_inj.mp hname]

/-- Escaping the names of a reference without keywords changes nothing. -/
theorem mapNames_escapeKeyword {r : Reference}
    (h : ∀ name ∈ r.segments, Kotlin.isKeyword name = false) :
    r.mapNames Kotlin.escapeKeyword = r := by
  have hsame : ∀ name ∈ r.segments, Kotlin.escapeKeyword name = id name := fun name hname =>
    Kotlin.escapeKeyword_of_not_isKeyword (h name hname)
  apply segments_injective
  rw [segments_mapNames, List.map_congr_left hsame, List.map_id]

/-- What a walk from a reference out to its qualifiers writes: each name is put in front of what is
written already, escaped, and with a dot in front of it if there is more to come. -/
def walk : Reference → String → String
  | ⟨name, none⟩, written => Kotlin.escapeKeyword name ++ written
  | ⟨name, some qualifier⟩, written =>
    qualifier.walk ("." ++ (Kotlin.escapeKeyword name ++ written))

/-- The name of a qualified reference is that of its qualifier, a dot and its own name. -/
theorem dottedName_of_qualifier (name : String) (qualifier : Reference) :
    Conversion.dottedName ⟨name, some qualifier⟩
      = Conversion.dottedName qualifier ++ "." ++ Kotlin.escapeKeyword name := by
  have hne : qualifier.segments.map Kotlin.escapeKeyword ≠ [] := by
    simpa using qualifier.segments_ne_nil
  unfold Conversion.dottedName Kotlin.escapeSegments Text.dotted
  rw [segments, List.map_append, List.map_singleton,
    String.intercalate_append_of_ne_nil hne (List.cons_ne_nil _ _), String.intercalate_singleton]

/-- **The walk writes the name of the reference** in front of what is written already. -/
theorem walk_eq : ∀ (r : Reference) (written : String),
    r.walk written = Conversion.dottedName r ++ written
  | ⟨name, none⟩, written => by
    show Kotlin.escapeKeyword name ++ written
      = ".".intercalate [Kotlin.escapeKeyword name] ++ written
    rw [String.intercalate_singleton]
  | ⟨name, some qualifier⟩, written => by
    rw [walk, qualifier.walk_eq, dottedName_of_qualifier, String.append_assoc,
      String.append_assoc]

/-- **The reference that a text is cut into is named by the escaped text.** -/
theorem dottedName_ofDotted (s : String) :
    Conversion.dottedName (ofDotted s) = Kotlin.escapeDotted s := by
  rw [Conversion.dottedName, segments_ofDotted]
  rfl

/-- **The name of a reference is cut into the reference with its names escaped**, if
none of them has a dot in it. -/
theorem ofDotted_dottedName {r : Reference} (h : ∀ name ∈ r.segments, '.' ∉ name.toList) :
    ofDotted (Conversion.dottedName r) = r.mapNames Kotlin.escapeKeyword := by
  apply segments_injective
  rw [segments_ofDotted, segments_mapNames]
  exact Kotlin.segments_escapeSegments r.segments_ne_nil h

end Reference

/-- **Dotted texts and references correspond.** The reference that a text is cut into has the
escaped text as its name, for every text. The name of a reference, which a walk out to the
qualifiers writes, is cut into the reference with its names escaped if none of them has a dot in
it; and into the reference itself if none is a keyword either. -/
theorem dotted_texts_and_references_correspond :
    (∀ s : String, Conversion.dottedName (.ofDotted s) = Kotlin.escapeDotted s)
      ∧ ∀ r : Reference,
        Conversion.dottedName r = r.walk ""
        ∧ ((∀ name ∈ r.segments, '.' ∉ name.toList) →
          Reference.ofDotted (Conversion.dottedName r) = r.mapNames Kotlin.escapeKeyword
          ∧ ((∀ name ∈ r.segments, Kotlin.isKeyword name = false) →
            Reference.ofDotted (Conversion.dottedName r) = r)) := by
  refine ⟨Reference.dottedName_ofDotted, fun r => ⟨?_, fun hdots => ?_⟩⟩
  · rw [r.walk_eq, String.append_empty]
  · have hback := Reference.ofDotted_dottedName hdots
    refine ⟨hback, fun hkeywords => ?_⟩
    rw [hback, Reference.mapNames_escapeKeyword hkeywords]

/-- A reference with a keyword and with an empty name at its end, and one without keywords. -/
theorem dotted_texts_and_references_correspond_keywords :
    let r : Reference := ⟨"", some ⟨"in", some ⟨"org", none⟩⟩⟩
    let r' : Reference := ⟨"List", some ⟨"", some ⟨"java", none⟩⟩⟩
    (∀ name ∈ r.segments, '.' ∉ name.toList)
      ∧ Conversion.dottedName r = "org.`in`."
      ∧ Reference.ofDotted "org.`in`." = ⟨"", some ⟨"`in`", some ⟨"org", none⟩⟩⟩
      ∧ (∀ name ∈ r'.segments, '.' ∉ name.toList)
      ∧ (∀ name ∈ r'.segments, Kotlin.isKeyword name = false)
      ∧ Conversion.dottedName r' = "java..List"
      ∧ Reference.ofDotted "java..List" = r' := by
  intro r r'
  have hdots : ∀ name ∈ r.segments, '.' ∉ name.toList := by decide
  have hdots' : ∀ name ∈ r'.segments, '.' ∉ name.toList := by decide
  have hkeywords' : ∀ name ∈ r'.segments, Kotlin.isKeyword name = false := by decide
  have hname : Conversion.dottedName r = "org.`in`." := by decide +kernel
  have hname' : Conversion.dottedName r' = "java..List" := by decide +kernel
  have hback := ((dotted_texts_and_references_correspond.2 r).2 hdots).1
  have hback' := ((dotted_texts_and_references_correspond.2 r').2 hdots').2 hkeywords'
  rw [hname] at hback
  rw [hname'] at hback'
  exact ⟨hdots, hname, hback, hdots', hkeywords', hname', hback'⟩

end Java

end Kotlinize
