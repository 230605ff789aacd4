import Kotlinize.Text.Dotted

/-!
# Kotlin names

Some words that are plain identifiers in Java are keywords in Kotlin. Such a word is still a name
when it stands in backquotes; in a dotted name each segment is quoted on its own.
-/

namespace Kotlinize.Kotlin

/-- The keywords of Kotlin that are identifiers in Java. -/
def keywords : List String :=
  ["as", "fun", "in", "is", "object", "typealias", "typeof", "val", "var", "when"]

/-- Whether Kotlin would read a name as a keyword. -/
def isKeyword (name : String) : Bool :=
  keywords.contains name

/-- The name, in backquotes if Kotlin would read it as a keyword. -/
def escapeKeyword (name : String) : String :=
  if isKeyword name then "`" ++ name ++ "`" else name

theorem escapeKeyword_of_not_isKeyword {name : String} (h : isKeyword name = false) :
    escapeKeyword name = name := by
  rw [escapeKeyword, h]
  rfl

/-- **What was escaped is no keyword.** -/
theorem isKeyword_escapeKeyword (name : String) : isKeyword (escapeKeyword name) = false := by
  have hquoted : ∀ k ∈ keywords, isKeyword ("`" ++ k ++ "`") = false := by decide
  unfold escapeKeyword
  cases hname : isKeyword name with
  | true => exact hquoted name (by simpa [isKeyword] using hname)
  | false => exact hname

theorem escapeKeyword_escapeKeyword (name : String) :
    escapeKeyword (escapeKeyword name) = escapeKeyword name :=
  escapeKeyword_of_not_isKeyword (isKeyword_escapeKeyword name)

/-- Escaping puts a dot nowhere. -/
theorem dot_notMem_escapeKeyword {name : String} (h : '.' ∉ name.toList) :
    '.' ∉ (escapeKeyword name).toList := by
  unfold escapeKeyword
  split
  · simp [h]
  · exact h

/-- A keyword is a name without dots. -/
theorem segments_of_isKeyword {name : String} (h : isKeyword name) :
    Text.segments name = [name] := by
  have hall : ∀ k ∈ keywords, Text.segments k = [k] := by decide
  exact hall name (by simpa [isKeyword] using h)

/-- What has type arguments is no keyword. -/
theorem not_isKeyword_of_mem {name : String} (h : '<' ∈ name.toList) : isKeyword name = false := by
  have hall : ∀ k ∈ keywords, '<' ∉ k.toList := by decide
  rw [← Bool.not_eq_true]
  intro hkeyword
  exact hall name (by simpa [isKeyword] using hkeyword) h

/-- The dotted name with the given segments, each of them escaped. -/
def escapeSegments (names : List String) : String :=
  Text.dotted (names.map escapeKeyword)

/-- **A dotted name with each of its segments escaped.** -/
def escapeDotted (name : String) : String :=
  escapeSegments (Text.segments name)

/-- **A name in Kotlin code**, possibly dotted. -/
structure Identifier where
  name : String
  /-- Whether the value that the name refers to may be null. -/
  nullable : Bool
  /-- Whether the name is escaped when it is a keyword. -/
  quoted : Bool
deriving DecidableEq, Inhabited

namespace Identifier

/-- A name, escaped when it is a keyword. -/
def plain (name : String) : Identifier :=
  ⟨name, false, true⟩

/-- A name for a value that may be null. -/
def maybeNull (name : String) : Identifier :=
  { plain name with nullable := true }

/-- A name that is written as it is. -/
def verbatim (name : String) : Identifier :=
  { plain name with quoted := false }

/-- **An identifier as Kotlin code.** -/
def text (id : Identifier) : String :=
  if id.quoted then escapeKeyword id.name else id.name

end Identifier

end Kotlinize.Kotlin
