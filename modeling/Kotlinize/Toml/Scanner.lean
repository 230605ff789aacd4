import Kotlinize.Text.Bytes
import Kotlinize.Toml.Document

/-!
# Scanning TOML text

A scanner takes something from the front of a text or fails; whoever tries another scanner after a
failure starts again from the same place. The place is counted in bytes.
-/

namespace Kotlinize.Toml

/-- **What is left of a text**, and the number of bytes before it. -/
structure Input where
  rest : List Char
  offset : Nat

/-- **A scanner** of things of one type. -/
abbrev Scanner := StateT Input Option

namespace Scanner

/-- The next character, which stays in place. -/
def peek : Scanner (Option Char) := fun s =>
  some (s.rest.head?, s)

/-- The next character, if it has a property. -/
def char (p : Char → Bool) : Scanner Char := fun s =>
  match s.rest with
  | c :: rest => if p c then some (c, ⟨rest, s.offset + c.utf8Size⟩) else none
  | [] => none

/-- The given character. -/
def exactly (c : Char) : Scanner Unit := do
  discard (char (· = c))

/-- The given characters. -/
def word : List Char → Scanner Unit
  | [] => pure ()
  | c :: rest => do
    exactly c
    word rest

/-- The characters up to the first without a property. -/
def takeWhile (p : Char → Bool) : Scanner (List Char) := fun s =>
  let taken := s.rest.takeWhile p
  some (taken, ⟨s.rest.dropWhile p, s.offset + Text.bytes taken⟩)

/-- At least one character with a property, and all that follow. -/
def takeWhile1 (p : Char → Bool) : Scanner (List Char) := do
  let first ← char p
  return first :: (← takeWhile p)

/-- The end of the text. -/
def atEnd : Scanner Unit := fun s =>
  if s.rest.isEmpty then some ((), s) else none

/-- What a scanner finds, or nothing. -/
def perhaps {α : Type} (p : Scanner α) : Scanner (Option α) := fun s =>
  match p s with
  | some (a, s) => some (some a, s)
  | none => some (none, s)

/-- What a scanner finds over and over, at most so many times. -/
def repeatUpTo {α : Type} (p : Scanner α) : Nat → Scanner (List α)
  | 0 => pure []
  | n + 1 => do
    match ← perhaps p with
    | none => return []
    | some a => return a :: (← repeatUpTo p n)

/-- What a scanner finds over and over. It takes at least one character each time. -/
def many {α : Type} (p : Scanner α) : Scanner (List α) := do
  repeatUpTo p (← get).rest.length

/-- One thing or more with separators between them. -/
def separated {α : Type} (p : Scanner α) (separator : Char) : Scanner (List α) := do
  let first ← p
  return first :: (← many (do exactly separator; p))

/-- What a scanner finds, and its place. -/
def located {α : Type} (p : Scanner α) : Scanner (α × Span) := do
  let start := (← get).offset
  let a ← p
  return (a, ⟨start, (← get).offset⟩)

end Scanner

open Scanner

/-! ## Blanks, comments and line ends -/

/-- Whether a character is a blank. -/
def isBlank (c : Char) : Bool :=
  c = ' ' || c = '\t'

/-- Blanks, if any. -/
def blanks : Scanner Unit := do
  discard (takeWhile isBlank)

/-- A line break. -/
def lineBreak : Scanner Unit :=
  exactly '\n' <|> word ['\r', '\n']

/-- Whether a character may stand in a comment. -/
def isCommentChar (c : Char) : Bool :=
  c = '\t' || (' ' ≤ c && c ≠ '\x7f')

/-- A comment, up to the line break. -/
def comment : Scanner Unit := do
  exactly '#'
  discard (takeWhile isCommentChar)

/-- The rest of a line that holds nothing more. -/
def lineEnd : Scanner Unit := do
  blanks
  discard (perhaps comment)
  lineBreak <|> atEnd

/-- Blanks, line breaks and comments, if any. -/
def gap : Scanner Unit := do
  blanks
  discard (many (do
    discard (perhaps comment)
    lineBreak
    blanks))

end Kotlinize.Toml
