/-!
# Dotted names

A dotted name is a sequence of segments with dots between them. Every text is one: a text without
dots is its own single segment, and the empty text has one empty segment.
-/

namespace Kotlinize.Text

/-- The segments of a dotted name, from left to right. -/
def segments (s : String) : List String :=
  (s.toList.splitOn '.').map String.ofList

/-- The dotted name with the given segments. -/
def dotted (names : List String) : String :=
  ".".intercalate names

end Kotlinize.Text
