/-!
# Capital letters

The names that are capitalised here are ASCII words, so the case map of ASCII is enough.
-/

namespace Kotlinize.Text

/-- The text with its first letter, if that is an ASCII letter, in upper case. -/
def capitalized (s : String) : String :=
  match s.toList with
  | [] => ""
  | c :: rest => String.ofList (c.toUpper :: rest)

end Kotlinize.Text
