/-!
# Bytes

The size of a text when it is stored: places in a text are counted in these bytes.
-/

namespace Kotlinize.Text

/-- The number of bytes that characters take in UTF-8. -/
def bytes (cs : List Char) : Nat :=
  cs.foldr (fun c n => c.utf8Size + n) 0

end Kotlinize.Text
