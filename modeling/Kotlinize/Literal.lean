/-!
# Literals

A literal stands for the same value in Java and in Kotlin, so both languages share this type. What
differs is how a literal is written.
-/

namespace Kotlinize

/-- **A literal value.** -/
inductive Literal where
  | null
  | bool (value : Bool)
  | int (value : Int64)
  | long (value : Int64)
  | float (value : Float)
  | double (value : Float)
  | char (value : Char)
  | string (value : String)
deriving BEq, Inhabited

namespace Literal

/-- Whether a literal is the null reference. -/
def isNull : Literal → Bool
  | .null => true
  | _ => false

/-- Whether a literal holds no infinity and no NaN. -/
def isFinite : Literal → Bool
  | .float x => x.isFinite
  | .double x => x.isFinite
  | _ => true

end Literal

end Kotlinize
