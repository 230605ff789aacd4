/-!
# Notices

What a conversion or the writing of code has to remark. A notice never changes the result.
-/

namespace Kotlinize

/-- **How important a notice is.** -/
inductive Notice.Level where
  | trace
  | debug
deriving DecidableEq, Repr

/-- **A notice.** -/
inductive Notice where
  /-- A class was given the name that follows from its canonical text. -/
  | canonicalName (canonical name : String)
  /-- Arguments were made up for a raw type. -/
  | rawType (canonical : String) (arity : Nat)
  /-- A primitive type that is not known keeps its name. -/
  | unknownPrimitive (name : String)
  /-- An array creation has more sizes than its type has levels. -/
  | surplusSizes (dimensions depth : Nat)
deriving DecidableEq, Repr

namespace Notice

/-- The importance of a notice. -/
def level : Notice → Level
  | .canonicalName .. => .trace
  | .rawType .. => .debug
  | .unknownPrimitive .. => .debug
  | .surplusSizes .. => .debug

/-- The wording of a notice. -/
def message : Notice → String
  | .canonicalName .. => "class name from canonical text"
  | .rawType .. => "synthesizing arguments for raw type"
  | .unknownPrimitive .. => "unknown primitive type, keeping its name"
  | .surplusSizes .. => "more array dimensions than array levels, ignoring sizes"

end Notice

end Kotlinize
