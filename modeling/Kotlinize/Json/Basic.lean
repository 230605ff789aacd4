/-!
# JSON values

A JSON value as the readers of this library see it. Integers and floating-point numbers are kept
apart, since a number written with a point or an exponent is never taken for an integer. The
members of an object stand in the order they were written; where a key is repeated, the last
member counts (`Json.get?`).
-/

namespace Kotlinize

/-- **A JSON value.** -/
inductive Json where
  | null
  | bool (value : Bool)
  /-- A number written without point and exponent. -/
  | int (value : Int)
  /-- Any other number. -/
  | float (value : Float)
  | str (value : String)
  | arr (elements : List Json)
  | obj (members : List (String × Json))
deriving Inhabited

namespace Json

/-- The value of a key among the members of an object: the last one counts. -/
def get? (key : String) : List (String × Json) → Option Json
  | [] => none
  | (k, v) :: rest =>
    match get? key rest with
    | some w => some w
    | none => if k = key then some v else none

/-- The key and value of an object with exactly one key. -/
def sole? : List (String × Json) → Option (String × Json)
  | [] => none
  | (k, v) :: rest =>
    if rest.all fun m => m.1 = k then some (k, (get? k rest).getD v) else none

mutual

/-- **Nesting**: how many arrays and objects stand inside one another. -/
def depth : Json → Nat
  | .arr elements => depthOfElements elements + 1
  | .obj members => depthOfMembers members + 1
  | .null => 0
  | .bool _ => 0
  | .int _ => 0
  | .float _ => 0
  | .str _ => 0

/-- The deepest nesting among the elements of an array. -/
def depthOfElements : List Json → Nat
  | [] => 0
  | v :: rest => max v.depth (depthOfElements rest)

/-- The deepest nesting among the members of an object. -/
def depthOfMembers : List (String × Json) → Nat
  | [] => 0
  | (_, v) :: rest => max v.depth (depthOfMembers rest)

end

/-- A finite number as a JSON number; JSON has no form for the others. -/
def ofFloat (x : Float) : Json :=
  if x.isFinite then .float x else .null

/-- An optional value, with `null` for none. -/
def ofOption {α : Type} (f : α → Json) : Option α → Json
  | none => .null
  | some a => f a

end Json

end Kotlinize
