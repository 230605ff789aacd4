import Kotlinize.Config
import Kotlinize.Java.Ty
import Kotlinize.Kotlin.Name

/-!
# Naming classes

A use of a Java class can be named in Kotlin in several ways: by the qualified name it resolved
to, by the reference that was written, by the Kotlin class that takes its place, by its short name
or by its canonical text. `Conversion.identifier` chooses among them.
-/

namespace Kotlinize.Conversion

open Kotlin (Identifier)

/-- The class that every class extends. -/
def objectName : String := "java.lang.Object"

/-- The interface of what can be iterated over. -/
def iterableName : String := "java.lang.Iterable"

/-- The interface of iterators. -/
def iteratorName : String := "java.util.Iterator"

/-- The Java classes that have a Kotlin class in their place. -/
def kotlinClasses : List (String × String) := [
  (objectName, "Any"),
  ("java.lang.Byte", "Byte"),
  ("java.lang.Character", "Char"),
  ("java.lang.Double", "Double"),
  ("java.lang.Float", "Float"),
  ("java.lang.Integer", "Int"),
  ("java.lang.Long", "Long"),
  ("java.lang.Short", "Short"),
  ("java.lang.Boolean", "Boolean")]

/-- The Kotlin class in the place of a Java class, given by its canonical text. -/
def kotlinClass? (canonicalText : String) : Option String :=
  kotlinClasses.lookup canonicalText

/-- A written reference as a dotted Kotlin name. -/
def dottedName (r : Java.Reference) : String :=
  Kotlin.escapeSegments r.segments

/-- The written reference of a class as a dotted Kotlin name, if it is qualified. -/
def writtenName? (c : Java.ClassTy) : Option String :=
  match c.reference with
  | none => none
  | some r => if r.isQualified then some (dottedName r) else none

/-- The name of a class without its package: the Kotlin class in its place, else its short name,
else its canonical text. -/
def shortName (c : Java.ClassTy) : String :=
  match kotlinClass? c.canonicalText with
  | some name => name
  | none => c.className.getD c.canonicalText

/-- The name that a resolved class has whatever was written: its qualified name if the settings
ask for it, but never that of `Object`, and always for the interfaces of iteration. -/
def fixedIdentifier? (config : Config) (c : Java.ClassTy) : Option Identifier :=
  match c.qualifiedName? with
  | none => none
  | some q =>
    if q ≠ objectName ∧ config.fullyQualified then some (.verbatim (Kotlin.escapeDotted q))
    else if q = iterableName ∨ q = iteratorName then some (.verbatim q)
    else none

/-- **The Kotlin name of a class**: its fixed name, else the qualified reference that was written,
else its name without package. -/
def identifier (config : Config) (c : Java.ClassTy) : Identifier :=
  match fixedIdentifier? config c with
  | some id => id
  | none =>
    match writtenName? c with
    | some name => .verbatim name
    | none => .plain (shortName c)

end Kotlinize.Conversion
