import Kotlinize.Conversion.Expressions
import Kotlinize.Kotlin.Code

/-!
# The creation of arrays

A Java array creation names the type of the whole array and gives sizes for some
of its levels. The Kotlin code constructs the outermost level with its size and
with the construction of the next level in braces, and so on inwards. The type
and the list of sizes run out independently of one another: levels beyond the
sizes are not constructed, and sizes beyond the levels are dropped.

What is constructed is therefore a list of pairs, the constructors of the levels
from the outermost in against the sizes, as far as there are both
(`nestedCreation`). The constructor of a level is the code of its type without
the question mark, and every level has one, since arrays come from Java without
knowledge of null.
-/

namespace Kotlinize

namespace Kotlin

/-! ## Nested constructors

The levels of an array are counted from the element type out, and constructed from the
outermost in. `Ty.levelNames` has the constructors in the order of the code, so that
pairing them with the sizes cuts off what is left over on either side. -/

/-- **Constructors nested inside one another**, each with its size. -/
def nestedCreation : List (String × String) → String
  | [] => ""
  | [(name, size)] => name ++ "(" ++ size ++ ")"
  | (name, size) :: inner => name ++ "(" ++ size ++ ", \x7b" ++ nestedCreation inner ++ "\x7d)"

/-- The nullable arrays around a type, so many levels of them. -/
def Ty.arraysOf (element : Ty) : Nat → Ty
  | 0 => element
  | n + 1 => .arrayOf (element.arraysOf n)

/-- The constructors of the levels of an array, from the outermost in. -/
def Ty.levelNames (element : Ty) : Nat → List String
  | 0 => []
  | n + 1 => (element.arraysOf (n + 1)).constructorText :: element.levelNames n

/-- The constructors by their indices: the outermost has all the levels inside it. -/
theorem Ty.levelNames_eq_map (element : Ty) (d : Nat) :
    element.levelNames d
      = (List.range d).map fun i => (element.arraysOf (d - i)).constructorText := by
  induction d with
  | zero => rfl
  | succ d ih =>
    rw [levelNames, List.range_succ_eq_map, List.map_cons, List.map_map, ih]
    simp [Function.comp_def]

/-- Only an array has levels. -/
theorem Ty.arrayDepth_of_not_isArray {t : Ty} (h : t.isArray = false) : t.arrayDepth = 0 := by
  cases t with
  | array element nullable => cases h
  | _ => rfl

/-- **The levels of an array are constructed from the outermost in**, as long as there are sizes. -/
theorem creationText_arraysOf {element : Ty} (helement : element.isArray = false) (d : Nat)
    (size : String) (rest : List String) :
    creationText (element.arraysOf (d + 1)) (size :: rest)
      = nestedCreation ((element.levelNames (d + 1)).zip (size :: rest)) := by
  induction d generalizing size rest with
  | zero => exact creationText_last (.inl helement)
  | succ d ih =>
    cases rest with
    | nil => rfl
    | cons next rest =>
      show (element.arraysOf (d + 2)).constructorText ++ "(" ++ size ++ ", \x7b"
        ++ creationText (element.arraysOf (d + 1)) (next :: rest) ++ "\x7d)" = _
      rw [ih next rest]
      rfl

/-! ## The constructor of one level -/

/-- Trimming takes away a mark at the end. -/
theorem Ty.withoutMark_append_mark (code : String) : withoutMark (code ++ "?") = code := by
  have hlist : (code ++ "?").toList = code.toList ++ ['?'] := by simp
  rw [withoutMark, hlist, if_pos (by simp), List.dropLast_concat, String.ofList_toList]

/-- **An array of a primitive type is constructed under a name of its own.** -/
theorem Ty.constructorText_arrayOf_primitive (name : Identifier) :
    (arrayOf (.primitive name)).constructorText = name.text ++ "Array" :=
  withoutMark_append_mark (name.text ++ "Array")

/-- The code of an array of anything but a primitive type. -/
theorem Ty.text_arrayOf {element : Ty} (h : ∀ name, element ≠ .primitive name) :
    (arrayOf element).text = "Array<" ++ element.text ++ ">" ++ "?" := by
  cases element with
  | primitive name => exact absurd rfl (h name)
  | _ => rfl

/-- **Every other array is constructed under the name of the class**, with its element type. -/
theorem Ty.constructorText_arrayOf {element : Ty} (h : ∀ name, element ≠ .primitive name) :
    (arrayOf element).constructorText = "Array<" ++ element.text ++ ">" := by
  rw [constructorText, text_arrayOf h, withoutMark_append_mark]

/-- The mark is all that the code of an array has beyond its constructor. -/
theorem Ty.text_arrayOf_eq_constructorText (element : Ty) :
    (arrayOf element).text = (arrayOf element).constructorText ++ "?" := by
  by_cases h : ∃ name, element = .primitive name
  · obtain ⟨name, rfl⟩ := h
    rw [constructorText_arrayOf_primitive]
    rfl
  · have h' : ∀ name, element ≠ .primitive name := fun name heq => h ⟨name, heq⟩
    rw [constructorText_arrayOf h', text_arrayOf h']

end Kotlin

/-! ## From a Java type and its sizes

Conversion takes each Java array to a nullable array around the converted element type.
It makes no other arrays, so the element type stays one that is no array, and the number
of levels is the same on both sides. -/

namespace Java

/-- The arrays around a type, so many levels of them. -/
def Ty.arrays (element : Ty) : Nat → Ty
  | 0 => element
  | n + 1 => .array (element.arrays n)

/-- Arrays around a type become arrays around the converted type. -/
theorem Ty.convert_arrays (config : Config) (element : Ty) (n : Nat) :
    (element.arrays n).convert config = (element.convert config).arraysOf n := by
  induction n with
  | zero => rfl
  | succ n ih =>
    show Kotlin.Ty.arrayOf ((element.arrays n).convert config) = _
    rw [ih]
    rfl

/-- Conversion makes arrays of arrays only. -/
theorem Ty.isArray_convert {t : Ty} (h : ∀ component, t ≠ .array component) (config : Config) :
    (t.convert config).isArray = false := by
  cases t with
  | primitive name =>
    obtain ⟨id, hid⟩ := Conversion.exists_primitive_eq name
    rw [Ty.convert, hid]
    rfl
  | array component => exact absurd rfl (h component)
  | classType c => cases c; rfl
  | wildcard bound =>
    cases bound with
    | none => rfl
    | some bound => cases bound <;> rfl
  | ellipsis component => rfl

/-- The codes of converted sizes are those of each. -/
theorem Expr.texts_convertAll (config : Config) (sizes : List Expr) :
    Kotlin.Expr.texts 0 (Expr.convertAll config sizes)
      = sizes.map fun e => (e.convert config).toKotlin := by
  induction sizes with
  | nil => rfl
  | cons e rest ih =>
    rw [Expr.convertAll, Kotlin.Expr.texts, ih]
    rfl

/-- **Array creation from end to end.** The array has `d` levels around an element type that is no
array, and `name j` is the code of the type with `j` of them, without its question mark. From the
outermost in the levels are constructed by `name d`, `name (d - 1)`, …, `name 1`, each with its
size, until the levels or the sizes run out. -/
theorem toKotlin_convert_newArray (config : Config) (element : Ty)
    (helement : ∀ component, element ≠ .array component) (d : Nat) (hd : 1 ≤ d)
    (sizes : List Expr) :
    let type (j : Nat) := (element.arrays j).convert config
    let name (j : Nat) := Kotlin.Ty.withoutMark (type j).text
    let code := ((Expr.newArray (element.arrays d) sizes).convert config).toKotlin
    (code = if sizes = [] then name d else
      Kotlin.nestedCreation (((List.range d).map fun i => name (d - i)).zip
        (sizes.map fun e => (e.convert config).toKotlin)))
    ∧ (∀ j, 1 ≤ j → (type j).text = name j ++ "?")
    ∧ (∀ p, element.convert config = .primitive p → name 1 = p.text ++ "Array")
    ∧ (∀ j, 1 ≤ j → (j = 1 → ∀ p, element.convert config ≠ .primitive p) →
      name j = "Array<" ++ (type (j - 1)).text ++ ">") := by
  intro type name code
  refine ⟨?_, ?_, ?_, ?_⟩
  · have hcode : code = Kotlin.creationText ((element.convert config).arraysOf d)
        (sizes.map fun e => (e.convert config).toKotlin) := by
      rw [← Expr.texts_convertAll, ← Ty.convert_arrays]
      rfl
    -- the names by their indices are the constructors from the outermost in
    have hnames : ((List.range d).map fun i => name (d - i))
        = (element.convert config).levelNames d := by
      rw [Kotlin.Ty.levelNames_eq_map]
      simp only [name, type, Ty.convert_arrays, Kotlin.Ty.constructorText]
    obtain ⟨d, rfl⟩ := Nat.exists_eq_add_of_le' hd
    rw [hcode, hnames]
    -- without sizes there is nothing to construct, and the constructor is written alone
    cases sizes with
    | nil =>
      rw [if_pos rfl, List.map_nil, Kotlin.creationText_bare (.inr rfl), ← Ty.convert_arrays]
      rfl
    | cons e rest =>
      rw [if_neg (List.cons_ne_nil e rest)]
      exact Kotlin.creationText_arraysOf (Ty.isArray_convert helement config) d _ _
  · intro j hj
    obtain ⟨j, rfl⟩ := Nat.exists_eq_add_of_le' hj
    exact Kotlin.Ty.text_arrayOf_eq_constructorText (type j)
  · intro p hp
    show (Kotlin.Ty.arrayOf (element.convert config)).constructorText = _
    rw [hp, Kotlin.Ty.constructorText_arrayOf_primitive]
  · intro j hj hprimitive
    obtain ⟨j, rfl⟩ := Nat.exists_eq_add_of_le' hj
    refine Kotlin.Ty.constructorText_arrayOf fun p hp => ?_
    cases j with
    | zero => exact hprimitive rfl p hp
    | succ j => cases hp

/-- Three sizes for two levels: the third is dropped. -/
theorem toKotlin_convert_newArray_surplus :
    let int : Ty := .primitive "int"
    let sizes : List Expr := [.name "n" false, .name "m" true, .name "k" false]
    (∀ component, int ≠ .array component) ∧ 1 ≤ 2
    ∧ ((Expr.newArray (int.arrays 2) sizes).convert {}).toKotlin
      = "Array<IntArray?>(n, \x7bIntArray(m)\x7d)" := by
  have h : ∀ component, Ty.primitive "int" ≠ .array component := nofun
  refine ⟨h, by decide, ?_⟩
  rw [(toKotlin_convert_newArray {} (.primitive "int") h 2 (by decide) _).1]
  decide +kernel

end Java

end Kotlinize
