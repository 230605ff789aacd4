import Kotlinize.Proofs.ArrayCreation
import Kotlinize.Proofs.Parts
import Kotlinize.Proofs.Writing

/-!
# The question mark at the end of a type

A type that admits null ends in a question mark, and where the type stands in the
place of a constructor that mark is taken away. Both are about the code of the
type: the mark is looked for at the end of a text, in which the marks of arguments
and elements also occur, some of them right before the last bracket.

The same is said here about the type itself. Below projections and variable-arity
parameters there is at most one array or class, and its flag decides: the code of a
type is the code of the type with that flag unset (`Ty.nonNull`), and behind it the
mark (`Ty.text_eq_text_nonNull_append`). What comes before the mark never ends in
one, unless a name does, and so trimming the code and unsetting the flag come to
the same.
-/

namespace Kotlinize.Kotlin

/-! ## Texts that end in a mark

The last character of a concatenation is that of its right part, or of its left part
if the right one is empty. Codes of types are concatenations of names, brackets and
marks, and are looked through from the end. -/

/-- **A text that ends in a question mark.** -/
def EndsInMark (s : String) : Prop :=
  s.toList.getLast? = some '?'

instance (s : String) : Decidable (EndsInMark s) :=
  inferInstanceAs (Decidable (s.toList.getLast? = some '?'))

namespace EndsInMark

variable {s t : String}

/-- A concatenation ends in a mark only if one of its parts does. -/
theorem of_append (h : EndsInMark (s ++ t)) : EndsInMark t ∨ EndsInMark s := by
  rw [EndsInMark, String.toList_append, List.getLast?_append, Option.or_eq_some_iff] at h
  exact h.imp_right fun h => h.2

/-- The last character is that of the last part, if this has one. -/
theorem of_append_of_ne (h : EndsInMark (s ++ t)) (ht : t.toList ≠ []) : EndsInMark t := by
  rw [EndsInMark, String.toList_append, List.getLast?_append, Option.or_eq_some_iff] at h
  exact h.resolve_right fun h => ht (List.getLast?_eq_none_iff.mp h.1)

/-- A text with a mark behind it ends in one. -/
theorem append_mark (s : String) : EndsInMark (s ++ "?") := by
  simp [EndsInMark]

end EndsInMark

/-- Escaping puts no question mark at the end of a name. -/
theorem Identifier.endsInMark_name {id : Identifier} (h : EndsInMark id.text) :
    EndsInMark id.name := by
  unfold text escapeKeyword at h
  split at h
  · split at h
    · exact absurd (h.of_append_of_ne (by decide)) (by decide)
    · exact h
  · exact h

/-! ## The flag and the mark

A type with a flag writes its mark last. Projections and variable-arity parameters put
something in front of the type inside them or nothing at all, so that its mark remains
the last character of the whole. -/

namespace Ty

/-- **The type that does not admit null**: the flag of the array or class that is found below
projections and variable-arity parameters is unset, and nothing inside it is changed. -/
def nonNull : Ty → Ty
  | .primitive name => .primitive name
  | .array element _ => .array element false
  | .classType name arguments _ => .classType name arguments false
  | .starProjection => .starProjection
  | .outProjection bound => .outProjection bound.nonNull
  | .inProjection bound => .inProjection bound.nonNull
  | .vararg component => .vararg component.nonNull

/-- The code of an array ends in its mark, and before that in a piece that is no mark. -/
theorem exists_text_array (element : Ty) :
    ∃ front piece : String, (piece.toList ≠ [] ∧ ¬EndsInMark piece)
      ∧ ∀ nullable, (Ty.array element nullable).text = front ++ piece ++ nullMark nullable := by
  cases element with
  | primitive name => exact ⟨name.text, "Array", by decide, fun _ => rfl⟩
  | _ => exact ⟨_, ">", by decide, fun _ => rfl⟩

/-- **The mark is all that the flag adds**, and it stands at the end. -/
theorem text_eq_text_nonNull_append (t : Ty) :
    t.text = t.nonNull.text ++ nullMark t.isNullable := by
  fun_induction isNullable t with
  | case1 name => exact String.append_empty.symm
  | case2 element nullable =>
    obtain ⟨front, piece, -, htext⟩ := exists_text_array element
    rw [nonNull, htext nullable, htext false]
    show front ++ piece ++ nullMark nullable = front ++ piece ++ "" ++ nullMark nullable
    rw [String.append_empty]
  | case3 name arguments nullable =>
    show name.text ++ argumentList (texts arguments) ++ nullMark nullable
      = name.text ++ argumentList (texts arguments) ++ "" ++ nullMark nullable
    rw [String.append_empty]
  | case4 => exact String.append_empty.symm
  | case5 bound ih => rw [text, ih, nonNull, text, String.append_assoc]
  | case6 bound ih => rw [text, ih, nonNull, text, String.append_assoc]
  | case7 component ih => rw [text, ih, nonNull, text]

/-- Marks inside brackets are not at the end. -/
theorem not_endsInMark_argumentList (arguments : List String) :
    ¬EndsInMark (argumentList arguments) := by
  intro h
  unfold argumentList at h
  split at h
  · exact absurd h (by decide)
  · exact absurd (h.of_append_of_ne (by decide)) (by decide)

/-- **Without its mark no type ends in one**, as long as no name does. -/
theorem not_endsInMark_text_nonNull : ∀ t : Ty, (∀ id ∈ t.identifiers, ¬EndsInMark id.name) →
    ¬EndsInMark t.nonNull.text
  | .primitive name, h => fun hmark => h name List.mem_cons_self (Identifier.endsInMark_name hmark)
  | .array element _, _ => by
    intro hmark
    obtain ⟨front, piece, hpiece, htext⟩ := exists_text_array element
    rw [nonNull, htext false] at hmark
    rcases hmark.of_append with hempty | hmark
    · exact absurd hempty (by decide)
    · exact hpiece.2 (hmark.of_append_of_ne hpiece.1)
  | .classType name arguments _, h => by
    intro hmark
    rcases hmark.of_append with hempty | hmark
    · exact absurd hempty (by decide)
    · rcases hmark.of_append with harguments | hname
      · exact not_endsInMark_argumentList (texts arguments) harguments
      · exact h name List.mem_cons_self (Identifier.endsInMark_name hname)
  | .starProjection, _ => by decide
  | .outProjection bound, h => fun hmark => hmark.of_append.elim
      (not_endsInMark_text_nonNull bound h) (by decide)
  | .inProjection bound, h => fun hmark => hmark.of_append.elim
      (not_endsInMark_text_nonNull bound h) (by decide)
  | .vararg component, h => not_endsInMark_text_nonNull component h

/-- Trimming takes nothing from a text that does not end in a mark. -/
theorem withoutMark_of_not_endsInMark {code : String} (h : ¬EndsInMark code) :
    withoutMark code = code :=
  if_neg h

section

variable {t : Ty}

/-- **The code of a type ends in a mark if and only if the type admits null.** -/
theorem endsInMark_text_iff (h : ∀ id ∈ t.identifiers, ¬EndsInMark id.name) :
    EndsInMark t.text ↔ t.isNullable = true := by
  rw [text_eq_text_nonNull_append]
  cases t.isNullable with
  | false => simpa [nullMark] using not_endsInMark_text_nonNull t h
  | true => simpa [nullMark] using EndsInMark.append_mark t.nonNull.text

/-- **Trimming the code of a type and unsetting its flag come to the same.** -/
theorem constructorText_eq_text_nonNull (h : ∀ id ∈ t.identifiers, ¬EndsInMark id.name) :
    t.constructorText = t.nonNull.text := by
  rw [constructorText, text_eq_text_nonNull_append]
  cases t.isNullable with
  | false =>
    show withoutMark (t.nonNull.text ++ "") = t.nonNull.text
    rw [String.append_empty]
    exact withoutMark_of_not_endsInMark (not_endsInMark_text_nonNull t h)
  | true => exact withoutMark_append_mark t.nonNull.text

end

/-- **The place of a constructor drops the outer mark only.** If no name in a type ends in a
question mark, the code of the type ends in one if and only if the type admits null. And what a
writer writes for the type in the place of a constructor is the code of the type with the flag of
its outermost array or class unset, all marks inside it included. -/
theorem constructor_drops_outer_mark (t : Ty) (h : ∀ id ∈ t.identifiers, ¬EndsInMark id.name) :
    (EndsInMark t.text ↔ t.isNullable = true)
      ∧ ∀ w : Writer, w.run t.constructorSteps = ⟨w.output ++ t.nonNull.text, w.level⟩ := by
  refine ⟨endsInMark_text_iff h, fun w => ?_⟩
  rw [t.writes_constructorSteps.run_eq, constructorText_eq_text_nonNull h]

/-- A projection of an array of nullable maps: the marks before the brackets stay. -/
theorem constructor_drops_outer_mark_projection :
    let map : Ty := .ofClass "Map" [.ofClass "String" [], .outProjection (.arrayOf .unit)]
    let t : Ty := .outProjection (.vararg (.arrayOf map))
    (∀ id ∈ t.identifiers, ¬EndsInMark id.name) ∧ EndsInMark t.text
      ∧ (Writer.new.run t.constructorSteps).output
        = "out Array<Map<String?, out UnitArray?>?>" := by
  intro map t
  have hnames : ∀ id ∈ t.identifiers, ¬EndsInMark id.name := by decide
  obtain ⟨hmark, hwriter⟩ := constructor_drops_outer_mark t hnames
  refine ⟨hnames, hmark.mpr rfl, ?_⟩
  rw [hwriter]
  decide +kernel

end Ty

end Kotlinize.Kotlin
