import Kotlinize.Proofs.Literals
import Kotlinize.Proofs.Parts
import Kotlinize.Proofs.Writing

/-!
# Nesting only shifts code

The code of a node depends on the level it stands at, and bodies nest: in members,
in the initializers of properties, in the arguments of calls and the sizes of
arrays. Two rules put blanks before lines. A body puts them before each of its
members and before its closing brace; code made elsewhere is cut into lines and
gets them before each line but the first, empty lines excepted. The statement of
this module is that both come to the same: the code of a node at any level is its
code at the outermost level with its lines shifted.

The induction carries `Shifts`, which says this of code as a function of the
level. Code that other code stands behind must not end in a line feed, since what
follows would decide about the last line; this is `ShiftsOpen`, and everything but
a member made elsewhere has it. Such a member is always followed by a line feed,
and then its last line is empty whatever comes next (`AllCodes.tail_shifts`).
-/

namespace Kotlinize.Kotlin

/-! ## Code on one line

What holds no line feed is not changed by shifting. Names are assumed to be such,
and then so are types and everything else that is written without a body. -/

/-- Escaping adds no line feed to a name. -/
theorem Identifier.oneLine_text {id : Identifier} (h : Text.OneLine id.name) :
    Text.OneLine id.text := by
  unfold text escapeKeyword
  split
  · split
    · exact (h.cons_piece "`").append_piece "`"
    · exact h
  · exact h

namespace Ty

theorem oneLine_nullMark (nullable : Bool) : Text.OneLine (nullMark nullable) := by
  cases nullable <;> decide

/-- Arguments are separated by a comma and a blank. -/
theorem oneLine_argumentList {codes : List String} (h : ∀ code ∈ codes, Text.OneLine code) :
    Text.OneLine (argumentList codes) := by
  unfold argumentList
  split
  · decide
  · exact ((Text.OneLine.intercalate ", " h).cons_piece "<").append_piece ">"

mutual

/-- **The code of a type stands on one line** if its names do. -/
theorem oneLine_text : ∀ t : Ty, (∀ id ∈ t.identifiers, Text.OneLine id.name) →
    Text.OneLine t.text
  | .primitive name, h => Identifier.oneLine_text (h name List.mem_cons_self)
  | .array element nullable, h => by
    have hmark := oneLine_nullMark nullable
    have helement := oneLine_text element h
    cases element with
    | primitive name => exact (helement.append_piece "Array").append hmark
    | _ => exact ((helement.cons_piece "Array<").append_piece ">").append hmark
  | .classType name arguments nullable, h =>
    ((Identifier.oneLine_text (h name List.mem_cons_self)).append
      (oneLine_argumentList
        (oneLine_of_mem_texts arguments fun id hid => h id (List.mem_cons_of_mem name hid)))).append
      (oneLine_nullMark nullable)
  | .starProjection, _ => by decide
  | .outProjection bound, h => (oneLine_text bound h).cons_piece "out "
  | .inProjection bound, h => (oneLine_text bound h).cons_piece "in "
  | .vararg component, h => oneLine_text component h

/-- The code of several types, one after another. -/
theorem oneLine_of_mem_texts : ∀ ts : List Ty,
    (∀ id ∈ identifiersOfAll ts, Text.OneLine id.name) → ∀ code ∈ texts ts, Text.OneLine code
  | [], _, code, hcode => absurd hcode List.not_mem_nil
  | t :: rest, h, code, hcode => by
    rw [texts] at hcode
    rcases List.mem_cons.mp hcode with rfl | hcode
    · exact oneLine_text t fun id hid => h id (List.mem_append_left _ hid)
    · exact oneLine_of_mem_texts rest (fun id hid => h id (List.mem_append_right _ hid)) code hcode

end

/-- A code without its question mark holds less than before. -/
theorem oneLine_withoutMark {code : String} (h : Text.OneLine code) :
    Text.OneLine (withoutMark code) := by
  unfold withoutMark
  split
  · rw [Text.OneLine, String.toList_ofList]
    exact fun hmem => h (List.dropLast_subset code.toList hmem)
  · exact h

theorem oneLine_constructorText {t : Ty} (h : ∀ id ∈ t.identifiers, Text.OneLine id.name) :
    Text.OneLine t.constructorText :=
  oneLine_withoutMark (oneLine_text t h)

end Ty

/-! ## Shifting code

Code is a function of the level here, so that one statement speaks about all levels
at once. Concatenation keeps it, as long as the first piece does not end in a line
feed. -/

/-- **Code that nesting only shifts**, as a function of the level. -/
def Shifts (code : Nat → String) : Prop :=
  ∀ k, code k = Text.shifted (4 * k) (code 0)

/-- Code that nesting only shifts and that other code can stand behind. -/
structure ShiftsOpen (code : Nat → String) : Prop where
  shifts : Shifts code
  /-- The code does not end in a line feed. -/
  last_ne : (code 0).toList.getLast? ≠ some '\n'

/-- As lists of characters. -/
theorem Shifts.toList_eq {code : Nat → String} (h : Shifts code) (k : Nat) :
    (code k).toList = Text.shiftedChars (4 * k) (code 0).toList := by
  rw [h k, Text.shifted, String.toList_ofList]

/-- One level further in. -/
theorem Shifts.toList_succ {code : Nat → String} (h : Shifts code) (k : Nat) :
    (code (k + 1)).toList = Text.shiftedChars (4 * k) (code 1).toList := by
  rw [h.toList_eq (k + 1), h.toList_eq 1, Text.shiftedChars_shiftedChars, Nat.mul_add]

namespace ShiftsOpen

variable {code further : Nat → String}

/-- **Code on one line is not shifted**, so it may be the same at every level. -/
theorem of_oneLine {piece : String} (h : Text.OneLine piece) : ShiftsOpen fun _ => piece where
  shifts k := by
    rw [Text.shifted, Text.shiftedChars_of_notMem h, String.ofList_toList]
  last_ne := List.getLast?_ne_of_notMem h

/-- **Shifting distributes over concatenation** here, since the first code does not
end in a line feed. -/
theorem append (h : ShiftsOpen code) (hfurther : ShiftsOpen further) :
    ShiftsOpen fun k => code k ++ further k where
  shifts k := by
    refine String.toList_inj.mp ?_
    rw [Text.shifted, String.toList_ofList, String.toList_append, String.toList_append,
      Text.shiftedChars_append fun hlast => absurd hlast h.last_ne, h.shifts.toList_eq,
      hfurther.shifts.toList_eq]
  last_ne := by
    intro hlast
    rw [String.toList_append, List.getLast?_append] at hlast
    rcases Option.or_eq_some_iff.mp hlast with hlast | ⟨-, hlast⟩
    · exact hfurther.last_ne hlast
    · exact h.last_ne hlast

/-- A fixed piece in front. -/
theorem cons_piece (piece : String) (h : ShiftsOpen code)
    (hpiece : Text.OneLine piece := by decide) : ShiftsOpen fun k => piece ++ code k :=
  (of_oneLine hpiece).append h

/-- A fixed piece behind. -/
theorem append_piece (h : ShiftsOpen code) (piece : String)
    (hpiece : Text.OneLine piece := by decide) : ShiftsOpen fun k => code k ++ piece :=
  h.append (of_oneLine hpiece)

end ShiftsOpen

/-! ## Several pieces of code

Lists of expressions are written at one level, so a list of codes is a function of
the level as well. Its length does not depend on the level, and that is what
`AllCodes` says beside the property of its members. -/

/-- Several pieces of code, as functions of the level, that all have a property. -/
inductive AllCodes (P : (Nat → String) → Prop) : (Nat → List String) → Prop
  | nil : AllCodes P fun _ => []
  | cons {code : Nat → String} {codes : Nat → List String} :
    P code → AllCodes P codes → AllCodes P fun k => code k :: codes k

namespace AllCodes

variable {codes : Nat → List String}

theorem of_oneLine {pieces : List String} (h : ∀ piece ∈ pieces, Text.OneLine piece) :
    AllCodes ShiftsOpen fun _ => pieces := by
  induction pieces with
  | nil => exact nil
  | cons piece pieces ih =>
    exact cons (.of_oneLine (h piece List.mem_cons_self))
      (ih fun p hp => h p (List.mem_cons_of_mem piece hp))

/-- With a separator between them. -/
theorem joined (h : AllCodes ShiftsOpen codes) (separator : String)
    (hseparator : Text.OneLine separator := by decide) :
    ShiftsOpen fun k => separator.intercalate (codes k) := by
  induction h with
  | nil =>
    simp only [String.intercalate_nil]
    exact .of_oneLine (by decide)
  | cons hfirst hrest ih =>
    cases hrest with
    | nil =>
      simp only [String.intercalate_singleton]
      exact hfirst
    | cons hsecond hrest =>
      simp only [String.intercalate_cons_cons] at ih ⊢
      exact (hfirst.append_piece separator hseparator).append ih

/-- As arguments of a call. -/
theorem arguments (h : AllCodes ShiftsOpen codes) :
    ShiftsOpen fun k => argumentText (codes k) :=
  ((h.joined ", ").cons_piece "(").append_piece ")"

/-- Several pieces of code are a list of functions of the level. -/
theorem exists_eq_map {P : (Nat → String) → Prop} (h : AllCodes P codes) :
    ∃ pieces : List (Nat → String), (∀ piece ∈ pieces, P piece)
      ∧ codes = fun k => pieces.map fun piece => piece k := by
  induction h with
  | nil => exact ⟨[], fun _ hmem => absurd hmem List.not_mem_nil, rfl⟩
  | @cons code _ hcode _ ih =>
    obtain ⟨pieces, hpieces, rfl⟩ := ih
    exact ⟨code :: pieces, List.forall_mem_cons.mpr ⟨hcode, hpieces⟩, rfl⟩

/-- As the sizes of an array creation. -/
theorem creation (h : AllCodes ShiftsOpen codes) (t : Ty)
    (ht : ∀ id ∈ t.identifiers, Text.OneLine id.name) :
    ShiftsOpen fun k => creationText t (codes k) := by
  obtain ⟨sizes, hsizes, rfl⟩ := h.exists_eq_map
  clear h
  have hname := ShiftsOpen.of_oneLine (Ty.oneLine_constructorText ht)
  induction t, sizes using Ty.levels_induction with
  | nested e m n size next rest ih =>
    obtain ⟨hsize, hrest⟩ := List.forall_mem_cons.mp hsizes
    have hinner := ih ht hrest (.of_oneLine (Ty.oneLine_constructorText ht))
    exact ((((hname.append_piece "(").append hsize).append_piece ", \x7b").append
      hinner).append_piece "\x7d)"
  | last e n size rest hlast =>
    have hsize := hsizes size List.mem_cons_self
    simp only [List.map_cons, creationText_last (hlast.imp_right List.map_eq_nil_iff.mpr)]
    exact ((hname.append_piece "(").append hsize).append_piece ")"
  | bare t sizes hbare =>
    simp only [creationText_bare (hbare.imp_right List.map_eq_nil_iff.mpr)]
    exact hname

/-- As the arguments of a superclass. -/
theorem supertypes (h : AllCodes ShiftsOpen codes) {superclass : Option Ty} {interfaces : List Ty}
    (hsuperclass : ∀ t ∈ superclass, Text.OneLine t.constructorText)
    (hinterfaces : ∀ t ∈ interfaces, Text.OneLine t.constructorText) :
    ShiftsOpen fun k => supertypeText superclass (codes k) interfaces := by
  have hrest : AllCodes ShiftsOpen fun _ => interfaces.map Ty.constructorText :=
    of_oneLine fun piece hpiece => by
      obtain ⟨t, ht, rfl⟩ := List.mem_map.mp hpiece
      exact hinterfaces t ht
  cases superclass with
  | none =>
    cases interfaces with
    | nil => exact .of_oneLine (by decide)
    | cons t rest => exact (hrest.joined ", ").cons_piece " : "
  | some t =>
    have hbase := (ShiftsOpen.of_oneLine (hsuperclass t rfl)).append h.arguments
    exact ((cons hbase hrest).joined ", ").cons_piece " : "

end AllCodes

/-! ## Bodies

A body is where the level changes. Its first line ends in a line feed, so everything
after that is shifted; the code of its members is given at the next level and is
therefore shifted twice, by the level of the body and by the four blanks of its
own. -/

@[simp] theorem toList_indentation (k : Nat) :
    (indentation k).toList = List.replicate (4 * k) ' ' :=
  String.toList_ofList

/-- What stands in a body after its first line, given the code of its members at the next level. -/
def bodyTail (level : Nat) (members : List String) : String :=
  String.join (members.map fun m => indentation (level + 1) ++ m ++ "\n") ++ indentation level
    ++ "\x7d"

theorem toList_bodyText (level : Nat) (members : List String) :
    (bodyText level members).toList = '\x7b' :: '\n' :: (bodyTail level members).toList := by
  simp [bodyText, bodyTail]

/-- A member stands behind the blanks of the body and four of its own. -/
theorem toList_bodyTail_cons (level : Nat) (m : String) (members : List String) :
    (bodyTail level (m :: members)).toList
      = List.replicate (4 * level) ' ' ++ (List.replicate 4 ' '
        ++ (m.toList ++ '\n' :: (bodyTail level members).toList)) := by
  rw [bodyTail, List.map_cons, String.join_cons]
  simp [bodyTail, Nat.mul_add, ← List.replicate_append_replicate]

namespace AllCodes

variable {codes : Nat → List String}

/-- **The members of a body are shifted with it.** A line feed stands before each of them and
after it, so the code of a member may end in one. -/
theorem tail_shifts (h : AllCodes Shifts codes) (k : Nat) :
    '\n' :: (bodyTail k (codes (k + 1))).toList
      = Text.shiftedChars (4 * k) ('\n' :: (bodyTail 0 (codes 1)).toList) := by
  induction h with
  | nil => simp [bodyTail, Text.shiftedChars, Text.gap, Text.beginsLine]
  | cons hmember hrest ih =>
    simp only [toList_bodyTail_cons, Nat.mul_zero, List.replicate_zero, List.nil_append]
    -- four blanks follow the line feed before a member, and a line feed follows the member
    rw [Text.shiftedChars, Text.gap_of_beginsLine rfl,
      Text.shiftedChars_append_of_notMem (Text.lineFeed_notMem_replicate 4),
      Text.shiftedChars_append fun _ => rfl, ← ih, hmember.toList_succ k]
    rfl

/-- As the members of a body. -/
theorem body (h : AllCodes Shifts codes) : ShiftsOpen fun k => bodyText k (codes (k + 1)) where
  shifts k := by
    refine String.toList_inj.mp ?_
    rw [Text.shifted, String.toList_ofList, toList_bodyText, toList_bodyText, Text.shiftedChars,
      Text.gap_of_ne (by decide), ← h.tail_shifts k]
    rfl
  last_ne := by
    rw [bodyText, String.toList_append, List.getLast?_append,
      show "\x7d".toList.getLast? = some '\x7d' from by decide, Option.some_or]
    decide

end AllCodes

/-! ## Code made elsewhere

Such code is cut into lines when it is written. An empty line gets no blanks,
neither from the writer nor from shifting, and a line that is not empty gets the
same from both. -/

/-- A line of code made elsewhere, with the line feed before it. -/
def furtherLine (level : Nat) (line : String) : String :=
  "\n" ++ (if line.isEmpty then "" else indentation level) ++ line

theorem toList_furtherLine (k : Nat) (line : String) :
    (furtherLine k line).toList
      = '\n' :: (if line.toList = [] then [] else List.replicate (4 * k) ' ') ++ line.toList := by
  rw [furtherLine, String.toList_append, String.toList_append]
  by_cases hline : line = ""
  · subst hline
    rfl
  · rw [if_neg (by simpa using hline), if_neg (by simpa using hline), toList_indentation]
    rfl

theorem toList_furtherLine_zero (line : String) :
    (furtherLine 0 line).toList = '\n' :: line.toList := by
  rw [toList_furtherLine, Nat.mul_zero, List.replicate_zero, ite_self]
  rfl

/-- What stands after a line begins with a line feed, or there is nothing. -/
theorem beginsLine_furtherLines (lines : List String) :
    Text.beginsLine (String.join (lines.map (furtherLine 0))).toList = false := by
  cases lines with
  | nil => rfl
  | cons line lines =>
    rw [List.map_cons, String.join_cons, String.toList_append, toList_furtherLine_zero]
    rfl

/-- The blanks before a line, decided by the line itself. -/
theorem gap_line {width : Nat} {line rest : List Char} (hline : '\n' ∉ line)
    (hrest : Text.beginsLine rest = false) :
    Text.gap width '\n' (line ++ rest) = if line = [] then [] else List.replicate width ' ' := by
  cases line with
  | nil => exact Text.gap_of_not_beginsLine hrest
  | cons c line =>
    have hc : c ≠ '\n' := fun h => hline (h ▸ List.mem_cons_self)
    exact Text.gap_of_beginsLine (bne_iff_ne.mpr hc)

/-- **The lines of code made elsewhere are shifted**, the empty ones excepted. -/
theorem furtherLines_shift (k : Nat) {lines : List String}
    (h : ∀ line ∈ lines, Text.OneLine line) :
    (String.join (lines.map (furtherLine k))).toList
      = Text.shiftedChars (4 * k) (String.join (lines.map (furtherLine 0))).toList := by
  induction lines with
  | nil => rfl
  | cons line lines ih =>
    have hline : Text.OneLine line := h line List.mem_cons_self
    have hrest := ih fun l hl => h l (List.mem_cons_of_mem line hl)
    rw [List.map_cons, List.map_cons, String.join_cons, String.join_cons, String.toList_append,
      String.toList_append, toList_furtherLine, toList_furtherLine_zero]
    simp only [List.cons_append, List.append_assoc]
    -- the next line begins with a line feed, so the blanks here are decided by this line alone
    rw [Text.shiftedChars, gap_line hline (beginsLine_furtherLines lines),
      Text.shiftedChars_append_of_notMem hline, ← hrest]
    rfl

/-- **Code made elsewhere is shifted**, also where it ends in an empty line. -/
theorem shifts_verbatimText (code : String) : Shifts fun k => verbatimText k code := by
  intro k
  have hlines : ∀ line ∈ Text.lines code, Text.OneLine line := fun _ => Text.oneLine_of_mem_lines
  refine String.toList_inj.mp ?_
  rw [Text.shifted, String.toList_ofList]
  unfold verbatimText
  cases hcode : Text.lines code with
  | nil => rfl
  | cons first rest =>
    rw [hcode] at hlines
    show (first ++ String.join (rest.map (furtherLine k))).toList
      = Text.shiftedChars (4 * k) (first ++ String.join (rest.map (furtherLine 0))).toList
    rw [String.toList_append, String.toList_append,
      Text.shiftedChars_append_of_notMem (hlines first List.mem_cons_self),
      furtherLines_shift k fun line hline => hlines line (List.mem_cons_of_mem first hline)]

/-! ## Expressions and declarations -/

theorem TypeParameter.oneLine_text {p : TypeParameter}
    (h : ∀ id ∈ p.identifiers, Text.OneLine id.name) : Text.OneLine p.text := by
  obtain ⟨name, bound⟩ := p
  have hname := Identifier.oneLine_text (h name List.mem_cons_self)
  cases bound with
  | none => exact hname.append_piece ""
  | some bound =>
    have hbound := bound.oneLine_text fun id hid => h id (List.mem_cons_of_mem name hid)
    exact hname.append (hbound.cons_piece " : ")

/-- What a class declaration says before its supertypes stands on one line. -/
theorem oneLine_headText {name : Identifier} (modifiers : List Modifier)
    {typeParameters : List TypeParameter} (hname : Text.OneLine name.name)
    (hparameters : ∀ id ∈ typeParameters.flatMap TypeParameter.identifiers,
      Text.OneLine id.name) :
    Text.OneLine (headText name modifiers typeParameters) := by
  have hmodifiers : Text.OneLine (String.join (modifiers.map fun m => m.keyword ++ " ")) := by
    refine Text.OneLine.join fun code hcode => ?_
    obtain ⟨m, -, rfl⟩ := List.mem_map.mp hcode
    cases m <;> decide
  have hlist : Text.OneLine (Ty.argumentList (typeParameters.map TypeParameter.text)) := by
    refine Ty.oneLine_argumentList fun code hcode => ?_
    obtain ⟨p, hp, rfl⟩ := List.mem_map.mp hcode
    exact TypeParameter.oneLine_text fun id hid =>
      hparameters id (List.mem_flatMap.mpr ⟨p, hp, hid⟩)
  exact ((hmodifiers.append_piece "class ").append (Identifier.oneLine_text hname)).append hlist

theorem Ty.oneLine_constructorText_of_mem {ts : List Ty}
    (h : ∀ id ∈ Ty.identifiersOfAll ts, Text.OneLine id.name) :
    ∀ t ∈ ts, Text.OneLine t.constructorText := by
  intro t ht
  rw [Ty.identifiersOfAll_eq_flatMap] at h
  exact oneLine_constructorText fun id hid => h id (List.mem_flatMap.mpr ⟨t, ht, hid⟩)

/-- What a property says before its initializer. -/
theorem oneLine_propertyHead {name : Identifier} {type : Ty} (mutable : Bool)
    (hname : Text.OneLine name.name) (htype : ∀ id ∈ type.identifiers, Text.OneLine id.name) :
    Text.OneLine ((if mutable then "var " else "val ") ++ name.text ++ ": " ++ type.text) := by
  have hkeyword : Text.OneLine (if mutable then "var " else "val ") := by
    split <;> decide
  exact ((hkeyword.append (Identifier.oneLine_text hname)).append_piece ": ").append
    (type.oneLine_text htype)

mutual

/-- **Nesting only shifts an expression.** -/
theorem Expr.shiftsOpen_text : ∀ e : Expr, (∀ id ∈ e.identifiers, Text.OneLine id.name) →
    ShiftsOpen fun k => e.text k
  | .literal value, _ => .of_oneLine value.oneLine_text
  | .ident name, h => .of_oneLine (Identifier.oneLine_text (h name List.mem_cons_self))
  | .member receiver name, h => by
    simp only [Expr.identifiers, List.forall_mem_append, List.forall_mem_singleton] at h
    have hreceiver := Expr.shiftsOpen_text receiver h.1
    have hdot : Text.OneLine (if receiver.isNullable then "?." else ".") := by
      split <;> decide
    exact (hreceiver.append_piece _ hdot).append (.of_oneLine (Identifier.oneLine_text h.2))
  | .call callee typeArguments arguments _, h => by
    simp only [Expr.identifiers, List.forall_mem_append] at h
    have htypes := Ty.oneLine_argumentList (Ty.oneLine_of_mem_texts typeArguments h.1.2)
    exact ((Expr.shiftsOpen_text callee h.1.1).append_piece _ htypes).append
      (Expr.allCodes_texts arguments h.2).arguments
  | .newArray type sizes, h => by
    simp only [Expr.identifiers, List.forall_mem_append] at h
    exact (Expr.allCodes_texts sizes h.2).creation type h.1
  | .anonymous supertype arguments members, h => by
    simp only [Expr.identifiers, List.forall_mem_append] at h
    have hname := ShiftsOpen.of_oneLine (Ty.oneLine_constructorText h.1.1)
    exact (((hname.cons_piece "object : ").append
      (Expr.allCodes_texts arguments h.1.2).arguments).append_piece " ").append
      (Member.allCodes_texts members h.2).body

/-- Several expressions at one level. -/
theorem Expr.allCodes_texts : ∀ es : List Expr,
    (∀ id ∈ Expr.identifiersOfAll es, Text.OneLine id.name) →
    AllCodes ShiftsOpen fun k => Expr.texts k es
  | [], _ => .nil
  | e :: rest, h => by
    simp only [Expr.identifiersOfAll, List.forall_mem_append] at h
    exact .cons (Expr.shiftsOpen_text e h.1) (Expr.allCodes_texts rest h.2)

/-- **Nesting only shifts a member**, whatever code it holds that was made elsewhere. -/
theorem Member.shifts_text : ∀ m : Member, (∀ id ∈ m.identifiers, Text.OneLine id.name) →
    Shifts fun k => m.text k
  | .property name type none mutable, h => by
    simp only [Member.identifiers, List.forall_mem_cons] at h
    exact (ShiftsOpen.of_oneLine (oneLine_propertyHead mutable h.1 h.2)).shifts
  | .property name type (some initializer) mutable, h => by
    simp only [Member.identifiers, List.cons_append, List.forall_mem_cons,
      List.forall_mem_append] at h
    have hhead := ShiftsOpen.of_oneLine (oneLine_propertyHead mutable h.1 h.2.1)
    exact ((hhead.append_piece " = ").append (Expr.shiftsOpen_text initializer h.2.2)).shifts
  | .classMember declaration, h => (Class.shiftsOpen_text declaration h).shifts
  | .verbatim code, _ => shifts_verbatimText code

/-- Several members at one level. They need not be open, since a line feed follows each. -/
theorem Member.allCodes_texts : ∀ ms : List Member,
    (∀ id ∈ Member.identifiersOfAll ms, Text.OneLine id.name) →
    AllCodes Shifts fun k => Member.texts k ms
  | [], _ => .nil
  | m :: rest, h => by
    simp only [Member.identifiersOfAll, List.forall_mem_append] at h
    exact .cons (Member.shifts_text m h.1) (Member.allCodes_texts rest h.2)

/-- **Nesting only shifts a class declaration.** -/
theorem Class.shiftsOpen_text : ∀ c : Class, (∀ id ∈ c.identifiers, Text.OneLine id.name) →
    ShiftsOpen fun k => c.text k
  | ⟨name, modifiers, typeParameters, superclass, interfaces, superArguments, members⟩, h => by
    simp only [Class.identifiers, List.cons_append, List.forall_mem_cons,
      List.forall_mem_append] at h
    obtain ⟨hname, ⟨⟨⟨hparameters, hsuperclass⟩, hinterfaces⟩, harguments⟩, hmembers⟩ := h
    have hhead := ShiftsOpen.of_oneLine (oneLine_headText modifiers hname hparameters)
    have hsuper : ∀ t ∈ superclass, Text.OneLine t.constructorText := by
      rintro t rfl
      exact Ty.oneLine_constructorText hsuperclass
    exact ((hhead.append ((Expr.allCodes_texts superArguments harguments).supertypes hsuper
      (Ty.oneLine_constructorText_of_mem hinterfaces))).append_piece " ").append
      (Member.allCodes_texts members hmembers).body

end

theorem ObjectBody.shiftsOpen_text (b : ObjectBody)
    (h : ∀ id ∈ b.identifiers, Text.OneLine id.name) : ShiftsOpen fun k => b.text k :=
  (Member.allCodes_texts b.members h).body

/-! ## Writing further in

The writer was shown to append the code of a node at its level. With that the
statement about code becomes one about what the writer does. -/

/-- Steps that write code which nesting only shifts append the code of the outermost level,
shifted. -/
theorem Writes.output_eq_shifted {steps : List Step} {code : Nat → String}
    (h : Writes steps code) (hshifts : Shifts code) (w : Writer) :
    (w.run steps).output
      = w.output ++ Text.shifted (4 * w.level) (Writer.new.run steps).output := by
  have hnew : (Writer.new.run steps).output = code 0 := h.emit_eq
  rw [hnew, h.run_eq, hshifts w.level]

/-- **Nesting only shifts code.** What a writer appends for a node at any level is what a new writer
writes for it, with four blanks for each level after every line feed that begins a line which is
not empty. -/
theorem write_shifts_code (w : Writer) :
    (∀ e : Expr, (∀ id ∈ e.identifiers, Text.OneLine id.name) →
      (e.write w).output = w.output ++ Text.shifted (4 * w.level) (e.write .new).output)
    ∧ (∀ c : Class, (∀ id ∈ c.identifiers, Text.OneLine id.name) →
      (c.write w).output = w.output ++ Text.shifted (4 * w.level) (c.write .new).output)
    ∧ (∀ b : ObjectBody, (∀ id ∈ b.identifiers, Text.OneLine id.name) →
      (b.write w).output = w.output ++ Text.shifted (4 * w.level) (b.write .new).output)
    ∧ ∀ m : Member, (∀ id ∈ m.identifiers, Text.OneLine id.name) →
      (m.write w).output = w.output ++ Text.shifted (4 * w.level) (m.write .new).output := by
  refine ⟨fun e h => ?_, fun c h => ?_, fun b h => ?_, fun m h => ?_⟩
  · exact e.writes_steps.output_eq_shifted (e.shiftsOpen_text h).shifts w
  · exact c.writes_steps.output_eq_shifted (c.shiftsOpen_text h).shifts w
  · exact b.writes_steps.output_eq_shifted (b.shiftsOpen_text h).shifts w
  · exact m.writes_steps.output_eq_shifted (m.shifts_text h) w

/-- An object among the arguments of a call, two levels in. Its first member was made elsewhere,
with line breaks of both kinds, an empty line in the middle and one at the end. -/
theorem write_shifts_code_nested :
    let e : Expr := .call (.ident (.plain "run")) []
      [.anonymous (.ofClass "Task" []) [] [.verbatim "fun f() \x7b\r\n\n  g()\n\x7d\n\n",
        .property (.plain "in") (.ofPrimitive "Int") (some (.ident (.plain "x"))) true]] false
    let w : Writer := ⟨"val y = ", 2⟩
    (∀ id ∈ e.identifiers, Text.OneLine id.name)
      ∧ (e.write w).output = w.output ++ Text.shifted (4 * w.level) (e.write .new).output :=
  ⟨by decide, (write_shifts_code _).1 _ (by decide)⟩

end Kotlinize.Kotlin
