import Kotlinize.Proofs.Parts

/-!
# The code of a type can be read in one way

Several Kotlin types share one text. A variable-arity parameter is written as its
elements are, an array of a primitive type as a class of its own, any other array
as the generic class `Array`, and an identifier leaves no trace of whether it was
escaped by the writer or before. `TyForm` is what remains once these ways of
saying the same are identified, and `Ty.form` takes a type there.

The main statement is that nothing else is lost: two types have the same code if
and only if they have the same form. The premise is that the names hold none of
the characters that have a meaning of their own in the code of a type.

The argument reads a form from left to right. Its code is a **word** without such
characters, and then either nothing that belongs to it or a character that tells
what comes next: a space after `out` and `in`, an angle bracket before arguments,
a question mark. What follows the code of an argument is a comma or a closing
bracket, and neither can continue it, so the code of a form ends where it must
(`TyForm.chars_append_inj`).
-/

namespace Kotlinize.Kotlin

/-- **What the code of a type says about it.** -/
inductive TyForm where
  /-- A class, by its code, with its arguments and whether it admits null. -/
  | node (head : String) (arguments : List TyForm) (nullable : Bool)
  | star
  | out (bound : TyForm)
  | into (bound : TyForm)

mutual

/-- **The form of a type.** -/
def Ty.form : Ty → TyForm
  | .primitive name => .node name.text [] false
  | .array (.primitive name) nullable => .node (name.text ++ "Array") [] nullable
  | .array element nullable => .node "Array" [element.form] nullable
  | .classType name arguments nullable => .node name.text (Ty.forms arguments) nullable
  | .starProjection => .star
  | .outProjection bound => .out bound.form
  | .inProjection bound => .into bound.form
  | .vararg component => component.form

/-- The forms of several types. -/
def Ty.forms : List Ty → List TyForm
  | [] => []
  | t :: rest => t.form :: Ty.forms rest

end

namespace TyForm

/-- The characters of the mark of a type that admits null. -/
def markChars (nullable : Bool) : List Char :=
  if nullable then ['?'] else []

mutual

/-- **The code of a form**, as a list of characters. -/
def chars : TyForm → List Char
  | node head arguments nullable =>
    head.toList ++ argumentChars arguments ++ markChars nullable
  | star => ['*']
  | out bound => 'o' :: 'u' :: 't' :: ' ' :: bound.chars
  | into bound => 'i' :: 'n' :: ' ' :: bound.chars

/-- The code of the arguments of a class, brackets included. -/
def argumentChars : List TyForm → List Char
  | [] => []
  | x :: rest => '<' :: x.chars ++ furtherChars rest ++ ['>']

/-- The code of the arguments after the first. -/
def furtherChars : List TyForm → List Char
  | [] => []
  | x :: rest => ',' :: ' ' :: x.chars ++ furtherChars rest

end

/-- The code of a form. -/
def code (x : TyForm) : String :=
  String.ofList x.chars

/-! ## The code of a type is the code of its form

The code of a form is defined by recursion on the form, character by character. The
code of a type is made with two tests, whether there are arguments to put in
brackets and whether an array has elements of a primitive type. Both are dealt with
here, once. -/

/-- The code of arguments with commas between them. -/
theorem toList_intercalate_code (x : TyForm) (rest : List TyForm) :
    (", ".intercalate ((x :: rest).map code)).toList = x.chars ++ furtherChars rest := by
  induction rest generalizing x with
  | nil => simp [furtherChars, code]
  | cons y rest ih =>
    rw [List.map_cons, List.map_cons, String.intercalate_cons_cons, ← List.map_cons,
      String.toList_append, ih y]
    simp [furtherChars, code]

/-- The code of arguments in brackets. -/
theorem toList_argumentList (xs : List TyForm) :
    (Ty.argumentList (xs.map code)).toList = argumentChars xs := by
  cases xs with
  | nil => rfl
  | cons x rest =>
    rw [Ty.argumentList, if_neg (by simp), String.toList_append, String.toList_append,
      toList_intercalate_code]
    simp [argumentChars]

end TyForm

namespace Ty

/-- The mark of a type, as characters. -/
theorem toList_nullMark (nullable : Bool) :
    (nullMark nullable).toList = TyForm.markChars nullable := by
  cases nullable <;> rfl

/-- An array is either one of a primitive type or written as a generic class. -/
theorem array_cases (element : Ty) (nullable : Bool) :
    (∃ name, element = .primitive name)
      ∨ (Ty.array element nullable).text
            = "Array<" ++ element.text ++ ">" ++ nullMark nullable
          ∧ (Ty.array element nullable).form = .node "Array" [element.form] nullable := by
  cases element with
  | primitive name => exact Or.inl ⟨name, rfl⟩
  | _ => exact Or.inr ⟨by rw [text]; simp, by rw [form]; simp⟩

mutual

/-- **A type is written as its form is.** -/
theorem text_eq_code : ∀ t : Ty, t.text = t.form.code
  | .primitive name => by
    simp [text, form, TyForm.code, TyForm.chars, TyForm.argumentChars, TyForm.markChars]
  | .array element nullable => by
    refine String.toList_inj.mp ?_
    obtain ⟨name, rfl⟩ | ⟨htext, hform⟩ := array_cases element nullable
    · simp [text, form, TyForm.code, TyForm.chars, TyForm.argumentChars, toList_nullMark]
    · rw [htext, hform, text_eq_code element]
      simp [TyForm.code, TyForm.chars, TyForm.argumentChars, TyForm.furtherChars,
        toList_nullMark]
  | .classType name arguments nullable => by
    refine String.toList_inj.mp ?_
    rw [text, form, texts_eq_map_code arguments, String.toList_append, String.toList_append,
      TyForm.toList_argumentList, toList_nullMark]
    simp [TyForm.code, TyForm.chars]
  | .starProjection => rfl
  | .outProjection bound => by
    rw [text, form, text_eq_code bound]
    exact String.toList_inj.mp (by simp [TyForm.code, TyForm.chars])
  | .inProjection bound => by
    rw [text, form, text_eq_code bound]
    exact String.toList_inj.mp (by simp [TyForm.code, TyForm.chars])
  | .vararg component => by
    rw [text, form, text_eq_code component]

/-- Several types are written as their forms are. -/
theorem texts_eq_map_code : ∀ ts : List Ty, texts ts = (forms ts).map TyForm.code
  | [] => rfl
  | t :: rest => by
    rw [texts, forms, List.map_cons, text_eq_code t, texts_eq_map_code rest]

end

end Ty

/-! ## Words

A word ends at the first character that has a meaning of its own. To read a form its
code is taken apart into the word in front and the rest, and the rest is seen to
begin with such a character, or to be empty with nothing that follows
(`endsWord_afterWord`). -/

/-- **The characters with a meaning of their own** in the code of a type. -/
def Ty.marks : List Char :=
  ['<', '>', ',', '?', '*', ' ']

namespace TyForm

/-- Characters without a meaning of their own. -/
def IsWord (cs : List Char) : Prop :=
  ∀ c ∈ cs, c ∉ Ty.marks

instance (cs : List Char) : Decidable (IsWord cs) :=
  List.decidableBAll (fun c => c ∉ Ty.marks) cs

/-- A continuation that no word runs into: nothing, or a mark first. -/
def EndsWord (cs : List Char) : Prop :=
  ∀ c ∈ cs.head?, c ∈ Ty.marks

/-- A continuation that no form runs into: nothing, or what stands after an argument. -/
def EndsForm (cs : List Char) : Prop :=
  ∀ c ∈ cs.head?, c = ',' ∨ c = '>'

/-- **A word ends at the first mark**, so it can be told from what follows it. -/
theorem word_append_inj {w w' t t' : List Char} (hw : IsWord w) (hw' : IsWord w')
    (ht : EndsWord t) (ht' : EndsWord t') (h : w ++ t = w' ++ t') : w = w' ∧ t = t' := by
  induction w generalizing w' with
  | nil =>
    cases w' with
    | nil => exact ⟨rfl, h⟩
    | cons c w' =>
      -- the longer word would hold the mark that ends the shorter one
      subst h
      exact absurd (ht c rfl) (hw' c List.mem_cons_self)
  | cons c w ih =>
    cases w' with
    | nil =>
      subst h
      exact absurd (ht' c rfl) (hw c List.mem_cons_self)
    | cons c' w' =>
      obtain ⟨rfl, htail⟩ := List.cons.inj h
      obtain ⟨rfl, rfl⟩ := ih (fun d hd => hw d (List.mem_cons_of_mem c hd))
        (fun d hd => hw' d (List.mem_cons_of_mem c hd)) htail
      exact ⟨rfl, rfl⟩

mutual

/-- A form all of whose heads are words. -/
def Worded : TyForm → Prop
  | node head arguments _ => IsWord head.toList ∧ AllWorded arguments
  | star => True
  | out bound => bound.Worded
  | into bound => bound.Worded

/-- Forms all of whose heads are words. -/
def AllWorded : List TyForm → Prop
  | [] => True
  | x :: rest => x.Worded ∧ AllWorded rest

end

/-- The word that the code of a form begins with. -/
def word : TyForm → List Char
  | node head _ _ => head.toList
  | star => []
  | out _ => ['o', 'u', 't']
  | into _ => ['i', 'n']

/-- The code of a form after its word. -/
def afterWord : TyForm → List Char
  | node _ arguments nullable => argumentChars arguments ++ markChars nullable
  | star => ['*']
  | out bound => ' ' :: bound.chars
  | into bound => ' ' :: bound.chars

/-- The code of a form is its word and what comes after. -/
theorem chars_eq_word_append (x : TyForm) : x.chars = x.word ++ x.afterWord := by
  cases x <;> simp [chars, word, afterWord]

/-- The word of a form is a word: a head by hypothesis, and `out` and `in` as they are. -/
theorem isWord_word {x : TyForm} (hx : x.Worded) : IsWord x.word := by
  cases x with
  | node head arguments nullable =>
    rw [Worded] at hx
    exact hx.1
  | _ => simp [IsWord, word, Ty.marks]

/-- What stands after the name of a class is a bracket, a question mark, or what stands after the
class. -/
theorem head_afterName (arguments : List TyForm) (nullable : Bool) {r : List Char}
    (hr : EndsForm r) :
    ∀ c ∈ (argumentChars arguments ++ markChars nullable ++ r).head?,
      c = '<' ∨ c = '?' ∨ c = ',' ∨ c = '>' := by
  intro c hc
  cases arguments with
  | nil =>
    cases nullable with
    | false => exact Or.inr (Or.inr (hr c hc))
    | true => exact Or.inr (Or.inl (Option.some.inj hc).symm)
  | cons x rest => exact Or.inl (Option.some.inj hc).symm

/-- The word of a form ends where the rest of its code begins. -/
theorem endsWord_afterWord (x : TyForm) {r : List Char} (hr : EndsForm r) :
    EndsWord (x.afterWord ++ r) := by
  intro c hc
  cases x with
  | node head arguments nullable =>
    rcases head_afterName arguments nullable hr c hc with rfl | rfl | rfl | rfl <;> decide
  | star => obtain rfl := Option.some.inj hc; decide
  | out bound => obtain rfl := Option.some.inj hc; decide
  | into bound => obtain rfl := Option.some.inj hc; decide

/-- **The word of a form can be read off its code.** -/
theorem word_eq_of_chars_append {x y : TyForm} {r s : List Char} (hx : x.Worded) (hy : y.Worded)
    (hr : EndsForm r) (hs : EndsForm s) (h : x.chars ++ r = y.chars ++ s) :
    x.word = y.word ∧ x.afterWord ++ r = y.afterWord ++ s := by
  rw [chars_eq_word_append, chars_eq_word_append, List.append_assoc, List.append_assoc] at h
  exact word_append_inj (isWord_word hx) (isWord_word hy) (endsWord_afterWord x hr)
    (endsWord_afterWord y hs) h

/-- After the name of a class there is no space and no star. -/
theorem afterName_ne {arguments : List TyForm} {nullable : Bool} {r t : List Char} {c : Char}
    (hr : EndsForm r) (hc : c = ' ' ∨ c = '*') :
    argumentChars arguments ++ markChars nullable ++ r ≠ c :: t := by
  intro h
  have hhead := head_afterName arguments nullable hr c (by rw [h]; rfl)
  rcases hc with rfl | rfl <;> revert hhead <;> decide

/-- A question mark belongs to the form before it. -/
theorem markChars_append_inj {m n : Bool} {r s : List Char} (hr : EndsForm r) (hs : EndsForm s)
    (h : markChars m ++ r = markChars n ++ s) : m = n ∧ r = s := by
  cases m <;> cases n
  · exact ⟨rfl, h⟩
  · exact absurd (hr '?' (by rw [show r = '?' :: s from h]; rfl)) (by decide)
  · exact absurd (hs '?' (by rw [show s = '?' :: r from h.symm]; rfl)) (by decide)
  · exact ⟨rfl, (List.cons.inj h).2⟩

/-- No bracket opens after the arguments of a class. -/
theorem head_mark_ne {nullable : Bool} {r : List Char} (hr : EndsForm r) :
    (markChars nullable ++ r).head? ≠ some '<' := by
  intro h
  cases nullable with
  | false => exact absurd (hr '<' h) (by decide)
  | true => exact absurd (Option.some.inj h) (by decide)

/-- After an argument comes a comma or the closing bracket. -/
theorem endsForm_furtherChars (xs : List TyForm) (t : List Char) :
    EndsForm (furtherChars xs ++ '>' :: t) := by
  intro c hc
  cases xs with
  | nil => exact Or.inr (Option.some.inj hc).symm
  | cons x rest => exact Or.inl (Option.some.inj hc).symm

/-- Arguments with the same code also agree as arguments after a first one. -/
theorem furtherChars_of_argumentChars {xs ys : List TyForm} {r s : List Char}
    (hr : r.head? ≠ some '<') (hs : s.head? ≠ some '<')
    (h : argumentChars xs ++ r = argumentChars ys ++ s) :
    furtherChars xs ++ '>' :: r = furtherChars ys ++ '>' :: s := by
  cases xs with
  | nil =>
    cases ys with
    | nil => exact congrArg (List.cons '>') h
    | cons y ys =>
      rw [show r = argumentChars (y :: ys) ++ s from h, argumentChars] at hr
      exact absurd rfl hr
  | cons x xs =>
    cases ys with
    | nil =>
      rw [show s = argumentChars (x :: xs) ++ r from h.symm, argumentChars] at hs
      exact absurd rfl hs
    | cons y ys => simpa [argumentChars, furtherChars] using h

/-! ## Reading a form

Two forms whose codes agree, each with something behind it, are compared by their
kinds. The words agree; two forms of different kinds then differ in the word or in
the first character after it, and two of the same kind are read further, by
induction. -/

mutual

/-- **The code of a form determines the form**, whatever stands after it, as long as that is
something that can stand after an argument. -/
theorem chars_append_inj : ∀ (x y : TyForm) {r s : List Char}, x.Worded → y.Worded →
    EndsForm r → EndsForm s → x.chars ++ r = y.chars ++ s → x = y ∧ r = s
  | node head arguments nullable, y, r, s, hx, hy, hr, hs, h => by
    -- once the words are known to agree, the first character after them tells the kinds apart
    obtain ⟨hword, hafter⟩ := word_eq_of_chars_append hx hy hr hs h
    cases y with
    | node head' arguments' nullable' =>
      rw [Worded] at hx hy
      have hhead : head = head' := String.toList_inj.mp hword
      rw [afterWord, afterWord, List.append_assoc, List.append_assoc] at hafter
      -- arguments are read as if a first one stood before them, so that none is no special case
      obtain ⟨rfl, hmark⟩ := furtherChars_append_inj arguments arguments' hx.2 hy.2
        (furtherChars_of_argumentChars (head_mark_ne hr) (head_mark_ne hs) hafter)
      obtain ⟨rfl, rfl⟩ := markChars_append_inj hr hs hmark
      exact ⟨by rw [hhead], rfl⟩
    | star => exact absurd hafter (afterName_ne hr (Or.inr rfl))
    | out bound => exact absurd hafter (afterName_ne hr (Or.inl rfl))
    | into bound => exact absurd hafter (afterName_ne hr (Or.inl rfl))
  | star, y, r, s, hx, hy, hr, hs, h => by
    obtain ⟨-, hafter⟩ := word_eq_of_chars_append hx hy hr hs h
    cases y with
    | node head' arguments' nullable' =>
      exact absurd hafter.symm (afterName_ne hs (Or.inr rfl))
    | star => exact ⟨rfl, (List.cons.inj hafter).2⟩
    | out bound => exact absurd (List.cons.inj hafter).1 (by decide)
    | into bound => exact absurd (List.cons.inj hafter).1 (by decide)
  | out bound, y, r, s, hx, hy, hr, hs, h => by
    obtain ⟨hword, hafter⟩ := word_eq_of_chars_append hx hy hr hs h
    cases y with
    | node head' arguments' nullable' =>
      exact absurd hafter.symm (afterName_ne hs (Or.inl rfl))
    | star => exact absurd (List.cons.inj hafter).1 (by decide)
    | out bound' =>
      rw [Worded] at hx hy
      obtain ⟨rfl, rfl⟩ := chars_append_inj bound bound' hx hy hr hs (List.cons.inj hafter).2
      exact ⟨rfl, rfl⟩
    -- here the words differ, and what follows them does not
    | into bound' => exact absurd hword (by simp [word])
  | into bound, y, r, s, hx, hy, hr, hs, h => by
    obtain ⟨hword, hafter⟩ := word_eq_of_chars_append hx hy hr hs h
    cases y with
    | node head' arguments' nullable' =>
      exact absurd hafter.symm (afterName_ne hs (Or.inl rfl))
    | star => exact absurd (List.cons.inj hafter).1 (by decide)
    | out bound' => exact absurd hword (by simp [word])
    | into bound' =>
      rw [Worded] at hx hy
      obtain ⟨rfl, rfl⟩ := chars_append_inj bound bound' hx hy hr hs (List.cons.inj hafter).2
      exact ⟨rfl, rfl⟩

/-- The code of arguments determines them. -/
theorem furtherChars_append_inj : ∀ (xs ys : List TyForm) {r s : List Char},
    AllWorded xs → AllWorded ys →
    furtherChars xs ++ '>' :: r = furtherChars ys ++ '>' :: s → xs = ys ∧ r = s
  | [], [], _, _, _, _, h => ⟨rfl, (List.cons.inj h).2⟩
  | [], y :: ys, _, _, _, _, h => absurd (List.cons.inj h).1 (by decide)
  | x :: xs, [], _, _, _, _, h => absurd (List.cons.inj h).1 (by decide)
  | x :: xs, y :: ys, r, s, hxs, hys, h => by
    rw [AllWorded] at hxs hys
    have hfirst : x.chars ++ (furtherChars xs ++ '>' :: r)
        = y.chars ++ (furtherChars ys ++ '>' :: s) := by
      simpa [furtherChars] using h
    obtain ⟨rfl, hrest⟩ := chars_append_inj x y hxs.1 hys.1 (endsForm_furtherChars xs r)
      (endsForm_furtherChars ys s) hfirst
    obtain ⟨rfl, rfl⟩ := furtherChars_append_inj xs ys hxs.2 hys.2 hrest
    exact ⟨rfl, rfl⟩

end

/-- A form is determined by its code alone. -/
theorem code_inj {x y : TyForm} (hx : x.Worded) (hy : y.Worded) (h : x.code = y.code) : x = y := by
  have hnil : EndsForm [] := fun c hc => absurd hc (by simp)
  have hchars : x.chars ++ [] = y.chars ++ [] := by
    rw [List.append_nil, List.append_nil]
    exact String.ofList_injective h
  exact (chars_append_inj x y hx hy hnil hnil hchars).1

end TyForm

/-! ## Reading a type

A head that comes from a name is the text of that name, perhaps escaped and perhaps
with `Array` behind it, so that it is a word whenever the name is one. -/

/-- Escaping adds no mark to a name. -/
theorem Identifier.isWord_text {id : Identifier} (h : TyForm.IsWord id.name.toList) :
    TyForm.IsWord id.text.toList := by
  unfold text escapeKeyword
  split
  · split
    · intro c hc
      have hc' : c = '`' ∨ c ∈ id.name.toList := by simpa [or_comm, or_assoc] using hc
      rcases hc' with rfl | hc'
      · decide
      · exact h c hc'
    · exact h
  · exact h

namespace Ty

/-- The name that is put behind a primitive type, or in front of an element type, is a word. -/
theorem isWord_array : TyForm.IsWord "Array".toList := by
  simp [TyForm.IsWord, marks]

mutual

/-- The heads of a form are words if the names of the type are. -/
theorem worded_form : ∀ t : Ty, (∀ id ∈ t.identifiers, TyForm.IsWord id.name.toList) →
    t.form.Worded
  | .primitive name, h => by
    rw [form, TyForm.Worded]
    exact ⟨Identifier.isWord_text (h name List.mem_cons_self), trivial⟩
  | .array element nullable, h => by
    obtain ⟨name, rfl⟩ | ⟨-, hform⟩ := array_cases element nullable
    · rw [form, TyForm.Worded, String.toList_append]
      refine ⟨fun c hc => ?_, trivial⟩
      rcases List.mem_append.mp hc with hc | hc
      · exact Identifier.isWord_text (h name List.mem_cons_self) c hc
      · exact isWord_array c hc
    · rw [hform, TyForm.Worded, TyForm.AllWorded]
      exact ⟨isWord_array, worded_form element h, trivial⟩
  | .classType name arguments nullable, h => by
    rw [form, TyForm.Worded]
    exact ⟨Identifier.isWord_text (h name List.mem_cons_self),
      allWorded_forms arguments fun id hid => h id (List.mem_cons_of_mem name hid)⟩
  | .starProjection, _ => trivial
  | .outProjection bound, h => worded_form bound h
  | .inProjection bound, h => worded_form bound h
  | .vararg component, h => worded_form component h

/-- The heads of forms are words if the names of the types are. -/
theorem allWorded_forms : ∀ ts : List Ty,
    (∀ id ∈ identifiersOfAll ts, TyForm.IsWord id.name.toList) → TyForm.AllWorded (forms ts)
  | [], _ => trivial
  | t :: rest, h => by
    rw [forms, TyForm.AllWorded]
    exact ⟨worded_form t fun id hid => h id (List.mem_append_left _ hid),
      allWorded_forms rest fun id hid => h id (List.mem_append_right _ hid)⟩

end

/-- **Kotlin type text is uniquely readable**: two types whose names hold no marks have the same
code exactly when they have the same form. -/
theorem text_eq_text_iff_form_eq (a b : Ty)
    (ha : ∀ id ∈ a.identifiers, TyForm.IsWord id.name.toList)
    (hb : ∀ id ∈ b.identifiers, TyForm.IsWord id.name.toList) :
    a.text = b.text ↔ a.form = b.form := by
  rw [text_eq_code a, text_eq_code b]
  exact ⟨TyForm.code_inj (worded_form a ha) (worded_form b hb), congrArg TyForm.code⟩

/-- An array of a variable-arity component and the class `Array` applied to a name that was written
out have one code, `Map<in Array<Int>?, *>`, and so one form. -/
theorem form_eq_of_text_eq_array :
    let a : Ty := .classType (.plain "Map")
      [.inProjection (.arrayOf (.vararg (.ofPrimitive "Int"))), .starProjection] false
    let b : Ty := .classType (.verbatim "Map")
      [.inProjection (.ofClass "Array" [.classType (.verbatim "Int") [] false]),
        .starProjection] false
    (∀ id ∈ a.identifiers, TyForm.IsWord id.name.toList)
      ∧ (∀ id ∈ b.identifiers, TyForm.IsWord id.name.toList)
      ∧ a.text = b.text ∧ a.form = b.form :=
  ⟨by decide, by decide, by decide,
    (text_eq_text_iff_form_eq _ _ (by decide) (by decide)).mp (by decide)⟩

end Ty

end Kotlinize.Kotlin
