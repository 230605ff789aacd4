import Kotlinize.Proofs.LiteralLexing
import Kotlinize.Proofs.Literals
import Kotlinize.Proofs.Parts
import Kotlinize.Proofs.Writing

/-!
# Brackets are balanced

The code of a node has its brackets properly nested, once its literals are taken
out. The names in it and the code made elsewhere must not bring in brackets or
quotes of their own (`Neutral`); the values of literals may hold what they like,
since escaping keeps them inside their quotes.

Brackets are followed with a list of those that are still to be closed, the
innermost first (`follow`). Many pieces of code open a bracket that another piece
closes, so the statements that compose are about code which takes one such list
to another. `Clean` says this of code without quotes, which names and types are.
`Passes` says it of any code, its literals left out. Code that a string may be
written behind must not end in one, since two quotes before a third one begin a
raw string; this is `PassesOpen`.
-/

namespace Kotlinize.Kotlin

/-! ## Following brackets

A closing bracket must be the one that is due, so following brackets can fail. It
fails for good: a text that closes what was never opened is not saved by what comes
behind it. -/

/-- The bracket that closes an opening one. -/
def closing? (c : Char) : Option Char :=
  if c = '(' then some ')'
  else if c = '\x7b' then some '\x7d'
  else if c = '<' then some '>'
  else none

/-- Whether a character closes a bracket. -/
def isClosing (c : Char) : Bool :=
  [')', '\x7d', '>'].contains c

/-- What is to be closed after a character, given what is to be closed before it. A closing bracket
must be the one that is due. -/
def pass (due : List Char) (c : Char) : Option (List Char) :=
  match closing? c with
  | some close => some (close :: due)
  | none =>
    if isClosing c then
      match due with
      | [] => none
      | close :: outer => if c = close then some outer else none
    else some due

/-- **Follows the brackets of code**, given those that are to be closed before it. -/
def follow (due : List Char) (cs : List Char) : Option (List Char) :=
  cs.foldlM pass due

/-- **Code with balanced brackets outside its literals.** -/
def Balanced (code : String) : Prop :=
  ∃ outside, Literal.withoutLiterals code.toList = some outside ∧ follow [] outside = some []

/-- The brackets and the quotes. -/
def delimiters : List Char :=
  ['(', ')', '\x7b', '\x7d', '<', '>', '\x27', '"']

/-- **A text without brackets and quotes.** -/
def Neutral (s : String) : Prop :=
  ∀ c ∈ s.toList, c ∉ delimiters

instance (s : String) : Decidable (Neutral s) :=
  List.decidableBAll (· ∉ delimiters) s.toList

/-- Brackets are followed through one text and then through the next. -/
theorem follow_append (due cs ds : List Char) :
    follow due (cs ++ ds) = (follow due cs).bind fun due' => follow due' ds :=
  List.foldlM_append

/-- What is no delimiter changes nothing. -/
theorem pass_of_notMem {c : Char} (h : c ∉ delimiters) (due : List Char) :
    pass due c = some due := by
  have hopen : closing? c = none := by
    unfold closing?
    rw [if_neg, if_neg, if_neg] <;> rintro rfl <;> exact h (by decide)
  have hclose : isClosing c = false := by
    rw [← Bool.not_eq_true, isClosing, List.contains_iff_mem]
    intro hmem
    have hsubset : [')', '\x7d', '>'] ⊆ delimiters := by simp [delimiters]
    exact h (hsubset hmem)
  unfold pass
  rw [hopen, hclose]
  rfl

theorem follow_of_neutral {cs : List Char} (h : ∀ c ∈ cs, c ∉ delimiters) (due : List Char) :
    follow due cs = some due := by
  induction cs with
  | nil => rfl
  | cons c cs ih =>
    rw [follow, List.foldlM_cons, pass_of_notMem (h c List.mem_cons_self)]
    exact ih fun d hd => h d (List.mem_cons_of_mem c hd)

namespace Neutral

variable {s t : String}

theorem append (hs : Neutral s) (ht : Neutral t) : Neutral (s ++ t) := by
  intro c hc
  rw [String.toList_append, List.mem_append] at hc
  exact hc.elim (hs c) (ht c)

theorem join {ss : List String} (h : ∀ s ∈ ss, Neutral s) : Neutral (String.join ss) :=
  String.join_induction (by decide) (fun _ _ hs ht => hs.append ht) h

end Neutral

/-! ## Code without quotes

Most of the code is of this sort. Its brackets can be followed character by
character, and two pieces of it compose without a condition on where they meet. -/

/-- **Code without quotes that takes the brackets due before it to those due after it.** -/
structure Clean (code : String) (due due' : List Char) : Prop where
  isQuote_eq : ∀ c ∈ code.toList, Literal.isQuote c = false
  follow_eq : follow due code.toList = some due'

namespace Clean

variable {s t : String} {due due' due'' : List Char}

/-- A fixed piece. -/
theorem piece (s : String) (hquotes : s.toList.any Literal.isQuote = false := by decide)
    (hfollow : follow due s.toList = some due' := by rfl) : Clean s due due' :=
  ⟨fun c hc => Bool.eq_false_iff.mpr (List.any_eq_false.mp hquotes c hc), hfollow⟩

/-- Neutral code leaves the brackets as they are. -/
theorem of_neutral (h : Neutral s) : Clean s due due where
  isQuote_eq c hc := by
    rw [← Bool.not_eq_true, Literal.isQuote, Bool.or_eq_true, beq_iff_eq, beq_iff_eq]
    rintro (rfl | rfl) <;> exact h _ hc (by decide)
  follow_eq := follow_of_neutral h due

theorem append (hs : Clean s due due') (ht : Clean t due' due'') : Clean (s ++ t) due due'' where
  isQuote_eq c hc := by
    rw [String.toList_append, List.mem_append] at hc
    exact hc.elim (hs.isQuote_eq c) (ht.isQuote_eq c)
  follow_eq := by
    rw [String.toList_append, follow_append, hs.follow_eq]
    exact ht.follow_eq

end Clean

/-! ## Code with literals

Taking out the literals is not a matter of single characters. Where two pieces meet,
a quote at the end of the one and a quote at the beginning of the other could make a
literal that neither of them has, so composition asks for a seam that is safe. -/

/-- **Code that takes the brackets due before it to those due after it**, its literals left out. -/
def Passes (code : String) (due due' : List Char) : Prop :=
  ∃ outside, Literal.withoutLiterals code.toList = some outside
    ∧ follow due outside = some due'

/-- Code like this that a string can stand behind. -/
structure PassesOpen (code : String) (due due' : List Char) : Prop where
  passes : Passes code due due'
  last_ne : code.toList.getLast? ≠ some '"'

section Composition

variable {s t : String} {due due' due'' : List Char}

/-- Where there is no quote, there is no literal to take out. -/
theorem withoutLiterals_of_isQuote {cs : List Char} (h : ∀ c ∈ cs, Literal.isQuote c = false) :
    Literal.withoutLiterals cs = some cs := by
  induction cs with
  | nil => exact Literal.withoutLiterals_nil
  | cons c cs ih =>
    rw [Literal.withoutLiterals_cons (h c List.mem_cons_self),
      ih fun d hd => h d (List.mem_cons_of_mem c hd)]
    rfl

/-- Code without quotes ends in none. -/
theorem Clean.passesOpen (h : Clean s due due') : PassesOpen s due due' where
  passes := ⟨s.toList, withoutLiterals_of_isQuote h.isQuote_eq, h.follow_eq⟩
  last_ne hlast := absurd (h.isQuote_eq '"' (List.mem_of_getLast? hlast)) (by decide)

/-- **Code composes at a safe seam**: not both a quote at the end and a quote at the
beginning, since the two could be read as an empty string. -/
theorem Passes.append_of_seam (hs : Passes s due due') (ht : Passes t due' due'')
    (hseam : s.toList.getLast? = some '"' → t.toList.head? ≠ some '"') :
    Passes (s ++ t) due due'' := by
  obtain ⟨outside, houtside, hfollow⟩ := hs
  obtain ⟨outside', houtside', hfollow'⟩ := ht
  refine ⟨outside ++ outside', ?_, ?_⟩
  · rw [String.toList_append, Literal.withoutLiterals_append houtside hseam, houtside']
    rfl
  · rw [follow_append, hfollow]
    exact hfollow'

/-- Behind code that ends in no quote there may be anything. -/
theorem PassesOpen.append (hs : PassesOpen s due due') (ht : Passes t due' due'') :
    Passes (s ++ t) due due'' :=
  hs.passes.append_of_seam ht fun hlast => absurd hlast hs.last_ne

theorem PassesOpen.append_open (hs : PassesOpen s due due') (ht : PassesOpen t due' due'') :
    PassesOpen (s ++ t) due due'' where
  passes := hs.append ht.passes
  last_ne hlast := by
    rw [String.toList_append, List.getLast?_append] at hlast
    rcases Option.or_eq_some_iff.mp hlast with hlast | ⟨-, hlast⟩
    · exact ht.last_ne hlast
    · exact hs.last_ne hlast

/-- Code without quotes behind. -/
theorem Passes.append_clean (hs : Passes s due due') (ht : Clean t due' due'') :
    Passes (s ++ t) due due'' :=
  hs.append_of_seam ht.passesOpen.passes fun _ hhead =>
    absurd (ht.isQuote_eq '"' (List.mem_of_head? hhead)) (by decide)

/-- A fixed piece behind. -/
theorem Passes.append_piece (hs : Passes s due due') (ht : Clean t due' due'')
    (hlast : t.toList ≠ [] := by decide) : PassesOpen (s ++ t) due due'' where
  passes := hs.append_clean ht
  last_ne := by
    obtain ⟨c, hc⟩ := Option.ne_none_iff_exists'.mp fun h => hlast (List.getLast?_eq_none_iff.mp h)
    rw [String.toList_append, List.getLast?_append, hc, Option.some_or, ← hc]
    exact ht.passesOpen.last_ne

end Composition

/-! ## Several pieces of code

Code that is put into a list has to leave the brackets as it found them, whatever is
due around it. So the statements about lists quantify over what is due. -/

/-- Code without quotes that closes what it opens. -/
def IsClean (code : String) : Prop :=
  ∀ due, Clean code due due

/-- Code that closes what it opens, its literals left out. -/
def IsEven (code : String) : Prop :=
  ∀ due, Passes code due due

/-- Code like this that a string can stand behind. -/
def IsEvenOpen (code : String) : Prop :=
  ∀ due, PassesOpen code due due

theorem Neutral.isClean {s : String} (h : Neutral s) : IsClean s :=
  fun _ => .of_neutral h

theorem IsClean.isEven {s : String} (h : IsClean s) : IsEven s :=
  fun due => (h due).passesOpen.passes

/-- Several pieces without quotes, with a separator between them. -/
theorem IsClean.intercalate (separator : String) {codes : List String}
    (h : ∀ code ∈ codes, IsClean code) (hseparator : Neutral separator := by decide) :
    IsClean (separator.intercalate codes) :=
  String.intercalate_induction (fun _ => .piece "")
    (fun _ _ hs ht due => ((hs due).append (.of_neutral hseparator)).append (ht due)) h

/-- Several pieces of any code. The separator must not be empty, because it is what
keeps the quotes of two strings apart. -/
theorem IsEven.intercalate (separator : String) {codes : List String}
    (h : ∀ code ∈ codes, IsEven code) (hseparator : Neutral separator := by decide)
    (hne : separator.toList ≠ [] := by decide) : IsEven (separator.intercalate codes) :=
  String.intercalate_induction (Neutral.isClean (by decide)).isEven
    (fun _ _ hs ht due =>
      ((hs due).append_piece (.of_neutral hseparator) hne).append (ht due)) h

theorem IsEvenOpen.join {codes : List String} (h : ∀ code ∈ codes, IsEvenOpen code) :
    IsEvenOpen (String.join codes) :=
  String.join_induction (fun _ => (Clean.piece "").passesOpen)
    (fun _ _ hs ht due => (hs due).append_open (ht due)) h

/-! ## Types

A type is free of quotes, and its brackets are the angle brackets of its arguments.
The question mark at its end is none, so a type without it is as good. -/

/-- Backquotes are not among the delimiters. -/
theorem Identifier.neutral_text {id : Identifier} (h : Neutral id.name) : Neutral id.text := by
  unfold text escapeKeyword
  split
  · split
    · exact (Neutral.append (by decide) h).append (by decide)
    · exact h
  · exact h

namespace Ty

theorem neutral_nullMark (nullable : Bool) : Neutral (nullMark nullable) := by
  cases nullable <;> decide

/-- The angle brackets around arguments are opened and closed. -/
theorem isClean_argumentList {codes : List String} (h : ∀ code ∈ codes, IsClean code) :
    IsClean (argumentList codes) := by
  intro due
  have hcodes := IsClean.intercalate ", " h
  unfold argumentList
  split
  · exact .piece ""
  · exact ((Clean.piece "<").append (hcodes _)).append (.piece ">")

mutual

/-- **The brackets of a type are balanced** if its names are neutral. -/
theorem isClean_text : ∀ t : Ty, (∀ id ∈ t.identifiers, Neutral id.name) → IsClean t.text
  | .primitive name, h => (Identifier.neutral_text (h name List.mem_cons_self)).isClean
  | .array element nullable, h => by
    intro due
    have hmark : Clean (nullMark nullable) due due := .of_neutral (neutral_nullMark nullable)
    have helement := isClean_text element h
    cases element with
    | primitive name => exact ((helement due).append (.piece "Array")).append hmark
    | _ => exact (((Clean.piece "Array<").append (helement _)).append (.piece ">")).append hmark
  | .classType name arguments nullable, h => by
    intro due
    have hname := (Identifier.neutral_text (h name List.mem_cons_self)).isClean due
    have harguments := isClean_argumentList
      (isClean_of_mem_texts arguments fun id hid => h id (List.mem_cons_of_mem name hid)) due
    exact (hname.append harguments).append (.of_neutral (neutral_nullMark nullable))
  | .starProjection, _ => fun _ => .piece "*"
  | .outProjection bound, h => fun due => (Clean.piece "out ").append (isClean_text bound h due)
  | .inProjection bound, h => fun due => (Clean.piece "in ").append (isClean_text bound h due)
  | .vararg component, h => isClean_text component h

theorem isClean_of_mem_texts : ∀ ts : List Ty,
    (∀ id ∈ identifiersOfAll ts, Neutral id.name) → ∀ code ∈ texts ts, IsClean code
  | [], _, code, hcode => absurd hcode List.not_mem_nil
  | t :: rest, h, code, hcode => by
    rw [texts] at hcode
    rcases List.mem_cons.mp hcode with rfl | hcode
    · exact isClean_text t fun id hid => h id (List.mem_append_left _ hid)
    · exact isClean_of_mem_texts rest (fun id hid => h id (List.mem_append_right _ hid)) code hcode

end

/-- A question mark is no bracket. -/
theorem isClean_withoutMark {code : String} (h : IsClean code) : IsClean (withoutMark code) := by
  intro due
  unfold withoutMark
  split
  · rename_i hlast
    obtain ⟨cs, hcs⟩ := List.getLast?_eq_some_iff.mp hlast
    have hfollow := (h due).follow_eq
    rw [hcs, List.dropLast_concat]
    constructor
    · intro c hc
      rw [String.toList_ofList] at hc
      exact (h due).isQuote_eq c (hcs ▸ List.mem_append_left _ hc)
    · rw [hcs, follow_append] at hfollow
      obtain ⟨due', hdue', hmark⟩ := Option.bind_eq_some_iff.mp hfollow
      rw [follow_of_neutral (by simp [delimiters])] at hmark
      rw [String.toList_ofList, hdue', hmark]
  · exact h due

theorem isClean_constructorText {t : Ty} (h : ∀ id ∈ t.identifiers, Neutral id.name) :
    IsClean t.constructorText :=
  isClean_withoutMark (isClean_text t h)

end Ty

/-! ## Literals

Numbers and keywords are neutral. A character or a string may hold any bracket, and
none of them counts, since reading the literal goes on to the quote that closes
it. -/

theorem neutral_of_isNumeral {s : String} (h : ∀ c ∈ s.toList, isNumeral c = true) : Neutral s := by
  have hnone : delimiters.any isNumeral = false := by decide
  exact fun c hc hmem => List.any_eq_false.mp hnone c hmem (h c hc)

theorem neutral_integerText (n : Int) : Neutral (String.ofList (integerText n)) := by
  refine neutral_of_isNumeral fun c hc => ?_
  rw [String.toList_ofList] at hc
  exact isNumeral_of_mem_integerText hc

theorem neutral_floatText (x : Float) {className suffix : String} (hclass : Neutral className)
    (hsuffix : Neutral suffix) : Neutral (Literal.floatText x className suffix) := by
  unfold Literal.floatText
  split
  · exact hclass.append (by decide)
  · split
    · refine hclass.append ?_
      split <;> decide
    · exact (neutral_of_isNumeral (Literal.kotlinNumbers.isNumeral_of_mem_text x)).append hsuffix

/-- What is quoted is a literal as a whole, and nothing is left when it is taken out. -/
theorem isEven_quotedIn {quote : Char} (hquote : Literal.isQuote quote) {cs : List Char}
    (hwhole : Literal.isWhole quote cs []) : IsEven (Literal.quotedIn quote cs) :=
  fun _ => ⟨[], Literal.withoutLiterals_quotedIn hquote hwhole, rfl⟩

/-- **A literal has no bracket outside its quotes**, whatever its value. -/
theorem isEven_literal (value : Literal) : IsEven value.text := by
  cases value with
  | null => exact (Neutral.isClean (by decide)).isEven
  | bool b => cases b <;> exact (Neutral.isClean (by decide)).isEven
  | int n => exact (neutral_integerText n.toInt).isClean.isEven
  | long n => exact ((neutral_integerText n.toInt).append (by decide)).isClean.isEven
  | float x => exact (neutral_floatText x (by decide) (by decide)).isClean.isEven
  | double x => exact (neutral_floatText x (by decide) (by decide)).isClean.isEven
  | char c => exact isEven_quotedIn (by decide) rfl
  | string s => exact isEven_quotedIn (by decide) (by simp [Literal.isWhole])

/-! ## Expressions and declarations

Each of the functions that put code together gets one statement here, and then the
recursion of the writer is followed. The only place where a string may stand right
before other code is the receiver of a call, and there a parenthesis comes next. -/

/-- **Arguments in parentheses** end in a parenthesis, so a string may follow. -/
theorem isEvenOpen_argumentText {codes : List String} (h : ∀ code ∈ codes, IsEven code) :
    IsEvenOpen (argumentText codes) := by
  intro due
  have hcodes := IsEven.intercalate ", " h
  exact ((Clean.piece "(").passesOpen.append (hcodes _)).append_piece (.piece ")")

theorem head?_argumentText (codes : List String) :
    (argumentText codes).toList.head? = some '(' := by
  simp [argumentText]

/-- **The brackets of an array creation are balanced**, wherever the types or the sizes run out. -/
theorem isEvenOpen_creationText {codes : List String} (h : ∀ code ∈ codes, IsEven code) (t : Ty)
    (ht : ∀ id ∈ t.identifiers, Neutral id.name) : IsEvenOpen (creationText t codes) := by
  have hname := Ty.isClean_constructorText ht
  induction t, codes using Ty.levels_induction with
  | nested e m n size next rest ih =>
    obtain ⟨hsize, hrest⟩ := List.forall_mem_cons.mp h
    have hinner := ih hrest ht (Ty.isClean_constructorText ht)
    intro due
    -- the bracket after the constructor stays open until after the level inside
    have hhead := ((hname due).append (.piece "(")).passesOpen.append (hsize (')' :: due))
    exact ((hhead.append_piece (.piece ", \x7b")).append_open (hinner _)).append_open
      (Clean.piece "\x7d)").passesOpen
  | last e n size rest hlast =>
    have hsize := h size List.mem_cons_self
    intro due
    rw [creationText_last hlast]
    exact (((hname due).append (.piece "(")).passesOpen.append (hsize _)).append_piece (.piece ")")
  | bare t codes hbare =>
    intro due
    rw [creationText_bare hbare]
    exact (hname due).passesOpen

/-- The supertypes of a class: the superclass with its arguments, and the interfaces. -/
theorem isEven_supertypeText {superclass : Option Ty} {codes : List String}
    {interfaces : List Ty} (hcodes : ∀ code ∈ codes, IsEven code)
    (hsuperclass : ∀ t ∈ superclass, IsClean t.constructorText)
    (hinterfaces : ∀ t ∈ interfaces, IsClean t.constructorText) :
    IsEven (supertypeText superclass codes interfaces) := by
  have hrest : ∀ code ∈ interfaces.map Ty.constructorText, IsEven code := by
    intro code hcode
    obtain ⟨t, ht, rfl⟩ := List.mem_map.mp hcode
    exact (hinterfaces t ht).isEven
  intro due
  cases superclass with
  | none =>
    cases interfaces with
    | nil => exact (Clean.piece "").passesOpen.passes
    | cons t rest =>
      have hall := IsEven.intercalate ", " hrest
      exact (Clean.piece " : ").passesOpen.append (hall due)
  | some t =>
    -- only the superclass is constructed, so only it has arguments behind it
    have hbase : IsEven (t.constructorText ++ argumentText codes) := fun due =>
      (hsuperclass t rfl due).passesOpen.append (isEvenOpen_argumentText hcodes due).passes
    have hall := IsEven.intercalate ", " (List.forall_mem_cons.mpr ⟨hbase, hrest⟩)
    exact (Clean.piece " : ").passesOpen.append (hall due)

theorem neutral_indentation (level : Nat) : Neutral (indentation level) := by
  intro c hc
  rw [indentation, String.toList_ofList] at hc
  rw [(List.mem_replicate.mp hc).2]
  decide

/-- **A body in braces**, one member to a line. -/
theorem isEvenOpen_bodyText (level : Nat) {members : List String}
    (h : ∀ m ∈ members, IsEven m) : IsEvenOpen (bodyText level members) := by
  intro due
  have hblanks (k : Nat) (due : List Char) : PassesOpen (indentation k) due due :=
    ((neutral_indentation k).isClean due).passesOpen
  have hlines : IsEvenOpen
      (String.join (members.map fun m => indentation (level + 1) ++ m ++ "\n")) := by
    refine IsEvenOpen.join fun line hline due => ?_
    obtain ⟨m, hm, rfl⟩ := List.mem_map.mp hline
    exact ((hblanks (level + 1) due).append (h m hm due)).append_piece (.piece "\n")
  exact (((Clean.piece "\x7b\n").passesOpen.append_open (hlines _)).append_open
    (hblanks level _)).append_open (Clean.piece "\x7d").passesOpen

/-- The lines of a neutral text are neutral. -/
theorem neutral_of_mem_lines {code line : String} (h : Neutral code)
    (hline : line ∈ Text.lines code) : Neutral line := by
  obtain ⟨cs, hcs, rfl⟩ := List.mem_map.mp hline
  intro c hc hmem
  rw [String.toList_ofList] at hc
  refine Text.notMem_of_mem_linesOfPieces (fun piece hpiece hpiece' => ?_) cs hcs hc
  exact h c (List.mem_and_ne_of_mem_splitOn hpiece hpiece').1 hmem

/-- Indenting neutral code adds nothing but blanks. -/
theorem neutral_verbatimText (level : Nat) {code : String} (h : Neutral code) :
    Neutral (verbatimText level code) := by
  have hlines : ∀ line ∈ Text.lines code, Neutral line := fun _ => neutral_of_mem_lines h
  unfold verbatimText
  split
  · decide
  · rename_i first rest hcode
    rw [hcode, List.forall_mem_cons] at hlines
    refine hlines.1.append (Neutral.join fun piece hpiece => ?_)
    obtain ⟨line, hline, rfl⟩ := List.mem_map.mp hpiece
    refine Neutral.append (Neutral.append (by decide) ?_) (hlines.2 line hline)
    split
    · decide
    · exact neutral_indentation level

theorem TypeParameter.isClean_text {p : TypeParameter}
    (h : ∀ id ∈ p.identifiers, Neutral id.name) : IsClean p.text := by
  obtain ⟨name, bound⟩ := p
  intro due
  have hname := (Identifier.neutral_text (h name List.mem_cons_self)).isClean due
  cases bound with
  | none => exact hname.append (.piece "")
  | some bound =>
    have hbound := bound.isClean_text fun id hid => h id (List.mem_cons_of_mem name hid)
    exact hname.append ((Clean.piece " : ").append (hbound due))

/-- What a class declaration says before its supertypes. -/
theorem isClean_headText {name : Identifier} (modifiers : List Modifier)
    {typeParameters : List TypeParameter} (hname : Neutral name.name)
    (hparameters : ∀ id ∈ typeParameters.flatMap TypeParameter.identifiers, Neutral id.name) :
    IsClean (headText name modifiers typeParameters) := by
  intro due
  have hmodifiers : Neutral (String.join (modifiers.map fun m => m.keyword ++ " ")) := by
    refine Neutral.join fun code hcode => ?_
    obtain ⟨m, -, rfl⟩ := List.mem_map.mp hcode
    cases m <;> decide
  have hlist : IsClean (Ty.argumentList (typeParameters.map TypeParameter.text)) := by
    refine Ty.isClean_argumentList fun code hcode => ?_
    obtain ⟨p, hp, rfl⟩ := List.mem_map.mp hcode
    exact TypeParameter.isClean_text fun id hid =>
      hparameters id (List.mem_flatMap.mpr ⟨p, hp, hid⟩)
  exact (((hmodifiers.isClean due).append (.piece "class ")).append
    ((Identifier.neutral_text hname).isClean due)).append (hlist due)

theorem Ty.isClean_constructorText_of_mem {ts : List Ty}
    (h : ∀ id ∈ Ty.identifiersOfAll ts, Neutral id.name) :
    ∀ t ∈ ts, IsClean t.constructorText := by
  intro t ht
  rw [Ty.identifiersOfAll_eq_flatMap] at h
  exact isClean_constructorText fun id hid => h id (List.mem_flatMap.mpr ⟨t, ht, hid⟩)

/-- What a property says before its initializer. -/
theorem isClean_propertyHead {name : Identifier} {type : Ty} (mutable : Bool)
    (hname : Neutral name.name) (htype : ∀ id ∈ type.identifiers, Neutral id.name) :
    IsClean ((if mutable then "var " else "val ") ++ name.text ++ ": " ++ type.text) := by
  intro due
  have hkeyword : Neutral (if mutable then "var " else "val ") := by
    split <;> decide
  exact (((hkeyword.append (Identifier.neutral_text hname)).isClean due).append
    (.piece ": ")).append (type.isClean_text htype due)

mutual

/-- **The brackets of an expression are balanced.** -/
theorem Expr.isEven_text (k : Nat) : ∀ e : Expr, (∀ id ∈ e.identifiers, Neutral id.name) →
    (∀ code ∈ e.verbatims, Neutral code) → IsEven (e.text k)
  | .literal value, _, _ => isEven_literal value
  | .ident name, h, _ => (Identifier.neutral_text (h name List.mem_cons_self)).isClean.isEven
  | .member receiver name, h, hcode => by
    simp only [Expr.identifiers, List.forall_mem_append, List.forall_mem_singleton] at h
    intro due
    have hdot : Neutral (if receiver.isNullable then "?." else ".") := by
      split <;> decide
    exact ((Expr.isEven_text k receiver h.1 hcode due).append_clean (hdot.isClean due)).append_clean
      ((Identifier.neutral_text h.2).isClean due)
  | .call callee typeArguments arguments _, h, hcode => by
    simp only [Expr.identifiers, Expr.verbatims, List.forall_mem_append] at h hcode
    intro due
    have htypes := Ty.isClean_argumentList (Ty.isClean_of_mem_texts typeArguments h.1.2) due
    have harguments := isEvenOpen_argumentText
      (Expr.isEven_of_mem_texts k arguments h.2 hcode.2) due
    have hcallee := (Expr.isEven_text k callee h.1.1 hcode.1 due).append_clean htypes
    -- the callee may be a string, and what follows it begins with a parenthesis
    refine hcallee.append_of_seam harguments.passes fun _ => ?_
    rw [head?_argumentText]
    decide
  | .newArray type sizes, h, hcode => by
    simp only [Expr.identifiers, List.forall_mem_append] at h
    intro due
    exact (isEvenOpen_creationText (Expr.isEven_of_mem_texts k sizes h.2 hcode) type h.1 due).passes
  | .anonymous supertype arguments members, h, hcode => by
    simp only [Expr.identifiers, Expr.verbatims, List.forall_mem_append] at h hcode
    intro due
    have hname := (Clean.piece "object : ").append (Ty.isClean_constructorText h.1.1 due)
    have harguments := isEvenOpen_argumentText
      (Expr.isEven_of_mem_texts k arguments h.1.2 hcode.1) due
    have hbody := isEvenOpen_bodyText k
      (Member.isEven_of_mem_texts (k + 1) members h.2 hcode.2) due
    exact (((hname.passesOpen.append_open harguments).append_open
      (Clean.piece " ").passesOpen).append_open hbody).passes

theorem Expr.isEven_of_mem_texts (k : Nat) : ∀ es : List Expr,
    (∀ id ∈ Expr.identifiersOfAll es, Neutral id.name) →
    (∀ code ∈ Expr.verbatimsOfAll es, Neutral code) → ∀ code ∈ Expr.texts k es, IsEven code
  | [], _, _ => fun code hcode => absurd hcode List.not_mem_nil
  | e :: rest, h, hcode => by
    simp only [Expr.identifiersOfAll, Expr.verbatimsOfAll, List.forall_mem_append] at h hcode
    rw [Expr.texts, List.forall_mem_cons]
    exact ⟨Expr.isEven_text k e h.1 hcode.1, Expr.isEven_of_mem_texts k rest h.2 hcode.2⟩

/-- **The brackets of a member are balanced.** -/
theorem Member.isEven_text (k : Nat) : ∀ m : Member, (∀ id ∈ m.identifiers, Neutral id.name) →
    (∀ code ∈ m.verbatims, Neutral code) → IsEven (m.text k)
  | .property name type none mutable, h, _ => by
    simp only [Member.identifiers, List.forall_mem_cons] at h
    exact (isClean_propertyHead mutable h.1 h.2).isEven
  | .property name type (some initializer) mutable, h, hcode => by
    simp only [Member.identifiers, List.cons_append, List.forall_mem_cons,
      List.forall_mem_append] at h
    intro due
    have hhead := (isClean_propertyHead mutable h.1 h.2.1 due).append (.piece " = ")
    exact hhead.passesOpen.append (Expr.isEven_text k initializer h.2.2 hcode due)
  | .classMember declaration, h, hcode => fun due =>
    (Class.isEvenOpen_text k declaration h hcode due).passes
  | .verbatim code, _, hcode =>
    (neutral_verbatimText k (hcode code List.mem_cons_self)).isClean.isEven

theorem Member.isEven_of_mem_texts (k : Nat) : ∀ ms : List Member,
    (∀ id ∈ Member.identifiersOfAll ms, Neutral id.name) →
    (∀ code ∈ Member.verbatimsOfAll ms, Neutral code) → ∀ code ∈ Member.texts k ms, IsEven code
  | [], _, _ => fun code hcode => absurd hcode List.not_mem_nil
  | m :: rest, h, hcode => by
    simp only [Member.identifiersOfAll, Member.verbatimsOfAll, List.forall_mem_append] at h hcode
    rw [Member.texts, List.forall_mem_cons]
    exact ⟨Member.isEven_text k m h.1 hcode.1, Member.isEven_of_mem_texts k rest h.2 hcode.2⟩

/-- **The brackets of a class declaration are balanced.** -/
theorem Class.isEvenOpen_text (k : Nat) : ∀ c : Class, (∀ id ∈ c.identifiers, Neutral id.name) →
    (∀ code ∈ c.verbatims, Neutral code) → IsEvenOpen (c.text k)
  | ⟨name, modifiers, typeParameters, superclass, interfaces, superArguments, members⟩, h,
    hcode => by
    simp only [Class.identifiers, Class.verbatims, List.cons_append, List.forall_mem_cons,
      List.forall_mem_append] at h hcode
    obtain ⟨hname, ⟨⟨⟨hparameters, hsuperclass⟩, hinterfaces⟩, harguments⟩, hmembers⟩ := h
    intro due
    have hhead := (isClean_headText modifiers hname hparameters due).passesOpen
    have hsuper : ∀ t ∈ superclass, IsClean t.constructorText := by
      rintro t rfl
      exact Ty.isClean_constructorText hsuperclass
    have hsupertypes := isEven_supertypeText
      (Expr.isEven_of_mem_texts k superArguments harguments hcode.1) hsuper
      (Ty.isClean_constructorText_of_mem hinterfaces) due
    have hbody := isEvenOpen_bodyText k
      (Member.isEven_of_mem_texts (k + 1) members hmembers hcode.2) due
    exact ((hhead.append hsupertypes).append_piece (.piece " ")).append_open hbody

end

/-! ## Nodes of any kind -/

/-- **The brackets of a file are balanced.** -/
theorem File.isEven_text (k : Nat) (f : File) (hpackage : Neutral f.packageName)
    (hmain : Neutral f.mainFunction) (himports : ∀ i ∈ f.imports, Neutral i.name)
    (hnames : ∀ c ∈ f.classes, ∀ id ∈ c.identifiers, Neutral id.name)
    (hcode : ∀ c ∈ f.classes, ∀ code ∈ c.verbatims, Neutral code) : IsEven (f.text k) := by
  intro due
  have hhead : Neutral
      (if f.packageName.isEmpty then "" else "package " ++ f.packageName ++ "\n") := by
    split
    · decide
    · exact (Neutral.append (by decide) hpackage).append (by decide)
  have himport : ∀ code ∈ f.imports.map Import.text, IsClean code := by
    intro code hmem
    obtain ⟨i, hi, rfl⟩ := List.mem_map.mp hmem
    exact (Neutral.append (by decide) (himports i hi)).isClean
  have hclass : ∀ code ∈ f.classes.map (Class.text k), IsEven code := by
    intro code hmem due
    obtain ⟨c, hc, rfl⟩ := List.mem_map.mp hmem
    exact (Class.isEvenOpen_text k c (hnames c hc) (hcode c hc) due).passes
  have hlines := IsClean.intercalate "\n" himport
  have hclasses := IsEven.intercalate "\n" hclass
  have hfront := ((hhead.isClean due).append (hlines due)).append (.piece "\n\n")
  exact ((hfront.passesOpen.append (hclasses due)).append_clean (.piece "\n")).append_clean
    (hmain.isClean due)

namespace Node

/-- The texts that a node takes over: its names, and the code that was made elsewhere. -/
def borrowed : Node → List String
  | identifier id => [id.name]
  | type t => t.identifiers.map Identifier.name
  | expr e => e.identifiers.map Identifier.name ++ e.verbatims
  | call c => c.toExpr.identifiers.map Identifier.name ++ c.toExpr.verbatims
  | arrayCreation a => a.toExpr.identifiers.map Identifier.name ++ a.toExpr.verbatims
  | importLine i => [i.name]
  | member m => m.identifiers.map Identifier.name ++ m.verbatims
  | classDeclaration c => c.identifiers.map Identifier.name ++ c.verbatims
  | objectBody b => b.identifiers.map Identifier.name ++ b.verbatims
  | file f => f.packageName :: f.mainFunction :: f.imports.map Import.name
    ++ f.classes.flatMap fun c => c.identifiers.map Identifier.name ++ c.verbatims

/-- **The code of a node has balanced brackets** outside its literals, whatever these hold, if the
texts that the node takes over are neutral. -/
theorem balanced_toKotlin (n : Node) (h : ∀ s ∈ n.borrowed, Neutral s) : Balanced n.toKotlin := by
  -- balanced means that nothing is due before the code and nothing after it
  suffices heven : IsEven n.toKotlin from heven []
  cases n with
  | identifier id => exact (Identifier.neutral_text (h id.name List.mem_cons_self)).isClean.isEven
  | type t =>
    simp only [borrowed, List.forall_mem_map] at h
    exact (t.isClean_text h).isEven
  | expr e =>
    simp only [borrowed, List.forall_mem_append, List.forall_mem_map] at h
    exact e.isEven_text 0 h.1 h.2
  | call c =>
    simp only [borrowed, List.forall_mem_append, List.forall_mem_map] at h
    exact c.toExpr.isEven_text 0 h.1 h.2
  | arrayCreation a =>
    simp only [borrowed, List.forall_mem_append, List.forall_mem_map] at h
    exact a.toExpr.isEven_text 0 h.1 h.2
  | importLine i => exact (Neutral.append (by decide) (h i.name List.mem_cons_self)).isClean.isEven
  | member m =>
    simp only [borrowed, List.forall_mem_append, List.forall_mem_map] at h
    exact m.isEven_text 0 h.1 h.2
  | classDeclaration c =>
    simp only [borrowed, List.forall_mem_append, List.forall_mem_map] at h
    exact fun due => (c.isEvenOpen_text 0 h.1 h.2 due).passes
  | objectBody b =>
    simp only [borrowed, List.forall_mem_append, List.forall_mem_map] at h
    exact fun due =>
      (isEvenOpen_bodyText 0 (Member.isEven_of_mem_texts 1 b.members h.1 h.2) due).passes
  | file f =>
    simp only [borrowed, List.cons_append, List.forall_mem_cons, List.forall_mem_append,
      List.forall_mem_map, List.forall_mem_flatMap] at h
    obtain ⟨hpackage, hmain, himports, hclasses⟩ := h
    exact f.isEven_text 0 hpackage hmain himports (fun c hc => (hclasses c hc).1)
      fun c hc => (hclasses c hc).2

/-- Brackets and quotes inside literals, among them an empty string that a method is called on, and
an array creation with fewer sizes than levels. -/
theorem balanced_toKotlin_literals :
    let n : Node := .expr (.call (.member (.literal (.string "")) (.plain "format")) []
      [.literal (.string ")>\"\\\x7d'"), .literal (.char '"'), .literal (.char '('),
        .newArray (.arrayOf (.arrayOf (.ofClass "List" [.starProjection])))
          [.literal (.string "<")]] false)
    (∀ s ∈ n.borrowed, Neutral s) ∧ Balanced n.toKotlin :=
  ⟨by decide, balanced_toKotlin _ (by decide)⟩

end Node

end Kotlinize.Kotlin
