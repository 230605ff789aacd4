import Kotlinize.Json.Parser
import Kotlinize.Kotlin.LiteralText
import Kotlinize.Proofs.Sequences
import Mathlib.Tactic.SplitIfs

/-!
# Reading literals back

Kotlin reads a character or a string literal from its opening quote on: a
backslash begins an escape, and the literal ends at the first quote that does not
belong to one. `readQuoted` does this for all that stands between the quotes, and
`readLiteral` adds what the two kinds of literals ask for beyond: one character
between single quotes, and no third quote after an empty string, where a raw
string would begin.

Reading stops at the closing quote (`exists_of_readQuoted`), so the literals in two
pieces of code are those of each, up to that third quote
(`withoutLiterals_append`). Every character that is written between quotes is read
back, so a literal that is written is read back whole, and nothing beyond it
(`readLiteral_flatMap_escapedIn`).

`readToken` reads a single literal at the front of code, and lets it end at its
closing quote whatever follows. It gives back every character and every string
from the code written for it, although it takes nothing between the quotes that
Kotlin would refuse (`readToken_text_append`).
-/

namespace Kotlinize.Literal

/-! ## Reading

The reader follows the grammar of Kotlin: which letters may stand after a backslash,
four digits for a code, and which characters may not stand between quotes as they
are. What Kotlin refuses it refuses too, by giving no result. -/

/-- The quotes of literals. -/
def isQuote (c : Char) : Bool :=
  c == '"' || c == '\x27'

/-- The character that a backslash and a letter stand for. -/
def escaped? (c : Char) : Option Char :=
  if c = 't' then some '\t'
  else if c = 'b' then some '\x08'
  else if c = 'n' then some '\n'
  else if c = 'r' then some '\r'
  else if c = '\x27' ∨ c = '"' ∨ c = '\\' ∨ c = '$' then some c
  else none

/-- The character with the code of the given four hexadecimal digits. -/
def charOfHex? (a b c d : Char) : Option Char := do
  let n := (((← Json.hexValue? a) * 16 + (← Json.hexValue? b)) * 16 + (← Json.hexValue? c)) * 16
    + (← Json.hexValue? d)
  if n.isValidChar then some (Char.ofNat n) else none

/-- Whether a character has to be escaped between the given quotes. -/
def mustEscape (quote c : Char) : Bool :=
  isControl c || (c == '$' && quote == '"')

/-- A character in front of what was read. -/
def before (c : Char) : Option (List Char × List Char) → Option (List Char × List Char) :=
  Option.map fun (cs, rest) => (c :: cs, rest)

/-- **Reads up to the closing quote**: the characters before it, and what is left after it. -/
def readQuoted (quote : Char) : List Char → Option (List Char × List Char)
  | [] => none
  | '\\' :: 'u' :: a :: b :: c :: d :: rest =>
    (charOfHex? a b c d).bind fun e => before e (readQuoted quote rest)
  | '\\' :: c :: rest => (escaped? c).bind fun e => before e (readQuoted quote rest)
  | c :: rest =>
    if c = quote then some ([], rest)
    else if mustEscape quote c then none
    else before c (readQuoted quote rest)

/-- Whether what was read is a literal: one character between single quotes, and no empty string
with a third quote after it, where a raw string begins. -/
def isWhole (quote : Char) (value after : List Char) : Bool :=
  if quote = '"' then !(value.isEmpty && after.head? == some '"') else value.length == 1

/-- **Reads a literal after its opening quote**: its characters, and what is left after it. -/
def readLiteral (quote : Char) (cs : List Char) : Option (List Char × List Char) :=
  (readQuoted quote cs).filter fun (value, after) => isWhole quote value after

/-! ## What one step reads

Each clause of the reader as an equation of its own. A backslash never stands for
itself, so the last clause is reached only by other characters. -/

/-- A character was put in front of what was read. -/
theorem before_eq_some {c : Char} {r : Option (List Char × List Char)}
    {value after : List Char} :
    before c r = some (value, after) ↔ ∃ cs, r = some (cs, after) ∧ value = c :: cs := by
  simp only [before, Option.map_eq_some_iff, Prod.exists, Prod.mk.injEq]
  constructor
  · rintro ⟨cs, rest, h, rfl, rfl⟩
    exact ⟨cs, h, rfl⟩
  · rintro ⟨cs, h, rfl⟩
    exact ⟨cs, after, h, rfl, rfl⟩

variable {quote c : Char}

theorem ne_slash_of_isQuote (hquote : isQuote quote) : quote ≠ '\\' := by
  rintro rfl
  exact absurd hquote (by decide)

/-- Outside escapes one character is read at a time. -/
theorem readQuoted_of_ne_slash (hslash : c ≠ '\\') (rest : List Char) :
    readQuoted quote (c :: rest)
      = if c = quote then some ([], rest)
        else if mustEscape quote c then none
        else before c (readQuoted quote rest) := by
  rw [readQuoted]
  · exact fun a b c d rest h => absurd h hslash
  · exact fun c rest h => absurd h hslash

/-- The closing quote ends the literal. -/
theorem readQuoted_quote (hquote : quote ≠ '\\') (rest : List Char) :
    readQuoted quote (quote :: rest) = some ([], rest) := by
  rw [readQuoted_of_ne_slash hquote, if_pos rfl]

/-- A character that stands for itself. -/
theorem readQuoted_cons (hslash : c ≠ '\\') (hquote : c ≠ quote)
    (hescape : mustEscape quote c = false) (rest : List Char) :
    readQuoted quote (c :: rest) = before c (readQuoted quote rest) := by
  rw [readQuoted_of_ne_slash hslash, if_neg hquote, if_neg (by rw [hescape]; decide)]

/-- A letter after a backslash. -/
theorem readQuoted_escape {letter : Char} (h : escaped? letter = some c) (rest : List Char) :
    readQuoted quote ('\\' :: letter :: rest) = before c (readQuoted quote rest) := by
  rw [readQuoted, h]
  · rfl
  · rintro a b c d rest rfl
    cases h

/-- A code of four digits. -/
theorem readQuoted_unicode {a b d e : Char} (h : charOfHex? a b d e = some c)
    (rest : List Char) :
    readQuoted quote ('\\' :: 'u' :: a :: b :: d :: e :: rest)
      = before c (readQuoted quote rest) := by
  rw [readQuoted, h]
  rfl

/-- **Reading stops at the closing quote**: what follows it is left alone. -/
theorem exists_of_readQuoted (hquote : quote ≠ '\\') {cs value after : List Char}
    (h : readQuoted quote cs = some (value, after)) :
    ∃ body, cs = body ++ quote :: after
      ∧ ∀ rest, readQuoted quote (body ++ quote :: rest) = some (value, rest) := by
  fun_induction readQuoted quote cs generalizing value with
  | case1 => cases h
  | case2 a b c d rest ih =>
    obtain ⟨e, he, hrest⟩ := Option.bind_eq_some_iff.mp h
    obtain ⟨cs, hcs, rfl⟩ := before_eq_some.mp hrest
    obtain ⟨body, rfl, hbody⟩ := ih hcs
    refine ⟨'\\' :: 'u' :: a :: b :: c :: d :: body, rfl, fun rest => ?_⟩
    exact (readQuoted_unicode he _).trans (before_eq_some.mpr ⟨cs, hbody rest, rfl⟩)
  | case3 c rest _ ih =>
    obtain ⟨e, he, hrest⟩ := Option.bind_eq_some_iff.mp h
    obtain ⟨cs, hcs, rfl⟩ := before_eq_some.mp hrest
    obtain ⟨body, rfl, hbody⟩ := ih hcs
    refine ⟨'\\' :: c :: body, rfl, fun rest => ?_⟩
    exact (readQuoted_escape he _).trans (before_eq_some.mpr ⟨cs, hbody rest, rfl⟩)
  | case4 rest =>
    cases h
    exact ⟨[], rfl, fun rest => readQuoted_quote hquote rest⟩
  | case5 => cases h
  | case6 c rest _ hno hc hescape ih =>
    obtain ⟨cs, hcs, rfl⟩ := before_eq_some.mp h
    obtain ⟨body, rfl, hbody⟩ := ih hcs
    -- something follows, so a backslash would have begun an escape
    obtain ⟨next, further, hnext⟩ := List.exists_cons_of_ne_nil
      (List.append_ne_nil_of_right_ne_nil body (List.cons_ne_nil quote after))
    have hslash : c ≠ '\\' := fun heq => hno next further heq hnext
    refine ⟨c :: body, rfl, fun rest => ?_⟩
    exact (readQuoted_cons hslash hc (Bool.eq_false_iff.mpr hescape) _).trans
      (before_eq_some.mpr ⟨cs, hbody rest, rfl⟩)

/-- **Reading a literal stops at its closing quote**, and what follows makes no difference unless a
raw string begins. -/
theorem exists_of_readLiteral (hquote : isQuote quote) {cs value after : List Char}
    (h : readLiteral quote cs = some (value, after)) :
    ∃ body, cs = body ++ quote :: after ∧ isWhole quote value after
      ∧ ∀ rest, isWhole quote value rest →
        readLiteral quote (body ++ quote :: rest) = some (value, rest) := by
  obtain ⟨hread, hwhole⟩ := Option.filter_eq_some_iff.mp h
  obtain ⟨body, rfl, hbody⟩ := exists_of_readQuoted (ne_slash_of_isQuote hquote) hread
  refine ⟨body, rfl, hwhole, fun rest hrest => ?_⟩
  exact Option.filter_eq_some_iff.mpr ⟨hbody rest, hrest⟩

/-! ## Code outside literals

All of the code is read from left to right, and what belongs to a literal is left
out. Whether a quote opens or closes depends on everything before it, so this is
where two pieces of code could interfere. The only interference is that of two
strings that touch. -/

/-- **Code without its literals**, as long as every literal in it can be read. -/
def withoutLiterals : List Char → Option (List Char)
  | [] => some []
  | c :: rest =>
    if _hquote : isQuote c then
      match _h : readLiteral c rest with
      | none => none
      | some (_, after) => withoutLiterals after
    else (withoutLiterals rest).map (c :: ·)
termination_by cs => cs.length
decreasing_by
  · obtain ⟨body, rfl, -⟩ := exists_of_readLiteral _hquote _h
    simp only [List.length_cons, List.length_append]
    omega
  · exact Nat.lt_succ_self _

theorem withoutLiterals_nil : withoutLiterals [] = some [] := by
  rw [withoutLiterals]

theorem withoutLiterals_cons (hc : isQuote c = false) (rest : List Char) :
    withoutLiterals (c :: rest) = (withoutLiterals rest).map (c :: ·) := by
  rw [withoutLiterals, dif_neg (by rw [hc]; decide)]

/-- A literal is left out as a whole, and reading goes on behind it. -/
theorem withoutLiterals_literal (hquote : isQuote quote) {rest value after : List Char}
    (h : readLiteral quote rest = some (value, after)) :
    withoutLiterals (quote :: rest) = withoutLiterals after := by
  rw [withoutLiterals, dif_pos hquote]
  split
  · rename_i hnone
    cases hnone.symm.trans h
  · rename_i hsome
    cases hsome.symm.trans h
    rfl

/-- A literal stays whole in front of other code, unless a quote comes right after an empty
string. -/
theorem isWhole_append {value after ds : List Char} (h : isWhole quote value after)
    (hseam : after = [] → quote = '"' → ds.head? ≠ some '"') :
    isWhole quote value (after ++ ds) := by
  cases after with
  | cons c after => exact h
  | nil =>
    by_cases hdouble : quote = '"'
    · rw [isWhole, if_pos hdouble, List.nil_append, beq_eq_false_iff_ne.mpr (hseam rfl hdouble),
        Bool.and_false]
      rfl
    · rw [isWhole, if_neg hdouble] at h ⊢
      exact h

/-- **Literals are found in each part on its own**, as long as no string ends where another
begins. -/
theorem withoutLiterals_append {cs ds code : List Char} (h : withoutLiterals cs = some code)
    (hseam : cs.getLast? = some '"' → ds.head? ≠ some '"') :
    withoutLiterals (cs ++ ds) = (withoutLiterals ds).map (code ++ ·) := by
  fun_induction withoutLiterals cs generalizing code with
  | case1 =>
    cases h
    simp
  | case2 => cases h
  | case3 quote rest hquote value after hread ih =>
    obtain ⟨body, rfl, hwhole, hbody⟩ := exists_of_readLiteral hquote hread
    have hend : after = [] → quote = '"' → ds.head? ≠ some '"' := by
      intro hafter hdouble
      refine hseam ?_
      rw [hafter, hdouble, ← List.cons_append, List.getLast?_concat]
    have hread' := hbody (after ++ ds) (isWhole_append hwhole hend)
    have hafter : withoutLiterals (after ++ ds) = (withoutLiterals ds).map (code ++ ·) := by
      refine ih h fun hlast => hseam ?_
      rw [← List.cons_append, List.append_cons]
      exact List.getLast?_append_of_eq_some hlast _
    rw [List.cons_append, List.append_assoc, List.cons_append,
      withoutLiterals_literal hquote hread', hafter]
  | case4 c rest hc ih =>
    obtain ⟨code, hcode, rfl⟩ := Option.map_eq_some_iff.mp h
    have hrest := ih hcode fun hlast => hseam (List.getLast?_append_of_eq_some hlast [c])
    rw [List.cons_append, withoutLiterals_cons (Bool.eq_false_iff.mpr hc), hrest, Option.map_map]
    rfl

/-! ## Reading back what was written

Writing decides for each character how it is escaped, and reading decides from the
first two characters which escape it sees. The three ways of writing are told apart
by these. -/

theorem hexValue?_hexDigit (n : Nat) : Json.hexValue? (hexDigit n) = some (n % 16) := by
  have hall : ∀ m < 16, Json.hexValue? (Nat.digitChar m).toUpper = some m := by decide
  exact hall (n % 16) (Nat.mod_lt n (by decide))

/-- Four digits are enough for the code of a control character. -/
theorem charOfHex?_of_isControl (h : isControl c) :
    charOfHex? (hexDigit (c.toNat / 4096)) (hexDigit (c.toNat / 256)) (hexDigit (c.toNat / 16))
      (hexDigit c.toNat) = some c := by
  have hsmall : c.toNat < 65536 := by
    simp only [isControl, Bool.or_eq_true, Bool.and_eq_true, decide_eq_true_eq] at h
    omega
  have hcode : ((c.toNat / 4096 % 16 * 16 + c.toNat / 256 % 16) * 16 + c.toNat / 16 % 16) * 16
      + c.toNat % 16 = c.toNat := by
    omega
  have hvalid : c.toNat.isValidChar := c.valid
  simp only [charOfHex?, hexValue?_hexDigit, Option.bind_eq_bind, Option.bind_some, hcode,
    if_pos hvalid, Char.ofNat_toNat]

/-- **How a character is written between quotes**: after a backslash, by its code, or as it is. -/
theorem escapedIn_cases (hquote : isQuote quote) (c : Char) :
    (∃ letter, escapedIn quote c = ['\\', letter] ∧ escaped? letter = some c)
    ∨ (escapedIn quote c = unicodeEscape c ∧ isControl c)
    ∨ (escapedIn quote c = [c] ∧ c ≠ '\\' ∧ c ≠ quote ∧ mustEscape quote c = false) := by
  unfold escapedIn
  split_ifs with hslash hfeed hreturn htab hback hdollar hself hcontrol
  · exact .inl ⟨'\\', rfl, by rw [hslash]; rfl⟩
  · exact .inl ⟨'n', rfl, by rw [hfeed]; rfl⟩
  · exact .inl ⟨'r', rfl, by rw [hreturn]; rfl⟩
  · exact .inl ⟨'t', rfl, by rw [htab]; rfl⟩
  · exact .inl ⟨'b', rfl, by rw [hback]; rfl⟩
  · exact .inl ⟨'$', rfl, by rw [hdollar.1]; rfl⟩
  · subst hself
    rw [isQuote, Bool.or_eq_true, beq_iff_eq, beq_iff_eq] at hquote
    refine .inl ⟨c, rfl, ?_⟩
    rcases hquote with rfl | rfl <;> rfl
  · exact .inr (.inl ⟨rfl, hcontrol⟩)
  · refine .inr (.inr ⟨rfl, hslash, hself, ?_⟩)
    rw [mustEscape, Bool.or_eq_false_iff, Bool.and_eq_false_iff, beq_eq_false_iff_ne,
      beq_eq_false_iff_ne]
    exact ⟨Bool.eq_false_iff.mpr hcontrol, Decidable.not_and_iff_not_or_not.mp hdollar⟩

/-- **A character that is written between quotes is read back.** -/
theorem readQuoted_escapedIn (hquote : isQuote quote) (c : Char) (rest : List Char) :
    readQuoted quote (escapedIn quote c ++ rest) = before c (readQuoted quote rest) := by
  obtain ⟨letter, hwritten, hletter⟩ | ⟨hwritten, hcontrol⟩ | ⟨hwritten, hslash, hself, hplain⟩ :=
    escapedIn_cases hquote c
  · rw [hwritten]
    exact readQuoted_escape hletter rest
  · rw [hwritten]
    exact readQuoted_unicode (charOfHex?_of_isControl hcontrol) rest
  · rw [hwritten]
    exact readQuoted_cons hslash hself hplain rest

/-- **Characters that are written between quotes are read back**, and nothing beyond. -/
theorem readQuoted_flatMap_escapedIn (hquote : isQuote quote) (cs rest : List Char) :
    readQuoted quote (cs.flatMap (escapedIn quote) ++ quote :: rest) = some (cs, rest) := by
  induction cs with
  | nil => exact readQuoted_quote (ne_slash_of_isQuote hquote) rest
  | cons c cs ih =>
    rw [List.flatMap_cons, List.append_assoc, readQuoted_escapedIn hquote, ih]
    rfl

/-- **A literal is read back** from its code, and nothing beyond. -/
theorem readLiteral_flatMap_escapedIn (hquote : isQuote quote) {cs rest : List Char}
    (hwhole : isWhole quote cs rest) :
    readLiteral quote (cs.flatMap (escapedIn quote) ++ quote :: rest) = some (cs, rest) :=
  Option.filter_eq_some_iff.mpr ⟨readQuoted_flatMap_escapedIn hquote cs rest, hwhole⟩

/-- The code of a quoted literal is nothing but a literal. -/
theorem withoutLiterals_quotedIn (hquote : isQuote quote) {cs : List Char}
    (hwhole : isWhole quote cs []) :
    withoutLiterals (quotedIn quote cs).toList = some [] := by
  rw [quotedIn, String.toList_ofList, List.cons_append,
    withoutLiterals_literal hquote (readLiteral_flatMap_escapedIn hquote hwhole),
    withoutLiterals_nil]

/-! ## What is refused

Reading back would be worth little if the reader took anything. These are the texts
that it does not take, by the reason for which it refuses them. -/

/-- What has to be escaped is not taken as it is. -/
theorem readQuoted_of_mustEscape (hquote : c ≠ quote) (hescape : mustEscape quote c)
    (rest : List Char) : readQuoted quote (c :: rest) = none := by
  have hslash : c ≠ '\\' := by
    rintro rfl
    simp [mustEscape, isControl] at hescape
  rw [readQuoted_of_ne_slash hslash, if_neg hquote, if_pos hescape]

/-- The letters that may follow a backslash. -/
def escapeLetters : List Char :=
  ['t', 'b', 'n', 'r', '\x27', '"', '\\', '$', 'u']

/-- An unknown letter after a backslash is not taken. -/
theorem readQuoted_of_notMem_escapeLetters {letter : Char} (h : letter ∉ escapeLetters)
    (rest : List Char) : readQuoted quote ('\\' :: letter :: rest) = none := by
  have hcode : letter ≠ 'u' := by
    rintro rfl
    exact h (by decide)
  have hnone : escaped? letter = none := by
    simp only [escapeLetters, List.mem_cons, List.not_mem_nil, or_false, not_or] at h
    simp [escaped?, h]
  rw [readQuoted, hnone]
  · rfl
  · exact fun a b c d rest hletter => absurd hletter hcode

/-- Whether a character is a hexadecimal digit. -/
def isHexDigit (c : Char) : Bool :=
  (Json.hexValue? c).isSome

/-- A code is made of hexadecimal digits. -/
theorem isHexDigit_of_charOfHex? {a b d e : Char} (h : charOfHex? a b d e = some c) :
    isHexDigit a ∧ isHexDigit b ∧ isHexDigit d ∧ isHexDigit e := by
  simp only [charOfHex?, Option.bind_eq_bind, Option.bind_eq_some_iff] at h
  obtain ⟨i, hi, j, hj, k, hk, l, hl, -⟩ := h
  simp only [isHexDigit, hi, hj, hk, hl, Option.isSome_some, and_self]

/-- An escape by code asks for four hexadecimal digits. -/
theorem readQuoted_of_length_takeWhile_lt {rest : List Char}
    (h : (rest.takeWhile isHexDigit).length < 4) :
    readQuoted quote ('\\' :: 'u' :: rest) = none := by
  match rest with
  | a :: b :: d :: e :: rest =>
    rw [readQuoted]
    cases hcode : charOfHex? a b d e with
    | none => rfl
    | some c =>
      obtain ⟨ha, hb, hd, he⟩ := isHexDigit_of_charOfHex? hcode
      simp only [List.takeWhile_cons_of_pos, ha, hb, hd, he, List.length_cons] at h
      omega
  | [] | [_] | [_, _] | [_, _, _] => rfl

/-! ## Literals at the front of code -/

/-- **Reads a character or a string literal at the front of code**: the literal, and what is left
after it. -/
def readToken : List Char → Option (Literal × List Char)
  | [] => none
  | c :: rest =>
    if c = '"' then
      (readQuoted '"' rest).map fun (value, after) => (.string (String.ofList value), after)
    else if c = '\x27' then
      match readQuoted '\x27' rest with
      | some ([value], after) => some (.char value, after)
      | _ => none
    else none

theorem toList_quotedIn_append (quote : Char) (cs rest : List Char) :
    (quotedIn quote cs).toList ++ rest
      = quote :: (cs.flatMap (escapedIn quote) ++ quote :: rest) := by
  simp [quotedIn]

/-- **Literals survive reading.** The code of a string, with any code behind it, is read as that
string, and the code behind is what is left; the code of a character likewise. Between the quotes
nothing else would have passed: no control character as it is, in a string no dollar sign as it is,
no unknown letter after a backslash, and no code of fewer than four digits. -/
theorem readToken_text_append :
    (∀ (s : String) (rest : List Char),
      readToken ((Literal.string s).text.toList ++ rest) = some (.string s, rest))
    ∧ (∀ (c : Char) (rest : List Char),
      readToken ((Literal.char c).text.toList ++ rest) = some (.char c, rest))
    ∧ ∀ quote, isQuote quote → ∀ rest : List Char,
      (∀ c : Char, c.toNat < 0x20 ∨ 0x7F ≤ c.toNat ∧ c.toNat < 0xA0 →
        readQuoted quote (c :: rest) = none)
      ∧ (quote = '"' → readQuoted quote ('$' :: rest) = none)
      ∧ (∀ letter, letter ∉ escapeLetters → readQuoted quote ('\\' :: letter :: rest) = none)
      ∧ ((rest.takeWhile isHexDigit).length < 4 →
        readQuoted quote ('\\' :: 'u' :: rest) = none) := by
  refine ⟨fun s rest => ?_, fun c rest => ?_, fun quote hquote rest => ⟨?_, ?_, ?_, ?_⟩⟩
  · rw [text, toList_quotedIn_append, readToken, if_pos rfl,
      readQuoted_flatMap_escapedIn (by decide)]
    show some (Literal.string (String.ofList s.toList), rest) = _
    rw [String.ofList_toList]
  · rw [text, toList_quotedIn_append, readToken, if_neg (by decide), if_pos rfl,
      readQuoted_flatMap_escapedIn (by decide)]
  · intro c hc
    have hcontrol : isControl c := by
      simpa [isControl] using hc
    refine readQuoted_of_mustEscape ?_ (by rw [mustEscape, hcontrol, Bool.true_or]) rest
    rintro rfl
    rw [isQuote, Bool.or_eq_true, beq_iff_eq, beq_iff_eq] at hquote
    rcases hquote with rfl | rfl <;> exact absurd hcontrol (by decide)
  · rintro rfl
    exact readQuoted_of_mustEscape (by decide) (by decide) rest
  · exact fun letter hletter => readQuoted_of_notMem_escapeLetters hletter rest
  · exact readQuoted_of_length_takeWhile_lt

/-- A backslash before the letter of an escape, both quotes, a dollar sign and a control character,
with another string right behind. -/
theorem readToken_text_append_escapes :
    readToken "\"\\\\u\\\"'\\$\\u0007\"\"x\"".toList
      = some (.string "\\u\"'$\x07", "\"x\"".toList) :=
  readToken_text_append.1 "\\u\"'$\x07" "\"x\"".toList

end Kotlinize.Literal
