import Kotlinize.Kotlin.LiteralText
import Kotlinize.Proofs.Lines

/-!
# The characters of a literal

A number is written with digits, a point, signs and the letter of an exponent; a
character or a string is written between quotes, with its control characters
escaped. Whatever value a literal has, its code therefore stands on one line
(`Literal.oneLine_text`).
-/

namespace Kotlinize

/-! ## Numbers

Every way to lay out a decimal number puts together digits that were computed and
characters that are fixed. So the characters of a number are found by going through
the layouts. -/

/-- The characters that numbers are written with. -/
def isNumeral (c : Char) : Bool :=
  c.isDigit || ['-', '+', '.', 'e'].contains c

/-- The digits of a number are numerals. -/
theorem isNumeral_of_mem_digitsOf {n : Nat} {c : Char} (h : c ∈ digitsOf n) :
    isNumeral c = true := by
  have hdigit : c.isDigit = true := Nat.isDigit_of_mem_toDigits (by decide) (by decide) h
  rw [isNumeral, hdigit, Bool.true_or]

/-- An integer is written with digits, and with a sign if it is negative. -/
theorem isNumeral_of_mem_integerText {n : Int} {c : Char} (h : c ∈ integerText n) :
    isNumeral c = true := by
  unfold integerText at h
  split at h
  · rcases List.mem_cons.mp h with rfl | h
    · decide
    · exact isNumeral_of_mem_digitsOf h
  · exact isNumeral_of_mem_digitsOf h

namespace Layout

/-- **The positional layout**: the point stands before the digits, behind them or
between them, and zeros fill the gap. -/
theorem isNumeral_of_mem_positionalText {digits : List Char} {point : Int}
    (hdigits : ∀ c ∈ digits, isNumeral c = true) :
    ∀ c ∈ positionalText digits point, isNumeral c = true := by
  have hzeros : ∀ (n : Nat) (c : Char), c ∈ List.replicate n '0' → isNumeral c = true := by
    intro n c hc
    rw [(List.mem_replicate.mp hc).2]
    decide
  intro c hc
  unfold positionalText at hc
  split at hc
  · rw [List.cons_append, List.cons_append, List.mem_cons, List.mem_cons, List.mem_append] at hc
    rcases hc with rfl | rfl | hc | hc
    · decide
    · decide
    · exact hzeros _ c hc
    · exact hdigits c hc
  · split at hc
    · rw [List.mem_append, List.mem_append] at hc
      rcases hc with (hc | hc) | hc
      · exact hdigits c hc
      · exact hzeros _ c hc
      · rw [List.mem_cons, List.mem_singleton] at hc
        rcases hc with rfl | rfl <;> decide
    · rw [List.mem_append, List.mem_cons] at hc
      rcases hc with hc | rfl | hc
      · exact hdigits c (List.mem_of_mem_take hc)
      · decide
      · exact hdigits c (List.mem_of_mem_drop hc)

/-- **The scientific layout**: a point after the first digit, and an exponent with its sign. -/
theorem isNumeral_of_mem_scientificText (layout : Layout) {digits : List Char} {power : Int}
    (hdigits : ∀ c ∈ digits, isNumeral c = true) :
    ∀ c ∈ layout.scientificText digits power, isNumeral c = true := by
  intro c hc
  unfold scientificText at hc
  simp only [List.mem_append, List.mem_cons] at hc
  rcases hc with (hc | rfl | hc) | hc
  · split at hc
    · rw [List.mem_singleton.mp hc]
      decide
    · exact hdigits c hc
    · rw [List.mem_cons, List.mem_cons] at hc
      rcases hc with rfl | rfl | hc
      · exact hdigits c List.mem_cons_self
      · decide
      · exact hdigits c (List.mem_cons_of_mem _ hc)
  · decide
  · split at hc
    · rw [List.mem_singleton.mp hc]
      decide
    · split at hc
      · rw [List.mem_singleton.mp hc]
        decide
      · exact absurd hc List.not_mem_nil
  · exact isNumeral_of_mem_digitsOf hc

/-- **A number is written with numerals only**, in every layout. -/
theorem isNumeral_of_mem_text (layout : Layout) (x : Float) :
    ∀ c ∈ (layout.text x).toList, isNumeral c = true := by
  have hdecimal : ∀ (d : Decimal) (c : Char), c ∈ layout.decimalText d → isNumeral c = true := by
    intro d c hc
    simp only [decimalText] at hc
    split at hc
    · exact isNumeral_of_mem_positionalText (fun _ => isNumeral_of_mem_digitsOf) c hc
    · exact isNumeral_of_mem_scientificText layout (fun _ => isNumeral_of_mem_digitsOf) c hc
  intro c hc
  rw [text, String.toList_ofList] at hc
  split at hc
  · rcases List.mem_cons.mp hc with rfl | hc
    · decide
    · exact hdecimal _ c hc
  · exact hdecimal _ c hc

end Layout

/-- Numerals stand on one line. -/
theorem oneLine_of_isNumeral {s : String} (h : ∀ c ∈ s.toList, isNumeral c = true) :
    Text.OneLine s :=
  fun hmem => absurd (h '\n' hmem) (by decide)

namespace Literal

/-! ## Characters between quotes

Escaping writes a line feed as two other characters, and no other character is
written with one: neither the code of a control character nor a backslash in
front. -/

theorem hexDigit_ne_lineFeed (n : Nat) : hexDigit n ≠ '\n' := by
  have hall : ∀ m < 16, (Nat.digitChar m).toUpper ≠ '\n' := by decide
  exact hall (n % 16) (Nat.mod_lt n (by decide))

/-- A character between quotes is not written as a line feed. -/
theorem lineFeed_notMem_escapedIn (quote c : Char) : '\n' ∉ escapedIn quote c := by
  intro h
  unfold escapedIn at h
  split at h
  · exact absurd h (by decide)
  split at h
  · exact absurd h (by decide)
  rename_i hc
  split at h
  · exact absurd h (by decide)
  split at h
  · exact absurd h (by decide)
  split at h
  · exact absurd h (by decide)
  split at h
  · exact absurd h (by decide)
  -- what is left writes the character itself, after a backslash or not, or its code
  split at h
  · rw [List.mem_cons, List.mem_singleton] at h
    exact h.elim (by decide) fun h => hc h.symm
  split at h
  · simp only [unicodeEscape, List.mem_cons, List.not_mem_nil, or_false] at h
    rcases h with h | h | h | h | h | h
    · exact absurd h (by decide)
    · exact absurd h (by decide)
    all_goals exact hexDigit_ne_lineFeed _ h.symm
  · exact hc (List.mem_singleton.mp h).symm

/-- What stands between quotes has no line feed, whatever the characters are. -/
theorem oneLine_quotedIn {quote : Char} (hquote : quote ≠ '\n') (cs : List Char) :
    Text.OneLine (quotedIn quote cs) := by
  rw [Text.OneLine, quotedIn, String.toList_ofList]
  simp only [List.cons_append, List.mem_cons, List.mem_append, List.mem_flatMap, List.not_mem_nil,
    or_false, not_or]
  refine ⟨Ne.symm hquote, ?_, Ne.symm hquote⟩
  rintro ⟨c, -, hc⟩
  exact lineFeed_notMem_escapedIn quote c hc

/-! ## Literals

The code of a literal is a keyword, a number with a suffix, the name of a constant
for what is no number, or something between quotes. -/

/-- A floating point number, or the constant for what is no number or infinite. -/
theorem oneLine_floatText (x : Float) {className suffix : String}
    (hclass : Text.OneLine className) (hsuffix : Text.OneLine suffix) :
    Text.OneLine (floatText x className suffix) := by
  unfold floatText
  split
  · exact hclass.append_piece ".NaN"
  · split
    · refine hclass.append ?_
      split <;> decide
    · exact (oneLine_of_isNumeral (kotlinNumbers.isNumeral_of_mem_text x)).append hsuffix

theorem oneLine_integerText (n : Int) : Text.OneLine (String.ofList (integerText n)) := by
  refine oneLine_of_isNumeral fun c hc => ?_
  rw [String.toList_ofList] at hc
  exact isNumeral_of_mem_integerText hc

/-- **The code of a literal stands on one line.** -/
theorem oneLine_text (value : Literal) : Text.OneLine value.text := by
  cases value with
  | null => decide
  | bool b => cases b <;> decide
  | int n => exact oneLine_integerText n.toInt
  | long n => exact (oneLine_integerText n.toInt).append_piece "L"
  | float x => exact oneLine_floatText x (by decide) (by decide)
  | double x => exact oneLine_floatText x (by decide) (by decide)
  | char c => exact oneLine_quotedIn (by decide) [c]
  | string s => exact oneLine_quotedIn (by decide) s.toList

end Literal

end Kotlinize
