import Kotlinize.Json.Number

/-!
# Reading JSON text

`Json.parse` reads a whole text as one JSON value. Arrays and objects may stand inside one another
at most `maxNesting` deep; the reader of a value is therefore a recursion on the nesting that is
still allowed, and each list of elements or members is read by a loop that cannot run longer than
the text.
-/

namespace Kotlinize.Json

/-- The blanks of JSON. -/
def isBlank (c : Char) : Bool :=
  c = ' ' || c = '\n' || c = '\t' || c = '\r'

/-- The text after its leading blanks. -/
def skipBlanks (cs : List Char) : List Char :=
  cs.dropWhile isBlank

/-- Reads the given word, of which the first character has been read. -/
def word : (expected : List Char) → List Char → Except Stop (List Char)
  | [], cs => .ok cs
  | _ :: _, [] => .error (.before .noValue [])
  | w :: expected, c :: rest =>
    if c = w then word expected rest else .error (.inside .badWord (c :: rest))

/-! ## Strings -/

/-- The value of a hexadecimal digit. -/
def hexValue? (c : Char) : Option Nat :=
  if c.isDigit then some (c.toNat - '0'.toNat)
  else if 'a' ≤ c ∧ c ≤ 'f' then some (c.toNat - 'a'.toNat + 10)
  else if 'A' ≤ c ∧ c ≤ 'F' then some (c.toNat - 'A'.toNat + 10)
  else none

/-- **What has been read of an escape** inside a string. -/
inductive Escape where
  /-- No escape has begun. -/
  | none
  /-- A backslash. -/
  | begun
  /-- The letter `u` and so many hexadecimal digits with this value, after this leading surrogate
  if any. -/
  | hex (high : Option Nat) (seen value : Nat)
  /-- A leading surrogate, which needs another escape after it. -/
  | high (surrogate : Nat)
  /-- A leading surrogate and a backslash. -/
  | highBegun (surrogate : Nat)

/-- The character of a one-letter escape. -/
def escapedBy? (c : Char) : Option Char :=
  if c = '"' then some '"'
  else if c = '\\' then some '\\'
  else if c = '/' then some '/'
  else if c = 'b' then some '\x08'
  else if c = 'f' then some '\x0c'
  else if c = 'n' then some '\n'
  else if c = 'r' then some '\r'
  else if c = 't' then some '\t'
  else Option.none

/-- The stop for a `\u` escape whose digits, from the first on, take up the given number of bytes
together with all that follows, and are not four hexadecimal digits. -/
def badHex (left : Nat) : Stop :=
  if left < 4 then ⟨.unclosedString, 0⟩ else ⟨.badEscape, left - 4⟩

/-- The character that two surrogates stand for. -/
def surrogatePair (high low : Nat) : Char :=
  Char.ofNat ((high - 0xD800) * 0x400 + (low - 0xDC00) + 0x10000)

/-- Puts a character before those that are read after it. -/
def prepend (c : Char) (r : Except Stop (List Char × List Char)) :
    Except Stop (List Char × List Char) :=
  r.map fun (cs, rest) => (c :: cs, rest)

/-- **The characters of a string** up to its closing quote, and the text after that. -/
def stringRest : Escape → List Char → Except Stop (List Char × List Char)
  | .hex _ seen _, [] => .error (badHex seen)
  | _, [] => .error (.before .unclosedString [])
  | .none, c :: rest =>
    if c = '"' then .ok ([], rest)
    else if c = '\\' then stringRest .begun rest
    else if c.toNat < 32 then .error (.inside .controlCharacter (c :: rest))
    else prepend c (stringRest .none rest)
  | .begun, c :: rest =>
    if c = 'u' then stringRest (.hex Option.none 0 0) rest
    else match escapedBy? c with
      | some d => prepend d (stringRest .none rest)
      | Option.none => .error (.inside .badEscape (c :: rest))
  | .hex high seen value, c :: rest =>
    match hexValue? c with
    | Option.none => .error (badHex (seen + Text.bytes (c :: rest)))
    | some d =>
      let n := value * 16 + d
      if seen < 3 then stringRest (.hex high (seen + 1) n) rest
      else match high with
        | some h =>
          if 0xDC00 ≤ n ∧ n ≤ 0xDFFF then prepend (surrogatePair h n) (stringRest .none rest)
          else .error (.before .loneSurrogate rest)
        | Option.none =>
          if 0xDC00 ≤ n ∧ n ≤ 0xDFFF then .error (.before .loneSurrogate rest)
          else if 0xD800 ≤ n ∧ n ≤ 0xDBFF then stringRest (.high n) rest
          else prepend (Char.ofNat n) (stringRest .none rest)
  | .high n, c :: rest =>
    if c = '\\' then stringRest (.highBegun n) rest
    else .error (.inside .cutSurrogate (c :: rest))
  | .highBegun n, c :: rest =>
    if c = 'u' then stringRest (.hex (some n) 0 0) rest
    else .error (.inside .cutSurrogate (c :: rest))

/-- **A string** after its opening quote. -/
def string (cs : List Char) : Except Stop (String × List Char) :=
  (stringRest .none cs).map fun (s, rest) => (String.ofList s, rest)

/-! ## Arrays and objects -/

/-- A reader of one value at the head of a text. -/
abbrev Reader := List Char → Except Stop (Json × List Char)

/-- The elements of an array from one element on, at most as many as the first argument says. -/
def elements (value : Reader) : Nat → List Char → Except Stop (List Json × List Char)
  | 0, cs => .error (.inside .badValue cs)
  | n + 1, cs => do
    let (v, rest) ← value cs
    match skipBlanks rest with
    | [] => .error (.before .unclosedList [])
    | ']' :: rest => .ok ([v], rest)
    | ',' :: rest =>
      match skipBlanks rest with
      | [] => .error (.before .noValue [])
      | ']' :: rest => .error (.inside .trailingComma (']' :: rest))
      | rest => do
        let (vs, rest) ← elements value n rest
        .ok (v :: vs, rest)
    | rest => .error (.inside .noListComma rest)

/-- **An array** after its opening bracket. -/
def array (value : Reader) (cs : List Char) : Except Stop (Json × List Char) :=
  match skipBlanks cs with
  | [] => .error (.before .unclosedList [])
  | ']' :: rest => .ok (.arr [], rest)
  | rest => (elements value rest.length rest).map fun (vs, rest) => (.arr vs, rest)

/-- A member of an object after the opening quote of its key. -/
def member (value : Reader) (cs : List Char) : Except Stop ((String × Json) × List Char) := do
  let (k, rest) ← string cs
  match skipBlanks rest with
  | [] => .error (.before .unclosedObject [])
  | ':' :: rest => do
    let (v, rest) ← value rest
    .ok ((k, v), rest)
  | rest => .error (.inside .noColon rest)

/-- The members of an object from the opening quote of a key on, at most as many as the first
argument says. -/
def members (value : Reader) : Nat → List Char → Except Stop (List (String × Json) × List Char)
  | 0, cs => .error (.inside .badValue cs)
  | n + 1, cs => do
    let (m, rest) ← member value cs
    match skipBlanks rest with
    | [] => .error (.before .unclosedObject [])
    | '\x7d' :: rest => .ok ([m], rest)
    | ',' :: rest =>
      match skipBlanks rest with
      | [] => .error (.before .noValue [])
      | '"' :: rest => do
        let (ms, rest) ← members value n rest
        .ok (m :: ms, rest)
      | '\x7d' :: rest => .error (.inside .trailingComma ('\x7d' :: rest))
      | rest => .error (.inside .badKey rest)
    | rest => .error (.inside .noObjectComma rest)

/-- **An object** after its opening brace. -/
def object (value : Reader) (cs : List Char) : Except Stop (Json × List Char) :=
  match skipBlanks cs with
  | [] => .error (.before .unclosedObject [])
  | '\x7d' :: rest => .ok (.obj [], rest)
  | '"' :: rest => (members value (rest.length + 1) rest).map fun (ms, rest) => (.obj ms, rest)
  | rest => .error (.inside .badKey rest)

/-! ## Values -/

/-- A value that is neither array nor object, after its leading blanks. -/
def scalar (cs : List Char) : Except Stop (Json × List Char) :=
  match cs with
  | [] => .error (.before .noValue [])
  | 'n' :: rest => (word "ull".toList rest).map fun rest => (.null, rest)
  | 't' :: rest => (word "rue".toList rest).map fun rest => (.bool true, rest)
  | 'f' :: rest => (word "alse".toList rest).map fun rest => (.bool false, rest)
  | '"' :: rest => (string rest).map fun (s, rest) => (.str s, rest)
  | '-' :: rest => number true rest
  | c :: _ => if c.isDigit then number false cs else .error (.inside .badValue cs)

/-- **A value** at the head of a text, with so many levels of arrays and objects. -/
def value : (levels : Nat) → List Char → Except Stop (Json × List Char)
  | 0, cs =>
    match skipBlanks cs with
    | '[' :: rest => .error (.inside .tooNested ('[' :: rest))
    | '\x7b' :: rest => .error (.inside .tooNested ('\x7b' :: rest))
    | rest => scalar rest
  | n + 1, cs =>
    match skipBlanks cs with
    | '[' :: rest => array (value n) rest
    | '\x7b' :: rest => object (value n) rest
    | rest => scalar rest

/-- How many arrays and objects may stand inside one another. -/
def maxNesting : Nat := 127

/-- One value and nothing after it but blanks. -/
def whole (cs : List Char) : Except Stop Json := do
  let (v, rest) ← value maxNesting cs
  match skipBlanks rest with
  | [] => .ok v
  | rest => .error (.inside .trailingText rest)

/-- **Reads a text as one JSON value.** -/
def parse (text : String) : Except SyntaxError Json :=
  (whole text.toList).mapError (·.locate text.toList)

end Kotlinize.Json
