import Kotlinize.Toml.Scanner

/-!
# TOML strings and keys

Strings come in four forms: in double quotes with escapes or in single quotes without, and each of
them on one line or, between triple quotes, over several.
-/

namespace Kotlinize.Toml

open Scanner

/-- Whether a character stands for itself in a string with escapes. -/
def isBasicChar (c : Char) : Bool :=
  isCommentChar c && c ≠ '"' && c ≠ '\\'

/-- Whether a character may stand in a string without escapes. -/
def isLiteralChar (c : Char) : Bool :=
  isCommentChar c && c ≠ '\x27'

/-- The value of a hexadecimal digit. -/
def hexValue (c : Char) : Nat :=
  if c.isDigit then c.toNat - '0'.toNat
  else if 'a' ≤ c then c.toNat - 'a'.toNat + 10
  else c.toNat - 'A'.toNat + 10

/-- Whether a character is a hexadecimal digit. -/
def isHexDigit (c : Char) : Bool :=
  c.isDigit || ('a' ≤ c && c ≤ 'f') || ('A' ≤ c && c ≤ 'F')

/-- The character with a code of so many hexadecimal digits. -/
def codePoint (value : Nat) : Nat → Scanner Char
  | 0 => do
    if value.isValidChar then return Char.ofNat value else failure
  | n + 1 => do
    let d ← char isHexDigit
    codePoint (value * 16 + hexValue d) n

/-- An escape in a string. -/
def escape : Scanner Char := do
  exactly '\\'
  match ← char (fun _ => true) with
  | 'b' => return '\x08'
  | 'f' => return '\x0c'
  | 'n' => return '\n'
  | 'r' => return '\r'
  | 't' => return '\t'
  | '"' => return '"'
  | '\\' => return '\\'
  | 'u' => codePoint 0 4
  | 'U' => codePoint 0 8
  | _ => failure

/-- A string in double quotes on one line. -/
def basicString : Scanner String := do
  exactly '"'
  let pieces ← many (takeWhile1 isBasicChar <|> (do return [← escape]))
  exactly '"'
  return String.ofList pieces.flatten

/-- A string in single quotes on one line. -/
def literalString : Scanner String := do
  exactly '\x27'
  let cs ← takeWhile isLiteralChar
  exactly '\x27'
  return String.ofList cs

/-- A backslash at the end of a line, which takes away all blanks and line breaks after it. -/
def joinedLines : Scanner (List Char) := do
  exactly '\\'
  blanks
  lineBreak
  discard (many (lineBreak <|> discard (takeWhile1 isBlank)))
  return []

/-- One or two quotes inside a string between triple quotes: something else follows them. -/
def innerQuotes (quote : Char) : Scanner (List Char) := do
  let quotes ← takeWhile1 (· = quote)
  if 3 ≤ quotes.length then failure
  return quotes

/-- The end of a string between triple quotes. Up to two quotes more belong to the string. -/
def closingQuotes (quote : Char) : Scanner (List Char) := do
  let quotes ← takeWhile1 (· = quote)
  if 3 ≤ quotes.length && quotes.length ≤ 5 then return quotes.drop 3 else failure

/-- A string between triple quotes, given what may stand in it besides quotes and line breaks. -/
def longString (quote : Char) (content : Scanner (List Char)) : Scanner String := do
  word [quote, quote, quote]
  discard (perhaps lineBreak)
  let pieces ← many (content <|> (do lineBreak; return ['\n']) <|> innerQuotes quote)
  let last ← closingQuotes quote
  return String.ofList (pieces.flatten ++ last)

/-- **A string** in any of the four forms. -/
def string : Scanner String :=
  longString '"' (takeWhile1 isBasicChar <|> joinedLines <|> (do return [← escape]))
    <|> basicString
    <|> longString '\x27' (takeWhile1 isLiteralChar)
    <|> literalString

/-- Whether a character may stand in a key without quotes. -/
def isBareKeyChar (c : Char) : Bool :=
  c.isAlphanum || c = '-' || c = '_'

/-- A single segment of a key. -/
def simpleKey : Scanner Key := do
  let (name, span) ← located
    (basicString <|> literalString <|> (do return String.ofList (← takeWhile1 isBareKeyChar)))
  return ⟨name, span⟩

/-- How many segments a key may have. -/
def maxKeySegments : Nat := 79

/-- **A dotted key**, as the path before its last segment and that segment. -/
def key : Scanner (List Key × Key) := do
  let keys ← separated (do blanks; let k ← simpleKey; blanks; return k) '.'
  if maxKeySegments < keys.length then failure
  match keys.getLast? with
  | some last => return (keys.dropLast, last)
  | none => failure

end Kotlinize.Toml
