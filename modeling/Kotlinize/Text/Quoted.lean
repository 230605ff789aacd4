import Kotlinize.Text.Combining
import Kotlinize.Text.Unprintable

/-!
# Quoted text

How a message shows a text that it talks about: between double quotes, with a backslash before
what would end or disturb the quotation, and code points in braces for characters that cannot be
seen on their own.
-/

namespace Kotlinize.Text

/-- The code point of a character in hexadecimal, as `\u` and braces. -/
def codePoint (c : Char) : List Char :=
  "\\u\x7b".toList ++ Nat.toDigits 16 c.toNat ++ "\x7d".toList

/-- One character of a quoted text. -/
def quotedChar (c : Char) : List Char :=
  if c = '\x00' then ['\\', '0']
  else if c = '\t' then ['\\', 't']
  else if c = '\r' then ['\\', 'r']
  else if c = '\n' then ['\\', 'n']
  else if c = '\\' then ['\\', '\\']
  else if c = '"' then ['\\', '"']
  else if isCombining c || isUnprintable c then codePoint c
  else [c]

/-- **A text as a message shows it.** -/
def quoted (s : String) : String :=
  String.ofList ('"' :: s.toList.flatMap quotedChar ++ ['"'])

end Kotlinize.Text
