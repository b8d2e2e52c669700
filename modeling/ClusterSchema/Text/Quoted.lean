import ClusterSchema.Text.Pieces
import ClusterSchema.Text.Printable

/-!
# Quoted diagnostic text

How messages and logs show a text that may hold anything: between double quotes, with a backslash
before quotes and backslashes, letters for the usual control characters, and the code point in
braces for whatever is not printable.
-/

namespace ClusterSchema.Text

/-- A code point in braces, in lower-case hexadecimal. -/
def codePointEscape (c : Char) : List Char :=
  ['\\', 'u', '\x7b'] ++ Nat.toDigits 16 c.toNat ++ ['\x7d']

/-- A character inside quoted diagnostic text. -/
def shownChar (c : Char) : List Char :=
  if c == '\x22' || c == '\\' then ['\\', c]
  else if c == '\n' then ['\\', 'n']
  else if c == '\r' then ['\\', 'r']
  else if c == '\t' then ['\\', 't']
  else if c == '\x00' then ['\\', '0']
  else if isPrintable c then [c]
  else codePointEscape c

/-- A text between double quotes, with everything that needs it escaped. -/
def quoted (text : String) : String :=
  String.ofList ('\x22' :: (text.toList.flatMap shownChar ++ ['\x22']))

/-- Quoted texts in square brackets. -/
def quotedList (texts : List String) : String :=
  "[" ++ joined ", " (texts.map quoted) ++ "]"

end ClusterSchema.Text
