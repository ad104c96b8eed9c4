import Lexis.Text.Unprintable
import Lexis.Text.Combining

/-!
# Quoted text

A text is quoted so that it fits on one line and can be told apart from what
surrounds it: between two quotes, with a backslash before the quote and the
backslash, short escapes for the common controls, and a code point in braces for
every other character that would not show by itself.

**A combining mark is escaped wherever it stands**, since drawn onto a quote or
onto an escape it would hide what it is drawn on.
-/

namespace Lexis

namespace Quoted

/-- A character by its code point: `\u`, and the number in hexadecimal between
braces. -/
def codePoint (c : Char) : List Char :=
  '\\' :: 'u' :: '\x7b' :: Nat.toDigits 16 c.toNat ++ ['\x7d']

/-- A character between two copies of `quote`. -/
def escape (quote c : Char) : List Char :=
  if c = quote || c = '\\' then ['\\', c]
  else if c = '\t' then ['\\', 't']
  else if c = '\r' then ['\\', 'r']
  else if c = '\n' then ['\\', 'n']
  else if c = '\x00' then ['\\', '0']
  else if isCombining c || !isPrintable c then codePoint c
  else [c]

/-- A text between double quotes. -/
def text (s : String) : String :=
  String.ofList ('"' :: s.toList.flatMap (escape '"') ++ ['"'])

/-- A character between single quotes. -/
def char (c : Char) : String :=
  String.ofList ('\'' :: escape '\'' c ++ ['\''])

end Quoted

end Lexis
