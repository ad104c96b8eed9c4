import Lexis.Location
import Lexis.Span

/-!
# Lexical errors

Reading a text can fail in four ways, and each has a code.  A `LexicalError`
joins a code with a message and with the place at fault, given twice: as a
line and column for people, and as a byte span for drawing the error against
its source.
-/

namespace Lexis

/-- The ways in which reading a text can fail. -/
inductive ErrorCode where
  /-- A character that starts no token. -/
  | unexpectedCharacter
  /-- A second decimal point in one number. -/
  | unexpectedDot
  /-- A numeral that denotes no number. -/
  | invalidNumber
  /-- A string literal that the text ends before it closes. -/
  | unterminatedString
deriving DecidableEq, Inhabited

namespace ErrorCode

/-- The name of a code. -/
def name : ErrorCode → String
  | unexpectedCharacter => "UnexpectedCharacter"
  | unexpectedDot => "UnexpectedDot"
  | invalidNumber => "InvalidNumber"
  | unterminatedString => "UnterminatedString"

/-- The tag under which a code is reported. -/
def tag : ErrorCode → String
  | unexpectedCharacter => "E0001"
  | unexpectedDot => "E0002"
  | invalidNumber => "E0003"
  | unterminatedString => "E0004"

instance : ToString ErrorCode := ⟨tag⟩

/-- What a code means, in a phrase. -/
def description : ErrorCode → String
  | unexpectedCharacter => "unexpected character in input"
  | unexpectedDot => "number literal contains more than one decimal point"
  | invalidNumber => "invalid number literal"
  | unterminatedString => "string literal is not terminated"

/-- How to mend the text, for the codes where that is known. -/
def suggestion : ErrorCode → Option String
  | unexpectedDot => some "remove the extra `.` from the number"
  | unterminatedString => some "add a closing `'` to terminate the string"
  | unexpectedCharacter | invalidNumber => none

end ErrorCode

/-- A failure to read a text, with the place at fault. -/
structure LexicalError where
  code : ErrorCode
  message : String
  location : Location
  span : Span
deriving DecidableEq, Inhabited

namespace LexicalError

/-- The message, followed by the location in parentheses. -/
instance : ToString LexicalError := ⟨fun e => s!"{e.message} ({e.location})"⟩

end LexicalError

end Lexis
