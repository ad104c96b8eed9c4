import Lexis.Text.Record

/-!
# Dialects

A dialect says which characters and words mean what: which words are keywords,
which characters are punctuation or make up operators, what opens and closes a
string literal, what starts a comment, and how backslashes and unclosed
literals are treated.

**The sets may overlap.**  `Dialect.classify` therefore has an order: a comment
comes before a string, a string before a digit, then identifiers, punctuation
and operators, and the first class that claims a character has it.  Blanks,
digits and identifier characters are the same in every dialect.
-/

namespace Lexis

/-! ### Characters that every dialect shares -/

/-- Space, tab, line feed, carriage return, form feed and vertical tab. -/
def isBlank (c : Char) : Bool :=
  c = ' ' || c = '\t' || c = '\n' || c = '\r' || c = '\x0c' || c = '\x0b'

/-- The ASCII digits. -/
def isDigit (c : Char) : Bool := c.isDigit

/-- The ASCII letters and the underscore. -/
def isIdentifierChar (c : Char) : Bool := c.isAlpha || c = '_'

/-! ### Dialects -/

/-- What becomes of a backslash in a string literal.  In either mode the
character after it does not close the literal. -/
inductive EscapeMode where
  /-- The backslash is left out. -/
  | drop
  /-- The backslash stays. -/
  | keep
deriving DecidableEq, Inhabited

/-- The characters and words of a language. -/
structure Dialect where
  /-- The identifiers that are keywords. -/
  keywords : List String
  /-- The characters that are tokens by themselves. -/
  punctuation : String
  /-- The characters whose runs are operators. -/
  operators : String
  /-- Opens and closes a string literal. -/
  stringDelimiter : Char
  /-- Starts a comment, which runs to the end of its line. -/
  commentMarker : Char
  escapeMode : EscapeMode
  /-- Whether a string literal has to be closed. -/
  strictStrings : Bool
deriving DecidableEq

/-- What a character starts. -/
inductive CharClass where
  | comment
  | stringStart
  | digit
  | identStart
  | punctuation
  | operator
  | unrecognized
deriving DecidableEq, Inhabited

namespace EscapeMode

/-- The name of a mode in a dialect file. -/
def key : EscapeMode → String
  | drop => "drop"
  | keep => "keep"

/-- The name of a mode in a record. -/
def name : EscapeMode → String
  | drop => "Drop"
  | keep => "Keep"

/-- The mode with a given name in a dialect file. -/
def ofKey? (key : String) : Option EscapeMode :=
  [drop, keep].find? (·.key = key)

end EscapeMode

namespace CharClass

/-- The name of a class. -/
def name : CharClass → String
  | comment => "Comment"
  | stringStart => "StringStart"
  | digit => "Digit"
  | identStart => "IdentStart"
  | punctuation => "Punctuation"
  | operator => "Operator"
  | unrecognized => "Unrecognized"

end CharClass

namespace Dialect

/-- The dialect that is used where none is given. -/
def standard : Dialect where
  keywords := ["if", "else", "=>", "true", "false", "let"]
  punctuation := ".,;()\x7b\x7d[]"
  operators := "+-*/%=&|<>!"
  stringDelimiter := '\''
  commentMarker := '#'
  escapeMode := .drop
  strictStrings := false

instance : Inhabited Dialect := ⟨standard⟩

/-- Whether a text is one of the keywords. -/
def isKeyword (d : Dialect) (text : String) : Bool := d.keywords.contains text

/-- Whether a character is in the punctuation set. -/
def isPunctuation (d : Dialect) (c : Char) : Bool := d.punctuation.toList.contains c

/-- Whether a character is in the operator set. -/
def isOperator (d : Dialect) (c : Char) : Bool := d.operators.toList.contains c

/-- The class of a character: the first in the order of the tests that claims
it. -/
def classify (d : Dialect) (c : Char) : CharClass :=
  if c = d.commentMarker then .comment
  else if c = d.stringDelimiter then .stringStart
  else if isDigit c then .digit
  else if isIdentifierChar c then .identStart
  else if d.isPunctuation c then .punctuation
  else if d.isOperator c then .operator
  else .unrecognized

theorem isDigit_of_classify {d : Dialect} {c : Char} (h : d.classify c = .digit) :
    isDigit c = true := by
  unfold classify at h
  repeat' split at h
  all_goals simp_all

theorem isIdentifierChar_of_classify {d : Dialect} {c : Char} (h : d.classify c = .identStart) :
    isIdentifierChar c = true := by
  unfold classify at h
  repeat' split at h
  all_goals simp_all

theorem isOperator_of_classify {d : Dialect} {c : Char} (h : d.classify c = .operator) :
    d.isOperator c = true := by
  unfold classify at h
  repeat' split at h
  all_goals simp_all

/-- A dialect as a record. -/
def record (d : Dialect) : String :=
  Record.fields "LexerConfig" [
    ("keywords", Record.list (d.keywords.map Quoted.text)),
    ("punctuation", Quoted.text d.punctuation),
    ("operators", Quoted.text d.operators),
    ("string_delimiter", Quoted.char d.stringDelimiter),
    ("comment_marker", Quoted.char d.commentMarker),
    ("escape_mode", d.escapeMode.name),
    ("strict_strings", if d.strictStrings then "true" else "false")]

end Dialect

end Lexis
