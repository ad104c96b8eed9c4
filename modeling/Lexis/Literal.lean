import Lexis.Dialect

/-!
# String literals

What follows an opening delimiter is the **body** of a literal, up to a
delimiter that closes it or to the end of the text.  In the body a backslash
and the character after it belong together, so a delimiter after a backslash
closes nothing; this holds for a delimiter that is a backslash too, which is
why such a literal never closes.

The body is kept as it stands in the source.  `EscapeMode.decode` turns it into
the text that the literal denotes.
-/

namespace Lexis

/-- The body of a string literal. -/
structure Literal where
  body : List Char
  /-- Whether a delimiter follows the body. -/
  closed : Bool
deriving DecidableEq

namespace Literal

/-- Reads on in a literal; `read` holds the body so far, last character first. -/
def readOnto (delimiter : Char) (read : List Char) : List Char → Literal
  | [] => ⟨read.reverse, false⟩
  | ['\\'] => ⟨('\\' :: read).reverse, false⟩
  | '\\' :: c :: rest => readOnto delimiter (c :: '\\' :: read) rest
  | c :: rest =>
    if c = delimiter then ⟨read.reverse, true⟩ else readOnto delimiter (c :: read) rest

/-- The literal whose opening delimiter stands before the given text. -/
def read (delimiter : Char) (text : List Char) : Literal := readOnto delimiter [] text

/-- The characters of a literal after the opening delimiter. -/
def text (delimiter : Char) (l : Literal) : List Char :=
  if l.closed then l.body ++ [delimiter] else l.body

end Literal

namespace EscapeMode

/-- Leaves out escaping backslashes; `done` holds the text so far, last character
first.  A backslash with nothing after it is left out too. -/
def dropOnto (done : List Char) : List Char → List Char
  | [] => done.reverse
  | ['\\'] => done.reverse
  | '\\' :: c :: rest => dropOnto (c :: done) rest
  | c :: rest => dropOnto (c :: done) rest

/-- The text that the body of a literal denotes. -/
def decode : EscapeMode → List Char → List Char
  | drop, body => dropOnto [] body
  | keep, body => body

end EscapeMode

end Lexis
