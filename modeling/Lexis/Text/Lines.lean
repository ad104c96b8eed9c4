/-!
# Lines and places

A report shows a source by lines.  **A line ends more often than for a lexer**:
at a line feed, a carriage return or the two in this order, at a vertical tab or
form feed, and at the next-line, line-separator and paragraph-separator
characters.  What ends a line belongs to it, so that the lines of a text, one
after another, are the text (`flatten_lines`).

**A place** is what a byte offset comes to: a line and a number of bytes into
it.  Each offset that is not past the end has exactly one, the start of a line
counting for that line and the end of the text for the last one.  An empty text
has no lines and hence no places.
-/

namespace Lexis

/-! ### Lines -/

/-- Whether a character ends a line by itself. -/
def endsLine (c : Char) : Bool :=
  ['\n', '\x0b', '\x0c', '\r', '\u0085', '\u2028', '\u2029'].contains c

/-- Splits a text into lines; `done` holds the lines before it and `line` the
start of its first line, both in reverse. -/
def linesOnto (done : List (List Char)) (line : List Char) : List Char → List (List Char)
  | [] => (if line.isEmpty then done else line.reverse :: done).reverse
  | '\r' :: '\n' :: rest => linesOnto (('\n' :: '\r' :: line).reverse :: done) [] rest
  | c :: rest =>
    if endsLine c then linesOnto ((c :: line).reverse :: done) [] rest
    else linesOnto done (c :: line) rest

/-- The lines of a text, each with what ends it. -/
def lines (text : List Char) : List (List Char) := linesOnto [] [] text

theorem flatten_linesOnto (done : List (List Char)) (line text : List Char) :
    (linesOnto done line text).flatten = done.reverse.flatten ++ line.reverse ++ text := by
  fun_induction linesOnto done line text <;> grind

/-- The lines of a text make it up. -/
@[simp] theorem flatten_lines (text : List Char) : (lines text).flatten = text := by
  simp [lines, flatten_linesOnto]

/-! ### Bytes -/

/-- The number of bytes that a text takes. -/
def byteCount (text : List Char) : Nat := (String.ofList text).utf8ByteSize

/-- Counts characters on from `seen`, up to a number of bytes. -/
def charCountFrom? (seen : Nat) : Nat → List Char → Option Nat
  | 0, _ => some seen
  | _ + 1, [] => none
  | n + 1, c :: text =>
    if c.utf8Size ≤ n + 1 then charCountFrom? (seen + 1) (n + 1 - c.utf8Size) text else none

/-- The number of characters in the first `n` bytes of a text, if there are as
many bytes and they end with a character. -/
def charCount? (n : Nat) (text : List Char) : Option Nat := charCountFrom? 0 n text

/-! ### Places -/

/-- The place of a byte. -/
structure Place where
  /-- The number of lines before. -/
  line : Nat
  /-- The line itself. -/
  text : List Char
  /-- The number of bytes before in that line. -/
  offset : Nat

namespace Place

/-- The place of an offset into the given lines, `before` lines having passed. -/
def find? (before offset : Nat) : List (List Char) → Option Place
  | [] => none
  | [text] => if offset ≤ byteCount text then some ⟨before, text, offset⟩ else none
  | text :: rest =>
    if offset < byteCount text then some ⟨before, text, offset⟩
    else find? (before + 1) (offset - byteCount text) rest

/-- The place of an offset into a source text. -/
def of? (source : String) (offset : Nat) : Option Place := find? 0 offset (lines source.toList)

/-- The number of characters before in that line, unless the place is inside a
character. -/
def column? (p : Place) : Option Nat := charCount? p.offset p.text

/-- The number of characters up to and with the byte at this place, if it is the
last byte of a character. -/
def columnAfter? (p : Place) : Option Nat := charCount? (p.offset + 1) p.text

end Place

end Lexis
