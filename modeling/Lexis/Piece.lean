import Lexis.Binary64.Rounding
import Lexis.LexicalError
import Lexis.Literal
import Lexis.Token

/-!
# Pieces

A text falls into pieces: runs of blanks, comments, and lexemes that are tokens.
`Piece.first` finds the piece that a text starts with, given only the text and
the dialect.  The pieces of a text, one after another, are the text.

**A piece may also be a fault.**  Then its text is what was read before the
fault was noticed, and the fault lies at the character after that text.  It may
be the empty text; the text of every other piece is not empty.
-/

namespace Lexis

/-- What is wrong with a text. -/
inductive Fault where
  /-- A character that starts no token. -/
  | strayCharacter (c : Char)
  /-- A second point in a number. -/
  | secondDot
  /-- A numeral that denotes no number. -/
  | malformedNumeral (text : List Char)
  /-- A literal that the text ends before it closes. -/
  | openLiteral
deriving DecidableEq

namespace Fault

/-- The code of a fault. -/
def code : Fault → ErrorCode
  | strayCharacter _ => .unexpectedCharacter
  | secondDot => .unexpectedDot
  | malformedNumeral _ => .invalidNumber
  | openLiteral => .unterminatedString

/-- What is reported about a fault. -/
def message : Fault → String
  | strayCharacter c =>
    "Error while reading character: " ++ c.toString ++ ", don't know how to process"
  | secondDot => "Unexpected dot in number"
  | malformedNumeral text => "Invalid number literal: " ++ String.ofList text
  | openLiteral => "Unterminated string literal"

end Fault

/-- What a piece of text is. -/
inductive Reading where
  | blank
  | comment
  | token (t : Token)
  | fault (f : Fault)
deriving DecidableEq

/-- A piece of a text, with what it is. -/
structure Piece where
  text : List Char
  reading : Reading
deriving DecidableEq

namespace Piece

/-- The line of a comment, with the line feed that ends it. -/
def comment (text : List Char) : Piece :=
  let line := text.takeWhile (· ≠ '\n')
  ⟨line ++ (text.drop line.length).take 1, .comment⟩

/-- A string literal: the delimiter `c` and what follows it. -/
def string (d : Dialect) (c : Char) (rest : List Char) : Piece :=
  let literal := Literal.read c rest
  ⟨c :: literal.text c,
    if !literal.closed && d.strictStrings then .fault .openLiteral
    else .token (.string (String.ofList (d.escapeMode.decode literal.body)))⟩

/-- The token of a numeral. -/
def numeral (text : List Char) : Piece :=
  ⟨text, match Decimal.ofNumeral? text with
    | some value => .token (.number (.ofDecimal value))
    | none => .fault (.malformedNumeral text)⟩

/-- A number: digits, and more digits after a point.  A further point is a
fault. -/
def number (text : List Char) : Piece :=
  let whole := text.takeWhile isDigit
  match text.dropWhile isDigit with
  | '.' :: rest =>
    let numeralText := whole ++ '.' :: rest.takeWhile isDigit
    match rest.dropWhile isDigit with
    | '.' :: _ => ⟨numeralText, .fault .secondDot⟩
    | _ => numeral numeralText
  | _ => numeral whole

/-- A word: the longest run of identifier characters. -/
def word (d : Dialect) (text : List Char) : Piece :=
  let run := text.takeWhile isIdentifierChar
  let name := String.ofList run
  ⟨run, .token (if d.isKeyword name then .keyword name else .identifier name)⟩

/-- An operator: the longest run of characters of the operator set. -/
def operator (d : Dialect) (text : List Char) : Piece :=
  let run := text.takeWhile d.isOperator
  ⟨run, .token (.operator (String.ofList run))⟩

/-- The piece that a text starts with, `c` being its first character. -/
def first (d : Dialect) (c : Char) (rest : List Char) : Piece :=
  if isBlank c then ⟨(c :: rest).takeWhile isBlank, .blank⟩
  else match d.classify c with
    | .comment => comment (c :: rest)
    | .stringStart => string d c rest
    | .digit => number (c :: rest)
    | .identStart => word d (c :: rest)
    | .punctuation => ⟨[c], .token (.punctuation c.toString)⟩
    | .operator => operator d (c :: rest)
    | .unrecognized => ⟨[], .fault (.strayCharacter c)⟩

/-! ### Progress -/

theorem takeWhile_cons_ne_nil {accepts : Char → Bool} {c : Char} (h : accepts c = true)
    (rest : List Char) : (c :: rest).takeWhile accepts ≠ [] := by
  simp [h]

theorem numeral_text (text : List Char) : (numeral text).text = text := rfl

/-- A number holds at least the digit it starts with. -/
theorem number_text_ne_nil {c : Char} (h : isDigit c = true) (rest : List Char) :
    (number (c :: rest)).text ≠ [] := by
  have nonempty := takeWhile_cons_ne_nil h rest
  unfold number
  dsimp only
  split
  · split <;> simp [numeral_text]
  · simpa [numeral_text] using nonempty

/-- A comment holds at least its marker, which is no blank. -/
theorem comment_text_ne_nil {c : Char} (h : isBlank c = false) (rest : List Char) :
    (comment (c :: rest)).text ≠ [] := by
  have : c ≠ '\n' := by rintro rfl; simp [isBlank] at h
  simp [comment, this]

/-- **A piece that is no fault is not empty**: reading always moves on. -/
theorem first_text_ne_nil (d : Dialect) (c : Char) (rest : List Char)
    (h : ∀ f, (first d c rest).reading ≠ .fault f) : (first d c rest).text ≠ [] := by
  unfold first at h ⊢
  split
  · exact takeWhile_cons_ne_nil ‹_› rest
  next blank =>
    simp only [blank] at h
    cases class_eq : d.classify c with
    | comment => exact comment_text_ne_nil (by simpa using blank) rest
    | stringStart => simp [string]
    | digit => exact number_text_ne_nil (Dialect.isDigit_of_classify class_eq) rest
    | identStart =>
      exact takeWhile_cons_ne_nil (Dialect.isIdentifierChar_of_classify class_eq) rest
    | punctuation => simp
    | operator => exact takeWhile_cons_ne_nil (Dialect.isOperator_of_classify class_eq) rest
    | unrecognized =>
      have := h (.strayCharacter c)
      simp [class_eq] at this

end Piece

end Lexis
