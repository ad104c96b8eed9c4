/-!
# Reading JSON text: input and errors

A reader takes characters off an input, which knows the line and column it has
reached.  Lines are counted from one; **the column counts the bytes taken off
the line so far**, so it is zero at the start of a line and never names a
character between bytes.

An error is placed in one of two ways.  `Input.errorSeen` places it after what
has been taken; `Input.errorNext` places it one byte further, on the character
that should not be there, and at the end of the text in the same place as the
former.
-/

namespace Lexis

namespace Json

/-- Why a text is refused. -/
inductive Fault where
  /-- The text ends where a value should come, or inside one. -/
  | endInValue
  | endInList
  | endInObject
  | endInString
  | expectedValue
  | expectedWord
  | expectedColon
  | expectedCommaOrBrace
  | expectedCommaOrBracket
  | keyNotString
  | trailingComma
  | trailingCharacters
  | invalidNumber
  | numberOutOfRange
  | controlCharacter
  | invalidEscape
  | loneSurrogate
  | halfSurrogatePair
  /-- A value of one kind where another is expected. -/
  | wrongKind (found expected : String)
  /-- A value of the right kind that is not among those expected. -/
  | wrongValue (found expected : String)
  | unknownName (found expected : String)
  | duplicateField (key : String)
deriving DecidableEq, Inhabited

namespace Fault

/-- What is reported about a fault. -/
def message : Fault → String
  | endInValue => "EOF while parsing a value"
  | endInList => "EOF while parsing a list"
  | endInObject => "EOF while parsing an object"
  | endInString => "EOF while parsing a string"
  | expectedValue => "expected value"
  | expectedWord => "expected ident"
  | expectedColon => "expected `:`"
  | expectedCommaOrBrace => "expected `,` or `\x7d`"
  | expectedCommaOrBracket => "expected `,` or `]`"
  | keyNotString => "key must be a string"
  | trailingComma => "trailing comma"
  | trailingCharacters => "trailing characters"
  | invalidNumber => "invalid number"
  | numberOutOfRange => "number out of range"
  | controlCharacter => "control character (\\u0000-\\u001F) found while parsing a string"
  | invalidEscape => "invalid escape"
  | loneSurrogate => "lone leading surrogate in hex escape"
  | halfSurrogatePair => "unexpected end of hex escape"
  | wrongKind found expected => "invalid type: " ++ found ++ ", expected " ++ expected
  | wrongValue found expected => "invalid value: " ++ found ++ ", expected " ++ expected
  | unknownName found expected => "unknown variant `" ++ found ++ "`, expected " ++ expected
  | duplicateField key => "duplicate field `" ++ key ++ "`"

/-- The three groups of faults: the text ends too early, it is JSON but not what
was asked for, or it is not JSON. -/
def category : Fault → String
  | endInValue | endInList | endInObject | endInString => "eof"
  | wrongKind .. | wrongValue .. | unknownName .. | duplicateField _ => "data"
  | expectedValue | expectedWord | expectedColon | expectedCommaOrBrace
  | expectedCommaOrBracket | keyNotString | trailingComma | trailingCharacters
  | invalidNumber | numberOutOfRange | controlCharacter | invalidEscape
  | loneSurrogate | halfSurrogatePair => "syntax"

end Fault

/-- A fault at a place of a text. -/
structure Error where
  fault : Fault
  line : Nat
  column : Nat
deriving DecidableEq, Inhabited

/-- A step that succeeds after a map had a success before it. -/
theorem exists_of_map_eq_ok {α β : Type} {f : α → β} {x : Except Error α} {b : β}
    (h : x.map f = .ok b) : ∃ a, x = .ok a ∧ f a = b := by
  cases x with
  | error e => simp [Except.map] at h
  | ok a => exact ⟨a, rfl, by simpa [Except.map] using h⟩

/-- Two steps that succeed succeed one after the other. -/
theorem exists_of_bind_eq_ok {α β : Type} {f : α → Except Error β} {x : Except Error α} {b : β}
    (h : x.bind f = .ok b) : ∃ a, x = .ok a ∧ f a = .ok b := by
  cases x with
  | error e => simp [Except.bind] at h
  | ok a => exact ⟨a, rfl, by simpa [Except.bind] using h⟩

/-- What is wrong and where. -/
instance : ToString Error where
  toString e := s!"{e.fault.message} at line {e.line} column {e.column}"

/-- A text that is being read. -/
structure Input where
  /-- The characters not yet taken. -/
  rest : List Char
  line : Nat
  /-- The number of bytes taken off the line. -/
  column : Nat
deriving DecidableEq, Inhabited

namespace Input

/-- A text before its first character. -/
def ofText (text : String) : Input := ⟨text.toList, 1, 0⟩

/-- The next character, if there is one. -/
def peek (i : Input) : Option Char := i.rest.head?

/-- The input after the next character. -/
def next (i : Input) : Input :=
  match i.rest with
  | [] => i
  | '\n' :: rest => ⟨rest, i.line + 1, 0⟩
  | c :: rest => ⟨rest, i.line, i.column + c.utf8Size⟩

/-- The input after `n` characters. -/
def skip (i : Input) : Nat → Input
  | 0 => i
  | n + 1 => i.next.skip n

@[simp] theorem rest_next (i : Input) : i.next.rest = i.rest.drop 1 := by
  unfold next
  split <;> simp [*]

@[simp] theorem rest_skip (i : Input) (n : Nat) : (i.skip n).rest = i.rest.drop n := by
  induction n generalizing i with
  | zero => rfl
  | succ n ih => rw [skip, ih, rest_next, List.drop_drop, Nat.add_comm]

/-- Space, tab, line feed and carriage return may stand between values. -/
def isSpace (c : Char) : Bool := c = ' ' || c = '\t' || c = '\n' || c = '\r'

/-- The input after the blanks it starts with. -/
def skipSpace (i : Input) : Input := i.skip (i.rest.takeWhile isSpace).length

theorem length_skipSpace (i : Input) : i.skipSpace.rest.length ≤ i.rest.length := by
  simp [skipSpace]

/-! ### Errors -/

/-- An error after what has been taken. -/
def errorSeen (i : Input) (f : Fault) : Error := ⟨f, i.line, i.column⟩

/-- An error on the next character: one byte further, if there is one. -/
def errorNext (i : Input) (f : Fault) : Error :=
  match i.rest with
  | [] => i.errorSeen f
  | '\n' :: _ => ⟨f, i.line + 1, 0⟩
  | _ => ⟨f, i.line, i.column + 1⟩

/-- An error `n` bytes further, which may be inside a character. -/
def errorAfterBytes (i : Input) (n : Nat) (f : Fault) : Error :=
  match _more : i.rest with
  | [] => i.errorSeen f
  | c :: _ =>
    if c.utf8Size ≤ n then i.next.errorAfterBytes (n - c.utf8Size) f
    else ⟨f, i.line, i.column + n⟩
termination_by i.rest.length
decreasing_by simp [_more]

/-- An error at the end of the text. -/
def errorAtEnd (i : Input) (f : Fault) : Error := (i.skip i.rest.length).errorSeen f

end Input

end Json

end Lexis
