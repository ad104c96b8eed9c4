import Lexis.LexicalError

/-!
# Cursors

A cursor walks over a source text one character at a time and keeps count of
where it is, in bytes and in lines and columns.

**The counters are stored, not computed.**  `position` and `location` are moved
by `advance` along with the unread characters, so that reading never looks back
at the text already passed; that they agree with it is a property of every run
that starts from `Cursor.ofText`, not of the type.

**Runs** are read by `readWith`, whose test may carry a state from character to
character: it sees the unread characters in order, once each, and the first one
it refuses stays unread.  `readWhile` is the special case of a test without
state.
-/

namespace Lexis

/-- A place in a source text. -/
structure Cursor where
  /-- The whole text. -/
  source : String
  /-- The characters not yet read. -/
  rest : List Char
  /-- The number of bytes read. -/
  position : Nat
  /-- The location of the next character. -/
  location : Location
deriving Inhabited

namespace Cursor

/-- The cursor before the first character of a text. -/
def ofText (source : String) : Cursor := ⟨source, source.toList, 0, .start⟩

/-- The next character, if there is one. -/
def peek (c : Cursor) : Option Char := c.rest.head?

/-- Whether every character has been read. -/
def atEnd (c : Cursor) : Bool := c.peek.isNone

/-- The cursor after the next character; at the end of the text it stays. -/
def next (c : Cursor) : Cursor :=
  match c.rest with
  | [] => c
  | ch :: rest =>
    { c with rest := rest, position := c.position + ch.utf8Size, location := c.location.step ch }

/-- Reads the next character. -/
def advance (c : Cursor) : Option Char × Cursor := (c.peek, c.next)

/-- The cursor after the next `n` characters. -/
def forward (c : Cursor) : Nat → Cursor
  | 0 => c
  | n + 1 => c.next.forward n

@[simp] theorem rest_next (c : Cursor) : c.next.rest = c.rest.drop 1 := by
  unfold next
  split <;> simp [*]

@[simp] theorem rest_forward (n : Nat) (c : Cursor) : (c.forward n).rest = c.rest.drop n := by
  induction n generalizing c with
  | zero => rfl
  | succ n ih => rw [forward, ih, rest_next, List.drop_drop, Nat.add_comm]

/-- Moving on leaves less to read, as long as there is something left. -/
theorem length_rest_forward {n : Nat} {c : Cursor} (moves : n ≠ 0) (more : c.rest ≠ []) :
    (c.forward n).rest.length < c.rest.length := by
  have := List.length_pos_iff.mpr more
  simp only [rest_forward, List.length_drop]
  omega

/-! ### Runs -/

/-- What reading a run leaves: the text read, the state of the test and the
cursor after the text. -/
structure Run (σ : Type) where
  text : List Char
  state : σ
  cursor : Cursor

theorem length_rest_next {c : Cursor} {ch : Char} {rest : List Char} (h : c.rest = ch :: rest) :
    c.next.rest.length < c.rest.length := by
  simp [next, h]

/-- Reads on while the test accepts; `read` holds what was read so far, last
character first. -/
def readOnto {σ : Type} (test : σ → Char → Bool × σ) (read : List Char) (s : σ) (c : Cursor) :
    Run σ :=
  match _h : c.rest with
  | [] => ⟨read.reverse, s, c⟩
  | ch :: _ =>
    match test s ch with
    | (true, s') => readOnto test (ch :: read) s' c.next
    | (false, s') => ⟨read.reverse, s', c⟩
termination_by c.rest.length
decreasing_by exact length_rest_next _h

/-- Reads the longest run of characters that the test accepts, the test
carrying a state from each character to the next. -/
def readWith {σ : Type} (test : σ → Char → Bool × σ) (s : σ) (c : Cursor) : Run σ :=
  readOnto test [] s c

/-- Reads the longest run of characters in a class. -/
def readWhile (accepts : Char → Bool) (c : Cursor) : List Char × Cursor :=
  let run := c.readWith (fun _ ch => (accepts ch, ())) ()
  (run.text, run.cursor)

/-! ### Errors -/

/-- The bytes of the next character, or the empty span at the end. -/
def span (c : Cursor) : Span :=
  match c.peek with
  | some ch => .ofOffsets c.position (c.position + ch.utf8Size)
  | none => .point c.position

/-- An error about the next character. -/
def fail (c : Cursor) (code : ErrorCode) (message : String) : LexicalError :=
  ⟨code, message, c.location, c.span⟩

end Cursor

end Lexis
