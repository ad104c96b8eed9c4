import Lexis.Proofs.Requests
import Lexis.Proofs.Walk

/-!
# Positions

`Cursor.Accounts text passed c` says what the counters of a cursor mean: they all
describe the same part `passed` of the text, its bytes, its lines and the
characters of its last line.

* **For a cursor on its own** `passed` is what has been read, by single
  characters and by runs, whatever the tests of the runs are.
* **For the cursor of a lexer** it is what the scans have passed, also those that
  ended in an error and those that came after one.

Both rest on the moves of a cursor being `Cursor.forward` moves: `Follows` is
kept by them, and `Follows.accounts` reads the counters off it.
-/

namespace Lexis

namespace Cursor

/-! ### What the counters mean -/

/-- The counters of a cursor describe the part `passed` of the text. -/
structure Accounts (text : String) (passed : List Char) (c : Cursor) : Prop where
  source : c.source = text
  bounded : c.position ≤ text.utf8ByteSize
  boundary : String.Pos.Raw.IsValid text ⟨c.position⟩
  before : text.toByteArray.extract 0 c.position = (String.ofList passed).toByteArray
  behind : text.toByteArray.extract c.position text.utf8ByteSize =
    (String.ofList c.rest).toByteArray
  line : c.location.line = passed.count '\n'
  column : c.location.column = (passed.rtakeWhile (· ≠ '\n')).length

theorem Follows.accounts {passed : List Char} {c : Cursor} (h : c.Follows passed) :
    Accounts c.source passed c := by
  have whole : c.source = String.ofList passed ++ String.ofList c.rest := by
    rw [← String.ofList_append, ← h.text, String.ofList_toList]
  have position : c.position = (String.ofList passed).utf8ByteSize := h.position
  have location : c.location = ⟨passed.count '\n', (passed.rtakeWhile (· ≠ '\n')).length⟩ :=
    h.location.trans (Location.advance_start passed)
  have size : c.source.utf8ByteSize = c.position + (String.ofList c.rest).utf8ByteSize := by
    rw [whole, String.utf8ByteSize_append, position]
  refine ⟨rfl, ?_, ?_, ?_, ?_, ?_, ?_⟩
  · rw [size]
    exact Nat.le_add_right _ _
  · rw [String.Pos.Raw.isValid_iff_exists_append, position]
    exact ⟨String.ofList passed, String.ofList c.rest, whole, rfl⟩
  · rw [whole, String.toByteArray_append, position]
    exact ByteArray.extract_append_eq_left rfl
  · rw [size, whole, String.toByteArray_append, position]
    exact ByteArray.extract_append_eq_right rfl rfl
  · rw [location]
  · rw [location]

/-! ### Operations on a cursor -/

/-- An operation on a cursor.  The test of a run may carry a state of any
type. -/
inductive Operation : Type 1 where
  | advance
  | readWith {σ : Type} (test : σ → Char → Bool × σ) (s : σ)
  | peek
  | atEnd
  | fail (code : ErrorCode) (message : String)
  | position
  | line
  | column
  | location
  | source

/-- What an operation gives. -/
inductive Result where
  | advanced (ch : Option Char)
  | read (text : List Char)
  | peeked (ch : Option Char)
  | atEnd (ended : Bool)
  | error (e : LexicalError)
  | position (offset : Nat)
  | line (n : Nat)
  | column (n : Nat)
  | location (l : Location)
  | source (text : String)

/-- The characters that an operation has handed over for good. -/
def Result.consumed : Result → List Char
  | advanced ch => ch.toList
  | read text => text
  | _ => []

/-- The characters that some operations have handed over, in order. -/
def consumed (results : List Result) : List Char := results.flatMap Result.consumed

/-- Performs an operation. -/
def perform : Operation → Cursor → Result × Cursor
  | .advance, c => (.advanced c.advance.1, c.advance.2)
  | .readWith test s, c => (.read (c.readWith test s).text, (c.readWith test s).cursor)
  | .peek, c => (.peeked c.peek, c)
  | .atEnd, c => (.atEnd c.atEnd, c)
  | .fail code message, c => (.error (c.fail code message), c)
  | .position, c => (.position c.position, c)
  | .line, c => (.line c.location.line, c)
  | .column, c => (.column c.location.column, c)
  | .location, c => (.location c.location, c)
  | .source, c => (.source c.source, c)

/-- The operations that only look. -/
def Operation.looks : Operation → Bool
  | advance | readWith _ _ => false
  | peek | atEnd | fail _ _ | position | line | column | location | source => true

/-- **Every operation is a move** over the characters that it hands over. -/
theorem perform_forward (op : Operation) (c : Cursor) :
    ∃ n, (perform op c).2 = c.forward n ∧ (perform op c).1.consumed = c.rest.take n := by
  cases op with
  | advance =>
    refine ⟨1, rfl, ?_⟩
    rw [List.take_one]
    rfl
  | readWith test s => exact readOnto_forward test [] s c
  | peek | atEnd | fail | position | line | column | location | source => exact ⟨0, rfl, rfl⟩

/-- A session with a cursor. -/
def session (text : String) (ops : List Operation) : List Result × Cursor :=
  Session.run perform ops (ofText text)

theorem follows_session (text : String) (ops : List Operation) :
    (session text ops).2.Follows (consumed (session text ops).1) ∧
      (session text ops).2.source = text := by
  let P (past : List Result) (c : Cursor) := c.Follows (consumed past) ∧ c.source = text
  refine Session.run_history (P := P) ?_ ops [] ⟨follows_ofText text, rfl⟩
  rintro past op c ⟨follows, source⟩
  obtain ⟨n, moved, handed⟩ := perform_forward op c
  have split : consumed (past ++ [(perform op c).1]) = consumed past ++ c.rest.take n := by
    rw [consumed, List.flatMap_append, List.flatMap_singleton, handed]
    rfl
  show Follows (consumed (past ++ [(perform op c).1])) _ ∧ _
  rw [split, moved, source_forward]
  exact ⟨follows.forward n, source⟩

theorem position_le_perform (op : Operation) (c : Cursor) :
    c.position ≤ (perform op c).2.position := by
  obtain ⟨n, moved, -⟩ := perform_forward op c
  rw [moved]
  exact position_le_forward n c

end Cursor

/-! ### Operations on a lexer -/

namespace Lexer

/-- **Every request is a move** of the cursor. -/
theorem ask_forward (r : Request) (l : Lexer) : ∃ n, (l.ask r).2.cursor = l.cursor.forward n := by
  rcases scans : r.scans l with _ | _
  · exact ⟨0, (step_of_not_scans scans).cursor⟩
  · obtain ⟨passed, found, scansTo⟩ := scanFrom_scansTo l.dialect l.log l.cursor
    exact ⟨passed.length, (step_of_scans scans).cursor.trans scansTo.cursor⟩

/-- Every operation is one, too. -/
theorem perform_forward (op : Operation) (l : Lexer) :
    ∃ n, (l.perform op).2.cursor = l.cursor.forward n := by
  refine perform_invariant (P := fun l' => ∃ n, l'.cursor = l.cursor.forward n) ?_ op l ⟨0, rfl⟩
  rintro r l' ⟨m, moved⟩
  obtain ⟨n, asked⟩ := ask_forward r l'
  exact ⟨m + n, by rw [asked, moved, Cursor.forward_forward]⟩

theorem follows_session (d : Dialect) (text : String) (ops : List Operation) :
    ∃ passed, (session d text ops).2.cursor.Follows passed ∧
      (session d text ops).2.cursor.source = text := by
  refine Session.run_invariant
    (P := fun l : Lexer => ∃ passed, l.cursor.Follows passed ∧ l.cursor.source = text) ?_ ops
    ⟨[], Cursor.follows_ofText text, rfl⟩
  rintro op l ⟨passed, follows, source⟩
  obtain ⟨n, moved⟩ := perform_forward op l
  rw [moved, Cursor.source_forward]
  exact ⟨_, follows.forward n, source⟩

theorem position_le_perform (op : Operation) (l : Lexer) :
    l.cursor.position ≤ (l.perform op).2.cursor.position := by
  obtain ⟨n, moved⟩ := perform_forward op l
  rw [moved]
  exact Cursor.position_le_forward n _

end Lexer

/-- **The counters of a cursor mean what they should**, at every point of every
session with a cursor or with a lexer, and the position never goes back. -/
theorem position_accounts (text : String) :
    (∀ ops : List Cursor.Operation,
      Cursor.Accounts text (Cursor.consumed (Cursor.session text ops).1)
        (Cursor.session text ops).2 ∧
      ∀ later, (Cursor.session text ops).2.position ≤
        (Cursor.session text (ops ++ later)).2.position) ∧
    (∀ (op : Cursor.Operation) (c : Cursor), op.looks = true → (Cursor.perform op c).2 = c) ∧
    (∀ (d : Dialect) (ops : List Lexer.Operation),
      (∃ passed, Cursor.Accounts text passed (Lexer.session d text ops).2.cursor) ∧
      ∀ later, (Lexer.session d text ops).2.cursor.position ≤
        (Lexer.session d text (ops ++ later)).2.cursor.position) := by
  refine ⟨?_, ?_, ?_⟩
  · intro ops
    constructor
    · obtain ⟨follows, source⟩ := Cursor.follows_session text ops
      have accounts := follows.accounts
      rwa [source] at accounts
    · intro later
      rw [Cursor.session, Cursor.session, Session.run_append]
      exact Session.measure_le_run (f := Cursor.position) Cursor.position_le_perform later _
  · intro op c looks
    cases op with
    | advance | readWith => cases looks
    | peek | atEnd | fail | position | line | column | location | source => rfl
  · intro d ops
    constructor
    · obtain ⟨passed, follows, source⟩ := Lexer.follows_session d text ops
      have accounts := follows.accounts
      rw [source] at accounts
      exact ⟨passed, accounts⟩
    · intro later
      rw [Lexer.session, Lexer.session, Session.run_append]
      exact Session.measure_le_run (f := fun l : Lexer => l.cursor.position)
        Lexer.position_le_perform later _

end Lexis
