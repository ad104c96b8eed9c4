import Lexis.Proofs.Causes
import Lexis.Proofs.Displacement
import Lexis.Proofs.Stalling

/-!
# Going on

A lexer forgets what it has read.  If it keeps no token and iterating has not met an
error, whatever is done with it has the results that it has with a fresh lexer for
the unread part of the text; only places are moved (`session_resumed`).  It does not
matter whether an error was met on the way.

What an error leaves unread depends on its code, so each code has its own sequel:
a stray character is found again and again, behind an open literal nothing is left,
and behind a number with two points the text goes on at the second of them.
-/

namespace Lexis

/-- An error lies in the text: its span ends where it starts or behind that, and not
behind the text. -/
theorem Points.range_le {passed after : List Char} {e : LexicalError} (h : Points passed after e) :
    e.span.range.1 ≤ e.span.range.2 ∧ e.span.range.2 ≤ byteCount (passed ++ after) := by
  rcases h.range with ⟨c, more, rfl, range⟩ | ⟨rfl, range⟩
  · rw [range, byteCount_append, byteCount_cons]
    exact ⟨Nat.le_add_right _ _, by omega⟩
  · rw [range, List.append_nil]
    exact ⟨Nat.le_refl _, Nat.le_refl _⟩

namespace Lexer

/-! ### Fresh lexers -/

/-- A lexer without lookahead has the text ahead that a fresh one for the unread
text has. -/
theorem displaced_ofText {l : Lexer} (empty : l.lookahead = none) :
    Displaced l.location l.cursor.position
      { ofText l.dialect (String.ofList l.cursor.rest) with failed := l.failed } l where
  dialect := rfl
  cursor := l.cursor.displaced_ofText
  lookahead := empty
  failed := rfl

/-- Only iterating asks whether iterating has met an error. -/
theorem ask_withFailed {l : Lexer} {r : Request} {failed : Bool}
    (live : r = .iterate → l.failed = false ∧ failed = false) :
    ({ l with failed := failed }.ask r).1 = (l.ask r).1 := by
  rw [ask_eq_due fun again => (live again).2, ask_eq_due fun again => (live again).1]
  rfl

/-- **What comes next** is what a fresh lexer for the unread text answers. -/
theorem ask_resumed {l : Lexer} {r : Request} (empty : l.lookahead = none)
    (live : r = .iterate → l.failed = false) :
    (l.ask r).1 = ((ofText l.dialect (String.ofList l.cursor.rest)).ask r).1.mapError
      (LexicalError.displaced l.location l.cursor.position) := by
  have fresh := ask_withFailed (l := ofText l.dialect (String.ofList l.cursor.rest))
    fun again => ⟨rfl, live again⟩
  rw [((displaced_ofText empty).ask r).1, fresh]

/-- **Sessions go on** as those of a fresh lexer for the unread text. -/
theorem run_resumed {l : Lexer} (empty : l.lookahead = none) (unfailed : l.failed = false)
    (later : List Operation) :
    let fresh := session l.dialect (String.ofList l.cursor.rest) later
    (Session.run perform later l).1 = fresh.1.map
        (Result.mapError (LexicalError.displaced l.location l.cursor.position)) ∧
      (Session.run perform later l).2.location = l.location.compose fresh.2.location := by
  have displaced := displaced_ofText empty
  rw [unfailed] at displaced
  obtain ⟨results, moved⟩ := displaced.run later
  exact ⟨results, moved.cursor.location⟩

/-! ### Where a session has come to -/

variable {d : Dialect} {source : String} {l : Lexer}

theorem reaches_session (d : Dialect) (source : String) (ops : List Operation) :
    Reaches d source (session d source ops).2 :=
  Session.run_invariant (perform_invariant fun r _ h => h.ask r) ops (reaches_ofText d source)

theorem Reaches.perform (h : Reaches d source l) (op : Operation) :
    Reaches d source (l.perform op).2 :=
  perform_invariant (fun r _ h => h.ask r) op l h

/-- The text is what has been read and what is left. -/
theorem Reaches.exists_unread (h : Reaches d source l) :
    ∃ front : String, source = front ++ String.ofList l.cursor.rest ∧
      l.cursor.position = front.utf8ByteSize ∧ l.cursor.Follows front.toList := by
  obtain ⟨passed, follows, -⟩ := h.reached
  refine ⟨String.ofList passed, ?_, follows.position, ?_⟩
  · rw [← String.ofList_append, ← follows.text, String.ofList_toList, h.source]
  · rwa [String.toList_ofList]

/-- The errors of a session lie in its text. -/
theorem range_le_of_session (small : source.utf8ByteSize < UInt32.size) (ops : List Operation) :
    ∀ result ∈ (session d source ops).1, ∀ e, result.error? = some e →
      e.span.range.1 ≤ e.span.range.2 ∧ e.span.range.2 ≤ source.utf8ByteSize := by
  refine forall_errors_run (P := Reaches d source) (fun r l h => h.ask r) ?_ ops
    (reaches_ofText d source)
  intro r l e h reported
  obtain ⟨passed, after, whole, points, -⟩ := h.cause small reported
  have range := points.range_le
  rwa [← whole, byteCount_toList] at range

/-- **A lexer forgets what it has read.**  Let a session with a text that is not too
long have come to the lexer `l`.

* If `l` keeps no token and iterating has not met an error, then whatever is done
  with it has the results of a fresh lexer for the unread text.  The spans of errors
  are moved by the position of `l`, and locations are counted on from that of `l`.
* If the next operation reports a stray character, every later request for a token
  reports it, too, and the cursor never moves again.
* If it reports an open literal, every later request finds the end of the text.
* If it reports a second point, the unread text starts with that point, and the next
  request is answered as by a fresh lexer for the text from there.
-/
theorem session_resumed (d : Dialect) (small : source.utf8ByteSize < UInt32.size)
    (ops : List Operation) :
    let l := (session d source ops).2
    (∃ front back : String, source = front ++ back ∧ l.cursor.position = front.utf8ByteSize ∧
      (l.lookahead = none → l.failed = false → ∀ later,
        let displaced := LexicalError.displaced l.location l.cursor.position
        (Session.run perform later l).1 =
            (session d back later).1.map (Result.mapError displaced) ∧
          (Session.run perform later l).2.location =
            l.location.compose (session d back later).2.location ∧
          ∀ result ∈ (session d back later).1, ∀ e, result.error? = some e →
            (displaced e).span.range =
              (e.span.range.1 + l.cursor.position, e.span.range.2 + l.cursor.position))) ∧
    ∀ op e, (l.perform op).1.error? = some e →
      let l' := (l.perform op).2
      match e.code with
      | .unexpectedCharacter => ∀ later,
          (Session.run perform later l').2.cursor = l'.cursor ∧
          ∀ r ≠ .iterate, ((Session.run perform later l').2.ask r).1 = .due r (some (.error e))
      | .unexpectedDot => ∃ front after : String, source = front ++ ("." ++ after) ∧
          l'.cursor.position = front.utf8ByteSize ∧
          e.span.range = (front.utf8ByteSize, front.utf8ByteSize + 1) ∧
          ∀ r, (r = .iterate → l'.failed = false) →
            (l'.ask r).1 = ((ofText d ("." ++ after)).ask r).1.mapError
              (LexicalError.displaced l'.location l'.cursor.position)
      | .unterminatedString => ∀ later,
          ∀ r ≠ .iterate, ((Session.run perform later l').2.ask r).1 = .due r none
      | .invalidNumber => False := by
  intro l
  have reaches : Reaches d source l := reaches_session d source ops
  constructor
  · obtain ⟨front, whole, position, -⟩ := reaches.exists_unread
    refine ⟨front, _, whole, position, ?_⟩
    intro empty unfailed later displaced
    have resumed := run_resumed empty unfailed later
    rw [reaches.dialect] at resumed
    refine ⟨resumed.1, resumed.2, ?_⟩
    -- The error lies in the unread text, so with what has been read in front of it
    -- its offsets still do not wrap.
    intro result mem e reported
    rw [whole, String.utf8ByteSize_append, ← position] at small
    have range := range_le_of_session (by omega) later result mem e reported
    exact Span.range_displaced range.1 (by omega)
  · intro op e reported l'
    have leaves : l'.Leaves e := leaves_perform reported
    rcases code : e.code <;> rw [Leaves, code] at leaves
    case unexpectedCharacter =>
      intro later
      obtain ⟨stalled, cursor⟩ := leaves.run later
      refine ⟨cursor, ?_⟩
      intro r live
      rw [ask_eq_due fun again => absurd again live, stalled.outlook_eq]
      rfl
    case unexpectedDot =>
      obtain ⟨empty, ⟨more, rest⟩, fails⟩ := leaves
      have reaches' : Reaches d source l' := reaches.perform op
      obtain ⟨front, whole, position, follows⟩ := reaches'.exists_unread
      have unread : String.ofList l'.cursor.rest = "." ++ String.ofList more := by
        rw [rest, ← List.singleton_append, String.ofList_append]
      have points := follows.points (reaches'.source ▸ small) .unexpectedDot e.message
      rw [← fails, rest] at points
      refine ⟨front, String.ofList more, by rw [whole, unread], position, ?_, ?_⟩
      · rcases points.range with ⟨c, after, same, range⟩ | ⟨none, -⟩
        · obtain ⟨rfl, -⟩ := List.cons.inj same
          rw [range, byteCount_toList]
          rfl
        · cases none
      · intro r live
        have next := ask_resumed empty live
        rwa [reaches'.dialect, unread] at next
    case invalidNumber => exact leaves
    case unterminatedString =>
      intro later r live
      obtain ⟨stalled, -⟩ := (stalled_of_ended leaves.1 leaves.2).run later
      rw [ask_eq_due fun again => absurd again live, stalled.outlook_eq]
      rfl

/-- A number with two points behind a word: the session goes on at the second point,
and the stray character on the next line is found where it is. -/
theorem session_resumed_second_point :
    let source := "a\n 1.2.3\n$"
    let l := (session .standard source [.ask .next, .ask .next]).2
    let later : List Operation := [.ask .peek, .ask .next, .ask .iterate, .collect, .ask .atEnd]
    source.utf8ByteSize < UInt32.size ∧ l.lookahead = none ∧ l.failed = false ∧
      ∃ front back : String, source = front ++ back ∧ l.cursor.position = front.utf8ByteSize ∧
        (Session.run perform later l).1 = (session .standard back later).1.map
          (Result.mapError (LexicalError.displaced l.location l.cursor.position)) := by
  intro source l later
  have small : source.utf8ByteSize < UInt32.size := by decide
  have empty : l.lookahead = none := by decide +kernel
  have unfailed : l.failed = false := by decide +kernel
  obtain ⟨front, back, whole, position, resumed⟩ :=
    (session_resumed .standard small [.ask .next, .ask .next]).1
  exact ⟨small, empty, unfailed, front, back, whole, position,
    (resumed empty unfailed later).1⟩

end Lexer

end Lexis
