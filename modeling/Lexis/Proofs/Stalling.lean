import Lexis.Proofs.Lookahead
import Lexis.Proofs.Yields

/-!
# Behind an error

An error is not kept.  Where it was found the lexer holds no token, and whatever
it is asked next scans again, from where the failed scan has stopped.  So what
comes next (`Lexer.outlook`) depends on what the error left behind, and that
depends on its code (`Lexer.Leaves`):

* **A stray character** has not been passed.  The next scan stops at it at once
  and finds the same.
* **An open literal** has been passed to the end of the text, where nothing is
  left to find.
* **A second point** has not been passed, but the number in front of it has, so
  the next scan starts at the point and finds something else.

In the first two cases the lexer is *stalled* (`Lexer.Stalled`): a scan finds no
token and does not move the cursor.  Nothing that is done with a stalled lexer
changes that (`Stalled.run`), and its answers can be told for good.
-/

namespace Lexis

namespace Lexer

/-! ### Stalled lexers -/

/-- There is no token to be had: the lexer keeps none, and a scan gets no further
and replies `reply`. -/
structure Stalled (reply : Reply) (l : Lexer) : Prop where
  empty : l.lookahead = none
  stops : ∃ found, Scans l.dialect [] l.cursor.rest found ∧ replyAt l.cursor found = reply

namespace Stalled

variable {reply : Reply} {l : Lexer}

theorem scan (h : l.Stalled reply) : l.scan.1 = reply ∧ l.scan.2.cursor = l.cursor := by
  obtain ⟨found, scans, rfl⟩ := h.stops
  have scanned := scanned_of_scans rfl scans
  have cursor : l.scan.2.cursor = l.cursor := scanned.cursor
  have reply := scanned.reply
  rw [cursor] at reply
  exact ⟨reply, cursor⟩

/-- A token would have been passed. -/
theorem tokenless (h : l.Stalled reply) : (Answer.next reply).handed = [] := by
  obtain ⟨found, scans, rfl⟩ := h.stops
  rcases found with f | _ | t
  · rfl
  · rfl
  · obtain ⟨gap, lexeme, parts, -, isLexeme⟩ := scans.exists_lexeme
    exact absurd (List.append_eq_nil_iff.mp parts.symm).2 isLexeme.ne_nil

theorem outlook_eq (h : l.Stalled reply) : l.outlook = Reply.item? reply := by
  rw [outlook_of_empty h.empty, h.scan.1]

/-- Every request leaves the lexer where it is. -/
theorem ask (h : l.Stalled reply) (r : Request) :
    (l.ask r).2.Stalled reply ∧ (l.ask r).2.cursor = l.cursor := by
  have drawn : ∃ reply', Step l reply' l.cursor (l.ask r) ∧ (Answer.next reply').handed = [] := by
    rcases scans : r.scans l with _ | _
    · refine ⟨_, step_of_not_scans scans, ?_⟩
      rw [h.empty]
      rfl
    · have step := step_of_scans scans
      rw [h.scan.2] at step
      refine ⟨_, step, ?_⟩
      rw [h.scan.1]
      exact h.tokenless
  obtain ⟨reply', step, none⟩ := drawn
  have empty : (l.ask r).2.lookahead = .none := by
    have tokens := step.tokens
    rw [none, List.append_eq_nil_iff] at tokens
    exact Option.toList_eq_nil_iff.mp tokens.2
  refine ⟨⟨empty, ?_⟩, step.cursor⟩
  rw [step.dialect, step.cursor]
  exact h.stops

/-- **A stalled lexer stays stalled**, whatever is done with it. -/
theorem run (h : l.Stalled reply) (ops : List Operation) :
    (Session.run perform ops l).2.Stalled reply ∧
      (Session.run perform ops l).2.cursor = l.cursor := by
  refine Session.run_invariant (P := fun l' : Lexer => l'.Stalled reply ∧ l'.cursor = l.cursor) ?_ ops
    ⟨h, rfl⟩
  refine perform_invariant ?_
  rintro r l' ⟨stalled, here⟩
  exact ⟨(stalled.ask r).1, (stalled.ask r).2.trans here⟩

end Stalled

/-- At the end of the text there is nothing to find. -/
theorem stalled_of_ended {l : Lexer} (empty : l.lookahead = none) (ended : l.cursor.rest = []) :
    l.Stalled (.ok none) where
  empty := empty
  stops := by
    rw [ended]
    exact ⟨.ok none, .behind .nil .ended, rfl⟩

/-! ### What an error leaves behind -/

/-- What the error `e` leaves behind, by its code. -/
def Leaves (e : LexicalError) (l : Lexer) : Prop :=
  match e.code with
  | .unexpectedCharacter => l.Stalled (.error e)
  | .unexpectedDot => l.lookahead = none ∧ (∃ more, l.cursor.rest = '.' :: more) ∧
      e = l.cursor.fail .unexpectedDot e.message
  | .unterminatedString => l.lookahead = none ∧ l.cursor.rest = []
  | .invalidNumber => False

/-- A scan stops at the fault that it finds. -/
theorem exists_fault_of_scan {l : Lexer} {e : LexicalError} (reply : l.scan.1 = .error e) :
    ∃ gap text f, l.cursor.rest = gap ++ text ++ l.scan.2.cursor.rest ∧
      l.scan.2.cursor = l.cursor.forward (gap ++ text).length ∧
      Faulty l.dialect text l.scan.2.cursor.rest f ∧
      l.scan.2.cursor.fail f.code f.message = e := by
  obtain ⟨passed, after, found, rest_eq, scans⟩ := exists_scans l.dialect l.cursor
  have scanned := scanned_of_scans rest_eq scans
  have replies := scanned.reply.symm.trans reply
  rw [scanned.rest]
  cases scans with
  | behind isGap finds =>
    cases finds with
    | ended | token => cases replies
    | fault isFault =>
      exact ⟨_, _, _, rest_eq, scanned.cursor, isFault, Except.error.inj replies⟩

/-- **Where a scan has failed**, a lexer without lookahead is left with what the
error leaves behind. -/
theorem leaves_of_scan {l l' : Lexer} {e : LexicalError} (reply : l.scan.1 = .error e)
    (dialect : l'.dialect = l.dialect) (cursor : l'.cursor = l.scan.2.cursor)
    (empty : l'.lookahead = none) : l'.Leaves e := by
  obtain ⟨gap, text, f, -, -, isFault, rfl⟩ := exists_fault_of_scan reply
  rw [← cursor, ← dialect] at *
  generalize behind : l'.cursor.rest = after at isFault
  cases isFault with
  | strayCharacter starts =>
    refine ⟨empty, .error _, ?_, rfl⟩
    rw [behind]
    exact .behind .nil (.fault (.strayCharacter starts))
  | secondDot => exact ⟨empty, ⟨_, behind⟩, rfl⟩
  | openLiteral => exact ⟨empty, behind⟩

theorem leaves_ask {l : Lexer} {r : Request} {e : LexicalError}
    (reported : (l.ask r).1.error? = some e) : (l.ask r).2.Leaves e := by
  obtain ⟨scans, reply⟩ := scan_of_reported reported
  have step := step_of_scans scans
  have empty : (l.ask r).2.lookahead = none := by
    have tokens := step.tokens
    rw [reply] at tokens
    exact Option.toList_eq_nil_iff.mp (List.append_eq_nil_iff.mp tokens).2
  exact leaves_of_scan reply step.dialect step.cursor empty

/-- **Every operation that reports an error** ends where that error leaves it. -/
theorem leaves_perform {op : Operation} {l : Lexer} {e : LexicalError}
    (reported : (l.perform op).1.error? = some e) : (l.perform op).2.Leaves e := by
  obtain ⟨r, l', -, asked, left⟩ :=
    exists_last_ask_of_perform_error (P := fun _ => True) (fun _ _ _ => trivial) trivial reported
  rw [← left]
  exact leaves_ask asked

end Lexer

end Lexis
