import Lexis.Proofs.Stalling

/-!
# Peeking

Looking at what comes next does not use it up, as long as it is not an error: a
token is kept, and the end of the text stays where it is.  What an error does
depends on how far the scan has gone that found it (`offers_of_look`):

* **A stray character** is found as often as it is looked at, whatever is done in
  between.
* **A second point** is reported once.  The number in front of it has been
  passed, so the next scan starts at the point, and the point is no second one
  there.
* **An open literal** is reported once, too.  The scan has passed it, and behind
  it is the end of the text, where nothing more is found.

So a lexer keeps tokens but no errors; whoever is told of an error and goes on
does so behind it (`peeking_loses_errors`).
-/

namespace Lexis

namespace Lexer

/-- What is collected if `item` comes first, and `others` is collected behind it. -/
def gathered (others : Except LexicalError (List Token)) :
    Option Item → Except LexicalError (List Token)
  | none => .ok []
  | some (.ok t) => others.map (t :: ·)
  | some (.error e) => .error e

/-- Whatever the lexer is asked next, the answer starts with `item`.  Iterating and
collecting are over once iterating has met an error. -/
structure Offers (l : Lexer) (item : Option Item) : Prop where
  answer : ∀ r : Request, (r = .iterate → l.failed = false) → (l.ask r).1 = .due r item
  collect : l.failed = false → l.collect.1 = gathered (l.ask .next).2.collect.1 item
  spent : l.failed = true → (l.ask .iterate).1 = .iterate none ∧ l.collect.1 = .ok []

/-- Collecting starts with a token that is kept. -/
theorem collect_of_kept {l : Lexer} {t : Token} (unfailed : l.failed = false)
    (kept : l.lookahead = some t) :
    l.collect.1 = gathered (l.ask .next).2.collect.1 (some (.ok t)) := by
  have next : (l.ask .next).2 = { l with lookahead := none } := by rw [ask, nextToken, kept]
  have items : [t].map .ok ++ (l.ask .next).2.items = l.items := by
    rw [next, items_of_kept unfailed kept]
    rfl
  exact collect_of_items_append items

/-- Collecting starts with what a scan finds. -/
theorem Plain.collect_eq {l : Lexer} (h : l.Plain) :
    l.collect.1 = gathered (l.ask .next).2.collect.1 (Reply.item? l.scan.1) := by
  have next : (l.ask .next).2 = l.scan.2 := by rw [ask, nextToken_of_empty h.empty]
  have items := h.items_of_scan
  rw [← next] at items
  rcases reply : l.scan.1 with e | _ | t <;> rw [reply] at items
  · have upTo : l.items = [].map .ok ++ [.error e] := items
    exact collect_of_items_error upTo
  · have all : l.items = [].map .ok := items
    exact collect_of_items all
  · have first : [t].map .ok ++ (l.ask .next).2.items = l.items := items.symm
    exact collect_of_items_append first

/-- **A lexer offers what comes next**, in whatever way it is asked for it. -/
theorem offers_outlook (l : Lexer) : l.Offers l.outlook where
  answer _ live := ask_eq_due live
  collect unfailed := by
    rcases kept : l.lookahead with _ | t
    · have plain : l.Plain := ⟨kept, unfailed⟩
      rw [outlook_of_empty kept]
      exact plain.collect_eq
    · rw [outlook_of_kept kept]
      exact collect_of_kept unfailed kept
  spent failed := by
    have none : l.iterate = (none, l) := by rw [iterate, if_pos failed]
    have all : l.items = [].map .ok := items_of_none none
    exact ⟨by rw [ask, none], collect_of_items all⟩

/-! ### Looking -/

variable {l : Lexer} {look : Request}

theorem ask_look (looks : look = .peek ∨ look = .atEnd) : (l.ask look).2 = l.peekToken.2 := by
  rcases looks with rfl | rfl <;> rfl

/-- **What has stalled is offered for good**, whatever is done with the lexer. -/
theorem Stalled.offers {reply : Reply} (h : l.Stalled reply) (ops : List Operation) :
    (Session.run perform ops l).2.Offers (Reply.item? reply) := by
  have offers := offers_outlook (Session.run perform ops l).2
  rwa [(h.run ops).1.outlook_eq] at offers

/-- Who has looked at the end of the text is there. -/
theorem stalled_peekToken (ended : l.outlook = none) : l.peekToken.2.Stalled (.ok none) := by
  rcases kept : l.lookahead with _ | t
  · have reply : l.scan.1 = .ok none := by
      rw [scan_reply_of_empty kept, ended]
      rfl
    rw [peekToken_of_empty kept, reply]
    exact stalled_of_ended rfl (rest_of_scan_none reply)
  · cases ended.symm.trans (outlook_of_kept kept)

/-- **A token stays to be had.** -/
theorem outlook_peekToken {t : Token} (item : l.outlook = some (.ok t)) :
    l.peekToken.2.outlook = some (.ok t) := by
  rcases kept : l.lookahead with _ | t'
  · have reply : l.scan.1 = .ok (some t) := by
      rw [scan_reply_of_empty kept, item]
      rfl
    rw [peekToken_of_empty kept, reply]
    exact outlook_of_kept rfl
  · have same : l.peekToken.2 = l := by rw [peekToken, kept]
    rw [same, item]

/-- A request that reports an error has scanned up to where the error is. -/
theorem exists_passed_of_reported {r : Request} {e : LexicalError}
    (reported : (l.ask r).1.error? = some e) :
    (l.ask r).2.dialect = l.dialect ∧ ∃ passed,
      l.cursor.rest = passed ++ (l.ask r).2.cursor.rest ∧
      (l.ask r).2.cursor = l.cursor.forward passed.length := by
  obtain ⟨scans, reply⟩ := scan_of_reported reported
  obtain ⟨gap, text, f, split, moved, -, -⟩ := exists_fault_of_scan reply
  have cursor := (step_of_scans scans).cursor
  exact ⟨dialect_ask r l, gap ++ text, cursor ▸ split, cursor.trans moved⟩

/-- A second point is not found again where it was found: a scan that finds one has
passed a number. -/
theorem outlook_ne_of_dot {e : LexicalError} (code : e.code = .unexpectedDot)
    (empty : l.lookahead = none) (here : e.location = l.location) :
    l.outlook ≠ some (.error e) := by
  intro again
  have reply : l.scan.1 = .error e := by
    rw [scan_reply_of_empty empty, again]
    rfl
  obtain ⟨gap, text, f, rest_eq, cursor, isFault, rfl⟩ := exists_fault_of_scan reply
  -- The scan has read a number, so the error it reports lies behind its start.
  have moves : gap ++ text ≠ [] := by
    generalize l.scan.2.cursor.rest = after at isFault
    cases isFault with
    | strayCharacter | openLiteral => cases code
    | secondDot => simp
  have onward : l.scan.2.cursor.location = l.location.advance (gap ++ text) := by
    rw [cursor, Cursor.location_forward, rest_eq, List.take_left]
    rfl
  exact Location.advance_ne moves l.location (onward.symm.trans here)

/-- **Looking at what comes next.**  Let the lexer be asked for the next token or
for the end, without taking the token.  Then it still offers what it has answered
with, unless that is the error about a second point or about an open literal.

* Behind a second point nothing is kept.  The lexer has moved to the point, and it
  offers what a scan from there finds, which is another item.
* Behind an open literal it is at the end of the text.  Whatever is done with it, it
  offers nothing more.
* What the end of the text or a stray character is answered with, it offers for good.
-/
theorem offers_of_look (looks : look = .peek ∨ look = .atEnd) (l : Lexer) :
    let l' := (l.ask look).2
    l.Offers l.outlook ∧
      match l.outlook with
      | none => ∀ ops : List Operation, (Session.run perform ops l').2.Offers l.outlook
      | some (.ok _) => l'.Offers l.outlook
      | some (.error e) => match e.code with
        | .unexpectedCharacter =>
          ∀ ops : List Operation, (Session.run perform ops l').2.Offers l.outlook
        | .unexpectedDot => l'.dialect = l.dialect ∧ l'.lookahead = none ∧
            (∃ passed more, l.cursor.rest = passed ++ '.' :: more ∧
              l'.cursor = l.cursor.forward passed.length ∧ l'.cursor.rest = '.' :: more) ∧
            e.location = l'.location ∧ e.span = l'.cursor.span ∧
            Reply.item? l'.scan.1 ≠ l.outlook ∧ l'.Offers (Reply.item? l'.scan.1)
        | .unterminatedString => l'.cursor.rest = [] ∧
            ∀ ops : List Operation, (Session.run perform ops l').2.Offers none
        | .invalidNumber => False := by
  intro l'
  refine ⟨offers_outlook l, ?_⟩
  have after : l' = l.peekToken.2 := ask_look looks
  rcases item : l.outlook with _ | e | t
  · have stalled : l'.Stalled (.ok none) := after ▸ stalled_peekToken item
    exact stalled.offers
  · -- The code of the error decides how far the scan that found it has gone.
    have reported : (l.ask .peek).1.error? = some e := by
      rw [ask_eq_due (by simp), item]
      rfl
    have leaves : l'.Leaves e := after ▸ leaves_ask reported
    dsimp only
    rcases code : e.code <;> rw [Leaves, code] at leaves
    case unexpectedCharacter => exact leaves.offers
    case unexpectedDot =>
      obtain ⟨empty, ⟨more, rest⟩, fails⟩ := leaves
      obtain ⟨dialect, passed, split, moved⟩ := exists_passed_of_reported reported
      rw [show (l.ask .peek).2 = l' from after.symm] at dialect split moved
      rw [rest] at split
      have here : e.location = l'.location := by rw [fails]; rfl
      have span : e.span = l'.cursor.span := by rw [fails]; rfl
      have other := outlook_ne_of_dot code empty here
      have offers := offers_outlook l'
      rw [outlook_of_empty empty] at other offers
      exact ⟨dialect, empty, ⟨passed, more, split, moved, rest⟩, here, span, other, offers⟩
    case invalidNumber => exact leaves
    case unterminatedString =>
      obtain ⟨empty, ended⟩ := leaves
      exact ⟨ended, (stalled_of_ended empty ended).offers⟩
  · have offers := offers_outlook l'
    rwa [after, outlook_peekToken item, ← after] at offers

/-- A number with two points that is peeked at: the error is about the second
point.  The scan that starts there finds the point as a token by itself, which comes
next, and the digit behind it is left. -/
theorem offers_of_look_two_points :
    let l := ofText .standard "1.2.3"
    let e : LexicalError := ⟨.unexpectedDot, "Unexpected dot in number", ⟨0, 3⟩, .ofOffsets 3 4⟩
    let l' := (l.ask .peek).2
    (Request.peek = .peek ∨ Request.peek = .atEnd) ∧ l.outlook = some (.error e) ∧
      l'.dialect = .standard ∧ l'.lookahead = none ∧
      (∃ passed more, l.cursor.rest = passed ++ '.' :: more ∧
        l'.cursor = l.cursor.forward passed.length ∧ l'.cursor.rest = '.' :: more) ∧
      e.location = l'.location ∧ e.span = l'.cursor.span ∧
      Reply.item? l'.scan.1 ≠ l.outlook ∧ l'.Offers (Reply.item? l'.scan.1) ∧
      l'.scan.1 = .ok (some (.punctuation ".")) ∧ l'.scan.2.cursor.rest = ['3'] := by
  intro l e l'
  have looks : Request.peek = .peek ∨ Request.peek = .atEnd := Or.inl rfl
  have item : l.outlook = some (.error e) := by decide +kernel
  have point : l'.scan.1 = .ok (some (.punctuation ".")) := by decide +kernel
  have left : l'.scan.2.cursor.rest = ['3'] := by decide +kernel
  have behind := (offers_of_look looks l).2
  rw [item] at behind ⊢
  obtain ⟨dialect, empty, moved, here, span, other, offers⟩ := behind
  exact ⟨looks, rfl, dialect, empty, moved, here, span, other, offers, point, left⟩

/-- **Errors are lost by peeking.**  Behind a second point the point itself comes
next; behind an open literal the text is at its end, and collecting succeeds.  An
error that iterating has met is still seen by peeking, but not by collecting. -/
theorem peeking_loses_errors :
    let strict : Dialect := { Dialect.standard with strictStrings := true }
    let points := ofText .standard "1.2.3"
    let literal := ofText strict "'a"
    let stray := (ofText .standard "$").iterate.2
    (points.peekToken.1 = .error ⟨.unexpectedDot, "Unexpected dot in number", ⟨0, 3⟩,
        .ofOffsets 3 4⟩ ∧
      points.peekToken.2.peekToken.1 = .ok (some (.punctuation "."))) ∧
    (literal.peekToken.1 = .error ⟨.unterminatedString, "Unterminated string literal", ⟨0, 2⟩,
        .ofOffsets 2 2⟩ ∧
      literal.peekToken.2.atEnd.1 = .ok true ∧ literal.peekToken.2.collect.1 = .ok []) ∧
    stray.peekToken.1 = .error ⟨.unexpectedCharacter,
        "Error while reading character: $, don't know how to process", ⟨0, 0⟩, .ofOffsets 0 1⟩ ∧
      stray.peekToken.2.collect.1 = .ok [] := by
  decide +kernel

end Lexer

end Lexis
