import Lexis.Proofs.Requests
import Lexis.Proofs.Walk

/-!
# Causes of errors

An error gives the place at fault twice, and it gives a code.  Both are tied to
the text here, for every error of every session, also of one that goes on after
an error.

* **The place** (`Points`): the span is that of the next character, or empty at
  the end of the text, and the location is that of its first byte.
* **The code** (`Cause`): what the next character is, and which unfinished lexeme
  is in front of it.  That a lexeme starts where it is said to start is part of
  it: a scan has come there (`Reached`) and has passed a gap.

Offsets are held in 32 bits, so the spans of a longer text mean nothing; this is
the one assumption (`error_cause`).
-/

namespace Lexis

/-! ### Places -/

/-- The error points at the place between `passed` and `after`. -/
structure Points (passed after : List Char) (e : LexicalError) : Prop where
  location : e.location = ⟨passed.count '\n', (passed.rtakeWhile (· ≠ '\n')).length⟩
  range : (∃ c more, after = c :: more ∧
      e.span.range = (byteCount passed, byteCount passed + c.utf8Size)) ∨
    (after = [] ∧ e.span.range = (byteCount passed, byteCount passed))

/-- **An error is about the next character.** -/
theorem Cursor.Follows.points {passed : List Char} {c : Cursor} (h : c.Follows passed)
    (small : c.source.utf8ByteSize < UInt32.size) (code : ErrorCode) (message : String) :
    Points passed c.rest (c.fail code message) := by
  have size : c.source.utf8ByteSize = byteCount passed + byteCount c.rest := by
    rw [← byteCount_toList, h.text, byteCount_append]
  refine ⟨h.location.trans (Location.advance_start passed), ?_⟩
  rcases rest : c.rest with _ | ⟨ch, more⟩
  · refine Or.inr ⟨rfl, ?_⟩
    rw [rest, byteCount_nil] at size
    rw [fail, span, peek, rest, h.position]
    exact Span.range_ofOffsets (by omega) (Nat.le_refl _)
  · refine Or.inl ⟨ch, more, rfl, ?_⟩
    rw [rest, byteCount_cons] at size
    rw [fail, span, peek, rest, h.position]
    exact Span.range_ofOffsets (by omega) (Nat.le_add_right _ _)

/-! ### Where scans come -/

/-- `Reached d passed after`: scans of the text, from its start and one after
another, come to the place between `passed` and `after`. -/
inductive Reached (d : Dialect) : List Char → List Char → Prop
  | start {text : List Char} : Reached d [] text
  | scan {passed text after : List Char} {found : Found} (before : Reached d passed (text ++ after))
      (scans : Scans d text after found) : Reached d (passed ++ text) after

/-- `Begins d k passed c after`: a scan, having passed a gap, comes to the
character `c` between `passed` and `after`, and `c` is of the class `k`. -/
structure Begins (d : Dialect) (k : CharClass) (passed : List Char) (c : Char) (after : List Char) :
    Prop where
  reached : ∃ front gap, passed = front ++ gap ∧ Reached d front (gap ++ c :: after) ∧
    Gap d gap (c :: after)
  noBlank : isBlank c = false
  classified : d.classify c = k

/-- What an error between `passed` and `after` says about the text, by its
code. -/
def Cause (d : Dialect) (passed after : List Char) (e : LexicalError) : Prop :=
  match e.code with
  | .unexpectedCharacter => ∃ c more, after = c :: more ∧ Begins d .unrecognized passed c more ∧
      e.message = "Error while reading character: " ++ c.toString ++ ", don't know how to process"
  | .unexpectedDot => ∃ front c digits fraction more, after = '.' :: more ∧
      passed = front ++ c :: (digits ++ '.' :: fraction) ∧
      (∀ x ∈ c :: digits, isDigit x = true) ∧ (∀ x ∈ fraction, isDigit x = true) ∧
      Begins d .digit front c (digits ++ '.' :: fraction ++ after) ∧
      e.message = "Unexpected dot in number"
  | .unterminatedString => ∃ front q body text, after = [] ∧ passed = front ++ q :: body ∧
      d.strictStrings = true ∧ Literal.Body d.escapeMode q true body text ∧
      Begins d .stringStart front q body ∧ e.message = "Unterminated string literal"
  | .invalidNumber => False

theorem Dialect.Starts.begins {d : Dialect} {k : CharClass} {c : Char} (h : d.Starts k c)
    {front gap after : List Char} (reached : Reached d front (gap ++ c :: after))
    (isGap : Gap d gap (c :: after)) : Begins d k (front ++ gap) c after :=
  ⟨⟨front, gap, rfl, reached, isGap⟩, h.noBlank, h.classify⟩

/-- **Every fault has its cause.** -/
theorem Faulty.cause {d : Dialect} {text after : List Char} {f : Fault} (h : Faulty d text after f)
    {front gap : List Char} (reached : Reached d front (gap ++ (text ++ after)))
    (isGap : Gap d gap (text ++ after)) {e : LexicalError} (code : e.code = f.code)
    (message : e.message = f.message) : Cause d (front ++ (gap ++ text)) after e := by
  rw [← List.append_assoc, Cause, code]
  cases h with
  | @strayCharacter c more starts =>
    refine ⟨c, more, rfl, ?_, message⟩
    rw [List.append_nil]
    exact starts.begins reached isGap
  | @secondDot c digits fraction more starts areDigits fractionDigits =>
    refine ⟨front ++ gap, c, digits, fraction, more, rfl, rfl, ?_, fractionDigits, ?_, message⟩
    · exact List.forall_mem_cons.mpr ⟨starts.claimed, areDigits⟩
    · exact starts.begins reached isGap
  | @openLiteral q body text starts strict isBody =>
    rw [List.append_nil] at reached isGap
    exact ⟨front ++ gap, q, body, text, rfl, rfl, strict, isBody, starts.begins reached isGap,
      message⟩

/-! ### Sessions -/

namespace Lexer

/-- The lexer splits the text `source` in the dialect `d`, and is where scans
have come. -/
structure Reaches (d : Dialect) (source : String) (l : Lexer) : Prop where
  dialect : l.dialect = d
  source : l.cursor.source = source
  reached : ∃ passed, l.cursor.Follows passed ∧ Reached d passed l.cursor.rest

variable {d : Dialect} {source : String} {l : Lexer}

/-- Where scans have come, the next scan starts: it passes `text`, and the cursor
follows it. -/
theorem Reaches.exists_scan (h : Reaches d source l) :
    ∃ passed text after found, Reached d passed (text ++ after) ∧ Scans d text after found ∧
      l.scan.2.cursor.Follows (passed ++ text) ∧ l.scan.2.cursor.rest = after ∧
      l.scan.2.cursor.source = source ∧ l.scan.1 = replyAt l.scan.2.cursor found := by
  obtain ⟨passed, follows, reached⟩ := h.reached
  obtain ⟨text, after, found, split, scans⟩ := exists_scans l.dialect l.cursor
  have scanned := scanned_of_scans split scans
  have moved : l.scan.2.cursor.Follows (passed ++ text) := scanned.cursor ▸ follows.pass split
  rw [split] at reached
  rw [h.dialect] at scans
  refine ⟨passed, text, after, found, reached, scans, moved, scanned.rest, ?_, scanned.reply⟩
  rw [scanned.cursor, Cursor.source_forward, h.source]

theorem reaches_ofText (d : Dialect) (source : String) : Reaches d source (ofText d source) :=
  ⟨rfl, rfl, [], Cursor.follows_ofText source, .start⟩

/-- Every request leaves the lexer where scans have come. -/
theorem Reaches.ask (h : Reaches d source l) (r : Request) : Reaches d source (l.ask r).2 := by
  rcases scans : r.scans l with _ | _
  · have step := step_of_not_scans scans
    refine ⟨step.dialect.trans h.dialect, ?_, ?_⟩
    · rw [step.cursor, h.source]
    · rw [step.cursor]
      exact h.reached
  · have step := step_of_scans scans
    obtain ⟨passed, text, after, found, reached, scans, follows, rest, source_eq, -⟩ :=
      h.exists_scan
    refine ⟨step.dialect.trans h.dialect, ?_, ?_⟩
    · rw [step.cursor, source_eq]
    · rw [step.cursor, rest]
      exact ⟨passed ++ text, follows, reached.scan scans⟩

/-- **An error that a request reports has its cause** at the place it points
at. -/
theorem Reaches.cause (h : Reaches d source l) (small : source.utf8ByteSize < UInt32.size)
    {r : Request} {e : LexicalError} (reported : (l.ask r).1.error? = some e) :
    ∃ passed after, source.toList = passed ++ after ∧ Points passed after e ∧
      Cause d passed after e := by
  obtain ⟨-, failed⟩ := scan_of_reported reported
  obtain ⟨passed, text, after, found, reached, scan, follows, rest, source_eq, reply⟩ :=
    h.exists_scan
  rw [reply] at failed
  cases scan with
  | @behind gap text after found isGap finds =>
    cases finds with
    | ended | token => cases failed
    | fault isFault =>
      obtain rfl : _ = e := Except.error.inj failed
      refine ⟨passed ++ (gap ++ text), after, ?_, ?_, ?_⟩
      · rw [← source_eq, follows.text, rest]
      · rw [← rest]
        exact follows.points (source_eq ▸ small) _ _
      · rw [List.append_assoc] at reached
        exact isFault.cause reached isGap rfl rfl

/-- **Every error points at its cause**, whatever was done with the lexer before
it, and whatever errors came before it. -/
theorem error_cause {ops : List Operation} {e : LexicalError}
    (small : source.utf8ByteSize < UInt32.size)
    (reported : ∃ result ∈ (session d source ops).1, result.error? = some e) :
    ∃ passed after, source.toList = passed ++ after ∧ Points passed after e ∧
      Cause d passed after e := by
  have keeps : ∀ r l, Reaches d source l → Reaches d source (l.ask r).2 := by
    intro r l h
    exact h.ask r
  have all : ∀ result ∈ (session d source ops).1, result.error? = some e →
      ∃ passed after, source.toList = passed ++ after ∧ Points passed after e ∧
        Cause d passed after e := by
    refine Session.forall_mem_answers (perform_invariant keeps) ?_ ops (reaches_ofText d source)
    intro op l h failed
    obtain ⟨r, l', kept, asked⟩ := exists_ask_of_perform_error keeps h failed
    exact kept.cause small asked
  obtain ⟨result, mem, failed⟩ := reported
  exact all result mem failed

/-- A number with two points, met by collecting what is behind a word. -/
theorem error_cause_second_dot :
    let e : LexicalError := ⟨.unexpectedDot, "Unexpected dot in number", ⟨0, 5⟩, .ofOffsets 5 6⟩
    ∃ passed after, "a 1.2.3".toList = passed ++ after ∧ Points passed after e ∧
      Cause .standard passed after e := by
  have small : ("a 1.2.3" : String).utf8ByteSize < UInt32.size := by decide
  have reported : ∃ result ∈ (session .standard "a 1.2.3" [.ask .next, .collect]).1,
      result.error? =
        some ⟨.unexpectedDot, "Unexpected dot in number", ⟨0, 5⟩, .ofOffsets 5 6⟩ := by
    decide +kernel
  exact error_cause small reported

end Lexer

end Lexis
