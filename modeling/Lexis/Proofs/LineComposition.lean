import Lexis.Proofs.Contexts
import Lexis.Proofs.Variants

/-!
# One line after another

A text is read line by line: if a text is in order, it may be put in front of
another one with a line feed between them, and the tokens of the two come one
after the other (`tokenize_append_line`).  What is wrong with the second text is
wrong in the same way, so many lines and bytes further on.

* **The line feed ends everything but a literal.**  It is in no numeral and in no
  word, and by assumption in no operator (`Replaces.feed`); it ends a comment that
  the end of the source would have ended (`Gap.feed`).  So the first text has to
  be in order with its literals closed, whatever the dialect says about them.
* **What stands in front is one gap more** for the second text (`Completes.feed`).
* **Places are moved** by the line feed to the start of a line, where the column
  is counted from anew (`Location.advance_line`).
-/

namespace Lexis

variable {d : Dialect}

/-! ### The line feed -/

/-- A line feed may stand behind tokens that are complete. -/
theorem Replaces.feed (strict : d.strictStrings = true) (noFeed : d.isOperator '\n' = false)
    (after more : List Char) : Replaces d after ('\n' :: more) where
  numeral _ := by
    rintro _ ⟨⟩
    decide
  word _ := by
    rintro _ ⟨⟩
    decide
  operator _ := by
    rintro _ ⟨⟩
    exact noFeed
  literal lenient := by
    rw [strict] at lenient
    cases lenient

/-- A gap, a line feed and another gap are a gap, also if a comment was not ended
by a line feed of its own. -/
theorem Gap.feed {gap after more rest : List Char} (h : Gap d gap after)
    (others : Gap d more rest) : Gap d (gap ++ '\n' :: more) rest := by
  induction h with
  | nil => exact .blank (by decide) others
  | blank isBlank_c _ ih => exact .blank isBlank_c ih
  | comment marks oneLine _ ih =>
    rw [List.cons_append, List.append_assoc]
    exact .comment marks oneLine ih
  | lastComment marks oneLine => exact .comment marks oneLine others

/-- Tokens of a text that is in order when literals have to be closed stay what
they are in front of a line feed. -/
theorem Yields.feed {passed gap : List Char} {ts : List Token}
    (h : Yields { d with strictStrings := true } passed gap ts) (noFeed : d.isOperator '\n' = false)
    (more : List Char) : Yields d passed (gap ++ '\n' :: more) ts := by
  have replaces : Replaces { d with strictStrings := true } gap (gap ++ '\n' :: more) := by
    have fed := Replaces.feed (d := { d with strictStrings := true }) rfl noFeed [] more
    simpa using fed.behind gap
  exact (h.replace replaces).strictness d.strictStrings (by simp)

/-! ### Places -/

/-- **Behind a line feed the lines go on and the columns start over.** -/
theorem Location.advance_line (line text : List Char) :
    start.advance (line ++ '\n' :: text) =
      ⟨line.count '\n' + 1 + (start.advance text).line, (start.advance text).column⟩ := by
  have behind : (start.advance line).step '\n' = ⟨line.count '\n' + 1, 0⟩ := by
    rw [advance_start]
    rfl
  rw [advance_append, advance_cons, behind, ← compose_start ⟨_, 0⟩, advance_compose, compose]
  split
  · next first => simp [first]
  · rfl

/-- The error `e'` is the error `e` in a source that has the text `a` and a line
feed in front. -/
structure LexicalError.Below (a : String) (e e' : LexicalError) : Prop where
  code : e'.code = e.code
  message : e'.message = e.message
  line : e'.location.line = e.location.line + a.toList.count '\n' + 1
  column : e'.location.column = e.location.column
  range : e'.span.range =
    (e.span.range.1 + (a.utf8ByteSize + 1), e.span.range.2 + (a.utf8ByteSize + 1))

theorem Fault.report_below (f : Fault) {a : String} {passed after : List Char}
    (small : a.utf8ByteSize + byteCount (passed ++ after) < UInt32.size - 1) :
    (f.report passed after).Below a (f.report (a.toList ++ '\n' :: passed) after) where
  code := rfl
  message := rfl
  line := by
    show (Location.start.advance (a.toList ++ '\n' :: passed)).line = _
    rw [Location.advance_line]
    show a.toList.count '\n' + 1 + (Location.start.advance passed).line =
      (Location.start.advance passed).line + a.toList.count '\n' + 1
    omega
  column := by
    show (Location.start.advance (a.toList ++ '\n' :: passed)).column = _
    rw [Location.advance_line]
    rfl
  range := by
    have bytes : ∀ text, byteCount ((a.toList ++ '\n' :: passed) ++ text) =
        byteCount (passed ++ text) + (a.utf8ByteSize + 1) := by
      intro text
      have feed : '\n'.utf8Size = 1 := by decide
      simp only [List.append_assoc, List.cons_append, byteCount_append, byteCount_cons,
        byteCount_toList, feed]
      omega
    have size := bytes after
    have here := bytes []
    rw [List.append_nil, List.append_nil] at here
    rw [f.range_report (by omega), f.range_report (by omega), here, bytes]

/-! ### Composition -/

variable {line : List Char} {ta : List Token}

/-- A text that is in order with its literals closed is tokens that a line feed
ends, and what is left of it only lengthens gaps behind the line feed. -/
theorem Completes.feed (h : Completes { d with strictStrings := true } line ta)
    (noFeed : d.isOperator '\n' = false) :
    ∃ passed gap, (∀ text, line ++ '\n' :: text = passed ++ (gap ++ ['\n'] ++ text)) ∧
      Pads d (gap ++ ['\n']) ∧ ∀ text, Yields d passed (gap ++ ['\n'] ++ text) ta := by
  cases h with
  | @behind passed gap ta yields isGap =>
    refine ⟨passed, gap, ?_, ?_, ?_⟩
    · intro text
      simp
    · intro more after others
      rw [List.append_assoc]
      exact Gap.feed (isGap.strictness d.strictStrings) others
    · intro text
      rw [List.append_assoc]
      exact yields.feed noFeed text

theorem Completes.above (h : Completes { d with strictStrings := true } line ta)
    (noFeed : d.isOperator '\n' = false) {text : List Char} {tb : List Token}
    (below : Completes d text tb) : Completes d (line ++ '\n' :: text) (ta ++ tb) := by
  obtain ⟨passed, gap, parts, pads, yields⟩ := h.feed noFeed
  rw [parts]
  exact (yields text).completes (below.prepend pads)

theorem Completes.above_breaks (h : Completes { d with strictStrings := true } line ta)
    (noFeed : d.isOperator '\n' = false) {before after : List Char} {tb : List Token} {f : Fault}
    (below : Breaks d before after tb f) :
    Breaks d (line ++ '\n' :: before) after (ta ++ tb) f := by
  obtain ⟨passed, gap, parts, pads, yields⟩ := h.feed noFeed
  have front := yields (before ++ after)
  rw [← List.append_assoc] at front
  rw [parts]
  exact front.breaks (below.prepend pads)

/-- **Texts are read line by line.**  Let `a` be in order with all of its literals
closed.  With `a` and a line feed in front, a text has the tokens of `a` and then
its own; or it has the error that it has without them, moved by the lines and
bytes in front. -/
theorem tokenize_append_line {a b : String} {ta : List Token} (noFeed : d.isOperator '\n' = false)
    (lexes : tokenize { d with strictStrings := true } a = .ok ta)
    (small : a.utf8ByteSize + b.utf8ByteSize < UInt32.size - 1) :
    match tokenize d b with
    | .ok tb => tokenize d (a ++ "\n" ++ b) = .ok (ta ++ tb)
    | .error e => ∃ e', tokenize d (a ++ "\n" ++ b) = .error e' ∧ e.Below a e' := by
  have whole : (a ++ "\n" ++ b).toList = a.toList ++ '\n' :: b.toList := by
    rw [String.toList_append, String.toList_append, List.append_assoc]
    rfl
  have above := tokenize_eq_ok_iff_completes.mp lexes
  cases result : tokenize d b with
  | ok tb =>
    show tokenize d _ = _
    rw [tokenize_eq_ok_iff_completes, whole]
    exact above.above noFeed (tokenize_eq_ok_iff_completes.mp result)
  | error e =>
    obtain ⟨before, after, tb, f, cut, breaks, rfl⟩ := tokenize_eq_error_iff_breaks.mp result
    refine ⟨f.report (a.toList ++ '\n' :: before) after, ?_, f.report_below ?_⟩
    · refine tokenize_eq_error_iff_breaks.mpr ⟨_, after, ta ++ tb, f, ?_, ?_, rfl⟩
      · rw [whole, cut, List.append_assoc]
        rfl
      · exact above.above_breaks noFeed breaks
    · rwa [← cut, byteCount_toList]

/-- A comment that only the end of the text ends, in front of a text with a stray
character on its second line. -/
theorem tokenize_append_line_comment :
    let e : LexicalError := ⟨.unexpectedCharacter,
      "Error while reading character: $, don't know how to process", ⟨1, 1⟩, .ofOffsets 3 4⟩
    tokenize { Dialect.standard with strictStrings := true } "1. # é" =
        .ok [.number (.ofDecimal ⟨1, 0⟩)] ∧
      tokenize .standard "x\n $" = .error e ∧
      ∃ e', tokenize .standard ("1. # é" ++ "\n" ++ "x\n $") = .error e' ∧ e.Below "1. # é" e' := by
  intro e
  have noFeed : Dialect.standard.isOperator '\n' = false := by decide
  have lexes : tokenize { Dialect.standard with strictStrings := true } "1. # é" =
      .ok [.number (.ofDecimal ⟨1, 0⟩)] := by decide +kernel
  have small : ("1. # é" : String).utf8ByteSize + ("x\n $" : String).utf8ByteSize <
      UInt32.size - 1 := by decide
  have fails : tokenize .standard "x\n $" = .error e := by decide +kernel
  have composed := tokenize_append_line noFeed lexes small
  rw [fails] at composed
  exact ⟨lexes, fails, composed⟩

end Lexis
