import Lexis.Proofs.Yields

/-!
# Variants of a dialect

Dialects with the same sets and the same markers tell the same characters apart
(`Dialect.SameClasses`).  They may still differ in their keywords, in what they make
of backslashes, and in whether literals have to be closed.  These matter to words and
to literals only:

* **Gaps** are the same in all of them (`Gap.congr`).
* **Lexemes that are no literals** are the same tokens if the keywords are the same
  (`Lexeme.congr`).
* **Faults** are the same if the dialects agree on whether literals have to be closed
  (`Faulty.congr`).
* **Whether literals have to be closed** matters only to those that are not, and they
  are at the end of the text.  So tokens stay what they are under a stricter rule if
  anything stands behind them (`Yields.strictness`).
-/

namespace Lexis

variable {d d' : Dialect}

namespace Dialect

/-- The dialects have the same sets of characters and the same markers. -/
structure SameClasses (d d' : Dialect) : Prop where
  punctuation : d'.punctuation = d.punctuation
  operators : d'.operators = d.operators
  stringDelimiter : d'.stringDelimiter = d.stringDelimiter
  commentMarker : d'.commentMarker = d.commentMarker

theorem SameClasses.claims (same : SameClasses d d') (k : CharClass) (c : Char) :
    d'.claims k c = d.claims k c := by
  cases k <;> simp [Dialect.claims, isPunctuation, isOperator, same.punctuation, same.operators,
    same.stringDelimiter, same.commentMarker]

theorem SameClasses.isOperator (same : SameClasses d d') : d'.isOperator = d.isOperator :=
  funext (same.claims .operator)

theorem Starts.congr (same : SameClasses d d') {k : CharClass} {c : Char} (h : d.Starts k c) :
    d'.Starts k c where
  noBlank := h.noBlank
  claimed := (same.claims k c).trans h.claimed
  first j earlier := (same.claims j c).trans (h.first j earlier)

end Dialect

theorem Gap.congr (same : d.SameClasses d') {gap after : List Char} (h : Gap d gap after) :
    Gap d' gap after := by
  have marker := same.commentMarker
  induction h with
  | nil => exact .nil
  | blank isBlank_c _ ih => exact .blank isBlank_c ih
  | comment marks oneLine _ ih =>
    rw [← marker] at marks ⊢
    exact .comment marks oneLine ih
  | lastComment marks oneLine =>
    rw [← marker] at marks ⊢
    exact .lastComment marks oneLine

/-- **A lexeme that is no literal** is the same token in both dialects. -/
theorem Lexeme.congr (same : d.SameClasses d') (keywords : d'.keywords = d.keywords)
    {lexeme after : List Char} {t : Token} (h : Lexeme d lexeme after t)
    (noString : t.kind ≠ .string) : Lexeme d' lexeme after t := by
  cases h with
  | closedString | openString => exact absurd rfl noString
  | whole starts areDigits ends => exact .whole (starts.congr same) areDigits ends
  | pointed starts areDigits fractionDigits ends =>
    exact .pointed (starts.congr same) areDigits fractionDigits ends
  | keyword starts isWord ends listed =>
    exact .keyword (starts.congr same) isWord ends (keywords ▸ listed)
  | identifier starts isWord ends unlisted =>
    exact .identifier (starts.congr same) isWord ends (keywords ▸ unlisted)
  | punctuation starts => exact .punctuation (starts.congr same)
  | operator starts areSigns ends =>
    rw [← same.isOperator] at areSigns ends
    exact .operator (starts.congr same) areSigns ends

/-- **A fault is the same** in both dialects, if they agree on whether literals have to
be closed. -/
theorem Faulty.congr (same : d.SameClasses d') (strict : d'.strictStrings = d.strictStrings)
    {text after : List Char} {f : Fault} (h : Faulty d text after f) : Faulty d' text after f := by
  cases h with
  | strayCharacter starts => exact .strayCharacter (starts.congr same)
  | secondDot starts areDigits fractionDigits =>
    exact .secondDot (starts.congr same) areDigits fractionDigits
  | openLiteral starts isStrict isBody =>
    obtain ⟨text', isBody'⟩ := isBody.exists_mode d'.escapeMode
    exact .openLiteral (starts.congr same) (strict.trans isStrict) isBody'

/-! ### Strictness -/

theorem Dialect.sameClasses_strictness (d : Dialect) (strict : Bool) :
    d.SameClasses { d with strictStrings := strict } := ⟨rfl, rfl, rfl, rfl⟩

variable (strict : Bool)

theorem Dialect.Starts.strictness {k : CharClass} {c : Char} (h : d.Starts k c) :
    { d with strictStrings := strict }.Starts k c :=
  h.congr (d.sameClasses_strictness strict)

theorem Gap.strictness {gap after : List Char} (h : Gap d gap after) :
    Gap { d with strictStrings := strict } gap after :=
  h.congr (d.sameClasses_strictness strict)

/-- A lexeme is the same token whether literals have to be closed or not, unless it is
a literal that is open, at the end of the text. -/
theorem Lexeme.strictness {lexeme after : List Char} {t : Token} (h : Lexeme d lexeme after t)
    (lenient : d.strictStrings = false → after = [] → strict = false) :
    Lexeme { d with strictStrings := strict } lexeme after t := by
  by_cases isString : t.kind = .string
  -- Only an open literal asks for the rule, and its text is at the end.
  · cases h with
    | closedString starts canClose isBody =>
      exact .closedString (starts.strictness strict) canClose isBody
    | openString starts wasLenient isBody =>
      exact .openString (starts.strictness strict) (lenient wasLenient rfl) isBody
    | whole | pointed | keyword | identifier | punctuation | operator => cases isString
  · exact h.congr (d.sameClasses_strictness strict) rfl isString

theorem Scans.strictness {text after : List Char} {t : Token}
    (h : Scans d text after (.ok (some t)))
    (lenient : d.strictStrings = false → after = [] → strict = false) :
    Scans { d with strictStrings := strict } text after (.ok (some t)) := by
  obtain ⟨gap, lexeme, rfl, isGap, isLexeme⟩ := h.exists_lexeme
  exact .behind (isGap.strictness strict) (.token (isLexeme.strictness strict lenient))

/-- **Tokens that a strict dialect finds** are found by a lenient one, too; and tokens
that a lenient dialect finds are found by a strict one, if they are not at the end of
the text. -/
theorem Yields.strictness {passed after : List Char} {ts : List Token}
    (h : Yields d passed after ts)
    (lenient : d.strictStrings = false → after = [] → strict = false) :
    Yields { d with strictStrings := strict } passed after ts := by
  induction h with
  | nil => exact .nil
  | scan first _ ih =>
    refine .scan (first.strictness strict ?_) (ih lenient)
    intro wasLenient ended
    exact lenient wasLenient (List.append_eq_nil_iff.mp ended).2

end Lexis
