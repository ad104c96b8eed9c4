import Lexis.Proofs.Variants

/-!
# Escape modes

Dialects that differ only in what becomes of a backslash cut a text in the same
places: a backslash takes the next character with it in either mode, so it does not
depend on the mode where a literal ends, nor what is wrong with a text.  What differs
are the texts of string tokens, and how they do is told for one lexeme (`Twin`) and
for a whole text (`Twins`), without reading either:

* **Where backslashes stay**, the text of a literal is its body as it stands in the
  source.
* **Where they are left out**, it is what the body denotes (`Literal.Body .drop`): an
  escaped character without its backslash, and nothing for a backslash that the end of
  the source leaves alone.

The main statement is `tokenize_escapeMode`.
-/

namespace Lexis

variable {d : Dialect}

/-! ### Bodies -/

/-- Where backslashes stay, a body denotes itself. -/
theorem Literal.Body.keep {mode : EscapeMode} {q : Char} {atEnd : Bool} {body text : List Char}
    (h : Body mode q atEnd body text) : Body .keep q atEnd body body := by
  obtain ⟨text', isBody⟩ := h.exists_mode .keep
  obtain rfl : body = text' := decode_of_body isBody
  exact isBody

/-! ### One lexeme in two modes -/

theorem Dialect.sameClasses_escapeMode (d : Dialect) (mode : EscapeMode) :
    d.SameClasses { d with escapeMode := mode } := ⟨rfl, rfl, rfl, rfl⟩

/-- `Twin d lexeme after kept dropped`: the text `lexeme`, with `after` behind it, is
the token `kept` where backslashes stay in literals, and the token `dropped` where
they are left out. -/
inductive Twin (d : Dialect) : List Char → List Char → Token → Token → Prop
  | same {lexeme after : List Char} {t : Token} (isLexeme : Lexeme d lexeme after t)
      (noString : t.kind ≠ .string) : Twin d lexeme after t t
  | closedString {q : Char} {body text after : List Char} (starts : d.Starts .stringStart q)
      (canClose : q ≠ '\\') (isBody : Literal.Body .drop q false body text) :
      Twin d (q :: (body ++ [q])) after (.string (String.ofList body))
        (.string (String.ofList text))
  | openString {q : Char} {body text : List Char} (starts : d.Starts .stringStart q)
      (lenient : d.strictStrings = false) (isBody : Literal.Body .drop q true body text) :
      Twin d (q :: body) [] (.string (String.ofList body)) (.string (String.ofList text))

namespace Twin

variable {lexeme after : List Char} {kept dropped : Token}

theorem keep (h : Twin d lexeme after kept dropped) :
    Lexeme { d with escapeMode := .keep } lexeme after kept := by
  have same := d.sameClasses_escapeMode .keep
  cases h with
  | same isLexeme noString => exact isLexeme.congr same rfl noString
  | closedString starts canClose isBody =>
    exact .closedString (starts.congr same) canClose isBody.keep
  | openString starts lenient isBody => exact .openString (starts.congr same) lenient isBody.keep

theorem drop (h : Twin d lexeme after kept dropped) :
    Lexeme { d with escapeMode := .drop } lexeme after dropped := by
  have same := d.sameClasses_escapeMode .drop
  cases h with
  | same isLexeme noString => exact isLexeme.congr same rfl noString
  | closedString starts canClose isBody =>
    exact .closedString (starts.congr same) canClose isBody
  | openString starts lenient isBody => exact .openString (starts.congr same) lenient isBody

/-- The two tokens are equal, or else both are strings. -/
theorem eq_or_string (h : Twin d lexeme after kept dropped) :
    kept = dropped ∨ kept.kind = .string ∧ dropped.kind = .string := by
  cases h with
  | same => exact Or.inl rfl
  | closedString | openString => exact Or.inr ⟨rfl, rfl⟩

end Twin

/-- **A lexeme of one mode has a twin.** -/
theorem Lexeme.exists_twin {lexeme after : List Char} {t : Token} (h : Lexeme d lexeme after t) :
    ∃ kept dropped, Twin d lexeme after kept dropped := by
  by_cases isString : t.kind = .string
  · cases h with
    | closedString starts canClose isBody =>
      obtain ⟨text, isBody⟩ := isBody.exists_mode .drop
      exact ⟨_, _, .closedString starts canClose isBody⟩
    | openString starts lenient isBody =>
      obtain ⟨text, isBody⟩ := isBody.exists_mode .drop
      exact ⟨_, _, .openString starts lenient isBody⟩
    | whole | pointed | keyword | identifier | punctuation | operator => cases isString
  · exact ⟨t, t, .same h isString⟩

/-! ### Whole texts in two modes -/

/-- `Twins d passed after kept dropped`: the text `passed`, with `after` behind it, is
made up of lexemes with a gap in front of each.  They are the tokens `kept` where
backslashes stay in literals, and `dropped` where they are left out. -/
inductive Twins (d : Dialect) : List Char → List Char → List Token → List Token → Prop
  | nil {after : List Char} : Twins d [] after [] []
  | cons {gap lexeme passed after : List Char} {k t : Token} {kept dropped : List Token}
      (isGap : Gap d gap (lexeme ++ (passed ++ after))) (twin : Twin d lexeme (passed ++ after) k t)
      (more : Twins d passed after kept dropped) :
      Twins d (gap ++ lexeme ++ passed) after (k :: kept) (t :: dropped)

namespace Twins

variable {passed after : List Char} {kept dropped : List Token}

theorem keep (h : Twins d passed after kept dropped) :
    Yields { d with escapeMode := .keep } passed after kept := by
  induction h with
  | nil => exact .nil
  | cons isGap twin _ ih =>
    exact .scan (.behind (isGap.congr (d.sameClasses_escapeMode .keep)) (.token twin.keep)) ih

theorem drop (h : Twins d passed after kept dropped) :
    Yields { d with escapeMode := .drop } passed after dropped := by
  induction h with
  | nil => exact .nil
  | cons isGap twin _ ih =>
    exact .scan (.behind (isGap.congr (d.sameClasses_escapeMode .drop)) (.token twin.drop)) ih

/-- Position by position the tokens are equal, or else both are strings. -/
theorem forall₂ (h : Twins d passed after kept dropped) :
    List.Forall₂ (fun k t => k = t ∨ k.kind = .string ∧ t.kind = .string) kept dropped := by
  induction h with
  | nil => exact .nil
  | cons _ twin _ ih => exact .cons twin.eq_or_string ih

end Twins

/-- **Tokens of one mode have twins.** -/
theorem Yields.exists_twins {passed after : List Char} {ts : List Token}
    (h : Yields d passed after ts) : ∃ kept dropped, Twins d passed after kept dropped := by
  induction h with
  | nil => exact ⟨[], [], .nil⟩
  | scan first _ ih =>
    obtain ⟨kept, dropped, twins⟩ := ih
    obtain ⟨gap, lexeme, rfl, isGap, isLexeme⟩ := first.exists_lexeme
    obtain ⟨k, t, twin⟩ := isLexeme.exists_twin
    exact ⟨_, _, .cons isGap twin twins⟩

/-- **A text that breaks off in one mode** breaks off at the same place in either. -/
theorem Breaks.escapeMode {before after : List Char} {ts : List Token} {f : Fault}
    (h : Breaks d before after ts f) (mode : EscapeMode) :
    ∃ ts', Breaks { d with escapeMode := mode } before after ts' f := by
  cases h with
  | behind yields isGap isFault =>
    obtain ⟨kept, dropped, twins⟩ := yields.exists_twins
    have isGap' := isGap.congr (d.sameClasses_escapeMode mode)
    have isFault' := isFault.congr (d.sameClasses_escapeMode mode) rfl
    cases mode with
    | keep => exact ⟨kept, .behind twins.keep isGap' isFault'⟩
    | drop => exact ⟨dropped, .behind twins.drop isGap' isFault'⟩

/-! ### Tokenizing -/

/-- **The escape mode changes only the texts of strings.**  Either both modes fail
with the same error, or both succeed: the source is then made up of the same lexemes
in both, the tokens are equal position by position unless they are strings, and
strings are what their literals are in the two modes. -/
theorem tokenize_escapeMode (d : Dialect) (source : String) :
    let keep := tokenize { d with escapeMode := .keep } source
    let drop := tokenize { d with escapeMode := .drop } source
    (∃ e, keep = .error e ∧ drop = .error e) ∨
      ∃ kept dropped, keep = .ok kept ∧ drop = .ok dropped ∧
        List.Forall₂ (fun k t => k = t ∨ k.kind = .string ∧ t.kind = .string) kept dropped ∧
        ∃ passed gap, source.toList = passed ++ gap ∧ Gap d gap [] ∧
          Twins d passed gap kept dropped := by
  intro keep drop
  generalize whole : source.toList = text
  rcases completes_or_breaks d text with ⟨ts, completes⟩ | ⟨before, after, ts, f, rfl, breaks⟩
  · refine Or.inr ?_
    cases completes with
    | @behind passed gap ts yields isGap =>
      obtain ⟨kept, dropped, twins⟩ := yields.exists_twins
      refine ⟨kept, dropped, ?_, ?_, twins.forall₂, passed, gap, rfl, isGap, twins⟩
      · rw [tokenize_eq_ok_iff_completes, whole]
        exact .behind twins.keep (isGap.congr (d.sameClasses_escapeMode .keep))
      · rw [tokenize_eq_ok_iff_completes, whole]
        exact .behind twins.drop (isGap.congr (d.sameClasses_escapeMode .drop))
  -- The tokens in front of the fault may differ; what is reported depends on the text.
  · refine Or.inl ⟨f.report before after, ?_, ?_⟩
    · obtain ⟨ts', breaks'⟩ := breaks.escapeMode .keep
      exact tokenize_eq_error_iff_breaks.mpr ⟨_, after, ts', f, whole, breaks', rfl⟩
    · obtain ⟨ts', breaks'⟩ := breaks.escapeMode .drop
      exact tokenize_eq_error_iff_breaks.mpr ⟨_, after, ts', f, whole, breaks', rfl⟩

/-- A literal with an escaped delimiter, and one that is open and ends in a backslash. -/
example :
    tokenize { Dialect.standard with escapeMode := .keep } "'a\\'b' 'c\\" =
        .ok [.string "a\\'b", .string "c\\"] ∧
      tokenize { Dialect.standard with escapeMode := .drop } "'a\\'b' 'c\\" =
        .ok [.string "a'b", .string "c"] := by
  decide +kernel

end Lexis
