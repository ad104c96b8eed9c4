import Lexis.Proofs.Contexts
import Lexis.Proofs.Strictness

/-!
# Viable beginnings

An error is reported at the earliest character that cannot be read on.  The text
in front of that character is in order by itself, and no text is that starts with
it and the character (`tokenize_error_earliest`).  So there is no point in looking
for the mistake behind the place that the error names.

* **In front of the fault** (`Breaks.completes_of_strayCharacter`,
  `Breaks.completes_of_secondDot`): the end of the source may take the place of
  what follows, so every token stays what it was; a number that a second point
  spoils is a number without that point.
* **Behind the fault** (`Breaks.extend`): a scan looks at no more than the
  character at fault.

A literal that is not closed is a fault of another kind.  It is found at the end
of the source, and the text behind that may close it; what can be said is that
without strict strings there is nothing to complain about
(`Breaks.completes_of_openLiteral`).
-/

namespace Lexis

variable {d : Dialect}

/-! ### In front of a fault -/

/-- The text in front of a stray character is in order. -/
theorem Breaks.completes_of_strayCharacter {passed after : List Char} {ts : List Token} {c : Char}
    (h : Breaks d passed after ts (.strayCharacter c)) :
    (∃ more, after = c :: more) ∧ Completes d passed ts := by
  cases h with
  | @behind front gap text after ts f yields isGap isFault =>
    cases isFault with
    | strayCharacter starts =>
      refine ⟨⟨_, rfl⟩, ?_⟩
      rw [List.append_nil]
      exact .behind (yields.replace (.truncate d gap _)) (isGap.replace (by simp))

/-- The text in front of a second point is in order: what is in front of the
number, and the number as far as it goes. -/
theorem Breaks.completes_of_secondDot {passed after : List Char} {ts : List Token}
    (h : Breaks d passed after ts .secondDot) :
    (∃ more, after = '.' :: more) ∧
      ∃ front numeral value, passed = front ++ numeral ∧ Completes d front ts ∧
        Decimal.ofNumeral? numeral = some value ∧
        Completes d passed (ts ++ [.number (.ofDecimal value)]) := by
  cases h with
  | @behind front gap numeral after ts f yields isGap isFault =>
    have upToGap : Replaces d (gap ++ (numeral ++ after)) gap := .truncate d gap _
    have upToNumeral := (Replaces.truncate d numeral after).behind gap
    cases isFault with
    | @secondDot c digits fraction more starts areDigits fractionDigits =>
      have isNumeral := Decimal.ofNumeral?_pointed (Piece.digit_of_starts starts areDigits)
        fractionDigits (by simp)
      have isLexeme := Lexeme.pointed starts areDigits fractionDigits (ends_nil _)
      have number := Scans.behind (isGap.replace (by simp)) (.token isLexeme)
      refine ⟨⟨more, rfl⟩, front ++ gap, _, _, (List.append_assoc ..).symm, ?_, isNumeral, ?_⟩
      · exact .behind (yields.replace upToGap) (isGap.replace (by simp))
      · exact (yields.replace upToNumeral).completes (Yields.single number).completes_self

/-- A text that ends in an open literal is in order if literals need not be
closed. -/
theorem Breaks.completes_of_openLiteral {passed after : List Char} {ts : List Token}
    (h : Breaks d passed after ts .openLiteral) :
    after = [] ∧ ∃ text, Completes { d with strictStrings := false } passed
      (ts ++ [.string text]) := by
  obtain ⟨ended, text, endsOpen⟩ := h.endsOpen
  exact ⟨ended, text, endsOpen.completes rfl⟩

/-! ### Behind a fault -/

theorem Faulty.extend {text after after' : List Char} {c : Char} {f : Fault}
    (h : Faulty d text (c :: after) f) : Faulty d text (c :: after') f := by
  cases h with
  | strayCharacter starts => exact .strayCharacter starts
  | secondDot starts areDigits fractionDigits => exact .secondDot starts areDigits fractionDigits

/-- **Nothing behind the character at fault repairs it.** -/
theorem Breaks.extend {passed after after' : List Char} {c : Char} {ts : List Token} {f : Fault}
    (h : Breaks d passed (c :: after) ts f) : Breaks d passed (c :: after') ts f := by
  generalize behind : c :: after = tail at h
  cases h with
  | @behind front gap text tail ts f yields isGap isFault =>
    subst behind
    have sameHead : Replaces d (c :: after) (c :: after') := .of_head? rfl
    refine .behind (yields.replace ((sameHead.behind text).behind gap)) ?_ isFault.extend
    exact isGap.replace (by simp)

/-! ### Errors -/

/-- The error is about the character `c` of the source, between `before` and
`after`, and it is there whatever follows `c`. -/
structure Blames (d : Dialect) (source : String) (before : List Char) (c : Char)
    (after : List Char) (e : LexicalError) : Prop where
  text : source.toList = before ++ c :: after
  range : e.span.range = (byteCount before, byteCount (before ++ [c]))
  irreparable : ∀ continuation : String,
    tokenize d (String.ofList (before ++ [c]) ++ continuation) = .error e

theorem Breaks.blames {source : String} {passed after : List Char} {c : Char} {ts : List Token}
    {f : Fault} (h : Breaks d passed (c :: after) ts f)
    (small : source.utf8ByteSize < UInt32.size) (whole : source.toList = passed ++ c :: after) :
    Blames d source passed c after (f.report passed (c :: after)) where
  text := whole
  range := by
    rw [← byteCount_toList, whole] at small
    exact f.range_report small
  irreparable := by
    intro continuation
    refine tokenize_eq_error_iff_breaks.mpr ⟨passed, c :: continuation.toList, ts, f, ?_, ?_, rfl⟩
    · rw [String.toList_append, String.toList_ofList, List.append_assoc]
      rfl
    · exact h.extend

/-- **An error is reported at the earliest character.**  Let the tokens in front
of the error be `ts`.

* In front of a stray character the source is in order, with the tokens `ts`,
  and no continuation repairs what ends in the character.
* In front of a second point it is in order too, with the tokens `ts` and the
  number up to there.
* Where a literal is not closed, only the demand that it be closed is at fault.
-/
theorem tokenize_error_earliest {source : String} {e : LexicalError}
    (small : source.utf8ByteSize < UInt32.size) (fails : tokenize d source = .error e) :
    ∃ ts : List Token, (Lexer.ofText d source).items = ts.map .ok ++ [.error e] ∧
      match e.code with
      | .unexpectedCharacter => ∃ before c after, Blames d source before c after e ∧
          tokenize d (String.ofList before) = .ok ts
      | .unexpectedDot => ∃ before c after, Blames d source before c after e ∧
          ∃ front numeral value, before = front ++ numeral ∧
            tokenize d (String.ofList front) = .ok ts ∧
            Decimal.ofNumeral? numeral = some value ∧
            tokenize d (String.ofList before) = .ok (ts ++ [.number (.ofDecimal value)])
      | .unterminatedString => ∃ text,
          tokenize { d with strictStrings := false } source = .ok (ts ++ [.string text])
      | .invalidNumber => False := by
  obtain ⟨passed, after, ts, f, whole, breaks, rfl⟩ := tokenize_eq_error_iff_breaks.mp fails
  refine ⟨ts, breaks.items whole, ?_⟩
  cases f with
  | strayCharacter c =>
    obtain ⟨⟨more, rfl⟩, completes⟩ := breaks.completes_of_strayCharacter
    exact ⟨passed, c, more, breaks.blames small whole, completes.tokenize_ofList⟩
  | secondDot =>
    obtain ⟨⟨more, rfl⟩, front, numeral, value, parts, completes, isNumeral, completesNumber⟩ :=
      breaks.completes_of_secondDot
    exact ⟨passed, '.', more, breaks.blames small whole, front, numeral, value, parts,
      completes.tokenize_ofList, isNumeral, completesNumber.tokenize_ofList⟩
  | malformedNumeral text =>
    -- The grammar has no such fault.
    cases breaks with
    | behind yields isGap isFault => cases isFault
  | openLiteral =>
    obtain ⟨rfl, text, completes⟩ := breaks.completes_of_openLiteral
    refine ⟨text, tokenize_eq_ok_iff_completes.mpr ?_⟩
    rw [whole, List.append_nil]
    exact completes

/-- A number with two points, behind a word. -/
theorem tokenize_error_earliest_two_points :
    let e : LexicalError := ⟨.unexpectedDot, "Unexpected dot in number", ⟨0, 5⟩, .ofOffsets 5 6⟩
    ("a 1.2.3" : String).utf8ByteSize < UInt32.size ∧ tokenize .standard "a 1.2.3" = .error e ∧
      ∃ ts : List Token, (Lexer.ofText .standard "a 1.2.3").items = ts.map .ok ++ [.error e] ∧
        ∃ before c after, Blames .standard "a 1.2.3" before c after e ∧
          ∃ front numeral value, before = front ++ numeral ∧
            tokenize .standard (String.ofList front) = .ok ts ∧
            Decimal.ofNumeral? numeral = some value ∧
            tokenize .standard (String.ofList before) =
              .ok (ts ++ [.number (.ofDecimal value)]) := by
  intro e
  have small : ("a 1.2.3" : String).utf8ByteSize < UInt32.size := by decide
  have fails : tokenize .standard "a 1.2.3" = .error e := by decide +kernel
  exact ⟨small, fails, tokenize_error_earliest small fails⟩

end Lexis
