import Lexis.Diagnostic
import Lexis.Proofs.Closing
import Lexis.Proofs.Extension
import Lexis.Proofs.Strictness

/-!
# Literals that are closed afterwards

A strict dialect asks for a literal at the end of a text to be closed, and the help for
that says how: by one more delimiter.  That it helps depends on how the text ends
(`tokenize_push_delimiter`):

* **If no escape is pending**, the delimiter closes the literal.  The strict dialect then
  finds the tokens that the lenient one had found without it (`EndsOpen.completes_push`).
* **If a backslash waits** for a character to escape, it takes the delimiter, and the
  literal is open as before, one character later (`EndsOpen.push`).

The second case is also that of every delimiter that is a backslash, since that escapes
what comes next instead of closing anything.
-/

namespace Lexis

namespace Literal

variable {mode : EscapeMode} {q : Char} {body text : List Char}

/-- What waits behind a character that is no backslash has come behind it. -/
theorem pending_behind {c : Char} (noEscape : c ≠ '\\') (front body : List Char) :
    pending (front ++ c :: body) = pending body := by
  simp [pending, noEscape]

/-- **A body behind which nothing waits** can be closed. -/
theorem Body.close (h : Body mode q true body text) (settled : pending body = false) :
    Body mode q false body text := by
  induction h with
  | nil => exact .nil
  | plain noEscape noClose _ ih =>
    rw [pending_plain noEscape] at settled
    exact .plain noEscape noClose (ih settled)
  | escape _ ih =>
    rw [pending_escape] at settled
    exact .escape (ih settled)
  | dangle => cases settled

/-- **A body stays open** with one more character, unless that is a delimiter for which
nothing waits. -/
theorem Body.push {c : Char} (h : Body mode q true body text)
    (staysOpen : c = q → q = '\\' ∨ pending body = true) :
    ∃ text', Body mode q true (body ++ [c]) text' := by
  rcases h.extend [c] with ⟨part, added, after, whole, canClose, isBody⟩ | ⟨added, isBody⟩
  · -- The only character behind the body would be the delimiter, right behind it.
    cases part with
    | cons x part => simp at whole
    | nil =>
      obtain ⟨isDelimiter, -⟩ := List.cons.inj whole
      rw [List.append_nil] at isBody
      rcases staysOpen isDelimiter with isBackslash | waits
      · exact absurd isBackslash canClose
      · rw [isBody.not_pending] at waits
        cases waits
  · exact ⟨_, isBody⟩

end Literal

variable {d : Dialect} {text : List Char} {ts : List Token}

/-! ### One more character -/

namespace EndsOpen

/-- Whether literals have to be closed does not matter to whether one is. -/
theorem strictness (h : EndsOpen d text ts) (strict : Bool) :
    EndsOpen { d with strictStrings := strict } text ts := by
  cases h with
  | behind yields isGap starts isBody =>
    exact .behind (yields.strictness strict (by simp)) (isGap.strictness strict)
      (starts.strictness strict) isBody

/-- **A delimiter closes the literal** if no escape is pending, and the tokens are those
that there are without it. -/
theorem completes_push (h : EndsOpen d text ts) (canClose : d.stringDelimiter ≠ '\\')
    (settled : Literal.pending text = false) : Completes d (text ++ [d.stringDelimiter]) ts := by
  cases h with
  | @behind front gap body value q ts yields isGap starts isBody =>
    obtain rfl : q = d.stringDelimiter := of_decide_eq_true starts.claimed
    rw [← List.append_assoc, Literal.pending_behind canClose] at settled
    have isLexeme : Lexeme d (d.stringDelimiter :: (body ++ [d.stringDelimiter])) [] _ :=
      .closedString starts canClose (isBody.close settled)
    have isGap' : Gap d gap (d.stringDelimiter :: (body ++ [d.stringDelimiter]) ++ []) :=
      isGap.replace (by simp)
    have last := (Yields.single (.behind isGap' (.token isLexeme))).completes_self
    have first := yields.extend (by simp) [d.stringDelimiter]
    simp only [List.append_assoc, List.cons_append] at first last ⊢
    exact first.completes last

/-- **Any other character leaves the literal open**, and so does a delimiter that is
escaped. -/
theorem push {c : Char} (h : EndsOpen d text ts)
    (staysOpen : c = d.stringDelimiter → d.stringDelimiter = '\\' ∨ Literal.pending text = true) :
    ∃ ts', EndsOpen d (text ++ [c]) ts' := by
  cases h with
  | @behind front gap body value q ts yields isGap starts isBody =>
    obtain rfl : q = d.stringDelimiter := of_decide_eq_true starts.claimed
    obtain ⟨value', isBody'⟩ : ∃ value', Literal.Body d.escapeMode d.stringDelimiter true
        (body ++ [c]) value' := by
      refine isBody.push fun isDelimiter => ?_
      by_cases isBackslash : d.stringDelimiter = '\\'
      · exact Or.inl isBackslash
      · rcases staysOpen isDelimiter with same | waits
        · exact absurd same isBackslash
        · rw [← List.append_assoc, Literal.pending_behind isBackslash] at waits
          exact Or.inr waits
    have first := yields.extend (by simp) [c]
    have isGap' : Gap d gap (d.stringDelimiter :: (body ++ [c])) := isGap.replace (by simp)
    simp only [List.append_assoc, List.cons_append] at first ⊢
    exact ⟨_, .behind first isGap' starts isBody'⟩

end EndsOpen

/-! ### Tokenizing -/

variable {source : String} {e : LexicalError}

/-- Where tokenizing asks for a literal to be closed, the text ends in that literal, and
the dialect is a strict one. -/
theorem exists_endsOpen_of_tokenize (fails : tokenize d source = .error e)
    (code : e.code = .unterminatedString) :
    d.strictStrings = true ∧ ∃ ts, EndsOpen d source.toList ts := by
  obtain ⟨passed, after, ts, f, whole, breaks, rfl⟩ := tokenize_eq_error_iff_breaks.mp fails
  cases f with
  | strayCharacter | malformedNumeral | secondDot => cases code
  | openLiteral =>
    have strict : d.strictStrings = true := by
      cases breaks with
      | behind _ _ isFault => exact isFault.strict_of_openLiteral
    obtain ⟨rfl, value, endsOpen⟩ := breaks.endsOpen
    have endsOpen := endsOpen.strictness d.strictStrings
    rw [whole, List.append_nil]
    exact ⟨strict, _, endsOpen⟩

/-- An open literal is reported by a strict dialect, at the end of the text. -/
theorem EndsOpen.exists_error (h : EndsOpen d source.toList ts) (strict : d.strictStrings = true) :
    ∃ e, e.IsOpenEnd source ∧ tokenize d source = .error e := by
  have breaks := h.breaks
  rw [← strict] at breaks
  have whole : source.toList = source.toList ++ [] := (List.append_nil _).symm
  exact ⟨_, Fault.isOpenEnd source,
    tokenize_eq_error_iff_breaks.mpr ⟨_, _, _, _, whole, breaks, rfl⟩⟩

/-- **One more delimiter closes a literal unless it is escaped.**  Let tokenizing fail
since a literal is not closed; the help for that names the quote.  Let `ts` be the tokens
that are found if literals need not be closed.

* If the delimiter is no backslash, and the source ends in an even number of backslashes,
  then the source with one more delimiter has the tokens `ts`.
* Otherwise tokenizing fails again, since the literal is open at the new end.
-/
theorem tokenize_push_delimiter (fails : tokenize d source = .error e)
    (code : e.code = .unterminatedString) :
    let lenient := { d with strictStrings := false }
    let closed := source.push d.stringDelimiter
    let closes := d.stringDelimiter ≠ '\\' ∧ Even (Literal.backslashesAtEnd source.toList)
    (Diagnostic.ofError e).help = some "add a closing `'` to terminate the string" ∧
    ∃ ts, tokenize lenient source = .ok ts ∧
      (closes → tokenize d closed = .ok ts) ∧
      (¬ closes → ∃ e', e'.IsOpenEnd closed ∧ tokenize d closed = .error e') := by
  intro lenient closed closes
  obtain ⟨strict, ts, endsOpen⟩ := exists_endsOpen_of_tokenize fails code
  have pushed : closed.toList = source.toList ++ [d.stringDelimiter] := String.toList_push ..
  refine ⟨congrArg ErrorCode.suggestion code, ts, ?_, ?_, ?_⟩
  · exact tokenize_eq_ok_iff_completes.mpr ((endsOpen.strictness false).completes rfl)
  · rintro ⟨canClose, even⟩
    rw [tokenize_eq_ok_iff_completes, pushed]
    exact endsOpen.completes_push canClose ((Literal.even_iff_not_pending _).mp even)
  · intro staysOpen
    obtain ⟨ts', stillOpen⟩ : ∃ ts', EndsOpen d closed.toList ts' := by
      rw [pushed]
      refine endsOpen.push fun _ => ?_
      by_contra neither
      rw [not_or, Bool.not_eq_true] at neither
      exact staysOpen ⟨neither.1, (Literal.even_iff_not_pending _).mpr neither.2⟩
    exact stillOpen.exists_error strict

/-- Behind two backslashes, one of which escapes the other, a quote closes. -/
theorem tokenize_push_delimiter_two_backslashes :
    let strict : Dialect := { Dialect.standard with strictStrings := true }
    let source := "x 'a\\\\"
    let e : LexicalError :=
      ⟨.unterminatedString, "Unterminated string literal", ⟨0, 6⟩, .point 6⟩
    tokenize strict source = .error e ∧ e.code = .unterminatedString ∧
      ∃ ts, tokenize .standard source = .ok ts ∧
        tokenize strict (source.push '\'') = .ok ts := by
  intro strict source e
  have fails : tokenize strict source = .error e := by decide +kernel
  obtain ⟨-, ts, lenient, closes, -⟩ := tokenize_push_delimiter fails rfl
  exact ⟨fails, rfl, ts, lenient, closes ⟨by decide, by decide +kernel⟩⟩

/-- **The quote that the help names does not always close the literal.**  Behind one
backslash it is escaped, and where another character is the delimiter it belongs to the
literal. -/
theorem closing_quote_in_literal :
    let strict : Dialect := { Dialect.standard with strictStrings := true }
    let quoted : Dialect := { strict with stringDelimiter := '"' }
    let error (column : Nat) : LexicalError :=
      ⟨.unterminatedString, "Unterminated string literal", ⟨0, column⟩, .point column⟩
    (tokenize strict "'a\\" = .error (error 3) ∧
      tokenize strict ("'a\\".push '\'') = .error (error 4)) ∧
    (tokenize quoted "\"a" = .error (error 2) ∧
      tokenize quoted ("\"a".push '\'') = .error (error 3)) := by
  decide +kernel

end Lexis
