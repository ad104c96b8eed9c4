import Lexis.Proofs.Yields

/-!
# What stands behind a token

A token is judged with the text behind it, because a run is as long as it can be
and only the end of the source closes an unfinished literal.  The token does not
depend on more of that text than this: it stays the same if another text takes
the place of the one behind it, as long as no run that stopped there goes on and
no literal that ended with the source is continued (`Replaces`).

Two texts may always take the place of another one: the empty text, and a text
with the same first character.  Both kinds are kept if something is put in front
(`Replaces.behind`), and with that a whole list of tokens keeps what it was
(`Yields.replace`).
-/

namespace Lexis

theorem Ends.of_head? {accepts : Char → Bool} {after after' : List Char} (h : Ends accepts after)
    (head : ∀ c ∈ after'.head?, c ∈ after.head?) : Ends accepts after' := by
  intro c mem
  exact h c (head c mem)

/-- `after'` may take the place of `after` behind a token. -/
structure Replaces (d : Dialect) (after after' : List Char) : Prop where
  numeral : Ends isNumeralChar after → Ends isNumeralChar after'
  word : Ends isIdentifierChar after → Ends isIdentifierChar after'
  operator : Ends d.isOperator after → Ends d.isOperator after'
  literal : d.strictStrings = false → after = [] → after' = []

namespace Replaces

variable {d : Dialect}

theorem of_head? {after after' : List Char} (head : after'.head? = after.head?) :
    Replaces d after after' where
  numeral ends := ends.of_head? (by simp [head])
  word ends := ends.of_head? (by simp [head])
  operator ends := ends.of_head? (by simp [head])
  literal := by
    rintro - rfl
    exact List.head?_eq_none_iff.mp head

theorem nil (d : Dialect) (after : List Char) : Replaces d after [] where
  numeral _ := ends_nil _
  word _ := ends_nil _
  operator _ := ends_nil _
  literal _ _ := rfl

/-- **Putting a text in front of both** keeps that one may take the place of the
other: unless it is empty, it is what the tokens before it see. -/
theorem behind {after after' : List Char} (h : Replaces d after after') (text : List Char) :
    Replaces d (text ++ after) (text ++ after') := by
  cases text with
  | nil => exact h
  | cons c text => exact .of_head? rfl

/-- The end of the source may take the place of any text. -/
theorem truncate (d : Dialect) (text after : List Char) : Replaces d (text ++ after) text := by
  have cut := (nil d after).behind text
  rwa [List.append_nil] at cut

end Replaces

/-! ### Gaps, lexemes and tokens -/

variable {d : Dialect}

theorem Gap.replace {gap after after' : List Char} (h : Gap d gap after)
    (ended : after = [] → after' = []) : Gap d gap after' := by
  induction h with
  | nil => exact .nil
  | blank isBlank_c _ ih => exact .blank isBlank_c (ih ended)
  | comment marks oneLine _ ih => exact .comment marks oneLine (ih ended)
  | lastComment marks oneLine =>
    rw [ended rfl]
    exact .lastComment marks oneLine

/-- **A lexeme stays the token that it is** if the text behind it is replaced. -/
theorem Lexeme.replace {lexeme after after' : List Char} {t : Token} (h : Lexeme d lexeme after t)
    (replaces : Replaces d after after') : Lexeme d lexeme after' t := by
  cases h with
  | closedString starts canClose isBody => exact .closedString starts canClose isBody
  | openString starts lenient isBody =>
    rw [replaces.literal lenient rfl]
    exact .openString starts lenient isBody
  | whole starts areDigits ends => exact .whole starts areDigits (replaces.numeral ends)
  | pointed starts areDigits fractionDigits ends =>
    exact .pointed starts areDigits fractionDigits (replaces.numeral ends)
  | keyword starts isWord ends listed =>
    exact .keyword starts isWord (replaces.word ends) listed
  | identifier starts isWord ends unlisted =>
    exact .identifier starts isWord (replaces.word ends) unlisted
  | punctuation starts => exact .punctuation starts
  | operator starts areSigns ends => exact .operator starts areSigns (replaces.operator ends)

theorem Scans.replace {text after after' : List Char} {t : Token}
    (h : Scans d text after (.ok (some t))) (replaces : Replaces d after after') :
    Scans d text after' (.ok (some t)) := by
  obtain ⟨gap, lexeme, rfl, isGap, isLexeme⟩ := h.exists_lexeme
  refine .behind (isGap.replace ?_) (.token (isLexeme.replace replaces))
  -- The gap is in front of the lexeme, so it is not in front of the end.
  intro ended
  exact absurd (List.append_eq_nil_iff.mp ended).1 isLexeme.ne_nil

/-- **Tokens stay what they are** if the text behind the last of them is
replaced. -/
theorem Yields.replace {passed after after' : List Char} {ts : List Token}
    (h : Yields d passed after ts) (replaces : Replaces d after after') :
    Yields d passed after' ts := by
  induction h with
  | nil => exact .nil
  | @scan text passed after t ts first _ ih =>
    exact .scan (first.replace (replaces.behind passed)) (ih replaces)

end Lexis
