import Lexis.Proofs.Numerals
import Lexis.Proofs.Variants

/-!
# Writing tokens down

`Dialect.spell` writes a token as source of a dialect, and `Dialect.spellAll`
writes a list of them, with a space between each two.  Tokens that come from a
source are found again in what is written (`tokenize_spell`), although it need not
be that source: numbers are written with other digits, literals with other
escapes, and gaps and comments are gone.

* **A token is spelled as a lexeme of its own** (`Lexeme.spell`), which is the token
  in front of a space and at the end of the text.  A literal is written closed, so
  it does not matter whether literals have to be.
* **Escaping gives a body** (`Literal.body_escape`), provided that the delimiter can
  close a literal, and that escaping backslashes are left out again.
* **A number is spelled as a numeral** (`numeral_write`), which starts with a digit.
  No digit may start anything else, since other digits than those of the source may
  come first.
-/

namespace Lexis

/-! ### Spelling -/

namespace Dialect

/-- A character in a literal: a backslash and the delimiter are escaped. -/
def escape (d : Dialect) (c : Char) : List Char :=
  if c = '\\' ∨ c = d.stringDelimiter then ['\\', c] else [c]

/-- A token as source of the dialect. -/
def spell (d : Dialect) : Token → List Char
  | .number value => value.write .plain
  | .string text => d.stringDelimiter :: (text.toList.flatMap d.escape ++ [d.stringDelimiter])
  | .keyword text | .identifier text | .operator text | .punctuation text => text.toList

/-- Tokens as source of the dialect, with a space between each two. -/
def spellAll (d : Dialect) (ts : List Token) : String :=
  String.ofList (List.intercalate [' '] (ts.map d.spell))

end Dialect

variable {d : Dialect}

/-! ### What a space ends -/

/-- The text is over or goes on with a space. -/
def Spaced (after : List Char) : Prop := ∀ c ∈ after.head?, c = ' '

theorem spaced_nil : Spaced [] := by
  intro c mem
  cases mem

theorem spaced_cons (text : List Char) : Spaced (' ' :: text) := by
  rintro _ ⟨⟩
  rfl

theorem Spaced.ends {accepts : Char → Bool} {after : List Char} (h : Spaced after)
    (stops : accepts ' ' = false) : Ends accepts after := by
  intro c mem
  rw [h c mem]
  exact stops

/-! ### One token -/

/-- **Escaping gives a body** that denotes the text. -/
theorem Literal.body_escape (d : Dialect) (text : List Char) :
    Body .drop d.stringDelimiter false (text.flatMap d.escape) text := by
  induction text with
  | nil => exact .nil
  | cons c text ih =>
    rw [List.flatMap_cons]
    unfold Dialect.escape
    split
    · exact .escape ih
    · next unescaped =>
      obtain ⟨noEscape, noClose⟩ := not_or.mp unescaped
      exact .plain noEscape noClose ih

/-- A digit starts a number, unless it marks comments or opens literals. -/
theorem Dialect.starts_digit {c : Char} (noDelimiter : isDigit d.stringDelimiter = false)
    (noMarker : isDigit d.commentMarker = false) (digit : isDigit c = true) :
    d.Starts .digit c := by
  have unmarked : c ≠ d.commentMarker := by
    rintro rfl
    simp [digit] at noMarker
  have unopened : c ≠ d.stringDelimiter := by
    rintro rfl
    simp [digit] at noDelimiter
  exact starts_iff.mpr ⟨noBlank_of_isDigit digit, by simp [classify, unmarked, unopened, digit]⟩

/-- A numeral is a lexeme where digits start numbers. -/
theorem Numeral.lexeme {text after : List Char} {n : Decimal} (h : Numeral text n)
    (starts : ∀ c, isDigit c = true → d.Starts .digit c) (spaced : Spaced after) :
    Lexeme d text after (.number (.ofDecimal n)) := by
  have ends : Ends isNumeralChar after := spaced.ends (by decide)
  cases h with
  | whole areDigits =>
    obtain ⟨digit, areDigits⟩ := List.forall_mem_cons.mp areDigits
    exact .whole (starts _ digit) areDigits ends
  | pointed areDigits fractionDigits =>
    obtain ⟨digit, areDigits⟩ := List.forall_mem_cons.mp areDigits
    exact .pointed (starts _ digit) areDigits fractionDigits ends

/-- Tokens of the dialect can be written down: a backslash in a literal only
escapes, a space ends an operator, literals can be closed, and what a digit starts
is a number. -/
structure Dialect.Spells (d : Dialect) : Prop where
  drops : d.escapeMode = .drop
  noSpace : d.isOperator ' ' = false
  canClose : d.stringDelimiter ≠ '\\'
  noDelimiter : isDigit d.stringDelimiter = false
  noMarker : isDigit d.commentMarker = false

namespace Lexeme

variable (strict : Bool) {after : List Char}

theorem spell_literal (spells : d.Spells) {q : Char} (starts : d.Starts .stringStart q)
    (text : List Char) : Lexeme { d with strictStrings := strict }
      (d.spell (.string (String.ofList text))) after (.string (String.ofList text)) := by
  obtain rfl : q = d.stringDelimiter := by simpa [Dialect.claims] using starts.claimed
  have isBody := Literal.body_escape d text
  rw [← spells.drops] at isBody
  have closed : Lexeme { d with strictStrings := strict } _ after _ :=
    .closedString (starts.strictness strict) spells.canClose isBody
  simpa [Dialect.spell] using closed

theorem spell_number (spells : d.Spells) {n : Decimal}
    (finite : (Binary64.ofDecimal n).isFinite = true) (spaced : Spaced after) :
    Lexeme { d with strictStrings := strict } (d.spell (.number (.ofDecimal n))) after
      (.number (.ofDecimal n)) := by
  obtain ⟨written, numeral, same⟩ := numeral_write finite rfl
  have starts (c : Char) (digit : isDigit c = true) :=
    (Dialect.starts_digit spells.noDelimiter spells.noMarker digit).strictness strict
  have isLexeme := numeral.lexeme starts spaced
  rwa [same] at isLexeme

/-- **A token is spelled as a lexeme of its own**, whatever its lexeme was. -/
theorem spell {lexeme behind : List Char} {t : Token} (h : Lexeme d lexeme behind t)
    (spells : d.Spells) (finite : ∀ value, t = .number value → value.isFinite = true)
    (spaced : Spaced after) :
    Lexeme { d with strictStrings := strict } (d.spell t) after t := by
  cases h with
  | closedString starts => exact spell_literal strict spells starts _
  | openString starts => exact spell_literal strict spells starts _
  | whole => exact spell_number strict spells (finite _ rfl) spaced
  | pointed => exact spell_number strict spells (finite _ rfl) spaced
  | keyword starts isWord _ listed =>
    have ends : Ends isIdentifierChar after := spaced.ends (by decide)
    have word := Lexeme.keyword (starts.strictness strict) isWord ends listed
    simpa [Dialect.spell] using word
  | identifier starts isWord _ unlisted =>
    have ends : Ends isIdentifierChar after := spaced.ends (by decide)
    have word := Lexeme.identifier (starts.strictness strict) isWord ends unlisted
    simpa [Dialect.spell] using word
  | punctuation starts =>
    have sign : Lexeme { d with strictStrings := strict } _ after _ :=
      .punctuation (starts.strictness strict)
    simpa [Dialect.spell] using sign
  | operator starts areSigns =>
    have ends : Ends d.isOperator after := spaced.ends spells.noSpace
    have run := Lexeme.operator (starts.strictness strict) areSigns ends
    simpa [Dialect.spell] using run

end Lexeme

/-! ### All tokens -/

/-- **Lexemes with spaces between them** are found one after another. -/
theorem completes_intercalate {spell : Token → List Char} {ts : List Token}
    (isLexeme : ∀ t ∈ ts, ∀ after, Spaced after → Lexeme d (spell t) after t) :
    Completes d (List.intercalate [' '] (ts.map spell)) ts := by
  have space : Pads d [' '] := fun _ _ isGap => .blank (by decide) isGap
  induction ts with
  | nil => exact Yields.nil.completes_self
  | cons t ts ih =>
    obtain ⟨first, others⟩ := List.forall_mem_cons.mp isLexeme
    have here {after : List Char} (spaced : Spaced after) : Yields d (spell t) after [t] :=
      .single (.behind .nil (.token (first after spaced)))
    cases ts with
    | nil => simpa using (here spaced_nil).completes_self
    | cons u ts =>
      have both := (here (spaced_cons _)).completes ((ih others).prepend space)
      simpa [List.intercalate_cons_cons] using both

/-- **Tokens that are written down are found again**, whether literals have to be
closed or not. -/
theorem tokenize_spell {source : String} {ts : List Token} (spells : d.Spells)
    (lexes : tokenize d source = .ok ts)
    (finite : ∀ value, .number value ∈ ts → value.isFinite = true) (strict : Bool) :
    tokenize { d with strictStrings := strict } (d.spellAll ts) = .ok ts := by
  have completes := tokenize_eq_ok_iff_completes.mp lexes
  apply Completes.tokenize_ofList
  apply completes_intercalate
  intro t mem after spaced
  obtain ⟨lexeme, behind, isLexeme⟩ := completes.exists_lexeme t mem
  refine isLexeme.spell strict spells ?_ spaced
  rintro value rfl
  exact finite value mem

/-- The literal is closed and keeps its escape, and the number has lost its zeros. -/
theorem tokenize_spell_open_literal :
    let ts := [.keyword "let", .identifier "x", .operator "=", .number (.ofDecimal ⟨150, -2⟩),
      .operator "+", .string "it's # 1"]
    Dialect.standard.Spells ∧ tokenize .standard "let x= 01.50+'it\\'s # 1" = .ok ts ∧
      (∀ value, .number value ∈ ts → value.isFinite = true) ∧
      Dialect.standard.spellAll ts = "let x = 1.5 + 'it\\'s # 1'" ∧
      tokenize { Dialect.standard with strictStrings := true } (Dialect.standard.spellAll ts) =
        .ok ts := by
  intro ts
  have spells : Dialect.standard.Spells :=
    ⟨by decide, by decide, by decide, by decide, by decide⟩
  have lexes : tokenize .standard "let x= 01.50+'it\\'s # 1" = .ok ts := by decide +kernel
  have finite : ∀ value, .number value ∈ ts → value.isFinite = true := by
    intro value mem
    obtain rfl : value = .ofDecimal ⟨150, -2⟩ := by simpa [ts] using mem
    decide +kernel
  have written : Dialect.standard.spellAll ts = "let x = 1.5 + 'it\\'s # 1'" := by decide +kernel
  exact ⟨spells, lexes, finite, written, tokenize_spell spells lexes finite true⟩

end Lexis
