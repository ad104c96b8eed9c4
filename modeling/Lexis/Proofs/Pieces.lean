import Lexis.Proofs.Grammar

/-!
# Pieces and the grammar

`Piece.first` finds the piece that a text starts with.  Here it is shown to find
what the grammar says, in two halves that complete each other:

* **It finds what is there.**  In front of a lexeme or a fault of the grammar
  `Piece.first` finds just that one (`first_of_lexeme`, `first_of_faulty`).
* **Something is there.**  Every text starts with a blank, a comment, a lexeme
  or a fault (`startsFound_of_noGap`).

So there is one thing to find at each place (`Finds.unique`), and `Piece.first`
finds it (`finds_of_first`).  Blanks and comments are only shown to be part of a
gap: the pieces of a gap are runs of blanks, its parts in the grammar single
ones.
-/

namespace Lexis

/-! ### Numerals -/

theorem Decimal.ofNumeral?_whole {digits : List Char} (areDigits : ∀ x ∈ digits, isDigit x = true)
    (nonempty : digits ≠ []) : ofNumeral? digits = some ⟨ofDigits digits, 0⟩ := by
  have inside : ∀ x ∈ digits, x.isDigit = true := areDigits
  have run := takeWhile_run inside (ends_nil _)
  have left := dropWhile_run inside (ends_nil _)
  rw [List.append_nil] at run left
  simp [ofNumeral?, run, left, nonempty]

theorem Decimal.ofNumeral?_pointed {digits fraction : List Char}
    (areDigits : ∀ x ∈ digits, isDigit x = true)
    (fractionDigits : ∀ x ∈ fraction, isDigit x = true) (nonempty : digits ≠ []) :
    ofNumeral? (digits ++ '.' :: fraction) =
      some ⟨ofDigits (digits ++ fraction), -fraction.length⟩ := by
  have inside : ∀ x ∈ digits, x.isDigit = true := areDigits
  have ends : Ends Char.isDigit ('.' :: fraction) := by simp [Ends]
  have all : fraction.all Char.isDigit = true := List.all_eq_true.mpr fractionDigits
  simp [ofNumeral?, takeWhile_run inside ends, dropWhile_run inside ends, all, nonempty]

/-- What a piece is found to be, if it is not skipped. -/
def Reading.found : Reading → Found
  | .token t => .ok (some t)
  | .fault f => .error f
  | .blank | .comment => .ok none

namespace Piece

theorem ends_digit_dot (after : List Char) : Ends isDigit ('.' :: after) := by
  rintro _ ⟨⟩
  decide

theorem ends_digit_of_numeralChar {after : List Char} (ends : Ends isNumeralChar after) :
    Ends isDigit after :=
  ends.mono fun c digit => by simp [isNumeralChar, digit]

theorem ends_numeralChar {after : List Char} (ends : Ends isDigit after)
    (undotted : after.head? ≠ some '.') : Ends isNumeralChar after := by
  intro c mem
  have noDot : c ≠ '.' := by
    rintro rfl
    exact undotted mem
  simp [isNumeralChar, ends c mem, noDot]

theorem number_whole {digits after : List Char} (areDigits : ∀ x ∈ digits, isDigit x = true)
    (nonempty : digits ≠ []) (ends : Ends isNumeralChar after) :
    number (digits ++ after) =
      ⟨digits, .token (.number (.ofDecimal ⟨Decimal.ofDigits digits, 0⟩))⟩ := by
  have digitsEnd := ends_digit_of_numeralChar ends
  unfold number
  rw [takeWhile_run areDigits digitsEnd, dropWhile_run areDigits digitsEnd]
  dsimp only
  split
  · have := ends '.' rfl
    simp [isNumeralChar] at this
  · rw [numeral, Decimal.ofNumeral?_whole areDigits nonempty]

/-- Digits and a point make a number, which a further point spoils. -/
theorem number_dot {digits : List Char} (areDigits : ∀ x ∈ digits, isDigit x = true)
    (after : List Char) :
    number (digits ++ '.' :: after) =
      match after.dropWhile isDigit with
        | '.' :: _ => ⟨digits ++ '.' :: after.takeWhile isDigit, .fault .secondDot⟩
        | _ => numeral (digits ++ '.' :: after.takeWhile isDigit) := by
  unfold number
  rw [takeWhile_run areDigits (ends_digit_dot _), dropWhile_run areDigits (ends_digit_dot _)]
  rfl

theorem number_pointed {digits fraction after : List Char}
    (areDigits : ∀ x ∈ digits, isDigit x = true)
    (fractionDigits : ∀ x ∈ fraction, isDigit x = true) (nonempty : digits ≠ [])
    (ends : Ends isNumeralChar after) :
    number (digits ++ '.' :: (fraction ++ after)) =
      ⟨digits ++ '.' :: fraction, .token (.number
        (.ofDecimal ⟨Decimal.ofDigits (digits ++ fraction), -fraction.length⟩))⟩ := by
  have fractionEnd := ends_digit_of_numeralChar ends
  rw [number_dot areDigits, takeWhile_run fractionDigits fractionEnd,
    dropWhile_run fractionDigits fractionEnd]
  split
  · have := ends '.' rfl
    simp [isNumeralChar] at this
  · rw [numeral, Decimal.ofNumeral?_pointed areDigits fractionDigits nonempty]

theorem number_secondDot {digits fraction after : List Char}
    (areDigits : ∀ x ∈ digits, isDigit x = true)
    (fractionDigits : ∀ x ∈ fraction, isDigit x = true) :
    number (digits ++ '.' :: (fraction ++ '.' :: after)) =
      ⟨digits ++ '.' :: fraction, .fault .secondDot⟩ := by
  rw [number_dot areDigits, takeWhile_run fractionDigits (ends_digit_dot _),
    dropWhile_run fractionDigits (ends_digit_dot _)]
  rfl

/-! ### The first piece of a text -/

variable {d : Dialect}

theorem first_of_noBlank {c : Char} (noBlank : isBlank c = false) (rest : List Char) :
    first d c rest = match d.classify c with
      | .comment => comment (c :: rest)
      | .stringStart => string d c rest
      | .digit => number (c :: rest)
      | .identStart => word d (c :: rest)
      | .punctuation => ⟨[c], .token (.punctuation c.toString)⟩
      | .operator => operator d (c :: rest)
      | .unrecognized => ⟨[], .fault (.strayCharacter c)⟩ := by
  unfold first
  rw [noBlank]
  rfl

theorem digit_of_starts {c : Char} {digits : List Char} (starts : d.Starts .digit c)
    (areDigits : ∀ x ∈ digits, isDigit x = true) : ∀ x ∈ c :: digits, isDigit x = true :=
  List.forall_mem_cons.mpr ⟨starts.claimed, areDigits⟩

theorem word_run {run after : List Char} (isWord : ∀ x ∈ run, isIdentifierChar x = true)
    (ends : Ends isIdentifierChar after) :
    word d (run ++ after) = ⟨run, .token (if d.isKeyword (String.ofList run) then
      .keyword (String.ofList run) else .identifier (String.ofList run))⟩ := by
  rw [word, takeWhile_run isWord ends]

theorem operator_run {run after : List Char} (areSigns : ∀ x ∈ run, d.isOperator x = true)
    (ends : Ends d.isOperator after) :
    operator d (run ++ after) = ⟨run, .token (.operator (String.ofList run))⟩ := by
  rw [operator, takeWhile_run areSigns ends]

theorem first_of_lexeme_cons {c : Char} {more after : List Char} {t : Token}
    (h : Lexeme d (c :: more) after t) : first d c (more ++ after) = ⟨c :: more, .token t⟩ := by
  cases h with
  | closedString starts canClose isBody =>
    rw [first_of_noBlank starts.noBlank, starts.classify, List.append_assoc]
    simp [string, Literal.read_of_body isBody canClose, Literal.text,
      Literal.decode_of_body isBody]
  | openString starts lenient isBody =>
    rw [first_of_noBlank starts.noBlank, starts.classify, List.append_nil]
    simp [string, Literal.read_of_openBody isBody, Literal.text, Literal.decode_of_body isBody,
      lenient]
  | whole starts areDigits ends =>
    rw [first_of_noBlank starts.noBlank, starts.classify]
    exact number_whole (digit_of_starts starts areDigits) (by simp) ends
  | pointed starts areDigits fractionDigits ends =>
    rw [first_of_noBlank starts.noBlank, starts.classify, List.append_assoc]
    exact number_pointed (digit_of_starts starts areDigits) fractionDigits (by simp) ends
  | keyword starts isWord ends listed =>
    rw [first_of_noBlank starts.noBlank, starts.classify]
    have run := word_run (d := d) (List.forall_mem_cons.mpr ⟨starts.claimed, isWord⟩) ends
    rw [Dialect.isKeyword, List.contains_iff_mem.mpr listed] at run
    exact run
  | identifier starts isWord ends unlisted =>
    rw [first_of_noBlank starts.noBlank, starts.classify]
    have run := word_run (d := d) (List.forall_mem_cons.mpr ⟨starts.claimed, isWord⟩) ends
    rw [if_neg (by simpa [Dialect.isKeyword] using unlisted)] at run
    exact run
  | punctuation starts =>
    rw [first_of_noBlank starts.noBlank, starts.classify]
  | operator starts areSigns ends =>
    rw [first_of_noBlank starts.noBlank, starts.classify]
    exact operator_run (List.forall_mem_cons.mpr ⟨starts.claimed, areSigns⟩) ends

/-- **A lexeme is found**: it is the first piece of the text that it starts. -/
theorem first_of_lexeme {c : Char} {rest lexeme after : List Char} {t : Token}
    (h : Lexeme d lexeme after t) (same : c :: rest = lexeme ++ after) :
    first d c rest = ⟨lexeme, .token t⟩ := by
  obtain ⟨x, more, rfl⟩ := List.exists_cons_of_ne_nil h.ne_nil
  rw [List.cons_append] at same
  obtain ⟨rfl, rfl⟩ := List.cons.inj same
  exact first_of_lexeme_cons h

/-- **A fault is found.** -/
theorem first_of_faulty {c : Char} {rest text after : List Char} {f : Fault}
    (h : Faulty d text after f) (same : c :: rest = text ++ after) :
    first d c rest = ⟨text, .fault f⟩ := by
  cases h with
  | strayCharacter starts =>
    obtain ⟨rfl, rfl⟩ := List.cons.inj same
    rw [first_of_noBlank starts.noBlank, starts.classify]
  | secondDot starts areDigits fractionDigits =>
    rw [List.cons_append] at same
    obtain ⟨rfl, rfl⟩ := List.cons.inj same
    rw [first_of_noBlank starts.noBlank, starts.classify, List.append_assoc]
    exact number_secondDot (digit_of_starts starts areDigits) fractionDigits
  | openLiteral starts strict isBody =>
    rw [List.cons_append] at same
    obtain ⟨rfl, rfl⟩ := List.cons.inj same
    rw [first_of_noBlank starts.noBlank, starts.classify, List.append_nil]
    simp [string, Literal.read_of_openBody isBody, Literal.text, strict]

/-- What is to be found is found. -/
theorem first_of_finds {c : Char} {rest text after : List Char} {found : Found}
    (h : Finds d text after found) (same : c :: rest = text ++ after) :
    (first d c rest).text = text ∧ (first d c rest).reading.found = found := by
  cases h with
  | ended => cases same
  | token isLexeme =>
    rw [first_of_lexeme isLexeme same]
    exact ⟨rfl, rfl⟩
  | fault isFault =>
    rw [first_of_faulty isFault same]
    exact ⟨rfl, rfl⟩

/-! ### Every text starts with something -/

/-- The text starts with the end, a lexeme or a fault. -/
def StartsFound (d : Dialect) (text : List Char) : Prop :=
  ∃ passed after found, text = passed ++ after ∧ Finds d passed after found

theorem startsFound_number {c : Char} (starts : d.Starts .digit c) (rest : List Char) :
    StartsFound d (c :: rest) := by
  obtain ⟨digits, tail, rfl, areDigits, ends⟩ := exists_run isDigit rest
  by_cases dotted : tail.head? = some '.'
  · obtain ⟨tail, rfl⟩ := List.head?_eq_some_iff.mp dotted
    obtain ⟨fraction, after, rfl, fractionDigits, fractionEnds⟩ := exists_run isDigit tail
    by_cases again : after.head? = some '.'
    · obtain ⟨after, rfl⟩ := List.head?_eq_some_iff.mp again
      have isFault : Faulty d (c :: (digits ++ '.' :: fraction)) ('.' :: after) .secondDot :=
        .secondDot starts areDigits fractionDigits
      exact ⟨_, _, _, by simp, .fault isFault⟩
    · have isLexeme := Lexeme.pointed starts areDigits fractionDigits
        (ends_numeralChar fractionEnds again)
      exact ⟨_, _, _, by simp, .token isLexeme⟩
  · exact ⟨_, tail, _, rfl, .token (.whole starts areDigits (ends_numeralChar ends dotted))⟩

theorem startsFound_string {q : Char} (starts : d.Starts .stringStart q) (rest : List Char) :
    StartsFound d (q :: rest) := by
  rcases Literal.body_of_read d.escapeMode q rest with
    ⟨body, text, after, rfl, canClose, isBody, -⟩ | ⟨text, isBody, -⟩
  · have isLexeme : Lexeme d (q :: (body ++ [q])) after _ := .closedString starts canClose isBody
    exact ⟨_, _, _, by simp, .token isLexeme⟩
  · have whole : q :: rest = q :: rest ++ [] := (List.append_nil _).symm
    cases strict : d.strictStrings with
    | true => exact ⟨_, _, _, whole, .fault (.openLiteral starts strict isBody)⟩
    | false => exact ⟨_, _, _, whole, .token (.openString starts strict isBody)⟩

theorem startsFound_word {c : Char} (starts : d.Starts .identStart c) (rest : List Char) :
    StartsFound d (c :: rest) := by
  obtain ⟨word, after, rfl, isWord, ends⟩ := exists_run isIdentifierChar rest
  by_cases listed : String.ofList (c :: word) ∈ d.keywords
  · exact ⟨c :: word, after, _, rfl, .token (.keyword starts isWord ends listed)⟩
  · exact ⟨c :: word, after, _, rfl, .token (.identifier starts isWord ends listed)⟩

theorem startsFound_operator {c : Char} (starts : d.Starts .operator c) (rest : List Char) :
    StartsFound d (c :: rest) := by
  obtain ⟨signs, after, rfl, areSigns, ends⟩ := exists_run d.isOperator rest
  exact ⟨c :: signs, after, _, rfl, .token (.operator starts areSigns ends)⟩

/-- **The grammar leaves nothing out**: a text that starts with no gap starts
with a lexeme or a fault. -/
theorem startsFound_of_noGap {c : Char} {rest : List Char} (none : NoGap d (c :: rest)) :
    StartsFound d (c :: rest) := by
  obtain ⟨noBlank, unmarked⟩ := none c rfl
  have starts : d.Starts (d.classify c) c := Dialect.starts_iff.mpr ⟨noBlank, rfl⟩
  cases class_eq : d.classify c <;> rw [class_eq] at starts
  case comment => exact absurd (by simpa [Dialect.claims] using starts.claimed) unmarked
  case stringStart => exact startsFound_string starts rest
  case digit => exact startsFound_number starts rest
  case identStart => exact startsFound_word starts rest
  case punctuation => exact ⟨[c], rest, _, rfl, .token (.punctuation starts)⟩
  case operator => exact startsFound_operator starts rest
  case unrecognized => exact ⟨[], c :: rest, _, rfl, .fault (.strayCharacter starts)⟩

/-! ### Pieces of a gap -/

/-- The piece `p` of the text may stand in front of any gap. -/
def Lengthens (d : Dialect) (p : Piece) (text : List Char) : Prop :=
  ∃ after, text = p.text ++ after ∧
    ∀ gap more, gap ++ more = after → Gap d gap more → Gap d (p.text ++ gap) more

/-- Blanks lengthen any gap behind them. -/
theorem gap_blanks {run gap after : List Char} (areBlank : ∀ c ∈ run, isBlank c = true)
    (more : Gap d gap after) : Gap d (run ++ gap) after := by
  induction run with
  | nil => exact more
  | cons c run ih =>
    obtain ⟨isBlank_c, areBlank⟩ := List.forall_mem_cons.mp areBlank
    exact .blank isBlank_c (ih areBlank)

theorem noFeed_cons {c : Char} (noFeed : c ≠ '\n') {line : List Char} (oneLine : '\n' ∉ line) :
    ∀ x ∈ c :: line, (decide (x ≠ '\n')) = true := by
  intro x mem
  have : x ≠ '\n' := by
    rintro rfl
    simp [Ne.symm noFeed, oneLine] at mem
  simpa using this

theorem comment_line {c : Char} (noFeed : c ≠ '\n') {line : List Char} (oneLine : '\n' ∉ line)
    (after : List Char) :
    comment (c :: (line ++ '\n' :: after)) = ⟨c :: (line ++ ['\n']), .comment⟩ := by
  rw [comment, ← List.cons_append, takeWhile_run (noFeed_cons noFeed oneLine) (by simp [Ends])]
  simp

theorem comment_lastLine {c : Char} (noFeed : c ≠ '\n') {line : List Char}
    (oneLine : '\n' ∉ line) : comment (c :: line) = ⟨c :: line, .comment⟩ := by
  have run := takeWhile_run (noFeed_cons noFeed oneLine) (ends_nil _)
  rw [List.append_nil] at run
  rw [comment, run]
  simp

/-- A comment lengthens any gap behind it. -/
theorem lengthens_comment (marks : isBlank d.commentMarker = false) (rest : List Char) :
    Lengthens d (comment (d.commentMarker :: rest)) (d.commentMarker :: rest) := by
  have noFeed : d.commentMarker ≠ '\n' := by
    intro same
    simp [same, isBlank] at marks
  by_cases feeds : '\n' ∈ rest
  · obtain ⟨line, after, rfl, oneLine⟩ := List.eq_append_cons_of_mem feeds
    rw [comment_line noFeed oneLine]
    refine ⟨after, by simp, ?_⟩
    intro gap more _ isGap
    simpa using Gap.comment marks oneLine isGap
  · rw [comment_lastLine noFeed feeds]
    refine ⟨[], by simp, ?_⟩
    intro gap more same _
    obtain ⟨rfl, rfl⟩ := List.append_eq_nil_iff.mp same
    simpa using Gap.lastComment marks feeds

theorem first_of_blank {c : Char} (isBlank_c : isBlank c = true) (rest : List Char) :
    first d c rest = ⟨(c :: rest).takeWhile isBlank, .blank⟩ := by
  rw [first, if_pos isBlank_c]

theorem first_of_marker (marks : isBlank d.commentMarker = false) (rest : List Char) :
    first d d.commentMarker rest = comment (d.commentMarker :: rest) := by
  have class_eq : d.classify d.commentMarker = .comment := by simp [Dialect.classify]
  rw [first_of_noBlank marks, class_eq]

theorem finds_of_noGap {c : Char} {rest : List Char} (none : NoGap d (c :: rest)) :
    ∃ after, c :: rest = (first d c rest).text ++ after ∧
      Finds d (first d c rest).text after (first d c rest).reading.found := by
  obtain ⟨passed, after, found, same, finds⟩ := startsFound_of_noGap none
  obtain ⟨rfl, rfl⟩ := first_of_finds finds same
  exact ⟨after, same, finds⟩

theorem skipped_or_noGap (d : Dialect) (c : Char) (rest : List Char) :
    ((first d c rest).reading.found = .ok none ∧
      Lengthens d (first d c rest) (c :: rest)) ∨ NoGap d (c :: rest) := by
  by_cases isBlank_c : isBlank c = true
  · rw [first_of_blank isBlank_c]
    refine Or.inl ⟨rfl, (c :: rest).dropWhile isBlank, List.takeWhile_append_dropWhile.symm, ?_⟩
    intro gap more _ isGap
    exact gap_blanks (List.all_eq_true.mp List.all_takeWhile) isGap
  · have noBlank : isBlank c = false := by simpa using isBlank_c
    by_cases marks : c = d.commentMarker
    · subst marks
      rw [first_of_marker noBlank]
      exact Or.inl ⟨rfl, lengthens_comment noBlank rest⟩
    · refine Or.inr ?_
      rintro _ ⟨⟩
      exact ⟨noBlank, marks⟩

/-- **A piece that is not skipped is what is to be found.** -/
theorem finds_of_first {c : Char} {rest : List Char}
    (kept : (first d c rest).reading.found ≠ .ok none) :
    ∃ after, c :: rest = (first d c rest).text ++ after ∧
      Finds d (first d c rest).text after (first d c rest).reading.found := by
  rcases skipped_or_noGap d c rest with ⟨skipped, -⟩ | none
  · exact absurd skipped kept
  · exact finds_of_noGap none

/-- **A piece that is skipped lengthens the gap** behind it. -/
theorem lengthens_of_first {c : Char} {rest : List Char}
    (skipped : (first d c rest).reading.found = .ok none) :
    Lengthens d (first d c rest) (c :: rest) := by
  rcases skipped_or_noGap d c rest with ⟨-, lengthens⟩ | none
  · exact lengthens
  · obtain ⟨after, same, finds⟩ := finds_of_noGap none
    rw [skipped] at finds
    -- Only the end of the text is found without anything to be found.
    generalize (first d c rest).text = text at same finds
    cases finds
    cases same

end Piece

/-- Where no text is left, its end is what is found. -/
theorem Finds.of_nil {d : Dialect} {text after : List Char} {found : Found}
    (h : Finds d text after found) (whole : text ++ after = []) :
    text = [] ∧ after = [] ∧ found = .ok none := by
  obtain ⟨rfl, rfl⟩ := List.append_eq_nil_iff.mp whole
  cases h with
  | ended => exact ⟨rfl, rfl, rfl⟩
  | token isLexeme => exact absurd rfl isLexeme.ne_nil
  | fault isFault => cases isFault

/-- **There is one thing to find** at each place of a text. -/
theorem Finds.unique {d : Dialect} {text text' after after' : List Char} {found found' : Found}
    (h : Finds d text after found) (h' : Finds d text' after' found')
    (same : text ++ after = text' ++ after') : text = text' ∧ after = after' ∧ found = found' := by
  cases whole : text ++ after with
  | nil =>
    obtain ⟨rfl, rfl, rfl⟩ := h.of_nil whole
    obtain ⟨rfl, rfl, rfl⟩ := h'.of_nil (same.symm.trans whole)
    exact ⟨rfl, rfl, rfl⟩
  | cons c rest =>
    obtain ⟨text_eq, found_eq⟩ := Piece.first_of_finds h whole.symm
    obtain ⟨text_eq', found_eq'⟩ := Piece.first_of_finds h' (whole.symm.trans same)
    obtain rfl : text = text' := text_eq.symm.trans text_eq'
    exact ⟨rfl, List.append_cancel_left same, found_eq.symm.trans found_eq'⟩

end Lexis
