import Lexis.Piece
import Lexis.Proofs.Literals

/-!
# The grammar of a dialect

The texts that a dialect allows are told here without reading them: a text is
cut into lexemes, each with a gap in front, and a last gap.  `Cut` is that
relation; `Gap` and `Lexeme` are its parts.

* **What follows is part of the judgement.**  `Gap` and `Lexeme` speak of a text
  together with the text `after` it, since a run is as long as it can be and
  only the end of the source closes an unfinished comment or literal.
* **Classes have an order** (`Dialect.Starts`): a character starts what the
  first class that claims it says, and the sets of a dialect may overlap.
* **A fault has a shape too** (`Faulty`): the text that is read before the fault
  is noticed, and what must follow for it to be one.

A text has at most one gap in front of a lexeme (`Gap.unique`).
-/

namespace Lexis

/-! ### Runs -/

/-- The text does not go on with a character of the class. -/
def Ends (accepts : Char → Bool) (after : List Char) : Prop :=
  ∀ c ∈ after.head?, accepts c = false

theorem ends_nil (accepts : Char → Bool) : Ends accepts [] := by
  intro c mem
  cases mem

theorem ends_cons {accepts : Char → Bool} {c : Char} (stops : accepts c = false)
    (after : List Char) : Ends accepts (c :: after) := by
  rintro _ ⟨⟩
  exact stops

/-- Where a run ends, a run of fewer characters does. -/
theorem Ends.mono {accepts accepts' : Char → Bool} {after : List Char} (ends : Ends accepts after)
    (fewer : ∀ c, accepts' c = true → accepts c = true) : Ends accepts' after := by
  intro c mem
  rw [← Bool.not_eq_true]
  intro accepted
  exact absurd (fewer c accepted) (by simp [ends c mem])

/-- Every text starts with a run, if only an empty one. -/
theorem exists_run (accepts : Char → Bool) (text : List Char) :
    ∃ run after, text = run ++ after ∧ (∀ c ∈ run, accepts c = true) ∧ Ends accepts after := by
  refine ⟨text.takeWhile accepts, text.dropWhile accepts,
    List.takeWhile_append_dropWhile.symm, List.all_eq_true.mp List.all_takeWhile, ?_⟩
  intro c mem
  have := List.head?_dropWhile_not accepts text
  rw [Option.mem_def.mp mem] at this
  simpa using this

/-- A run that nothing continues is the longest one. -/
theorem takeWhile_run {accepts : Char → Bool} {run after : List Char}
    (inside : ∀ c ∈ run, accepts c = true) (ends : Ends accepts after) :
    (run ++ after).takeWhile accepts = run := by
  rw [List.takeWhile_append_of_pos inside]
  cases after with
  | nil => simp
  | cons c after =>
    have stops : accepts c = false := ends c rfl
    simp [stops]

theorem dropWhile_run {accepts : Char → Bool} {run after : List Char}
    (inside : ∀ c ∈ run, accepts c = true) (ends : Ends accepts after) :
    (run ++ after).dropWhile accepts = after := by
  rw [List.dropWhile_append_of_pos inside]
  cases after with
  | nil => rfl
  | cons c after =>
    have stops : accepts c = false := ends c rfl
    simp [stops]

/-! ### Classes in their order -/

theorem noBlank_of_isDigit {c : Char} (digit : isDigit c = true) : isBlank c = false := by
  cases blank : isBlank c with
  | false => rfl
  | true =>
    simp only [isBlank, Bool.or_eq_true, decide_eq_true_eq] at blank
    rcases blank with ((((rfl | rfl) | rfl) | rfl) | rfl) | rfl
    all_goals exact absurd digit (by decide)

/-- The place of a class in the order in which the classes are tried. -/
def CharClass.rank : CharClass → Nat
  | comment => 0
  | stringStart => 1
  | digit => 2
  | identStart => 3
  | punctuation => 4
  | operator => 5
  | unrecognized => 6

namespace Dialect

/-- Whether a class claims a character, whatever the other classes do. -/
def claims (d : Dialect) : CharClass → Char → Bool
  | .comment, c => c = d.commentMarker
  | .stringStart, c => c = d.stringDelimiter
  | .digit, c => isDigit c
  | .identStart, c => isIdentifierChar c
  | .punctuation, c => d.isPunctuation c
  | .operator, c => d.isOperator c
  | .unrecognized, _ => true

/-- A character that is no blank starts what the first class that claims it
says. -/
structure Starts (d : Dialect) (k : CharClass) (c : Char) : Prop where
  noBlank : isBlank c = false
  claimed : d.claims k c = true
  first : ∀ j : CharClass, j.rank < k.rank → d.claims j c = false

theorem classify_claims (d : Dialect) (c : Char) :
    d.claims (d.classify c) c = true ∧
      ∀ j : CharClass, j.rank < (d.classify c).rank → d.claims j c = false := by
  unfold classify
  repeat' split
  all_goals
    refine ⟨by simp_all [claims], ?_⟩
    intro j earlier
    cases j <;> simp_all [claims, CharClass.rank]

/-- **Classifying finds the first class** that claims a character. -/
theorem starts_iff {d : Dialect} {k : CharClass} {c : Char} :
    d.Starts k c ↔ isBlank c = false ∧ d.classify c = k := by
  obtain ⟨claimed, first⟩ := d.classify_claims c
  constructor
  · intro h
    refine ⟨h.noBlank, ?_⟩
    -- Two classes that both claim `c` and that none before them claims have one rank.
    have same : (d.classify c).rank = k.rank := by
      rcases Nat.lt_trichotomy (d.classify c).rank k.rank with earlier | same | later
      · simp [h.first _ earlier] at claimed
      · exact same
      · simpa [first k later] using h.claimed
    revert same
    cases d.classify c <;> cases k <;> simp [CharClass.rank]
  · rintro ⟨noBlank, rfl⟩
    exact ⟨noBlank, claimed, first⟩

theorem Starts.classify {d : Dialect} {k : CharClass} {c : Char} (h : d.Starts k c) :
    d.classify c = k :=
  (starts_iff.mp h).2

/-- A digit is no blank, so its class says it all. -/
theorem starts_of_classify_digit {d : Dialect} {c : Char} (h : d.classify c = .digit) :
    d.Starts .digit c :=
  starts_iff.mpr ⟨noBlank_of_isDigit (isDigit_of_classify h), h⟩

end Dialect

/-! ### Gaps -/

/-- `Gap d gap after`: the text `gap`, with `after` behind it, is made up of
blanks and comments.  A comment runs to the next line feed, which belongs to it,
or to the end of the source. -/
inductive Gap (d : Dialect) : List Char → List Char → Prop
  | nil {after : List Char} : Gap d [] after
  | blank {c : Char} {gap after : List Char} (isBlank_c : isBlank c = true)
      (more : Gap d gap after) : Gap d (c :: gap) after
  | comment {line gap after : List Char} (marks : isBlank d.commentMarker = false)
      (oneLine : '\n' ∉ line) (more : Gap d gap after) :
      Gap d (d.commentMarker :: (line ++ '\n' :: gap)) after
  | lastComment {line : List Char} (marks : isBlank d.commentMarker = false)
      (oneLine : '\n' ∉ line) : Gap d (d.commentMarker :: line) []

/-- The text starts with neither a blank nor a comment. -/
def NoGap (d : Dialect) (text : List Char) : Prop :=
  ∀ c ∈ text.head?, isBlank c = false ∧ c ≠ d.commentMarker

/-- The first `stop` of a text cuts it in one way. -/
theorem cut_unique {stop : Char} {front front' after after' : List Char} (first : stop ∉ front)
    (first' : stop ∉ front') (same : front ++ stop :: after = front' ++ stop :: after') :
    front = front' ∧ after = after' := by
  have upTo : ∀ {l a : List Char}, stop ∉ l → (l ++ stop :: a).takeWhile (· ≠ stop) = l := by
    intro l a first
    apply takeWhile_run
    · intro c mem
      have other : c ≠ stop := by
        rintro rfl
        exact first mem
      simpa using other
    · simp [Ends]
  have fronts : front = front' := by rw [← upTo (a := after) first, same, upTo first']
  subst fronts
  exact ⟨rfl, by simpa using same⟩

/-- In front of a text that starts with no gap, a gap is empty. -/
theorem Gap.eq_nil {d : Dialect} {gap after : List Char} (h : Gap d gap after)
    (none : NoGap d (gap ++ after)) : gap = [] := by
  cases h with
  | nil => rfl
  | blank isBlank_c =>
    have := (none _ rfl).1
    simp [isBlank_c] at this
  | comment | lastComment => exact absurd rfl (none _ rfl).2

/-- **There is one gap** in front of a text that starts with none. -/
theorem Gap.unique {d : Dialect} {gap gap' after after' : List Char} (h : Gap d gap after)
    (h' : Gap d gap' after') (ends : NoGap d after) (ends' : NoGap d after')
    (same : gap ++ after = gap' ++ after') : gap = gap' ∧ after = after' := by
  -- The first character of the text decides with which part both gaps start, since a
  -- blank marks no comment; behind that part the gaps are equal by induction.
  induction h generalizing gap' with
  | @nil after =>
    obtain rfl := h'.eq_nil (same ▸ ends)
    exact ⟨rfl, same⟩
  | blank isBlank_c more ih =>
    cases h' with
    | nil => cases (Gap.blank isBlank_c more).eq_nil (same ▸ ends')
    | blank _ more' =>
      obtain ⟨rfl, tails⟩ := List.cons.inj same
      obtain ⟨rfl, rfl⟩ := ih more' ends tails
      exact ⟨rfl, rfl⟩
    | comment marks | lastComment marks =>
      obtain ⟨rfl, -⟩ := List.cons.inj same
      simp [isBlank_c] at marks
  | comment marks oneLine more ih =>
    cases h' with
    | nil => cases (Gap.comment marks oneLine more).eq_nil (same ▸ ends')
    | blank isBlank_c =>
      obtain ⟨rfl, -⟩ := List.cons.inj same
      simp [isBlank_c] at marks
    | comment _ oneLine' more' =>
      simp only [List.cons_append, List.append_assoc, List.cons.injEq, true_and] at same
      obtain ⟨rfl, tails⟩ := cut_unique oneLine oneLine' same
      obtain ⟨rfl, rfl⟩ := ih more' ends tails
      exact ⟨rfl, rfl⟩
    | lastComment _ oneLine' =>
      simp only [List.cons_append, List.append_assoc, List.append_nil, List.cons.injEq,
        true_and] at same
      simp [← same] at oneLine'
  | lastComment marks oneLine =>
    cases h' with
    | nil => cases (Gap.lastComment marks oneLine).eq_nil (same ▸ ends')
    | blank isBlank_c =>
      obtain ⟨rfl, -⟩ := List.cons.inj same
      simp [isBlank_c] at marks
    | comment =>
      simp only [List.cons_append, List.append_assoc, List.append_nil, List.cons.injEq,
        true_and] at same
      simp [same] at oneLine
    | lastComment => exact ⟨by simpa using same, rfl⟩

/-! ### Lexemes -/

/-- The characters of numbers. -/
def isNumeralChar (c : Char) : Bool := isDigit c || c = '.'

/-- `Lexeme d lexeme after t`: the text `lexeme`, with `after` behind it, is the
token `t`. -/
inductive Lexeme (d : Dialect) : List Char → List Char → Token → Prop
  | closedString {q : Char} {body text after : List Char} (starts : d.Starts .stringStart q)
      (canClose : q ≠ '\\') (isBody : Literal.Body d.escapeMode q false body text) :
      Lexeme d (q :: (body ++ [q])) after (.string (String.ofList text))
  | openString {q : Char} {body text : List Char} (starts : d.Starts .stringStart q)
      (lenient : d.strictStrings = false) (isBody : Literal.Body d.escapeMode q true body text) :
      Lexeme d (q :: body) [] (.string (String.ofList text))
  | whole {c : Char} {digits after : List Char} (starts : d.Starts .digit c)
      (areDigits : ∀ x ∈ digits, isDigit x = true) (ends : Ends isNumeralChar after) :
      Lexeme d (c :: digits) after (.number (.ofDecimal ⟨Decimal.ofDigits (c :: digits), 0⟩))
  | pointed {c : Char} {digits fraction after : List Char} (starts : d.Starts .digit c)
      (areDigits : ∀ x ∈ digits, isDigit x = true)
      (fractionDigits : ∀ x ∈ fraction, isDigit x = true) (ends : Ends isNumeralChar after) :
      Lexeme d (c :: (digits ++ '.' :: fraction)) after
        (.number (.ofDecimal ⟨Decimal.ofDigits (c :: (digits ++ fraction)), -fraction.length⟩))
  | keyword {c : Char} {word after : List Char} (starts : d.Starts .identStart c)
      (isWord : ∀ x ∈ word, isIdentifierChar x = true) (ends : Ends isIdentifierChar after)
      (listed : String.ofList (c :: word) ∈ d.keywords) :
      Lexeme d (c :: word) after (.keyword (String.ofList (c :: word)))
  | identifier {c : Char} {word after : List Char} (starts : d.Starts .identStart c)
      (isWord : ∀ x ∈ word, isIdentifierChar x = true) (ends : Ends isIdentifierChar after)
      (unlisted : String.ofList (c :: word) ∉ d.keywords) :
      Lexeme d (c :: word) after (.identifier (String.ofList (c :: word)))
  | punctuation {c : Char} {after : List Char} (starts : d.Starts .punctuation c) :
      Lexeme d [c] after (.punctuation c.toString)
  | operator {c : Char} {signs after : List Char} (starts : d.Starts .operator c)
      (areSigns : ∀ x ∈ signs, d.isOperator x = true) (ends : Ends d.isOperator after) :
      Lexeme d (c :: signs) after (.operator (String.ofList (c :: signs)))

/-- `Faulty d text after f`: reading gets through `text` and finds the fault `f`
at the start of `after`. -/
inductive Faulty (d : Dialect) : List Char → List Char → Fault → Prop
  | strayCharacter {c : Char} {after : List Char} (starts : d.Starts .unrecognized c) :
      Faulty d [] (c :: after) (.strayCharacter c)
  | secondDot {c : Char} {digits fraction after : List Char} (starts : d.Starts .digit c)
      (areDigits : ∀ x ∈ digits, isDigit x = true)
      (fractionDigits : ∀ x ∈ fraction, isDigit x = true) :
      Faulty d (c :: (digits ++ '.' :: fraction)) ('.' :: after) .secondDot
  | openLiteral {q : Char} {body text : List Char} (starts : d.Starts .stringStart q)
      (strict : d.strictStrings = true) (isBody : Literal.Body d.escapeMode q true body text) :
      Faulty d (q :: body) [] .openLiteral

/-- What can be found behind a gap: the end of the text, a token, or a fault. -/
abbrev Found := Except Fault (Option Token)

/-- Getting through `text`, with `after` behind it, one finds `found`. -/
inductive Finds (d : Dialect) : List Char → List Char → Found → Prop
  | ended : Finds d [] [] (.ok none)
  | token {lexeme after : List Char} {t : Token} (isLexeme : Lexeme d lexeme after t) :
      Finds d lexeme after (.ok (some t))
  | fault {text after : List Char} {f : Fault} (isFault : Faulty d text after f) :
      Finds d text after (.error f)

/-! ### What lexemes and faults start with -/

theorem Dialect.Starts.noGap {d : Dialect} {k : CharClass} {c : Char} (h : d.Starts k c)
    (noComment : k ≠ .comment) (text : List Char) : NoGap d (c :: text) := by
  rintro _ ⟨⟩
  refine ⟨h.noBlank, ?_⟩
  have unmarked : d.claims .comment c = false := by
    refine h.first .comment ?_
    cases k <;> simp_all [CharClass.rank]
  simpa [Dialect.claims] using unmarked

theorem noGap_nil (d : Dialect) : NoGap d [] := by
  intro c mem
  cases mem

theorem Lexeme.noGap {d : Dialect} {lexeme after : List Char} {t : Token}
    (h : Lexeme d lexeme after t) : NoGap d (lexeme ++ after) := by
  cases h <;> exact Dialect.Starts.noGap ‹_› (by simp) _

theorem Lexeme.ne_nil {d : Dialect} {lexeme after : List Char} {t : Token}
    (h : Lexeme d lexeme after t) : lexeme ≠ [] := by
  cases h <;> simp

theorem Faulty.noGap {d : Dialect} {text after : List Char} {f : Fault}
    (h : Faulty d text after f) : NoGap d (text ++ after) := by
  cases h <;> exact Dialect.Starts.noGap ‹_› (by simp) _

theorem Finds.noGap {d : Dialect} {text after : List Char} {found : Found}
    (h : Finds d text after found) : NoGap d (text ++ after) := by
  cases h with
  | ended => exact noGap_nil d
  | token isLexeme => exact isLexeme.noGap
  | fault isFault => exact isFault.noGap

end Lexis
