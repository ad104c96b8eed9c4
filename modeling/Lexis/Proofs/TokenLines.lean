import Lexis.Proofs.Listings
import Lexis.Proofs.Quoting
import Lexis.Proofs.Yields

/-!
# Listings as lines

A list of tokens written as lines has one line for each token, and no other list is
written in the same way (`Listing.lines_unambiguous`).

Both halves come from single tokens.  A token is written without a line feed, so the
line feeds of a listing are those that end its lines.  And from what is written of a
token the token can be told: the kind stands in front of the first parenthesis, and the
text between the first and the last one determines a number, since a number is read
back from it (`Binary64.ofPlain?_write`), and a string, since quoting loses nothing.

What is no number at all is written as `NaN` whatever its magnitude; but numerals are
rounded to numbers, so no text holds such a token.
-/

namespace Lexis

/-! ### Numbers -/

namespace Binary64

/-- The number without its sign. -/
def abs (x : Binary64) : Binary64 := { x with negative := false }

/-- Reads a number without a sign that is written plainly. -/
def ofUnsigned? (text : List Char) : Option Binary64 :=
  if text = "inf".toList then some infinity else (Decimal.ofNumeral? text).map ofDecimal

/-- Reads a number that is written plainly. -/
def ofPlain? : List Char → Option Binary64
  | '-' :: text => (ofUnsigned? text).map neg
  | text => ofUnsigned? text

variable {x : Binary64}

theorem write_plain_eq (isNumber : x.isNaN = false) :
    x.write .plain = (if x.negative then ['-'] else []) ++ x.abs.write .plain := by
  have isNumber' : x.abs.isNaN = false := isNumber
  have sameKind : x.abs.isInfinite = x.isInfinite := rfl
  have unsigned : x.abs.negative = false := rfl
  have magnitude : x.abs.magnitude = x.magnitude := rfl
  simp [write, isNumber, isNumber', sameKind, unsigned, magnitude]

/-- Without its sign a number is a numeral or the word for infinity. -/
theorem write_abs_cases (isNumber : x.isNaN = false) :
    (x.abs = infinity ∧ x.abs.write .plain = "inf".toList) ∨
      ∃ d, Numeral (x.abs.write .plain) d ∧ ofDecimal d = x.abs := by
  have bounded : x.magnitude ≤ infinite := by simpa [isNaN] using isNumber
  rcases Nat.lt_or_eq_of_le bounded with finite | infinite
  · exact Or.inr (numeral_write (x := x.abs) (decide_eq_true finite) rfl)
  · have same : x.abs = infinity := ext_magnitude rfl infinite
    exact Or.inl ⟨same, by rw [same]; rfl⟩

/-- **A number that is written plainly reads back**, with its sign. -/
theorem ofPlain?_write (isNumber : x.isNaN = false) : ofPlain? (x.write .plain) = some x := by
  have unsigned : ofUnsigned? (x.abs.write .plain) = some x.abs ∧
      (x.abs.write .plain).head? ≠ some '-' := by
    rcases write_abs_cases isNumber with ⟨same, written⟩ | ⟨d, numeral, same⟩
    · rw [written, same]
      exact ⟨rfl, by decide⟩
    · have noWord : x.abs.write .plain ≠ "inf".toList := by
        intro word
        exact absurd (numeral.isNumeralChar_of_mem 'i' (by rw [word]; decide)) (by decide)
      refine ⟨?_, ?_⟩
      · rw [ofUnsigned?, if_neg noWord, numeral.ofNumeral?, Option.map_some, same]
      · intro signed
        exact absurd (numeral.isNumeralChar_of_mem '-' (List.mem_of_mem_head? signed)) (by decide)
  rw [write_plain_eq isNumber]
  rcases sign : x.negative with _ | _
  · have same : x.abs = x := ext_magnitude sign.symm rfl
    rw [if_neg Bool.false_ne_true, List.nil_append]
    unfold ofPlain?
    split
    · next text signed => simp [signed] at unsigned
    · rw [unsigned.1, same]
  · have same : x.abs.neg = x := ext_magnitude sign.symm rfl
    rw [if_pos rfl, List.singleton_append, ofPlain?, unsigned.1, Option.map_some, same]

theorem feed_notMem_write (isNumber : x.isNaN = false) : '\n' ∉ x.write .plain := by
  rw [write_plain_eq isNumber, List.mem_append, not_or]
  constructor
  · rcases x.negative with _ | _ <;> decide
  · rcases write_abs_cases isNumber with ⟨-, written⟩ | ⟨d, numeral, -⟩
    · rw [written]
      decide
    · intro mem
      exact absurd (numeral.isNumeralChar_of_mem _ mem) (by decide)

/-- What a decimal is rounded to is a number. -/
theorem isNaN_ofDecimal (d : Decimal) : (ofDecimal d).isNaN = false := by
  rw [isNaN, magnitude_ofDecimal, nearest]
  exact decide_eq_false (Nat.not_lt.mpr (Nat.min_le_right _ _))

end Binary64

/-! ### Tokens -/

theorem TokenKind.paren_notMem_name (k : TokenKind) : '(' ∉ k.name.toList := by
  cases k <;> decide

theorem TokenKind.feed_notMem_name (k : TokenKind) : '\n' ∉ k.name.toList := by
  cases k <;> decide

theorem TokenKind.name_injective {k k' : TokenKind} (same : k.name = k'.name) : k = k' := by
  have named := congrArg ofName? same
  rw [ofName?_name, ofName?_name] at named
  exact Option.some.inj named

namespace Token

variable {t t' : Token}

/-- The token is not a number, or its value is one. -/
def HasValue (t : Token) : Prop := ∀ x ∈ t.number?, x.isNaN = false

/-- What stands between the parentheses. -/
def payload : Token → String
  | number value => String.ofList (value.write .plain)
  | string text => Quoted.text text
  | keyword text | identifier text | operator text | punctuation text => text

theorem toList_toString (t : Token) :
    (toString t).toList = t.kind.name.toList ++ '(' :: (t.payload.toList ++ [')']) := by
  have applied : toString t = t.kind.name ++ "(" ++ t.payload ++ ")" := by cases t <;> rfl
  rw [applied]
  simp

/-- Of tokens of one kind, no two have the same text between their parentheses. -/
theorem payload_injective (kinds : t.kind = t'.kind) (value : t.HasValue) (value' : t'.HasValue)
    (same : t.payload = t'.payload) : t = t' := by
  cases t <;> cases t' <;> try cases kinds
  case number.number x x' =>
    have written : x.write .plain = x'.write .plain := by
      simpa [payload] using congrArg String.toList same
    have read := congrArg Binary64.ofPlain? written
    rw [Binary64.ofPlain?_write (value x rfl), Binary64.ofPlain?_write (value' x' rfl)] at read
    exact congrArg number (Option.some.inj read)
  case string.string => exact congrArg string (Quoted.text_injective same)
  case keyword.keyword => exact congrArg keyword same
  case identifier.identifier => exact congrArg identifier same
  case operator.operator => exact congrArg operator same
  case punctuation.punctuation => exact congrArg punctuation same

/-- **No two tokens are written in the same way.** -/
theorem toString_injective (value : t.HasValue) (value' : t'.HasValue)
    (same : toString t = toString t') : t = t' := by
  have lists := congrArg String.toList same
  rw [toList_toString, toList_toString] at lists
  obtain ⟨names, payloads⟩ :=
    cut_unique t.kind.paren_notMem_name t'.kind.paren_notMem_name lists
  have kinds := TokenKind.name_injective (String.toList_inj.mp names)
  have inside := String.toList_inj.mp (List.append_cancel_right payloads)
  exact payload_injective kinds value value' inside

end Token

/-! ### Lexemes -/

section Lexemes

variable {d : Dialect} {lexeme after : List Char} {t : Token}

/-- A number in a text is rounded from a numeral. -/
theorem Lexeme.hasValue (h : Lexeme d lexeme after t) : t.HasValue := by
  intro x number
  cases h with
  | whole | pointed =>
    obtain rfl := Option.some.inj number
    exact Binary64.isNaN_ofDecimal _
  | closedString | openString | keyword | identifier | punctuation | operator => cases number

/-- A text without line feeds is written without line feeds, and every other token is,
too. -/
theorem Token.feed_notMem_toString (value : t.HasValue)
    (plain : ∀ text ∈ t.text?, t.kind ≠ .string → '\n' ∉ text.toList) :
    '\n' ∉ (toString t).toList := by
  have inside : '\n' ∉ t.payload.toList := by
    cases t with
    | number x =>
      rw [payload, String.toList_ofList]
      exact Binary64.feed_notMem_write (value x rfl)
    | string text => exact Quoted.feed_notMem_text text
    | keyword text | identifier text | operator text | punctuation text =>
      exact plain text rfl (by simp [kind])
  simp [toList_toString, t.kind.feed_notMem_name, inside]

/-- **A token is written on one line.**  Words and punctuation have no line feed in
them, and neither have operators if the dialect keeps it out of them. -/
theorem Lexeme.feed_notMem_toString (h : Lexeme d lexeme after t)
    (noFeed : d.isOperator '\n' = false) : '\n' ∉ (toString t).toList := by
  refine Token.feed_notMem_toString h.hasValue ?_
  rintro text holds notString mem
  -- The first character is no blank, and the others belong to the class of the first.
  cases h with
  | closedString | openString => exact notString rfl
  | whole | pointed => cases holds
  | keyword starts isWord | identifier starts isWord =>
    obtain rfl := Option.some.inj holds
    rw [String.toList_ofList] at mem
    rcases List.mem_cons.mp mem with rfl | mem
    · exact absurd starts.noBlank (by decide)
    · exact absurd (isWord _ mem) (by decide)
  | punctuation starts =>
    obtain rfl := Option.some.inj holds
    obtain rfl : '\n' = _ := by simpa using mem
    exact absurd starts.noBlank (by decide)
  | operator starts areSigns =>
    obtain rfl := Option.some.inj holds
    rw [String.toList_ofList] at mem
    rcases List.mem_cons.mp mem with rfl | mem
    · exact absurd starts.noBlank (by decide)
    · exact absurd (areSigns _ mem) (by simp [noFeed])

end Lexemes

/-! ### Listings -/

namespace Listing

theorem toList_write_cons (t : Token) (ts : List Token) :
    (write (t :: ts) .lines).toList = (toString t).toList ++ '\n' :: (write ts .lines).toList := by
  simp [write]

/-- **One line for each token**: cutting the listing at its line feeds gives what is
written of the tokens, and nothing behind the last line feed. -/
theorem splitOn_write {ts : List Token} (oneLine : ∀ t ∈ ts, '\n' ∉ (toString t).toList) :
    (write ts .lines).toList.splitOn '\n' = ts.map (fun t => (toString t).toList) ++ [[]] := by
  induction ts with
  | nil => rfl
  | cons t ts ih =>
    obtain ⟨first, more⟩ := List.forall_mem_cons.mp oneLine
    rw [toList_write_cons, List.splitOn_append_cons_self_of_not_mem first, ih more]
    rfl

/-- Lists of tokens that are written alike, token for token, are equal. -/
theorem eq_of_map_toString {ts ts' : List Token} (values : ∀ t ∈ ts, t.HasValue)
    (values' : ∀ t ∈ ts', t.HasValue)
    (same : ts.map (fun t => (toString t).toList) = ts'.map (fun t => (toString t).toList)) :
    ts = ts' := by
  induction ts generalizing ts' with
  | nil => exact (List.map_eq_nil_iff.mp same.symm).symm
  | cons t ts ih =>
    cases ts' with
    | nil => cases same
    | cons t' ts' =>
      obtain ⟨first, more⟩ := List.cons.inj same
      obtain ⟨value, values⟩ := List.forall_mem_cons.mp values
      obtain ⟨value', values'⟩ := List.forall_mem_cons.mp values'
      rw [Token.toString_injective value value' (String.toList_inj.mp first), ih values values' more]

/-- The tokens of a text have values and are written on one line each. -/
theorem writable_of_tokenize {d : Dialect} {source : String} {ts : List Token}
    (noFeed : d.isOperator '\n' = false) (lexes : tokenize d source = .ok ts) :
    (∀ t ∈ ts, t.HasValue) ∧ ∀ t ∈ ts, '\n' ∉ (toString t).toList := by
  have lexemes := (tokenize_eq_ok_iff_completes.mp lexes).exists_lexeme
  constructor
  · intro t mem
    obtain ⟨_, _, isLexeme⟩ := lexemes t mem
    exact isLexeme.hasValue
  · intro t mem
    obtain ⟨_, _, isLexeme⟩ := lexemes t mem
    exact isLexeme.feed_notMem_toString noFeed

/-- **Listings as lines are unambiguous**, if the dialects keep the line feed out of
their operators.  Two texts with the same listing have the same tokens; and a listing
has one line for each token, whatever the strings among the tokens hold. -/
theorem lines_unambiguous {d d' : Dialect} {source source' : String} {ts ts' : List Token}
    (noFeed : d.isOperator '\n' = false) (noFeed' : d'.isOperator '\n' = false)
    (lexes : tokenize d source = .ok ts) (lexes' : tokenize d' source' = .ok ts') :
    (write ts .lines = write ts' .lines → ts = ts') ∧
    (∀ t ∈ ts, '\n' ∉ (toString t).toList) ∧
    (write ts .lines).toList.splitOn '\n' = ts.map (fun t => (toString t).toList) ++ [[]] := by
  obtain ⟨values, oneLine⟩ := writable_of_tokenize noFeed lexes
  obtain ⟨values', oneLine'⟩ := writable_of_tokenize noFeed' lexes'
  refine ⟨?_, oneLine, splitOn_write oneLine⟩
  intro same
  have lines := congrArg (fun text : String => text.toList.splitOn '\n') same
  rw [splitOn_write oneLine, splitOn_write oneLine'] at lines
  exact eq_of_map_toString values values' (List.append_cancel_right lines)

/-- A string that holds a line feed and what looks like the line of a word, and a string
with that word behind it in another dialect. -/
theorem lines_unambiguous_lookalike :
    let d : Dialect := { Dialect.standard with stringDelimiter := '"' }
    let ts := [.string "a\")\nIdentifier(b"]
    let ts' := [.string "a", .identifier "b"]
    tokenize .standard "'a\")\nIdentifier(b' # end" = .ok ts ∧ tokenize d "\"a\" b" = .ok ts' ∧
      write ts .lines ≠ write ts' .lines ∧
      (write ts .lines).toList.splitOn '\n' =
        ["String(\"a\\\")\\nIdentifier(b\")".toList, []] := by
  intro d ts ts'
  have lexes : tokenize .standard "'a\")\nIdentifier(b' # end" = .ok ts := by decide +kernel
  have lexes' : tokenize d "\"a\" b" = .ok ts' := by decide +kernel
  obtain ⟨unambiguous, -, split⟩ := lines_unambiguous (by decide) (by decide) lexes lexes'
  have differ : ts ≠ ts' := by decide
  exact ⟨lexes, lexes', fun same => differ (unambiguous same), split⟩

end Listing

end Lexis
