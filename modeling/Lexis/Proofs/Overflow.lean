import Lexis.Proofs.Cutting
import Lexis.Proofs.Listings
import Lexis.Proofs.NumberLiterals

/-!
# Numbers that are too large

A literal may be as long as one likes, but a finite number may not be as large.  So not
every number of a text is one that can be used further on, and its literal decides
(`tokenize_numbers`):

* **Below the overflow threshold** the number is finite (`Binary64.Usable`).  It is a
  number in JSON, and written plainly it is a literal again, which reads back as the same
  number.
* **From the threshold on** it is infinity (`Binary64.TooLarge`), which JSON has no number
  for and which is written as a word.

The threshold is not the largest finite number: what lies less than half a step beyond
that one is rounded down to it.
-/

namespace Lexis

/-! ### Finite and infinite -/

namespace Binary64

variable {r : ℚ} {x : Binary64}

/-- **Rounding gives a finite number** exactly to what is below the threshold. -/
theorem RoundsTo.isFinite_iff (h : RoundsTo r x) : x.isFinite = true ↔ r < overflow := by
  unfold RoundsTo at h
  split at h
  · next small => exact iff_of_true h.finite small
  · next large =>
    subst h
    exact iff_of_false (by decide) large

theorem RoundsTo.eq_infinity (h : RoundsTo r x) (large : overflow ≤ r) : x = infinity := by
  unfold RoundsTo at h
  rwa [if_neg (not_lt.mpr large)] at h

end Binary64

/-! ### Numbers written down -/

variable {d : Dialect}

/-- **A numeral is a text of one token** where its first digit starts a number. -/
theorem Numeral.tokenize_eq {text : List Char} {n : Decimal} (h : Numeral text n)
    (starts : ∀ c ∈ text.head?, d.classify c = .digit) :
    tokenize d (String.ofList text) = .ok [.number (.ofDecimal n)] := by
  have isLexeme : Lexeme d text [] (.number (.ofDecimal n)) := by
    cases h with
    | whole areDigits =>
      have first := Dialect.starts_of_classify_digit (starts _ rfl)
      exact .whole first (List.forall_mem_cons.mp areDigits).2 (ends_nil _)
    | pointed areDigits fractionDigits =>
      have first := Dialect.starts_of_classify_digit (starts _ rfl)
      exact .pointed first (List.forall_mem_cons.mp areDigits).2 fractionDigits (ends_nil _)
  exact (Yields.single (.behind .nil (.token isLexeme))).completes_self.tokenize_ofList

namespace Binary64

/-- The number is finite, and a number wherever it is written: in JSON, and in source of
any dialect in which the first of its digits starts a number. -/
structure Usable (x : Binary64) : Prop where
  finite : x.isFinite = true
  json : ∃ text, Token.numberToJson x = .number text ∧ Json.Numeric text ∧
    Json.binary64? text = some x
  numeral : ∃ n, Numeral (x.write .plain) n ∧ ofDecimal n = x
  literal : ∀ d : Dialect, (∀ c ∈ (x.write .plain).head?, d.classify c = .digit) →
    tokenize d (String.ofList (x.write .plain)) = .ok [.number x]

/-- The number is infinity, and no number anywhere it is written. -/
structure TooLarge (x : Binary64) : Prop where
  infinite : x = infinity
  json : Token.numberToJson x = .null
  noNumeral : x.write .plain = "inf".toList ∧ Decimal.ofNumeral? (x.write .plain) = none

variable {x : Binary64}

theorem usable_of_isFinite (finite : x.isFinite = true) (unsigned : x.negative = false) :
    x.Usable := by
  obtain ⟨isNumber, denotes⟩ := interchange finite
  obtain ⟨n, numeral, same⟩ := numeral_write finite unsigned
  refine ⟨finite, ⟨_, if_pos finite, isNumber, denotes⟩, ⟨n, numeral, same⟩, ?_⟩
  intro d starts
  rw [numeral.tokenize_eq starts, same]

theorem tooLarge_infinity : infinity.TooLarge := ⟨rfl, rfl, rfl, by decide⟩

end Binary64

/-! ### Numbers of a text -/

/-- A number in a text is a numeral, rounded. -/
theorem Lexeme.exists_numeral {lexeme after : List Char} {x : Binary64}
    (h : Lexeme d lexeme after (.number x)) :
    ∃ n, Numeral lexeme n ∧ x = .ofDecimal n := by
  cases h with
  | whole starts areDigits =>
    exact ⟨_, .whole (Piece.digit_of_starts starts areDigits), rfl⟩
  | pointed starts areDigits fractionDigits =>
    exact ⟨_, .pointed (Piece.digit_of_starts starts areDigits) fractionDigits, rfl⟩

/-- **The literal decides** whether a number can be used. -/
theorem Lexeme.usable_or_tooLarge {lexeme after : List Char} {x : Binary64}
    (h : Lexeme d lexeme after (.number x)) :
    (Numeral.value lexeme < Binary64.overflow → x.Usable) ∧
      (Binary64.overflow ≤ Numeral.value lexeme → x.TooLarge) := by
  obtain ⟨n, numeral, rfl⟩ := h.exists_numeral
  have rounds := Binary64.roundsTo_ofDecimal n
  rw [← numeral.value_eq] at rounds
  constructor
  · intro small
    exact Binary64.usable_of_isFinite (rounds.isFinite_iff.mpr small) rfl
  · intro large
    rw [rounds.eq_infinity large]
    exact Binary64.tooLarge_infinity

/-- Each slice of a cut has a lexeme of its token. -/
theorem Cut.exists_lexeme {text last : List Char} {slices : List Slice}
    (h : Cut d text slices last) : ∀ s ∈ slices, ∃ after, Lexeme d s.lexeme after s.token := by
  induction h with
  | last => exact List.forall_mem_nil _
  | slice _ isLexeme _ ih => exact List.forall_mem_cons.mpr ⟨⟨_, isLexeme⟩, ih⟩

/-! ### Listings -/

/-- The JSON form of a token is proper JSON, infinite numbers included: they have a null
in the place of a number. -/
theorem Token.proper (t : Token) : Json.Proper t.toJson := by
  by_cases finite : t.Finite
  · exact t.proper_toJson finite
  · obtain ⟨x, number, infinite⟩ : ∃ x ∈ t.number?, x.isFinite ≠ true := by
      simpa [Token.Finite] using finite
    have value : t.valueToJson = .null := by
      cases t with
      | number y =>
        obtain rfl := Option.some.inj number
        exact if_neg infinite
      | keyword | identifier | operator | punctuation | string => cases number
    rw [Token.toJson_eq, value]
    refine .object (List.forall_mem_cons.mpr ⟨.string _, ?_⟩)
    exact List.forall_mem_singleton.mpr .null

/-- **A listing as JSON** is one array of the tokens and a line feed. -/
theorem Listing.denotes_json (tokens : List Token) :
    ∃ text, (write tokens .json).toList = text ++ ['\n'] ∧
      Json.Denotes (.array (tokens.map Token.toJson)) text := by
  have proper : Json.Proper (.array (tokens.map Token.toJson)) := by
    refine .array ?_
    intro j mem
    obtain ⟨t, -, rfl⟩ := List.mem_map.mp mem
    exact t.proper
  exact ⟨_, by simp [write, Json.pretty], Json.denotes_write proper (.indented 0)⟩

/-- **A number is finite unless its literal is too large.**  Let a text have the tokens
`ts`.

* Each number among them belongs to the literal that it is cut from.  If the value of the
  literal is below the overflow threshold, the number can be used: it is finite, JSON has
  it as a number, and it is written as a literal that reads back.  Otherwise it is
  infinity.
* The listing as JSON has one object for each token, in order, with that number or with a
  null as the value of a number.
-/
theorem tokenize_numbers {source : String} {ts : List Token} (lexes : tokenize d source = .ok ts) :
    (∃ slices last, Cut d source.toList slices last ∧ slices.map Slice.token = ts ∧
      ∀ s ∈ slices, ∀ x, s.token = .number x →
        (Numeral.value s.lexeme < Binary64.overflow → x.Usable) ∧
        (Binary64.overflow ≤ Numeral.value s.lexeme → x.TooLarge)) ∧
    ∃ text js, (Listing.write ts .json).toList = text ++ ['\n'] ∧
      (∀ j, Json.Denotes j text ↔ j = .array js) ∧
      List.Forall₂ (fun t j => ∀ x, t = .number x →
        j = .object [("kind", .string "Number"), ("value", Token.numberToJson x)]) ts js := by
  constructor
  · obtain ⟨slices, last, cut, tokens⟩ :=
      (Lexer.plain_ofText d source).exists_cut (Lexer.collect_eq_ok_iff.mp lexes)
    refine ⟨slices, last, cut, tokens, ?_⟩
    intro s mem x number
    obtain ⟨after, isLexeme⟩ := cut.exists_lexeme s mem
    rw [number] at isLexeme
    exact isLexeme.usable_or_tooLarge
  · obtain ⟨text, written, denotes⟩ := Listing.denotes_json ts
    refine ⟨text, _, written, fun j => ⟨fun other => other.unique denotes, ?_⟩, ?_⟩
    · rintro rfl
      exact denotes
    · rw [List.forall₂_map_right_iff, List.forall₂_same]
      rintro t - x rfl
      rfl

/-! ### Powers of ten -/

/-- A one and zeros behind it are a power of ten. -/
theorem numeral_power (n : Nat) : Numeral ('1' :: Decimal.zeros n) ⟨10 ^ n, 0⟩ := by
  have value : Decimal.ofDigits (['1'] ++ Decimal.zeros n) = 10 ^ n := by
    rw [Decimal.ofDigits_append_zeros]
    exact Nat.one_mul _
  have areDigits : ∀ x ∈ ['1'] ++ Decimal.zeros n, isDigit x = true :=
    List.forall_mem_append.mpr
      ⟨List.forall_mem_singleton.mpr (by decide), Decimal.isDigit_of_mem_zeros n⟩
  have numeral := Decimal.numeral_of_digits (by simp) areDigits
  rwa [value] at numeral

theorem tokenize_power (n : Nat) :
    tokenize .standard (String.ofList ('1' :: Decimal.zeros n)) =
      .ok [.number (.ofDecimal ⟨10 ^ n, 0⟩)] := by
  refine (numeral_power n).tokenize_eq ?_
  rintro c ⟨⟩
  decide

/-- The smallest power of ten that is too large has 309 zeros. -/
theorem ofDecimal_power : Binary64.ofDecimal ⟨10 ^ 309, 0⟩ = .infinity := by
  decide +kernel

/-- A literal with 309 zeros is not finite. -/
theorem tokenize_numbers_power :
    let source := String.ofList ('1' :: Decimal.zeros 309)
    tokenize .standard source = .ok [.number .infinity] ∧
      ∃ slices last, Cut .standard source.toList slices last ∧
        slices.map Slice.token = [.number .infinity] ∧
        ∀ s ∈ slices, ∀ x, s.token = .number x →
          (Numeral.value s.lexeme < Binary64.overflow → x.Usable) ∧
          (Binary64.overflow ≤ Numeral.value s.lexeme → x.TooLarge) := by
  intro source
  have lexes := tokenize_power 309
  rw [ofDecimal_power] at lexes
  exact ⟨lexes, (tokenize_numbers lexes).1⟩

/-- **Not every number is finite.**  That of a literal with 309 zeros is not: it is a null
in JSON, and written plainly it is no numeral. -/
theorem infinite_number :
    let source := String.ofList ('1' :: Decimal.zeros 309)
    let x := Binary64.infinity
    tokenize .standard source = .ok [.number x] ∧ x.isFinite = false ∧
      Listing.write [.number x] .json =
        "[\n  \x7b\n    \"kind\": \"Number\",\n    \"value\": null\n  \x7d\n]\n" ∧
      Decimal.ofNumeral? (x.write .plain) = none := by
  intro source x
  have lexes := tokenize_power 309
  rw [ofDecimal_power] at lexes
  exact ⟨lexes, by decide, by decide +kernel, by decide⟩

end Lexis
