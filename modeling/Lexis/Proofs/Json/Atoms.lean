import Lexis.Json.Values
import Lexis.Proofs.Json.Grammar
import Lexis.Proofs.Walk

/-!
# Reading the atoms of JSON

The readers of strings and words, and those that pass over strings and numbers,
accept what the grammar allows and stop where it ends.

An input counts lines and columns, which no result but an error depends on.  So a
reader is judged by the value it gives and by what it leaves of the text:
`Gives` for a reader with a value, `Passes` for one without.
-/

namespace Lexis

namespace Json

/-! ### Results -/

/-- The step succeeds and leaves `rest`. -/
def Passes (result : Except Error Input) (rest : List Char) : Prop :=
  ∃ k : Input, result = .ok k ∧ k.rest = rest

/-- The step succeeds with the value `a` and leaves `rest`. -/
def Gives {α : Type} (result : Except Error (α × Input)) (a : α) (rest : List Char) : Prop :=
  ∃ k : Input, result = .ok (a, k) ∧ k.rest = rest

theorem gives_ok {α : Type} (a : α) (k : Input) : Gives (.ok (a, k)) a k.rest := ⟨k, rfl, rfl⟩

theorem Passes.bind {result : Except Error Input} {f : Input → Except Error Input}
    {rest rest' : List Char} (h : Passes result rest)
    (next : ∀ k : Input, k.rest = rest → Passes (f k) rest') : Passes (result.bind f) rest' := by
  obtain ⟨k, rfl, left⟩ := h
  exact next k left

theorem Passes.bind_gives {α : Type} {result : Except Error Input}
    {f : Input → Except Error (α × Input)} {a : α} {rest rest' : List Char}
    (h : Passes result rest) (next : ∀ k : Input, k.rest = rest → Gives (f k) a rest') :
    Gives (result.bind f) a rest' := by
  obtain ⟨k, rfl, left⟩ := h
  exact next k left

theorem Gives.bind {α β : Type} {result : Except Error (α × Input)} {a : α} {b : β}
    {f : α × Input → Except Error (β × Input)} {rest rest' : List Char} (h : Gives result a rest)
    (next : ∀ k : Input, k.rest = rest → Gives (f (a, k)) b rest') :
    Gives (result.bind f) b rest' := by
  obtain ⟨k, rfl, left⟩ := h
  exact next k left

theorem Passes.map {α : Type} {result : Except Error Input} {rest : List Char}
    (h : Passes result rest) (a : α) : Gives (result.map fun i => (a, i)) a rest := by
  obtain ⟨k, rfl, left⟩ := h
  exact ⟨k, rfl, left⟩

theorem Gives.map {α β : Type} {result : Except Error (α × Input)} {a : α} {rest : List Char}
    (h : Gives result a rest) (f : α → β) :
    Gives (result.map fun r => (f r.1, r.2)) (f a) rest := by
  obtain ⟨k, rfl, left⟩ := h
  exact ⟨k, rfl, left⟩

/-! ### Inputs -/

namespace Input

variable {i : Input} {c : Char} {gap text rest : List Char}

theorem peek_of_rest (h : i.rest = c :: rest) : i.peek = some c := by
  rw [peek, h]
  rfl

theorem rest_next_of_rest (h : i.rest = c :: rest) : i.next.rest = rest := by
  rw [rest_next, h]
  rfl

theorem rest_skip_of_rest (h : i.rest = text ++ rest) : (i.skip text.length).rest = rest := by
  rw [rest_skip, h, List.drop_left]

/-- Skipping blanks stops where they end. -/
theorem rest_skipSpace (blank : Blank gap) (ends : Ends isSpace rest) (h : i.rest = gap ++ rest) :
    i.skipSpace.rest = rest := by
  have run : i.rest.takeWhile isSpace = gap := by
    rw [h]
    exact takeWhile_run blank ends
  rw [skipSpace, run]
  exact rest_skip_of_rest h

end Input

/-! ### Escapes -/

variable {i : Input} {rest : List Char}

theorem length_le_byteCount (text : List Char) : text.length ≤ byteCount text := by
  induction text with
  | nil => simp
  | cons c text ih =>
    have := c.utf8Size_pos
    rw [List.length_cons, byteCount_cons]
    omega

theorem readCodeUnit_gives {digits : List Char} {u : Nat} (isUnit : CodeUnit digits u)
    (h : i.rest = digits ++ rest) : Gives (readCodeUnit i) u rest := by
  have four : i.rest.take 4 = digits := by rw [h, ← isUnit.four, List.take_left]
  have enough : ¬ (String.ofList digits).utf8ByteSize < 4 := by
    have := length_le_byteCount digits
    rw [isUnit.four, byteCount] at this
    omega
  unfold readCodeUnit
  dsimp only
  rw [four, if_neg enough, isUnit.value]
  refine ⟨i.skip 4, rfl, ?_⟩
  rw [← isUnit.four]
  exact Input.rest_skip_of_rest h

theorem expect_passes {c : Char} {f : Fault} (h : i.rest = c :: rest) :
    Passes (expect i c f) rest := by
  simp only [expect, h, if_pos]
  exact ⟨i.next, rfl, Input.rest_next_of_rest h⟩

theorem readUnicode_unit {digits : List Char} {u : Nat} (isUnit : CodeUnit digits u)
    (noLow : isLowSurrogate u = false) (noHigh : isHighSurrogate u = false)
    (h : i.rest = digits ++ rest) : Gives (readUnicode i) (Char.ofNat u) rest := by
  refine (readCodeUnit_gives isUnit h).bind ?_
  rintro k rfl
  dsimp only
  rw [noLow, noHigh, if_neg Bool.false_ne_true, if_neg Bool.false_ne_true]
  exact gives_ok _ k

theorem readUnicode_pair {digits digits' : List Char} {high low : Nat}
    (isUnit : CodeUnit digits high) (isUnit' : CodeUnit digits' low)
    (isHigh : isHighSurrogate high = true) (isLow : isLowSurrogate low = true)
    (h : i.rest = digits ++ '\\' :: 'u' :: (digits' ++ rest)) :
    Gives (readUnicode i) (pairChar high low) rest := by
  have noLow : isLowSurrogate high = false := by
    simp only [isHighSurrogate, isLowSurrogate, Bool.and_eq_true, decide_eq_true_eq,
      Bool.and_eq_false_iff, decide_eq_false_iff_not] at isHigh ⊢
    omega
  refine (readCodeUnit_gives isUnit h).bind ?_
  intro k first
  dsimp only
  rw [noLow, isHigh, if_neg Bool.false_ne_true, if_pos rfl]
  refine (expect_passes first).bind_gives ?_
  intro k backslash
  refine (expect_passes backslash).bind_gives ?_
  intro k letter
  refine (readCodeUnit_gives isUnit' letter).bind ?_
  rintro k rfl
  dsimp only
  rw [isLow, if_pos rfl]
  exact gives_ok _ k

theorem ne_u_of_shortEscape? {letter c : Char} (means : shortEscape? letter = some c) :
    letter ≠ 'u' := by
  rintro rfl
  simp [shortEscape?] at means

theorem readEscape_u {c : Char} {text : List Char} (h : i.rest = 'u' :: text)
    (gives : Gives (readUnicode i.next) c rest) : Gives (readEscape i) c rest := by
  simpa only [readEscape, h, if_pos] using gives

theorem readEscape_short {letter c : Char} (means : shortEscape? letter = some c)
    (h : i.rest = letter :: rest) : Gives (readEscape i) c rest := by
  simp only [readEscape, h, if_neg (ne_u_of_shortEscape? means), means]
  exact ⟨i.next, rfl, Input.rest_next_of_rest h⟩

theorem skipEscape_short {letter : Char} (isShort : (shortEscape? letter).isSome = true)
    (h : i.rest = letter :: rest) : Passes (skipEscape i) rest := by
  obtain ⟨c, means⟩ := Option.isSome_iff_exists.mp isShort
  simp only [skipEscape, h, if_neg (ne_u_of_shortEscape? means), isShort, if_pos]
  exact ⟨i.next, rfl, Input.rest_next_of_rest h⟩

theorem skipEscape_u {digits : List Char} {u : Nat} (isUnit : CodeUnit digits u)
    (h : i.rest = 'u' :: (digits ++ rest)) : Passes (skipEscape i) rest := by
  obtain ⟨k, read, left⟩ := readCodeUnit_gives isUnit (Input.rest_next_of_rest h)
  simp only [skipEscape, h, if_pos, read]
  exact ⟨k, rfl, left⟩

/-! ### Strings -/

section Strings

variable {read : List Char}

/-- Reading on by one character or one escape. -/
theorem readStringOnto_step {c : Char} (h : i.rest = c :: rest) :
    readStringOnto read i =
      if c = '"' then .ok (String.ofList read.reverse, i.next)
      else if c = '\\' then
        (readEscape i.next).bind fun escaped => readStringOnto (escaped.1 :: read) escaped.2
      else if isControl c then .error (i.errorNext .controlCharacter)
      else readStringOnto (c :: read) i.next := by
  rw [readStringOnto]
  split
  · next empty => simp [h] at empty
  · next more =>
    obtain ⟨rfl, -⟩ := List.cons.inj (more.symm.trans h)
    congr 2
    split
    · next escape => rw [escape]; rfl
    · next escape => rw [escape]; rfl

/-- Behind an escape a string goes on with the character that the escape means. -/
theorem readStringOnto_escape {c : Char} {text : List Char} {j : Input}
    (h : i.rest = '\\' :: text) (escape : readEscape i.next = .ok (c, j)) :
    readStringOnto read i = readStringOnto (c :: read) j := by
  rw [readStringOnto_step h, if_neg (by decide), if_pos rfl, escape]
  rfl

/-- Reading a body reads its meaning, in front of which stands what was read before. -/
theorem readStringOnto_gives {meaning body : List Char} (spelled : Spells meaning body)
    (h : i.rest = body ++ '"' :: rest) :
    Gives (readStringOnto read i) (String.ofList (read.reverse ++ meaning)) rest := by
  -- By the body: each of its parts adds one character to what has been read.
  have onward {c : Char} {meaning : List Char} : (c :: read).reverse ++ meaning =
      read.reverse ++ c :: meaning := by simp
  induction spelled generalizing i read with
  | nil =>
    rw [readStringOnto_step h, if_pos rfl, List.append_nil]
    exact ⟨i.next, rfl, Input.rest_next_of_rest h⟩
  | plain noQuote noEscape noControl _ ih =>
    rw [readStringOnto_step h, if_neg noQuote, if_neg noEscape, noControl,
      if_neg Bool.false_ne_true, ← onward]
    exact ih (Input.rest_next_of_rest h) (by simp)
  | short means _ ih =>
    obtain ⟨j, escape, left⟩ := readEscape_short means (Input.rest_next_of_rest h)
    rw [readStringOnto_escape h escape, ← onward]
    exact ih left (by simp)
  | unit isUnit noLow noHigh _ ih =>
    simp only [List.cons_append, List.append_assoc] at h
    have next := Input.rest_next_of_rest h
    obtain ⟨j, escape, left⟩ :=
      readEscape_u next (readUnicode_unit isUnit noLow noHigh (Input.rest_next_of_rest next))
    rw [readStringOnto_escape h escape, ← onward]
    exact ih left (by simp)
  | pair isUnit isUnit' isHigh isLow _ ih =>
    simp only [List.cons_append, List.append_assoc] at h
    have next := Input.rest_next_of_rest h
    obtain ⟨j, escape, left⟩ :=
      readEscape_u next (readUnicode_pair isUnit isUnit' isHigh isLow (Input.rest_next_of_rest next))
    rw [readStringOnto_escape h escape, ← onward]
    exact ih left (by simp)

/-- **A string is read as what it stands for.** -/
theorem readString_gives {s : String} {body : List Char} (meant : Meant s body)
    (h : i.rest = body ++ '"' :: rest) : Gives (readString i) s rest := by
  have gives : Gives (readStringOnto [] i) _ rest := readStringOnto_gives meant h
  rwa [List.reverse_nil, List.nil_append, String.ofList_toList] at gives

/-- Passing over one character or one escape. -/
theorem skipString_step {c : Char} (h : i.rest = c :: rest) :
    skipString i =
      if c = '"' then .ok i.next
      else if c = '\\' then (skipEscape i.next).bind skipString
      else if isControl c then .error (i.errorSeen .controlCharacter)
      else skipString i.next := by
  rw [skipString]
  split
  · next empty => simp [h] at empty
  · next more =>
    obtain ⟨rfl, -⟩ := List.cons.inj (more.symm.trans h)
    congr 2
    split
    · next escape => rw [escape]; rfl
    · next escape => rw [escape]; rfl

theorem skipString_escape {text : List Char} {j : Input} (h : i.rest = '\\' :: text)
    (escape : skipEscape i.next = .ok j) : skipString i = skipString j := by
  rw [skipString_step h, if_neg (by decide), if_pos rfl, escape]
  rfl

/-- **A string is passed over**, even if half of a surrogate pair stands in it. -/
theorem skipString_passes {body : List Char} (passable : Passable body)
    (h : i.rest = body ++ '"' :: rest) : Passes (skipString i) rest := by
  induction passable generalizing i with
  | nil =>
    rw [skipString_step h, if_pos rfl]
    exact ⟨i.next, rfl, Input.rest_next_of_rest h⟩
  | plain noQuote noEscape noControl _ ih =>
    rw [skipString_step h, if_neg noQuote, if_neg noEscape, noControl, if_neg Bool.false_ne_true]
    exact ih (Input.rest_next_of_rest h)
  | short isShort _ ih =>
    obtain ⟨j, escape, left⟩ := skipEscape_short isShort (Input.rest_next_of_rest h)
    rw [skipString_escape h escape]
    exact ih left
  | unit isUnit _ ih =>
    simp only [List.cons_append, List.append_assoc] at h
    obtain ⟨j, escape, left⟩ := skipEscape_u isUnit (Input.rest_next_of_rest h)
    rw [skipString_escape h escape]
    exact ih left

end Strings

/-! ### Words and numbers -/

/-- **A word is read** where it stands. -/
theorem readWord_passes (word : List Char) (h : i.rest = word ++ rest) :
    Passes (readWord i word) rest := by
  induction word generalizing i with
  | nil => exact ⟨i, rfl, h⟩
  | cons c word ih =>
    simp only [readWord, Input.peek_of_rest h, if_pos]
    exact ih (Input.rest_next_of_rest h)

theorem peek_ne_of_ends {accepts : Char → Bool} {c : Char} (ends : Ends accepts i.rest)
    (accepted : accepts c = true) : i.peek ≠ some c := by
  intro peeked
  have := ends c peeked
  simp [accepted] at this

theorem digits_of_rest {ds : List Char} (areDigits : ∀ x ∈ ds, x.isDigit = true)
    (ends : Ends Char.isDigit rest) (h : i.rest = ds ++ rest) : digits i = ds := by
  rw [digits, h]
  exact takeWhile_run areDigits ends

theorem Exponent.ends {exponent : List Char} (isExponent : Exponent exponent)
    (ends : NumberEnds rest) : Ends isNumeralChar (exponent ++ rest) := by
  cases isExponent with
  | absent => exact ends.mono (by simp +contextual [isNumeralChar, isDigit, continuesNumber])
  | present marks => rcases marks with rfl | rfl <;> exact ends_cons (by decide) _

theorem Fraction.ends {fraction after : List Char} (isFraction : Fraction fraction)
    (ends : Ends isNumeralChar after) : Ends Char.isDigit (fraction ++ after) := by
  cases isFraction with
  | absent => exact ends.mono (by simp +contextual [isNumeralChar, isDigit])
  | present => exact ends_cons (by decide) _

/-- In front of digits a sign is taken, if there is one. -/
theorem rest_behind_sign {sign ds : List Char} (signed : sign = [] ∨ sign = ['+'] ∨ sign = ['-'])
    (nonempty : ds ≠ []) (areDigits : ∀ x ∈ ds, x.isDigit = true)
    (h : i.rest = sign ++ (ds ++ rest)) :
    (if i.peek = some '+' || i.peek = some '-' then i.next else i).rest = ds ++ rest := by
  rcases signed with rfl | rfl | rfl
  · obtain ⟨c, ds, rfl⟩ := List.exists_cons_of_ne_nil nonempty
    have digit : c.isDigit = true := areDigits c List.mem_cons_self
    have unsigned : c ≠ '+' ∧ c ≠ '-' := by
      constructor <;> rintro rfl <;> exact absurd digit (by decide)
    rw [Input.peek_of_rest h, if_neg (by simp [unsigned])]
    exact h
  · rw [Input.peek_of_rest h, if_pos (by decide)]
    exact Input.rest_next_of_rest h
  · rw [Input.peek_of_rest h, if_pos (by decide)]
    exact Input.rest_next_of_rest h

theorem skipExponent_passes {exponent : List Char} (isExponent : Exponent exponent)
    (ends : NumberEnds rest) (h : i.rest = exponent ++ rest) : Passes (skipExponent i) rest := by
  cases isExponent with
  | absent =>
    have ends : NumberEnds i.rest := h ▸ ends
    rw [skipExponent, if_neg]
    · exact ⟨i, rfl, h⟩
    · simp [peek_ne_of_ends ends (c := 'e') (by decide), peek_ne_of_ends ends (c := 'E') (by decide)]
  | @present letter sign ds marks signed nonempty areDigits =>
    have endsDigits : Ends Char.isDigit rest := ends.mono (by simp +contextual [continuesNumber])
    rw [List.cons_append, List.append_assoc] at h
    have unsigned := rest_behind_sign signed nonempty areDigits (Input.rest_next_of_rest h)
    have marked : (i.peek = some 'e' || i.peek = some 'E') = true := by
      rw [Input.peek_of_rest h]
      rcases marks with rfl | rfl <;> decide
    rw [skipExponent, if_pos marked]
    dsimp only
    rw [digits_of_rest areDigits endsDigits unsigned, if_neg (by simpa using nonempty)]
    exact ⟨_, rfl, Input.rest_skip_of_rest unsigned⟩

theorem skipFraction_passes {fraction exponent : List Char} (isFraction : Fraction fraction)
    (isExponent : Exponent exponent) (ends : NumberEnds rest)
    (h : i.rest = fraction ++ (exponent ++ rest)) : Passes (skipFraction i) rest := by
  have endsBoth := isExponent.ends ends
  cases isFraction with
  | absent =>
    have ends' : Ends isNumeralChar i.rest := h ▸ endsBoth
    rw [skipFraction, if_neg (peek_ne_of_ends ends' (by decide))]
    exact skipExponent_passes isExponent ends h
  | present nonempty areDigits =>
    have endsDigits := Fraction.absent.ends endsBoth
    have next := Input.rest_next_of_rest h
    rw [skipFraction, if_pos (Input.peek_of_rest h)]
    dsimp only
    rw [digits_of_rest areDigits endsDigits next, if_neg (by simpa using nonempty)]
    exact skipExponent_passes isExponent ends (Input.rest_skip_of_rest next)

theorem skipUnsigned_passes {whole fraction exponent : List Char} (isWhole : Whole whole)
    (isFraction : Fraction fraction) (isExponent : Exponent exponent) (ends : NumberEnds rest)
    (h : i.rest = whole ++ (fraction ++ (exponent ++ rest))) :
    Passes (skipUnsigned i) rest := by
  have endsDigits := isFraction.ends (isExponent.ends ends)
  cases isWhole with
  | zero =>
    have next := Input.rest_next_of_rest h
    have single : i.next.peek.any Char.isDigit = false := by
      have ends' : Ends Char.isDigit i.next.rest := next ▸ endsDigits
      rw [Option.any_eq_false]
      intro c mem
      simp [ends' c mem]
    rw [skipUnsigned, if_pos (Input.peek_of_rest h), single, if_neg Bool.false_ne_true]
    exact skipFraction_passes isFraction isExponent ends next
  | digits noZero areDigits =>
    rw [skipUnsigned, if_neg, digits_of_rest areDigits endsDigits h, if_neg (by simp)]
    · exact skipFraction_passes isFraction isExponent ends (Input.rest_skip_of_rest h)
    · rw [Input.peek_of_rest h]
      simpa using noZero

/-- **A number is passed over**, in range or not. -/
theorem skipNumber_passes {text : List Char} (isNumber : Numeric text) (ends : NumberEnds rest)
    (h : i.rest = text ++ rest) : Passes (skipNumber i) rest := by
  obtain ⟨signed, isWhole, isFraction, isExponent⟩ := isNumber
  simp only [List.append_assoc] at h
  rcases signed with rfl | rfl
  · have unsigned : i.peek ≠ some '-' := by
      cases isWhole with
      | zero => rw [Input.peek_of_rest h]; decide
      | digits _ areDigits =>
        rw [Input.peek_of_rest h]
        rintro ⟨⟩
        exact absurd (areDigits '-' List.mem_cons_self) (by decide)
    rw [skipNumber, if_neg unsigned]
    exact skipUnsigned_passes isWhole isFraction isExponent ends h
  · rw [skipNumber, if_pos (Input.peek_of_rest h)]
    exact skipUnsigned_passes isWhole isFraction isExponent ends (Input.rest_next_of_rest h)

end Json

end Lexis
