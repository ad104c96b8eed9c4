import Lexis.Json.Input

/-!
# Reading JSON strings

`Json.readString` reads a string whose value is wanted, and `Json.skipString`
one whose value is not.  The latter is laxer: it asks of a code-unit escape only
that four hexadecimal digits follow, not that surrogates come in pairs.
-/

namespace Lexis

namespace Json

/-! ### Code units -/

/-- The value of a hexadecimal digit. -/
def hexValue? (c : Char) : Option Nat :=
  if c.isDigit then some (c.toNat - '0'.toNat)
  else if 'a' ≤ c ∧ c ≤ 'f' then some (c.toNat - 'a'.toNat + 10)
  else if 'A' ≤ c ∧ c ≤ 'F' then some (c.toNat - 'A'.toNat + 10)
  else none

/-- The value of a list of hexadecimal digits, most significant first. -/
def hexValues? (digits : List Char) : Option Nat :=
  digits.foldlM (fun n c => (hexValue? c).map (16 * n + ·)) 0

/-- Reads the four digits of an escaped code unit.  Four bytes are taken before
they are looked at, so an error lies after the fourth byte, and at the end of
the text if there are not that many. -/
def readCodeUnit (i : Input) : Except Error (Nat × Input) :=
  let digits := i.rest.take 4
  if (String.ofList digits).utf8ByteSize < 4 then .error (i.errorAtEnd .endInString)
  else match hexValues? digits with
    | some unit => .ok (unit, i.skip 4)
    | none => .error (i.errorAfterBytes 4 .invalidEscape)

/-- Whether a code unit is the first of a pair. -/
def isHighSurrogate (unit : Nat) : Bool := 0xD800 ≤ unit && unit ≤ 0xDBFF

/-- Whether a code unit is the second of a pair. -/
def isLowSurrogate (unit : Nat) : Bool := 0xDC00 ≤ unit && unit ≤ 0xDFFF

/-- Takes a character that has to come next. -/
def expect (i : Input) (c : Char) (f : Fault) : Except Error Input :=
  match i.rest with
  | [] => .error (i.errorSeen .endInString)
  | c' :: _ => if c' = c then .ok i.next else .error (i.errorNext f)

/-- Reads an escaped character by its code units, one or a pair of them, after
the `u`. -/
def readUnicode (i : Input) : Except Error (Char × Input) := do
  let (unit, i) ← readCodeUnit i
  if isLowSurrogate unit then .error (i.errorSeen .loneSurrogate)
  else if isHighSurrogate unit then
    let i ← expect i '\\' .halfSurrogatePair
    let i ← expect i 'u' .halfSurrogatePair
    let (second, i) ← readCodeUnit i
    if isLowSurrogate second then
      .ok (Char.ofNat ((unit - 0xD800) * 0x400 + (second - 0xDC00) + 0x10000), i)
    else .error (i.errorSeen .loneSurrogate)
  else .ok (Char.ofNat unit, i)

/-! ### Escapes -/

/-- What the escapes of one letter stand for. -/
def shortEscape? : Char → Option Char
  | '"' => some '"'
  | '\\' => some '\\'
  | '/' => some '/'
  | 'b' => some '\x08'
  | 'f' => some '\x0c'
  | 'n' => some '\n'
  | 'r' => some '\r'
  | 't' => some '\t'
  | _ => none

/-- Reads an escape after its backslash. -/
def readEscape (i : Input) : Except Error (Char × Input) :=
  match i.rest with
  | [] => .error (i.errorSeen .endInString)
  | c :: _ =>
    if c = 'u' then readUnicode i.next
    else match shortEscape? c with
      | some meant => .ok (meant, i.next)
      | none => .error (i.errorNext .invalidEscape)

/-- Passes over an escape after its backslash. -/
def skipEscape (i : Input) : Except Error Input :=
  match i.rest with
  | [] => .error (i.errorSeen .endInString)
  | c :: _ =>
    if c = 'u' then (readCodeUnit i.next).map Prod.snd
    else if (shortEscape? c).isSome then .ok i.next
    else .error (i.errorNext .invalidEscape)

/-! ### Progress -/

theorem length_readCodeUnit {i j : Input} {unit : Nat} (h : readCodeUnit i = .ok (unit, j)) :
    j.rest.length ≤ i.rest.length := by
  unfold readCodeUnit at h
  dsimp only at h
  split at h
  · simp at h
  · split at h
    · obtain ⟨-, rfl⟩ := Prod.mk.inj (Except.ok.inj h)
      simp
    · simp at h

theorem length_expect {i j : Input} {c : Char} {f : Fault} (h : expect i c f = .ok j) :
    j.rest.length ≤ i.rest.length := by
  unfold expect at h
  split at h
  · simp at h
  · split at h
    · obtain rfl := Except.ok.inj h
      simp
    · simp at h

theorem length_readUnicode {i j : Input} {c : Char} (h : readUnicode i = .ok (c, j)) :
    j.rest.length ≤ i.rest.length := by
  unfold readUnicode at h
  obtain ⟨⟨unit, k⟩, first, h⟩ := exists_of_bind_eq_ok h
  have := length_readCodeUnit first
  dsimp only at h
  split at h
  · simp at h
  · split at h
    · obtain ⟨l, backslash, h⟩ := exists_of_bind_eq_ok h
      obtain ⟨m, letter, h⟩ := exists_of_bind_eq_ok h
      obtain ⟨⟨second, n⟩, last, h⟩ := exists_of_bind_eq_ok h
      have := length_expect backslash
      have := length_expect letter
      have := length_readCodeUnit last
      dsimp only at h
      split at h
      · obtain ⟨-, rfl⟩ := Prod.mk.inj (Except.ok.inj h)
        omega
      · simp at h
    · obtain ⟨-, rfl⟩ := Prod.mk.inj (Except.ok.inj h)
      omega

theorem length_readEscape {i j : Input} {c : Char} (h : readEscape i = .ok (c, j)) :
    j.rest.length ≤ i.rest.length := by
  unfold readEscape at h
  split at h
  · simp at h
  · split at h
    · have := length_readUnicode h
      simp only [Input.rest_next, List.length_drop] at this
      omega
    · split at h
      · obtain ⟨-, rfl⟩ := Prod.mk.inj (Except.ok.inj h)
        simp
      · simp at h

theorem length_skipEscape {i j : Input} (h : skipEscape i = .ok j) :
    j.rest.length ≤ i.rest.length := by
  unfold skipEscape at h
  split at h
  · simp at h
  · split at h
    · obtain ⟨⟨unit, k⟩, read, eq⟩ := exists_of_map_eq_ok h
      obtain rfl : k = j := eq
      have := length_readCodeUnit read
      simp only [Input.rest_next, List.length_drop] at this
      omega
    · split at h
      · obtain rfl := Except.ok.inj h
        simp
      · simp at h

/-! ### Strings -/

/-- Controls below the space may not stand in a string by themselves. -/
def isControl (c : Char) : Bool := c.toNat < 0x20

/-- Reads on in a string; `read` holds the text so far, last character first. -/
def readStringOnto (read : List Char) (i : Input) : Except Error (String × Input) :=
  match _more : i.rest with
  | [] => .error (i.errorSeen .endInString)
  | c :: _ =>
    if c = '"' then .ok (String.ofList read.reverse, i.next)
    else if c = '\\' then
      match _escape : readEscape i.next with
      | .ok (meant, j) => readStringOnto (meant :: read) j
      | .error e => .error e
    else if isControl c then .error (i.errorNext .controlCharacter)
    else readStringOnto (c :: read) i.next
termination_by i.rest.length
decreasing_by
  · have := length_readEscape _escape
    simp only [Input.rest_next, _more, List.drop_succ_cons, List.drop_zero, List.length_cons] at *
    omega
  · simp [_more]

/-- Reads a string after its opening quote. -/
def readString (i : Input) : Except Error (String × Input) := readStringOnto [] i

/-- Passes over a string after its opening quote. -/
def skipString (i : Input) : Except Error Input :=
  match _more : i.rest with
  | [] => .error (i.errorSeen .endInString)
  | c :: _ =>
    if c = '"' then .ok i.next
    else if c = '\\' then
      match _escape : skipEscape i.next with
      | .ok j => skipString j
      | .error e => .error e
    else if isControl c then .error (i.errorSeen .controlCharacter)
    else skipString i.next
termination_by i.rest.length
decreasing_by
  · have := length_skipEscape _escape
    simp only [Input.rest_next, _more, List.drop_succ_cons, List.drop_zero, List.length_cons] at *
    omega
  · simp [_more]

theorem length_readStringOnto {read : List Char} {i j : Input} {text : String}
    (h : readStringOnto read i = .ok (text, j)) : j.rest.length < i.rest.length := by
  fun_induction readStringOnto read i with
  | case1 => simp at h
  | case2 read i rest more =>
    obtain ⟨-, rfl⟩ := Prod.mk.inj (Except.ok.inj h)
    simp [more]
  | case3 read i rest meant k escape more _ ih =>
    have := length_readEscape escape
    have := ih h
    simp_all
    omega
  | case4 => simp at h
  | case5 => simp at h
  | case6 read i c rest more _ _ _ ih =>
    have := ih h
    simp_all
    omega

theorem length_readString {i j : Input} {text : String} (h : readString i = .ok (text, j)) :
    j.rest.length < i.rest.length := length_readStringOnto h

theorem length_skipString {i j : Input} (h : skipString i = .ok j) :
    j.rest.length < i.rest.length := by
  fun_induction skipString i with
  | case1 => simp at h
  | case2 i rest more =>
    obtain rfl := Except.ok.inj h
    simp [more]
  | case3 i rest k escape more _ ih =>
    have := length_skipEscape escape
    have := ih h
    simp_all
    omega
  | case4 => simp at h
  | case5 => simp at h
  | case6 i c rest more _ _ _ ih =>
    have := ih h
    simp_all
    omega

end Json

end Lexis
