import Lexis.Json.Numbers
import Lexis.Json.Strings
import Lexis.Text.Quoted

/-!
# Reading JSON values

The parts of a reader that are not tied to one kind of data: words, the commas
and brackets of lists and objects, passing over a value whatever it is, and
saying what a value is that is of the wrong kind.

**Skipping keeps its own stack.**  What surrounds the value being skipped is a
list of frames, so values may be nested to any depth.
-/

namespace Lexis

namespace Json

/-! ### Words -/

/-- Takes the characters of a word that have to come next. -/
def readWord (i : Input) : List Char → Except Error Input
  | [] => .ok i
  | c :: word =>
    match i.peek with
    | none => .error (i.errorSeen .endInValue)
    | some c' => if c' = c then readWord i.next word else .error (i.errorNext .expectedWord)

theorem length_readWord {i j : Input} {word : List Char} (h : readWord i word = .ok j) :
    j.rest.length ≤ i.rest.length := by
  induction word generalizing i with
  | nil => simp_all [readWord]
  | cons c word ih =>
    unfold readWord at h
    split at h
    · simp at h
    · split at h
      · have := ih h
        simp at this
        omega
      · simp at h

/-! ### Lists and objects -/

/-- Moves on to the next item of a list, if there is one; otherwise up to the
bracket that ends the list.  A comma has to stand in front of every item but the
first. -/
def nextItem (first : Bool) (i : Input) : Except Error (Bool × Input) :=
  let i := i.skipSpace
  match i.peek with
  | none => .error (i.errorSeen .endInList)
  | some c =>
    if c = ']' then .ok (false, i)
    else if first then .ok (true, i)
    else if c = ',' then
      let i := i.next.skipSpace
      match i.peek with
      | none => .error (i.errorSeen .endInValue)
      | some c => if c = ']' then .error (i.errorNext .trailingComma) else .ok (true, i)
    else .error (i.errorNext .expectedCommaOrBracket)

/-- Reads the next key of an object, if there is one; otherwise moves up to the
brace that ends the object. -/
def nextKey (first : Bool) (i : Input) : Except Error (Option String × Input) :=
  let i := i.skipSpace
  match i.peek with
  | none => .error (i.errorSeen .endInObject)
  | some c =>
    if c = '\x7d' then .ok (none, i)
    else if first then
      if c = '"' then (readString i.next).map fun (key, i) => (some key, i)
      else .error (i.errorNext .keyNotString)
    else if c = ',' then
      let i := i.next.skipSpace
      match i.peek with
      | none => .error (i.errorSeen .endInValue)
      | some c =>
        if c = '"' then (readString i.next).map fun (key, i) => (some key, i)
        else .error (i.errorNext (if c = '\x7d' then .trailingComma else .keyNotString))
    else .error (i.errorNext .expectedCommaOrBrace)

/-- Takes the colon between a key and its value. -/
def readColon (i : Input) : Except Error Input :=
  let i := i.skipSpace
  match i.peek with
  | none => .error (i.errorSeen .endInObject)
  | some c => if c = ':' then .ok i.next else .error (i.errorNext .expectedColon)

/-! ### Values of the wrong kind -/

/-- What a number is called in an error. -/
def Number.describe : Number → String
  | integer value => s!"integer `{value}`"
  | float value => "floating point `" ++ String.ofList (value.write .interchange) ++ "`"

/-- The error for a value that is of another kind than expected.  The value is
read first, except for lists and objects, and an error in it comes before. -/
def errorWrongKind (expected : String) (i : Input) : Error :=
  let wrong (found : String) (i : Input) : Error := i.errorSeen (.wrongKind found expected)
  let after (found : String) : Except Error Input → Error
    | .ok i => wrong found i
    | .error e => e
  match i.peek with
  | none => i.errorSeen .endInValue
  | some c =>
    if c = 'n' then after "null" (readWord i "null".toList)
    else if c = 't' then after "boolean `true`" (readWord i "true".toList)
    else if c = 'f' then after "boolean `false`" (readWord i "false".toList)
    else if c = '-' || c.isDigit then
      match readNumber i with
      | .ok (n, i) => wrong n.describe i
      | .error e => e
    else if c = '"' then
      match readString i.next with
      | .ok (text, i) => wrong ("string " ++ Quoted.text text) i
      | .error e => e
    else if c = '[' then wrong "sequence" i
    else if c = '\x7b' then wrong "map" i
    else i.errorNext .expectedValue

/-! ### Skipping -/

/-- What a skipped value stands in. -/
inductive Frame where
  | list
  | object
deriving DecidableEq

namespace Frame

/-- The bracket that ends a frame. -/
def closing : Frame → Char
  | list => ']'
  | object => '\x7d'

/-- The fault of a text that ends in a frame. -/
def endFault : Frame → Fault
  | list => .endInList
  | object => .endInObject

/-- The fault of a value after which a frame neither goes on nor ends. -/
def commaFault : Frame → Fault
  | list => .expectedCommaOrBracket
  | object => .expectedCommaOrBrace

end Frame

/-- Passes over a value that is neither a list nor an object. -/
def skipAtom (i : Input) : Except Error Input :=
  match i.peek with
  | none => .error (i.errorSeen .endInValue)
  | some c =>
    if c = 'n' then readWord i.next "ull".toList
    else if c = 't' then readWord i.next "rue".toList
    else if c = 'f' then readWord i.next "alse".toList
    else if c = '-' || c.isDigit then skipNumber i
    else if c = '"' then skipString i.next
    else .error (i.errorNext .expectedValue)

/-- Passes over a key and its colon. -/
def skipKey (i : Input) : Except Error Input :=
  let i := i.skipSpace
  match i.peek with
  | none => .error (i.errorSeen .endInObject)
  | some c =>
    if c = '"' then (skipString i.next).bind readColon else .error (i.errorNext .keyNotString)

theorem length_readColon {i j : Input} (h : readColon i = .ok j) :
    j.rest.length ≤ i.rest.length := by
  have := i.length_skipSpace
  unfold readColon at h
  dsimp only at h
  repeat' split at h
  all_goals simp only [reduceCtorEq, Except.ok.injEq] at h
  subst h
  simp only [Input.rest_next, List.length_drop]
  omega

theorem length_rest_of_peek {i : Input} {c : Char} (h : i.peek = some c) :
    0 < i.rest.length := by
  have : i.rest ≠ [] := by rintro empty; simp [Input.peek, empty] at h
  exact List.length_pos_iff.mpr this

theorem length_skipAtom {i j : Input} (h : skipAtom i = .ok j) :
    j.rest.length < i.rest.length := by
  unfold skipAtom at h
  split at h
  · simp at h
  · next c some_c =>
    have more := length_rest_of_peek some_c
    have word {w : List Char} (h : readWord i.next w = .ok j) :
        j.rest.length < i.rest.length := by
      have := length_readWord h
      simp only [Input.rest_next, List.length_drop] at this
      omega
    repeat' split at h
    · exact word h
    · exact word h
    · exact word h
    · exact length_skipNumber h
    · have := length_skipString h
      simp only [Input.rest_next, List.length_drop] at this
      omega
    · simp at h

theorem length_skipKey {i j : Input} (h : skipKey i = .ok j) :
    j.rest.length < i.rest.length := by
  have := i.length_skipSpace
  unfold skipKey at h
  dsimp only at h
  split at h
  · simp at h
  · split at h
    · cases key : skipString i.skipSpace.next with
      | error e => simp [key, Except.bind] at h
      | ok k =>
        simp only [key, Except.bind] at h
        have := length_readColon h
        have := length_skipString key
        simp only [Input.rest_next, List.length_drop] at this
        omega
    · simp at h

theorem length_next_skipSpace {i : Input} {c : Char} (h : i.peek = some c) :
    i.next.skipSpace.rest.length < i.rest.length := by
  have := i.next.length_skipSpace
  have := length_rest_of_peek h
  simp only [Input.rest_next, List.length_drop] at *
  omega

mutual

/-- Passes over a value and over the rest of what it stands in. -/
def skipInto (stack : List Frame) (i : Input) : Except Error Input :=
  let start := i.skipSpace
  match _start : start.peek with
  | none => .error (start.errorSeen .endInValue)
  | some c =>
    let inner := start.next.skipSpace
    if c = '[' then
      match _inner : inner.peek with
      | none => .error (inner.errorSeen .endInList)
      | some c =>
        if c = ']' then skipOut stack inner.next else skipInto (.list :: stack) inner
    else if c = '\x7b' then
      match _inner : inner.peek with
      | none => .error (inner.errorSeen .endInObject)
      | some c =>
        if c = '\x7d' then skipOut stack inner.next
        else match _key : skipKey inner with
          | .ok value => skipInto (.object :: stack) value
          | .error e => .error e
    else match _atom : skipAtom start with
      | .ok after => skipOut stack after
      | .error e => .error e
termination_by i.rest.length
decreasing_by
  all_goals
    have shorter : start.rest.length ≤ i.rest.length := i.length_skipSpace
    have inside : inner.rest.length < start.rest.length := length_next_skipSpace _start
    have beyond : inner.next.rest.length ≤ inner.rest.length := by simp
  · exact Nat.lt_of_le_of_lt beyond (Nat.lt_of_lt_of_le inside shorter)
  · exact Nat.lt_of_lt_of_le inside shorter
  · exact Nat.lt_of_le_of_lt beyond (Nat.lt_of_lt_of_le inside shorter)
  · exact Nat.lt_trans (length_skipKey _key) (Nat.lt_of_lt_of_le inside shorter)
  · exact Nat.lt_of_lt_of_le (length_skipAtom _atom) shorter

/-- Passes over what follows a value in what it stands in. -/
def skipOut (stack : List Frame) (i : Input) : Except Error Input :=
  match stack with
  | [] => .ok i
  | frame :: outer =>
    let after := i.skipSpace
    match _after : after.peek with
    | none => .error (after.errorSeen frame.endFault)
    | some c =>
      if c = ',' then
        match frame with
        | .list => skipInto (.list :: outer) after.next
        | .object =>
          match _key : skipKey after.next with
          | .ok value => skipInto (.object :: outer) value
          | .error e => .error e
      else if c = frame.closing then skipOut outer after.next
      else .error (after.errorNext frame.commaFault)
termination_by i.rest.length
decreasing_by
  all_goals
    have shorter : after.rest.length ≤ i.rest.length := i.length_skipSpace
    have beyond : after.next.rest.length < after.rest.length := by
      have := length_rest_of_peek _after
      simp only [Input.rest_next, List.length_drop]
      omega
  · exact Nat.lt_of_lt_of_le beyond shorter
  · exact Nat.lt_of_lt_of_le (Nat.lt_trans (length_skipKey _key) beyond) shorter
  · exact Nat.lt_of_lt_of_le beyond shorter

end

/-- Passes over a value. -/
def skipValue (i : Input) : Except Error Input := skipInto [] i

/-- Skipping never goes back. -/
theorem length_skip (n : Nat) (stack : List Frame) (i j : Input) (bound : i.rest.length ≤ n) :
    (skipInto stack i = .ok j → j.rest.length ≤ i.rest.length) ∧
      (skipOut stack i = .ok j → j.rest.length ≤ i.rest.length) := by
  induction n using Nat.strongRecOn generalizing stack i j with
  | ind n ih =>
    have into {stack : List Frame} {k : Input} (less : k.rest.length < i.rest.length)
        (h : skipInto stack k = .ok j) : j.rest.length ≤ i.rest.length := by
      have := (ih k.rest.length (by omega) stack k j (Nat.le_refl _)).1 h
      omega
    have out {stack : List Frame} {k : Input} (less : k.rest.length < i.rest.length)
        (h : skipOut stack k = .ok j) : j.rest.length ≤ i.rest.length := by
      have := (ih k.rest.length (by omega) stack k j (Nat.le_refl _)).2 h
      omega
    have shorter := i.length_skipSpace
    have beyond (k : Input) : k.next.rest.length ≤ k.rest.length := by simp
    constructor
    · intro h
      rw [skipInto] at h
      dsimp only at h
      split at h
      · simp at h
      · next c start =>
        have inside := length_next_skipSpace start
        have after := beyond i.skipSpace.next.skipSpace
        repeat' split at h
        any_goals simp only [reduceCtorEq] at h
        · exact out (by omega) h
        · exact into (by omega) h
        · exact out (by omega) h
        · next key =>
          have := length_skipKey key
          exact into (by omega) h
        · next atom =>
          have := length_skipAtom atom
          exact out (by omega) h
    · intro h
      rw [skipOut.eq_def] at h
      dsimp only at h
      split at h
      · obtain rfl := Except.ok.inj h
        exact Nat.le_refl _
      · split at h
        · simp at h
        · next c after =>
          have more := length_rest_of_peek after
          have next : i.skipSpace.next.rest.length < i.skipSpace.rest.length := by
            simp only [Input.rest_next, List.length_drop]
            omega
          repeat' split at h
          any_goals simp only [reduceCtorEq] at h
          · exact into (by omega) h
          · next key =>
            have := length_skipKey key
            exact into (by omega) h
          · exact out (by omega) h

theorem length_skipValue {i j : Input} (h : skipValue i = .ok j) :
    j.rest.length ≤ i.rest.length :=
  (length_skip i.rest.length [] i j (Nat.le_refl _)).1 h

/-! ### Progress -/

theorem length_nextItem {first more : Bool} {i j : Input}
    (h : nextItem first i = .ok (more, j)) : j.rest.length ≤ i.rest.length := by
  have shorter := i.length_skipSpace
  have farther := i.skipSpace.next.length_skipSpace
  simp only [Input.rest_next, List.length_drop] at farther
  unfold nextItem at h
  dsimp only at h
  repeat' split at h
  all_goals simp only [reduceCtorEq, Except.ok.injEq, Prod.mk.injEq] at h
  all_goals
    obtain ⟨-, rfl⟩ := h
    omega

theorem length_nextKey {first : Bool} {key : String} {i j : Input}
    (h : nextKey first i = .ok (some key, j)) : j.rest.length < i.rest.length := by
  have shorter := i.length_skipSpace
  have farther := i.skipSpace.next.length_skipSpace
  simp only [Input.rest_next, List.length_drop] at farther
  have string {k : Input}
      (h : (readString k.next).map (fun (key, i) => (some key, i)) = .ok (some key, j)) :
      j.rest.length < k.rest.length := by
    obtain ⟨⟨text, m⟩, read, eq⟩ := exists_of_map_eq_ok h
    have := length_readString read
    obtain ⟨-, rfl⟩ := Prod.mk.inj eq
    simp only [Input.rest_next, List.length_drop] at this
    omega
  unfold nextKey at h
  dsimp only at h
  repeat' split at h
  any_goals simp only [reduceCtorEq, Except.ok.injEq, Prod.mk.injEq, false_and] at h
  · have := string h
    omega
  · have := string h
    omega

end Json

end Lexis
