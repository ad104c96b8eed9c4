import Lexis.Dialect.Setting
import Lexis.Json.Values

/-!
# Reading a dialect

A dialect is read from JSON, either from an object that names the fields it
sets, or from a list with the values of the fields in order.

* **In an object** the fields come in any order, each at most once.  A member
  with any other name is passed over.
* **In a list** the values may stop early; after the value of the last field
  the list has to end.
* **Errors come in the order of the text**, because each value is checked while
  it is read.  Only a field given twice is noticed at the second key but placed
  behind the blanks and the closing brace that follow it.
-/

namespace Lexis

namespace Dialect

open Json

/-! ### Values of fields -/

/-- Reads a string, which is called `expected` in an error. -/
def readText (expected : String) (i : Input) : Except Error (String × Input) :=
  let i := i.skipSpace
  if i.peek = some '"' then readString i.next else .error (errorWrongKind expected i)

theorem length_readText {expected text : String} {i j : Input}
    (h : readText expected i = .ok (text, j)) : j.rest.length < i.rest.length := by
  have := i.length_skipSpace
  unfold readText at h
  dsimp only at h
  split at h
  · have := length_readString h
    simp only [Input.rest_next, List.length_drop] at this
    omega
  · simp at h

/-- Reads a string of one character. -/
def readChar (i : Input) : Except Error (Char × Input) := do
  let (text, i) ← readText "a character" i
  match text.toList with
  | [c] => .ok (c, i)
  | _ => .error (i.errorSeen (.wrongValue ("string " ++ Quoted.text text) "a character"))

/-- Reads a truth value. -/
def readBool (i : Input) : Except Error (Bool × Input) :=
  let i := i.skipSpace
  if i.peek = some 't' then (readWord i "true".toList).map fun i => (true, i)
  else if i.peek = some 'f' then (readWord i "false".toList).map fun i => (false, i)
  else .error (errorWrongKind "a boolean" i)

/-- Reads the strings of a list after its bracket; `read` holds those so far,
the last one first. -/
def readTextsOnto (read : List String) (i : Input) : Except Error (List String × Input) :=
  match _item : nextItem read.isEmpty i with
  | .error e => .error e
  | .ok (false, i) => .ok (read.reverse, i.next)
  | .ok (true, i) =>
    match _text : readText "a string" i with
    | .error e => .error e
    | .ok (text, i) => readTextsOnto (text :: read) i
termination_by i.rest.length
decreasing_by exact Nat.lt_of_lt_of_le (length_readText _text) (length_nextItem _item)

theorem length_readTextsOnto {read texts : List String} {i j : Input}
    (h : readTextsOnto read i = .ok (texts, j)) : j.rest.length ≤ i.rest.length := by
  fun_induction readTextsOnto read i with
  | case1 => simp at h
  | case2 read i k item =>
    have := length_nextItem item
    obtain ⟨-, rfl⟩ := Prod.mk.inj (Except.ok.inj h)
    simp only [Input.rest_next, List.length_drop]
    omega
  | case3 => simp at h
  | case4 read i k item text m value ih =>
    have := length_nextItem item
    have := length_readText value
    have := ih h
    omega

/-- Reads a list of strings. -/
def readTexts (i : Input) : Except Error (List String × Input) :=
  let i := i.skipSpace
  if i.peek = some '[' then readTextsOnto [] i.next else .error (errorWrongKind "a sequence" i)

/-- Reads the name of an escape mode after its opening quote. -/
def readModeName (i : Input) : Except Error (EscapeMode × Input) := do
  let (text, i) ← readString i
  match EscapeMode.ofKey? text with
  | some mode => .ok (mode, i)
  | none => .error (i.errorSeen (.unknownName text "`drop` or `keep`"))

/-- Reads a value that holds nothing. -/
def readUnit (i : Input) : Except Error Input :=
  let i := i.skipSpace
  if i.peek = some 'n' then readWord i "null".toList else .error (errorWrongKind "unit" i)

/-- Reads the key of an object that names an escape mode, after the brace.  There
has to be one. -/
def readModeKey (i : Input) : Except Error (EscapeMode × Input) :=
  let i := i.skipSpace
  match i.peek with
  | none => .error (i.errorSeen .endInObject)
  | some c =>
    if c = '"' then readModeName i.next
    else .error (i.errorNext (if c = '\x7d' then .expectedValue else .keyNotString))

/-- Reads an object with the name of an escape mode as its one key and nothing as
the value, after the brace. -/
def readModeObject (i : Input) : Except Error (EscapeMode × Input) := do
  let (mode, i) ← readModeKey i
  let i ← readColon i
  let i ← readUnit i
  let i := i.skipSpace
  if i.peek = some '\x7d' then .ok (mode, i.next)
  else .error (i.errorSeen (if i.peek.isNone then .endInObject else .expectedValue))

/-- Reads an escape mode: its name, or an object with the name as its key. -/
def readMode (i : Input) : Except Error (EscapeMode × Input) :=
  let i := i.skipSpace
  if i.peek = some '"' then readModeName i.next
  else if i.peek = some '\x7b' then readModeObject i.next
  else .error (if i.peek.isNone then i.errorSeen .endInValue else i.errorNext .expectedValue)

/-- Reads the value of a field. -/
def readSetting (i : Input) : Field → Except Error (Setting × Input)
  | .keywords => (readTexts i).map fun (words, i) => (.keywords words, i)
  | .punctuation => (readText "a string" i).map fun (chars, i) => (.punctuation chars, i)
  | .operators => (readText "a string" i).map fun (chars, i) => (.operators chars, i)
  | .stringDelimiter => (readChar i).map fun (c, i) => (.stringDelimiter c, i)
  | .commentMarker => (readChar i).map fun (c, i) => (.commentMarker c, i)
  | .escapeMode => (readMode i).map fun (mode, i) => (.escapeMode mode, i)
  | .strictStrings => (readBool i).map fun (strict, i) => (.strictStrings strict, i)

/-! ### Progress -/

theorem length_readTexts {texts : List String} {i j : Input}
    (h : readTexts i = .ok (texts, j)) : j.rest.length ≤ i.rest.length := by
  have := i.length_skipSpace
  unfold readTexts at h
  dsimp only at h
  split at h
  · have := length_readTextsOnto h
    simp only [Input.rest_next, List.length_drop] at this
    omega
  · simp at h

theorem length_readChar {c : Char} {i j : Input} (h : readChar i = .ok (c, j)) :
    j.rest.length ≤ i.rest.length := by
  unfold readChar at h
  obtain ⟨⟨text, k⟩, read, h⟩ := exists_of_bind_eq_ok h
  have := length_readText read
  dsimp only at h
  split at h
  · obtain ⟨-, rfl⟩ := Prod.mk.inj (Except.ok.inj h)
    omega
  · simp at h

theorem length_readBool {b : Bool} {i j : Input} (h : readBool i = .ok (b, j)) :
    j.rest.length ≤ i.rest.length := by
  have := i.length_skipSpace
  have word {w : List Char} {b' : Bool}
      (h : (readWord i.skipSpace w).map (fun i => (b', i)) = .ok (b, j)) :
      j.rest.length ≤ i.rest.length := by
    obtain ⟨k, read, eq⟩ := exists_of_map_eq_ok h
    have := length_readWord read
    obtain ⟨-, rfl⟩ := Prod.mk.inj eq
    omega
  unfold readBool at h
  dsimp only at h
  split at h
  · exact word h
  · split at h
    · exact word h
    · simp at h

theorem length_readModeName {mode : EscapeMode} {i j : Input}
    (h : readModeName i = .ok (mode, j)) : j.rest.length < i.rest.length := by
  unfold readModeName at h
  obtain ⟨⟨text, k⟩, read, h⟩ := exists_of_bind_eq_ok h
  have := length_readString read
  dsimp only at h
  split at h
  · obtain ⟨-, rfl⟩ := Prod.mk.inj (Except.ok.inj h)
    omega
  · simp at h

theorem length_readUnit {i j : Input} (h : readUnit i = .ok j) :
    j.rest.length ≤ i.rest.length := by
  have := i.length_skipSpace
  unfold readUnit at h
  dsimp only at h
  split at h
  · have := length_readWord h
    omega
  · simp at h

theorem length_readModeKey {mode : EscapeMode} {i j : Input}
    (h : readModeKey i = .ok (mode, j)) : j.rest.length ≤ i.rest.length := by
  have := i.length_skipSpace
  unfold readModeKey at h
  dsimp only at h
  split at h
  · simp at h
  · split at h
    · have := length_readModeName h
      simp only [Input.rest_next, List.length_drop] at this
      omega
    · simp at h

theorem length_readModeObject {mode : EscapeMode} {i j : Input}
    (h : readModeObject i = .ok (mode, j)) : j.rest.length ≤ i.rest.length := by
  unfold readModeObject at h
  obtain ⟨⟨mode', k⟩, named, h⟩ := exists_of_bind_eq_ok h
  obtain ⟨l, parted, h⟩ := exists_of_bind_eq_ok h
  obtain ⟨m, valued, h⟩ := exists_of_bind_eq_ok h
  have := length_readModeKey named
  have := length_readColon parted
  have := length_readUnit valued
  have := m.length_skipSpace
  dsimp only at h
  split at h
  · obtain ⟨-, rfl⟩ := Prod.mk.inj (Except.ok.inj h)
    simp only [Input.rest_next, List.length_drop]
    omega
  · simp at h

theorem length_readMode {mode : EscapeMode} {i j : Input} (h : readMode i = .ok (mode, j)) :
    j.rest.length ≤ i.rest.length := by
  have := i.length_skipSpace
  unfold readMode at h
  dsimp only at h
  split at h
  · have := length_readModeName h
    simp only [Input.rest_next, List.length_drop] at this
    omega
  · split at h
    · have := length_readModeObject h
      simp only [Input.rest_next, List.length_drop] at this
      omega
    · simp at h

theorem length_readSetting {f : Field} {s : Setting} {i j : Input}
    (h : readSetting i f = .ok (s, j)) : j.rest.length ≤ i.rest.length := by
  have text {s' : String → Setting}
      (h : (readText "a string" i).map (fun (chars, i) => (s' chars, i)) = .ok (s, j)) :
      j.rest.length ≤ i.rest.length := by
    obtain ⟨⟨found, k⟩, value, eq⟩ := exists_of_map_eq_ok h
    have := length_readText value
    obtain ⟨-, rfl⟩ := Prod.mk.inj eq
    omega
  have char {s' : Char → Setting}
      (h : (readChar i).map (fun (c, i) => (s' c, i)) = .ok (s, j)) :
      j.rest.length ≤ i.rest.length := by
    obtain ⟨⟨found, k⟩, value, eq⟩ := exists_of_map_eq_ok h
    obtain ⟨-, rfl⟩ := Prod.mk.inj eq
    exact length_readChar value
  cases f with
  | keywords =>
    obtain ⟨⟨found, k⟩, value, eq⟩ := exists_of_map_eq_ok h
    obtain ⟨-, rfl⟩ := Prod.mk.inj eq
    exact length_readTexts value
  | punctuation => exact text h
  | operators => exact text h
  | stringDelimiter => exact char h
  | commentMarker => exact char h
  | escapeMode =>
    obtain ⟨⟨found, k⟩, value, eq⟩ := exists_of_map_eq_ok h
    obtain ⟨-, rfl⟩ := Prod.mk.inj eq
    exact length_readMode value
  | strictStrings =>
    obtain ⟨⟨found, k⟩, value, eq⟩ := exists_of_map_eq_ok h
    obtain ⟨-, rfl⟩ := Prod.mk.inj eq
    exact length_readBool value

/-! ### Dialects -/

/-- The error for a field that is given twice, after its second key. -/
def errorDuplicate (f : Field) (i : Input) : Error :=
  let i := i.skipSpace
  let i := if i.peek = some '\x7d' then i.next else i
  i.errorSeen (.duplicateField f.key)

/-- Reads the members of an object after its brace; `read` holds the settings so
far, the last one first. -/
def readMembersOnto (first : Bool) (read : List Setting) (i : Input) :
    Except Error (List Setting × Input) :=
  match _key : nextKey first i with
  | .error e => .error e
  | .ok (none, i) => .ok (read.reverse, i.next)
  | .ok (some key, i) =>
    match Field.ofKey? key with
    | none =>
      match _value : (readColon i).bind skipValue with
      | .error e => .error e
      | .ok i => readMembersOnto false read i
    | some f =>
      if read.any (·.field = f) then .error (errorDuplicate f i)
      else match _value : (readColon i).bind fun i => readSetting i f with
        | .error e => .error e
        | .ok (setting, i) => readMembersOnto false (setting :: read) i
termination_by i.rest.length
decreasing_by
  all_goals have shorter := length_nextKey _key
  · obtain ⟨k, colon, value⟩ := exists_of_bind_eq_ok _value
    have := length_readColon colon
    have := length_skipValue value
    omega
  · obtain ⟨k, colon, value⟩ := exists_of_bind_eq_ok _value
    have := length_readColon colon
    have := length_readSetting value
    omega

/-- Takes the bracket that ends a full list of values. -/
def readListEnd (i : Input) : Except Error Input :=
  let i := i.skipSpace
  match i.peek with
  | none => .error (i.errorSeen .endInList)
  | some c =>
    if c = ']' then .ok i.next
    else if c = ',' then
      let i := i.next.skipSpace
      .error (i.errorNext (if i.peek = some ']' then .trailingComma else .trailingCharacters))
    else .error (i.errorNext .trailingCharacters)

/-- Reads the values of the given fields after the bracket of a list. -/
def readItems (first : Bool) (i : Input) : List Field → Except Error (List Setting × Input)
  | [] => (readListEnd i).map fun i => ([], i)
  | f :: fields => do
    let (more, i) ← nextItem first i
    if more then
      let (setting, i) ← readSetting i f
      let (settings, i) ← readItems false i fields
      .ok (setting :: settings, i)
    else .ok ([], i.next)

/-- Reads the settings of a dialect. -/
def readSettings (i : Input) : Except Error (List Setting × Input) :=
  let i := i.skipSpace
  if i.peek = some '\x7b' then readMembersOnto true [] i.next
  else if i.peek = some '[' then readItems true i.next Field.all
  else .error (errorWrongKind "struct LexerConfig" i)

/-- The dialect that a text describes.  Nothing but blanks may come after it. -/
def ofText (text : String) : Except Error Dialect := do
  let (settings, i) ← readSettings (Input.ofText text)
  let i := i.skipSpace
  if i.peek.isSome then .error (i.errorNext .trailingCharacters)
  else .ok (ofSettings settings)

end Dialect

end Lexis
