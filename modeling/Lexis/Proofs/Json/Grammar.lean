import Lexis.Json
import Lexis.Json.Numbers
import Lexis.Json.Strings
import Lexis.Proofs.Grammar

/-!
# The grammar of JSON

Which texts are JSON, and which value each of them denotes, is told here without
reading or writing them.  `Grammar` is the judgement, and `Denotes` is what it comes
to for a value that is wanted.

* **Strings are a parameter.**  What a value is wanted for decides which bodies a
  string may have.  `Spells` gives a body its meaning, and a body with half a
  surrogate pair has none; `Passable` is any body that has the form of one, which is
  all that a value to be passed over needs.
* **Numbers are their text** (`Numeric`), as they are in a value.
* **Blanks stand around items and members**, never inside an atom, so the text of a
  value starts and ends with a character of the value itself.
* **Only a number needs to know what follows it** (`NumberEnds`): every other value
  shows by itself where it ends.
-/

namespace Lexis

namespace Json

/-- The text is made up of blanks. -/
def Blank (text : List Char) : Prop := ∀ c ∈ text, Input.isSpace c = true

theorem blank_nil : Blank [] := by simp [Blank]

theorem blank_singleton {c : Char} (space : Input.isSpace c = true) : Blank [c] :=
  List.forall_mem_singleton.mpr space

/-! ### Strings -/

/-- Four hexadecimal digits and the code unit they spell. -/
structure CodeUnit (digits : List Char) (unit : Nat) : Prop where
  four : digits.length = 4
  value : hexValues? digits = some unit

/-- The character that a surrogate pair stands for. -/
def pairChar (high low : Nat) : Char :=
  Char.ofNat ((high - 0xD800) * 0x400 + (low - 0xDC00) + 0x10000)

/-- `Spells meaning body`: between quotes, the text `body` stands for `meaning`. -/
inductive Spells : List Char → List Char → Prop
  | nil : Spells [] []
  | plain {c : Char} {meaning body : List Char} (noQuote : c ≠ '"') (noEscape : c ≠ '\\')
      (noControl : isControl c = false) (more : Spells meaning body) :
      Spells (c :: meaning) (c :: body)
  | short {letter c : Char} {meaning body : List Char} (means : shortEscape? letter = some c)
      (more : Spells meaning body) : Spells (c :: meaning) ('\\' :: letter :: body)
  | unit {digits meaning body : List Char} {u : Nat} (isUnit : CodeUnit digits u)
      (noLow : isLowSurrogate u = false) (noHigh : isHighSurrogate u = false)
      (more : Spells meaning body) :
      Spells (Char.ofNat u :: meaning) ('\\' :: 'u' :: (digits ++ body))
  | pair {digits digits' meaning body : List Char} {high low : Nat}
      (isUnit : CodeUnit digits high) (isUnit' : CodeUnit digits' low)
      (isHigh : isHighSurrogate high = true) (isLow : isLowSurrogate low = true)
      (more : Spells meaning body) :
      Spells (pairChar high low :: meaning)
        ('\\' :: 'u' :: (digits ++ '\\' :: 'u' :: (digits' ++ body)))

/-- The text has the form of a string's body: as in `Spells`, but a code unit may be
half of a pair. -/
inductive Passable : List Char → Prop
  | nil : Passable []
  | plain {c : Char} {body : List Char} (noQuote : c ≠ '"') (noEscape : c ≠ '\\')
      (noControl : isControl c = false) (more : Passable body) : Passable (c :: body)
  | short {letter : Char} {body : List Char} (isShort : (shortEscape? letter).isSome = true)
      (more : Passable body) : Passable ('\\' :: letter :: body)
  | unit {digits body : List Char} {u : Nat} (isUnit : CodeUnit digits u)
      (more : Passable body) : Passable ('\\' :: 'u' :: (digits ++ body))

/-! ### Numbers -/

/-- The digits in front of the point: a zero alone, or no zero in front. -/
inductive Whole : List Char → Prop
  | zero : Whole ['0']
  | digits {c : Char} {digits : List Char} (noZero : c ≠ '0')
      (areDigits : ∀ x ∈ c :: digits, x.isDigit = true) : Whole (c :: digits)

/-- A point and digits behind it, or nothing. -/
inductive Fraction : List Char → Prop
  | absent : Fraction []
  | present {digits : List Char} (nonempty : digits ≠ [])
      (areDigits : ∀ x ∈ digits, x.isDigit = true) : Fraction ('.' :: digits)

/-- The letter of an exponent with its sign and digits, or nothing. -/
inductive Exponent : List Char → Prop
  | absent : Exponent []
  | present {letter : Char} {sign digits : List Char} (marks : letter = 'e' ∨ letter = 'E')
      (signed : sign = [] ∨ sign = ['+'] ∨ sign = ['-']) (nonempty : digits ≠ [])
      (areDigits : ∀ x ∈ digits, x.isDigit = true) : Exponent (letter :: (sign ++ digits))

/-- The text is a number. -/
inductive Numeric : List Char → Prop
  | intro {sign whole fraction exponent : List Char} (signed : sign = [] ∨ sign = ['-'])
      (isWhole : Whole whole) (isFraction : Fraction fraction) (isExponent : Exponent exponent) :
      Numeric (sign ++ (whole ++ (fraction ++ exponent)))

/-- Whether a number could go on with the character. -/
def continuesNumber (c : Char) : Bool := c.isDigit || c = '.' || c = 'e' || c = 'E'

/-- A number in front of the text ends there. -/
abbrev NumberEnds (after : List Char) : Prop := Ends continuesNumber after

/-! ### Values -/

/-- What a part of a text can be. -/
inductive Phrase where
  | value (j : Json)
  /-- A value with the blanks around it. -/
  | item (j : Json)
  /-- A key and a value, with the blanks around them. -/
  | member (key : String) (j : Json)
  /-- One item or more, with commas between. -/
  | items (js : List Json)
  /-- One member or more, with commas between. -/
  | members (ms : List (String × Json))

/-- `Keyed strings key value text`: in `text` the key comes before `value`. -/
inductive Keyed (strings : String → List Char → Prop) (key : String) (value : List Char) :
    List Char → Prop
  | intro {before body between : List Char} (blank : Blank before) (spelled : strings key body)
      (blank' : Blank between) :
      Keyed strings key value (before ++ '"' :: (body ++ '"' :: (between ++ ':' :: value)))

/-- `Grammar strings p text`: the text is the phrase `p`, where `strings` tells the
bodies that strings may have. -/
inductive Grammar (strings : String → List Char → Prop) : Phrase → List Char → Prop
  | null : Grammar strings (.value .null) "null".toList
  | bool (b : Bool) : Grammar strings (.value (.bool b)) (if b then "true" else "false").toList
  | number {text : List Char} (isNumber : Numeric text) :
      Grammar strings (.value (.number text)) text
  | string {s : String} {body : List Char} (spelled : strings s body) :
      Grammar strings (.value (.string s)) ('"' :: (body ++ ['"']))
  | noItems {gap : List Char} (blank : Blank gap) :
      Grammar strings (.value (.array [])) ('[' :: (gap ++ [']']))
  | array {js : List Json} {text : List Char} (inside : Grammar strings (.items js) text) :
      Grammar strings (.value (.array js)) ('[' :: (text ++ [']']))
  | noMembers {gap : List Char} (blank : Blank gap) :
      Grammar strings (.value (.object [])) ('\x7b' :: (gap ++ ['\x7d']))
  | object {ms : List (String × Json)} {text : List Char}
      (inside : Grammar strings (.members ms) text) :
      Grammar strings (.value (.object ms)) ('\x7b' :: (text ++ ['\x7d']))
  | item {j : Json} {before text after : List Char} (blank : Blank before)
      (value : Grammar strings (.value j) text) (blank' : Blank after) :
      Grammar strings (.item j) (before ++ (text ++ after))
  | member {key : String} {j : Json} {value text : List Char}
      (item : Grammar strings (.item j) value) (keyed : Keyed strings key value text) :
      Grammar strings (.member key j) text
  | lastItem {j : Json} {text : List Char} (last : Grammar strings (.item j) text) :
      Grammar strings (.items [j]) text
  | moreItems {j : Json} {js : List Json} {text behind : List Char}
      (first : Grammar strings (.item j) text) (more : Grammar strings (.items js) behind) :
      Grammar strings (.items (j :: js)) (text ++ ',' :: behind)
  | lastMember {key : String} {j : Json} {text : List Char}
      (last : Grammar strings (.member key j) text) : Grammar strings (.members [(key, j)]) text
  | moreMembers {key : String} {j : Json} {ms : List (String × Json)} {text behind : List Char}
      (first : Grammar strings (.member key j) text)
      (more : Grammar strings (.members ms) behind) :
      Grammar strings (.members ((key, j) :: ms)) (text ++ ',' :: behind)

/-- The body stands for the text. -/
def Meant (s : String) (body : List Char) : Prop := Spells s.toList body

/-- **The text denotes the value.** -/
def Denotes (j : Json) (text : List Char) : Prop := Grammar Meant (.value j) text

end Json

end Lexis
