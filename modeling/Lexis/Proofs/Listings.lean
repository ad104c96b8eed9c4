import Lexis.Listing
import Lexis.Proofs.Interchange
import Lexis.Proofs.Json.Reader
import Lexis.Proofs.Json.Writing

/-!
# Listings as JSON

A list of tokens written as JSON is one array and a line feed, and reads back as the
same list (`Listing.json_roundtrip`).

`Listing.read?` undoes the writing without knowing how it lays out an array or spells
a string: it reads any JSON text, looks up kind and value of each object, and takes a
number for the binary64 number it denotes.  Only finite numbers are numbers in JSON.
-/

namespace Lexis

open Json

/-! ### Decoding -/

/-- The kind with a given name. -/
def TokenKind.ofName? (name : String) : Option TokenKind := all.find? (·.name = name)

theorem TokenKind.ofName?_name (k : TokenKind) : ofName? k.name = some k := by cases k <;> decide

namespace Token

/-- The token of a kind with a JSON value: a number for numbers, a string for every
other kind. -/
def ofValue? : TokenKind → Json → Option Token
  | .number, .number text => (binary64? text).map .number
  | .keyword, .string text => some (.keyword text)
  | .identifier, .string text => some (.identifier text)
  | .operator, .string text => some (.operator text)
  | .punctuation, .string text => some (.punctuation text)
  | .string, .string text => some (.string text)
  | _, _ => none

/-- The token that an object with a kind and a value stands for. -/
def ofJson? : Json → Option Token
  | .object members =>
    match members.lookup "kind", members.lookup "value" with
    | some (.string name), some value =>
      (TokenKind.ofName? name).bind fun kind => ofValue? kind value
    | _, _ => none
  | _ => none

/-- The value of a token as JSON. -/
def valueToJson : Token → Json
  | number value => numberToJson value
  | keyword text | identifier text | operator text | punctuation text | string text => .string text

theorem toJson_eq (t : Token) :
    t.toJson = .object [("kind", .string t.kind.name), ("value", t.valueToJson)] := by
  cases t <;> rfl

/-- The token is not a number, or a finite one. -/
def Finite (t : Token) : Prop := ∀ x ∈ t.number?, x.isFinite = true

theorem ofValue?_valueToJson {t : Token} (finite : t.Finite) :
    ofValue? t.kind t.valueToJson = some t := by
  cases t with
  | number x =>
    have isFinite : x.isFinite = true := finite x rfl
    simp only [kind, valueToJson, numberToJson, isFinite, if_pos, ofValue?,
      (Binary64.interchange isFinite).2, Option.map_some]
  | keyword | identifier | operator | punctuation | string => rfl

/-- **A token is decoded from its JSON form.** -/
theorem ofJson?_toJson {t : Token} (finite : t.Finite) : ofJson? t.toJson = some t := by
  have read : ofJson? (.object [("kind", .string t.kind.name), ("value", t.valueToJson)]) =
      (TokenKind.ofName? t.kind.name).bind fun kind => ofValue? kind t.valueToJson := rfl
  rw [toJson_eq, read, TokenKind.ofName?_name]
  exact ofValue?_valueToJson finite

/-- The JSON form of a token has no number that is not spelled as one. -/
theorem proper_toJson (t : Token) (finite : t.Finite) : Proper t.toJson := by
  have value : Proper t.valueToJson := by
    cases t with
    | number x =>
      have isFinite : x.isFinite = true := finite x rfl
      rw [valueToJson, numberToJson, if_pos isFinite]
      exact .number (Binary64.interchange isFinite).1
    | keyword | identifier | operator | punctuation | string => exact .string _
  rw [toJson_eq]
  refine .object ?_
  intro m mem
  rcases List.mem_cons.mp mem with rfl | mem
  · exact .string _
  · obtain rfl := List.mem_singleton.mp mem
    exact value

end Token

namespace Listing

/-- The tokens that a JSON text lists. -/
def read? (source : String) : Option (List Token) :=
  match Json.read source with
  | .ok (.array js) => js.mapM Token.ofJson?
  | _ => none

theorem mapM_ofJson? {tokens : List Token} {js : List Json}
    (decoded : js.map Token.ofJson? = tokens.map some) :
    js.mapM Token.ofJson? = some tokens := by
  induction js generalizing tokens with
  | nil =>
    obtain rfl : tokens = [] := by simpa using decoded.symm
    rfl
  | cons j js ih =>
    cases tokens with
    | nil => cases decoded
    | cons t tokens =>
      obtain ⟨first, more⟩ := List.cons.inj decoded
      simp [first, ih more]

/-- **JSON output decodes back to the tokens.**  What is written is one array, as a
text that denotes no other value, and a line feed; its items are decoded to the tokens
one by one, and reading the whole gives the list. -/
theorem json_roundtrip {tokens : List Token}
    (finite : ∀ x, .number x ∈ tokens → x.isFinite = true) :
    (∃ text js, (write tokens .json).toList = text ++ ['\n'] ∧ Denotes (.array js) text ∧
      (∀ j, Denotes j text → j = .array js) ∧ js.map Token.ofJson? = tokens.map some) ∧
    read? (write tokens .json) = some tokens := by
  have each : ∀ t ∈ tokens, t.Finite := by
    intro t mem x number
    cases t with
    | number y =>
      obtain rfl := Option.some.inj number
      exact finite y mem
    | keyword | identifier | operator | punctuation | string => cases number
  have proper : Proper (.array (tokens.map Token.toJson)) := by
    refine .array ?_
    intro j mem
    obtain ⟨t, member, rfl⟩ := List.mem_map.mp mem
    exact t.proper_toJson (each t member)
  have denotes := denotes_write proper (.indented 0)
  have written : (write tokens .json).toList =
      (Json.array (tokens.map Token.toJson)).write (.indented 0) ++ ['\n'] := by
    simp [write, pretty]
  have decoded : (tokens.map Token.toJson).map Token.ofJson? = tokens.map some := by
    rw [List.map_map]
    apply List.map_congr_left
    intro t mem
    exact Token.ofJson?_toJson (each t mem)
  refine ⟨⟨_, _, written, denotes, fun j other => other.unique denotes, decoded⟩, ?_⟩
  have feed : Blank ['\n'] := blank_singleton (by decide)
  have read := read_of_denotes blank_nil denotes feed
  rw [List.nil_append, ← written, String.ofList_toList] at read
  rw [read?, read]
  exact mapM_ofJson? decoded

/-- Zero with a minus sign, a number with an exponent, and a text with a quote, a
backslash, a control and a character of two code units. -/
theorem json_roundtrip_escapes :
    let tokens := [.number Binary64.zero.neg, .number (.ofDecimal ⟨25, 299⟩),
      .string "\"\\\x01😀"]
    (∀ x, .number x ∈ tokens → x.isFinite = true) ∧
      read? (write tokens .json) = some tokens ∧
      write tokens .json =
        "[\n  \x7b\n    \"kind\": \"Number\",\n    \"value\": -0.0\n  \x7d,\n" ++
          "  \x7b\n    \"kind\": \"Number\",\n    \"value\": 2.5e+300\n  \x7d,\n" ++
          "  \x7b\n    \"kind\": \"String\",\n    \"value\": \"\\\"\\\\\\u0001😀\"\n" ++
          "  \x7d\n]\n" := by
  intro tokens
  have finite : ∀ x, .number x ∈ tokens → x.isFinite = true := by
    intro x mem
    obtain rfl | rfl : x = Binary64.zero.neg ∨ x = .ofDecimal ⟨25, 299⟩ := by
      simpa [tokens] using mem
    · decide
    · decide +kernel
  exact ⟨finite, (json_roundtrip finite).2, by decide +kernel⟩

end Listing

end Lexis
