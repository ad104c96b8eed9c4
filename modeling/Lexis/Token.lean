import Lexis.Binary64.Style
import Lexis.Json
import Lexis.Text.Record

/-!
# Tokens

A token is a unit of a text: a number with its value, or one of five kinds of
text.  Keyword, identifier, operator and punctuation hold the text as it stands
in the source; a string holds the text between its delimiters, after escapes.
-/

namespace Lexis

/-- The kind of a token. -/
inductive TokenKind where
  | number
  | keyword
  | identifier
  | operator
  | punctuation
  | string
deriving DecidableEq, Inhabited

/-- A unit of a text. -/
inductive Token where
  | number (value : Binary64)
  | keyword (text : String)
  | identifier (text : String)
  | operator (text : String)
  | punctuation (text : String)
  | string (text : String)
deriving DecidableEq, Inhabited

namespace TokenKind

/-- Every kind. -/
def all : List TokenKind := [number, keyword, identifier, operator, punctuation, string]

/-- The name of a kind. -/
def name : TokenKind → String
  | number => "Number"
  | keyword => "Keyword"
  | identifier => "Identifier"
  | operator => "Operator"
  | punctuation => "Punctuation"
  | string => "String"

instance : ToString TokenKind := ⟨name⟩

/-- A kind as JSON is its name. -/
def toJson (k : TokenKind) : Json := .string k.name

end TokenKind

namespace Token

/-- The kind of a token. -/
def kind : Token → TokenKind
  | number _ => .number
  | keyword _ => .keyword
  | identifier _ => .identifier
  | operator _ => .operator
  | punctuation _ => .punctuation
  | string _ => .string

/-- The value of a number. -/
def number? : Token → Option Binary64
  | number value => some value
  | _ => none

/-- The text of a token that is not a number. -/
def text? : Token → Option String
  | number _ => none
  | keyword text | identifier text | operator text | punctuation text | string text => some text

/-- Whether this is the given keyword. -/
def isKeyword (t : Token) (word : String) : Bool := t.kind = .keyword && t.text? = some word

/-- Whether this is punctuation that consists of the given character alone. -/
def isPunctuation (t : Token) (c : Char) : Bool :=
  t.kind = .punctuation && t.text?.map String.toList = some [c]

/-- Whether two tokens agree in kind and value, numbers being compared as
numbers. -/
def agrees : Token → Token → Bool
  | number a, number b => a.equals b
  | number _, _ | _, number _ => false
  | a, b => a.kind = b.kind && a.text? = b.text?

/-! ### Texts -/

/-- A token as its kind and its value; only a string is quoted, since only a
string can hold anything but letters and signs. -/
instance : ToString Token where
  toString t := Record.apply t.kind.name <| match t with
    | number value => String.ofList (value.write .plain)
    | string text => Quoted.text text
    | keyword text | identifier text | operator text | punctuation text => text

/-- A token as a record: every text is quoted. -/
def record (t : Token) : String := Record.apply t.kind.name <| match t with
  | number value => String.ofList (value.write .exact)
  | keyword text | identifier text | operator text | punctuation text | string text =>
    Quoted.text text

/-- A number as JSON; JSON has no infinity and nothing that is no number. -/
def numberToJson (value : Binary64) : Json :=
  if value.isFinite then .number (value.write .interchange) else .null

/-- A token as JSON: its kind, and its value as a number or a string. -/
def toJson (t : Token) : Json := .object [
  ("kind", t.kind.toJson),
  ("value", match t with
    | number value => numberToJson value
    | keyword text | identifier text | operator text | punctuation text | string text =>
      .string text)]

end Token

end Lexis
