import Lexis.Dialect
import Lexis.Json

/-!
# Settings

A setting is the value of one field of a dialect.  A dialect file is a set of
settings, and the dialect it describes is the standard one with these settings
made: a field that the file leaves out keeps its standard value.

The order of `Field.all` is the order in which a dialect is written, and in
which a file may list values without naming their fields.
-/

namespace Lexis

/-- A field of a dialect. -/
inductive Field where
  | keywords
  | punctuation
  | operators
  | stringDelimiter
  | commentMarker
  | escapeMode
  | strictStrings
deriving DecidableEq, Inhabited

/-- A field with a value for it. -/
inductive Setting where
  | keywords (words : List String)
  | punctuation (chars : String)
  | operators (chars : String)
  | stringDelimiter (c : Char)
  | commentMarker (c : Char)
  | escapeMode (mode : EscapeMode)
  | strictStrings (strict : Bool)
deriving DecidableEq, Inhabited

namespace Field

/-- Every field, in order. -/
def all : List Field :=
  [keywords, punctuation, operators, stringDelimiter, commentMarker, escapeMode, strictStrings]

/-- The name of a field in a dialect file. -/
def key : Field → String
  | keywords => "keywords"
  | punctuation => "punctuation"
  | operators => "operators"
  | stringDelimiter => "string_delimiter"
  | commentMarker => "comment_marker"
  | escapeMode => "escape_mode"
  | strictStrings => "strict_strings"

/-- The field with a given name. -/
def ofKey? (key : String) : Option Field := all.find? (·.key = key)

theorem ofKey?_key (f : Field) : ofKey? f.key = some f := by cases f <;> decide

end Field

namespace Setting

/-- The field that a setting is for. -/
def field : Setting → Field
  | keywords _ => .keywords
  | punctuation _ => .punctuation
  | operators _ => .operators
  | stringDelimiter _ => .stringDelimiter
  | commentMarker _ => .commentMarker
  | escapeMode _ => .escapeMode
  | strictStrings _ => .strictStrings

/-- The value of a setting as JSON. -/
def toJson : Setting → Json
  | keywords words => .array (words.map .string)
  | punctuation chars | operators chars => .string chars
  | stringDelimiter c | commentMarker c => .string c.toString
  | escapeMode mode => .string mode.key
  | strictStrings strict => .bool strict

end Setting

namespace Dialect

/-- The dialect with one setting made. -/
def set (d : Dialect) : Setting → Dialect
  | .keywords words => { d with keywords := words }
  | .punctuation chars => { d with punctuation := chars }
  | .operators chars => { d with operators := chars }
  | .stringDelimiter c => { d with stringDelimiter := c }
  | .commentMarker c => { d with commentMarker := c }
  | .escapeMode mode => { d with escapeMode := mode }
  | .strictStrings strict => { d with strictStrings := strict }

/-- The setting that a dialect has for a field. -/
def get (d : Dialect) : Field → Setting
  | .keywords => .keywords d.keywords
  | .punctuation => .punctuation d.punctuation
  | .operators => .operators d.operators
  | .stringDelimiter => .stringDelimiter d.stringDelimiter
  | .commentMarker => .commentMarker d.commentMarker
  | .escapeMode => .escapeMode d.escapeMode
  | .strictStrings => .strictStrings d.strictStrings

@[simp] theorem field_get (d : Dialect) (f : Field) : (d.get f).field = f := by cases f <;> rfl

/-- A setting changes its own field and no other. -/
theorem get_set (d : Dialect) (s : Setting) (f : Field) :
    (d.set s).get f = if f = s.field then s else d.get f := by
  cases s <;> cases f <;> rfl

/-- The standard dialect with settings made, the later ones over the earlier. -/
def ofSettings (settings : List Setting) : Dialect := settings.foldl set standard

/-- A dialect as JSON, with all its fields. -/
def toJson (d : Dialect) : Json :=
  .object (Field.all.map fun f => (f.key, (d.get f).toJson))

end Dialect

end Lexis
