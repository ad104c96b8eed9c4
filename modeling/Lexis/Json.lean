/-!
# JSON values and their text

A JSON value is a tree, and `Json.write` turns it into text in one of two
layouts: in one line without a blank, or with each item on a line of its own,
two spaces deeper than what holds it.

**Numbers are kept as written.**  A number is the text of a number, so that
whoever makes it decides its digits.
-/

namespace Lexis

/-- A JSON value. -/
inductive Json where
  | null
  | bool (value : Bool)
  | number (text : List Char)
  | string (text : String)
  | array (items : List Json)
  | object (members : List (String × Json))
deriving Inhabited

namespace Json

/-! ### Strings -/

/-- A character inside a string: quotes and backslashes get a backslash,
controls below the space an escape, and everything else stays. -/
def escape (c : Char) : List Char :=
  if c = '"' || c = '\\' then ['\\', c]
  else if c = '\x08' then ['\\', 'b']
  else if c = '\t' then ['\\', 't']
  else if c = '\n' then ['\\', 'n']
  else if c = '\x0c' then ['\\', 'f']
  else if c = '\r' then ['\\', 'r']
  else if c.toNat < 0x20 then
    ['\\', 'u', '0', '0', Nat.digitChar (c.toNat / 16), Nat.digitChar (c.toNat % 16)]
  else [c]

/-- A text between quotes. -/
def quote (text : String) : List Char := '"' :: text.toList.flatMap escape ++ ['"']

/-! ### Layouts -/

/-- Where the items of an array or an object go. -/
inductive Layout where
  /-- On the same line, with no blank between. -/
  | compact
  /-- On lines of their own, at a depth. -/
  | indented (depth : Nat)

namespace Layout

/-- The layout of what the current value holds. -/
def deeper : Layout → Layout
  | compact => compact
  | indented depth => indented (depth + 1)

/-- What stands in front of an item, or of a closing bracket. -/
def newline : Layout → List Char
  | compact => []
  | indented depth => '\n' :: List.replicate (2 * depth) ' '

/-- What stands between a key and its value. -/
def colon : Layout → List Char
  | compact => [':']
  | indented _ => [':', ' ']

/-- Items between brackets, each behind a line break; no items, no break. -/
def enclose (l : Layout) (opening closing : Char) : List (List Char) → List Char
  | [] => [opening, closing]
  | items =>
    opening :: [','].intercalate (items.map (l.deeper.newline ++ ·)) ++ l.newline ++ [closing]

end Layout

mutual

/-- The text of a value. -/
def write (l : Layout) : Json → List Char
  | null => "null".toList
  | bool value => (if value then "true" else "false").toList
  | number text => text
  | string text => quote text
  | array items => l.enclose '[' ']' (writeItems l.deeper items)
  | object members => l.enclose '\x7b' '\x7d' (writeMembers l.deeper members)

/-- The texts of the items of an array. -/
def writeItems (l : Layout) : List Json → List (List Char)
  | [] => []
  | item :: items => write l item :: writeItems l items

/-- The texts of the members of an object: key, colon, value. -/
def writeMembers (l : Layout) : List (String × Json) → List (List Char)
  | [] => []
  | (key, value) :: members =>
    (quote key ++ l.colon ++ write l value) :: writeMembers l members

end

/-- The text of a value on one line. -/
def compact (j : Json) : String := String.ofList (j.write .compact)

/-- The text of a value over several lines. -/
def pretty (j : Json) : String := String.ofList (j.write (.indented 0))

end Json

end Lexis
