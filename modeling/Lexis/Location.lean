/-!
# Locations

A location names a character of a text by line and column, both counted from
zero.  Columns count characters, not bytes, and only a line feed starts a line:
a carriage return is an ordinary character that takes a column.

* **Stepping** (`Location.step`) moves a location over one character, and
  `Location.advance` over a whole text.  Because `advance` is a fold, moving
  over two texts one after the other is moving over their concatenation
  (`advance_append`).
* **Order** is lexicographic: the line decides, then the column.
-/

namespace Lexis

/-- The line and column of a character, both counted from zero. -/
structure Location where
  line : Nat
  column : Nat
deriving DecidableEq, Inhabited

namespace Location

/-- The location of the first character of any text. -/
def start : Location := ⟨0, 0⟩

/-- The location after one character: a line feed starts the next line, any
other character takes one column. -/
def step (l : Location) (c : Char) : Location :=
  if c = '\n' then ⟨l.line + 1, 0⟩ else ⟨l.line, l.column + 1⟩

/-- The location after a whole text. -/
def advance (l : Location) (text : List Char) : Location := text.foldl step l

@[simp] theorem advance_nil (l : Location) : l.advance [] = l := rfl

@[simp] theorem advance_cons (l : Location) (c : Char) (text : List Char) :
    l.advance (c :: text) = (l.step c).advance text := rfl

@[simp] theorem advance_append (l : Location) (a b : List Char) :
    l.advance (a ++ b) = (l.advance a).advance b := List.foldl_append

/-! ### Order -/

/-- Lexicographic comparison, line before column. -/
protected def compare (a b : Location) : Ordering :=
  (compare a.line b.line).then (compare a.column b.column)

instance : Ord Location := ⟨Location.compare⟩

instance : LT Location := ⟨fun a b => a.compare b = .lt⟩

instance (a b : Location) : Decidable (a < b) :=
  inferInstanceAs (Decidable (a.compare b = .lt))

/-! ### Text -/

/-- A location is written `line:column`. -/
instance : ToString Location := ⟨fun l => s!"{l.line}:{l.column}"⟩

end Location

end Lexis
