import Lexis.Diagnostic
import Lexis.Text.Ink
import Lexis.Text.Lines
import Lexis.Text.WhiteSpace
import Lexis.Text.Width

/-!
# Reports

A report shows a diagnostic in the source that it is about: a heading, the line
that the label lies in, the label with its message under that line, and then
help and a note.

```text
[E0002] Error: Unexpected dot in number
   ╭─[main.em:1:8]
   │
 1 │ x = 1.2.3
   │        ┬
   │        ╰── number literal contains more than one decimal point
   │
   │ Help: remove the extra `.` from the number
   │
   │ Note: lexer position 0:7 (0-based line:column)
───╯
```

* **A report is drawn once**, as a list of strokes, and only then written, with
  paint (`Report.coloured`) or without (`Report.plain`).  The two differ in
  nothing but paint.
* **One label is shown**, the first.  Without one, or if it lies past the end of
  the source, the heading is all there is.
* **Columns are characters, widths are not**: a label is drawn as wide as the
  characters it covers.
* **Some diagnostics are refused** (`Report.Refusal`): those whose label is
  reversed and those whose offsets do not lie between two characters.
-/

namespace Lexis

namespace Report

/-! ### Inks -/

/-- The ink of the words that tell an error. -/
def severity : Ink := .red

/-- The ink of the frame. -/
def frame : Ink := .palette 246

/-- The ink of the frame beside what is not source. -/
def margin : Ink := .palette 240

/-- The ink of source text that is not labelled. -/
def unlabelled : Ink := .palette 249

/-- The ink of a label. -/
def labelled : Ink := .palette 201

/-- The ink of the words that head help and notes. -/
def remark : Ink := .palette 115

/-! ### Marks -/

/-- Why a diagnostic cannot be drawn. -/
inductive Refusal where
  /-- The label ends before it starts. -/
  | reversed
  /-- An offset is not between two characters. -/
  | insideCharacter
deriving DecidableEq

/-- A part of a line to draw a label under. -/
structure Mark where
  /-- The number of the line, counted from one. -/
  number : Nat
  /-- The text of the line, without white space at its end. -/
  text : List Char
  /-- The first column of the label. -/
  start : Nat
  /-- The column after the label. -/
  stop : Nat

/-- A text without the white space at its end. -/
def trimEnd (text : List Char) : List Char := (text.reverse.dropWhile isWhiteSpace).reverse

namespace Mark

/-- Whether the label covers a column. -/
def holds (m : Mark) (column : Nat) : Bool := m.start ≤ column && column < m.stop

/-- The column from which the message hangs. -/
def middle (m : Mark) : Nat := (m.start + m.stop) / 2

/-- The mark of a label.  There is none if the label lies past the end of the
source; one that goes on after its first line is cut there. -/
def find (source : String) (s : Span) : Except Refusal (Option Mark) := do
  let some first := Place.of? source s.start.toNat | .ok none
  let some start := first.column? | .error .insideCharacter
  let mark (stop : Nat) : Mark := ⟨first.line + 1, trimEnd first.text, start, stop⟩
  if s.isEmpty then .ok (some (mark start))
  else
    let some last := Place.of? source (s.stop.toNat - 1) | .ok none
    let some stop := last.columnAfter? | .error .insideCharacter
    .ok (some (mark (if last.line = first.line then stop else first.text.length)))

end Mark

/-! ### Cells -/

/-- The width at which a character of a line is drawn: a tab goes to the next
multiple of four, counted in characters, and other white space is one wide. -/
def cellWidth (column : Nat) (c : Char) : Nat :=
  if c = '\t' then 4 - column % 4
  else if isWhiteSpace c then 1
  else displayWidth c

/-- A character of a line. -/
def cell (ink : Ink) (column : Nat) (c : Char) : List Stroke :=
  if isWhiteSpace c then List.replicate (cellWidth column c) ⟨" ", ink⟩ else [⟨c.toString, ink⟩]

/-- A symbol followed by as many of another as fill up the width. -/
def widen (ink : Option Ink) (first further : String) : Nat → List Stroke
  | 0 => []
  | width + 1 => ⟨first, ink⟩ :: List.replicate width ⟨further, ink⟩

namespace Mark

/-- The widths of the columns up to the second one after the label.  Columns
after the text are one wide. -/
def widths (m : Mark) : List Nat :=
  let drawn := m.text.take (m.stop + 2)
  drawn.zipIdx.map (fun (c, column) => cellWidth column c)
    ++ List.replicate (m.stop + 2 - drawn.length) 1

/-- The text of the line. -/
def textRow (m : Mark) : List Stroke :=
  m.text.zipIdx.flatMap fun (c, column) =>
    cell (if m.holds column then labelled else unlabelled) column c

/-- The row that underlines the label. -/
def underlineRow (m : Mark) : List Stroke :=
  m.widths.zipIdx.flatMap fun (width, column) =>
    if m.holds column then
      if column = m.middle then widen labelled "┬" "─" width else widen labelled "─" "─" width
    else if column = m.middle then widen labelled "│" " " width
    else widen none " " " " width

/-- The row that leads to the message of the label. -/
def messageRow (m : Mark) : List Stroke :=
  m.widths.zipIdx.flatMap fun (width, column) =>
    if column < m.middle then widen none " " " " width
    else if column = m.middle then widen labelled "╰" "─" width
    else widen labelled "─" "─" width

end Mark

/-! ### Drawing -/

/-- A symbol, so many times. -/
def repeated (n : Nat) (symbol : Char) : String := String.ofList (List.replicate n symbol)

/-- The line that tells the error. -/
def heading (d : Diagnostic) : List Stroke :=
  let tag := match d.code with
    | some code => "[" ++ code.tag ++ "] "
    | none => ""
  [⟨tag ++ "Error:", severity⟩, ⟨" " ++ d.message ++ "\n", none⟩]

/-- Where an offset lies in the source, in lines and columns counted from one. -/
def position (source : String) (offset : Nat) : Except Refusal String :=
  match Place.of? source offset with
  | none => .ok "?:?"
  | some place =>
    match place.column? with
    | some column => .ok s!"{place.line + 1}:{column + 1}"
    | none => .error .insideCharacter

/-- A word that heads a text, and the text, under an empty row. -/
def remarkRows (before : List Stroke) (word text : String) : List Stroke :=
  before ++ [⟨"\n", none⟩] ++ before ++ [⟨word, remark⟩, ⟨": " ++ text ++ "\n", none⟩]

/-- What comes under the heading. -/
def body (title : String) (d : Diagnostic) (label : Label) (m : Mark) : List Stroke :=
  let number := toString m.number
  let indent := repeated (number.length + 2) ' '
  let before : List Stroke :=
    [⟨" ", none⟩, ⟨repeated (number.length + 1) ' ' ++ "│", margin⟩, ⟨" ", none⟩]
  let newline : List Stroke := [⟨"\n", none⟩]
  [⟨indent, none⟩, ⟨"╭", frame⟩, ⟨"─", frame⟩, ⟨"[", frame⟩, ⟨title, none⟩, ⟨"]", frame⟩] ++ newline
    ++ [⟨indent, none⟩, ⟨"│", frame⟩] ++ newline
    ++ [⟨" ", none⟩, ⟨number ++ " │", frame⟩, ⟨" ", none⟩] ++ m.textRow ++ newline
    ++ before ++ m.underlineRow ++ newline
    ++ before ++ m.messageRow ++ [⟨" " ++ label.message ++ "\n", none⟩]
    ++ (d.help.elim [] fun text => remarkRows before "Help" text)
    ++ (d.notes.getLast?.elim [] fun text => remarkRows before "Note" text)
    ++ [⟨repeated (number.length + 2) '─' ++ "╯", frame⟩] ++ newline

/-- The report of a diagnostic about a source with the given name. -/
def draw (name source : String) (d : Diagnostic) : Except Refusal (List Stroke) :=
  match d.labels with
  | [] => .ok (heading d)
  | label :: _ =>
    if label.span.stop.toNat < label.span.start.toNat then .error .reversed
    else do
      match ← Mark.find source label.span with
      | none => .ok (heading d)
      | some m =>
        let position ← position source d.span.start.toNat
        .ok (heading d ++ body (name ++ ":" ++ position) d label m)

/-- The report of a diagnostic, without paint. -/
def plain (name source : String) (d : Diagnostic) : Except Refusal String :=
  (draw name source d).map fun strokes => String.join (strokes.map Stroke.text)

/-- The report of a diagnostic, painted. -/
def coloured (name source : String) (d : Diagnostic) : Except Refusal String :=
  (draw name source d).map fun strokes => String.join (strokes.map Stroke.coloured)

end Report

end Lexis
