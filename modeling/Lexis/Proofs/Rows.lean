import Lexis.Report

/-!
# The rows of a report

A report is drawn in strokes; without paint one sees only their text (`Report.inked`), and
that comes in rows.  **The rows of the report of a lexical error** (`Report.rows`) are
spelled out here, each by itself, and the strokes are shown to give them (`inked_heading`,
`inked_body`).

**A label that is no wider than a character** has one column to hang from
(`Report.Mark.Narrow`).  What is drawn under the line is then blanks, a hook under that
column and a filler behind it (`Report.Mark.under`); the columns are as wide as the
characters that stand in them, so the hook is under its character.
-/

namespace Lexis

namespace Report

/-! ### Rows -/

/-- The text of a line as it is shown, white space as blanks. -/
def shown (text : List Char) : List Char :=
  text.zipIdx.flatMap fun (c, column) =>
    if isWhiteSpace c then List.replicate (cellWidth column c) ' ' else [c]

/-- A symbol that is followed by as many of another as fill up the width. -/
def stretch (first further : Char) : Nat → List Char
  | 0 => []
  | width + 1 => first :: List.replicate width further

/-- Columns of the given widths that are filled with a symbol. -/
def filled (c : Char) (widths : List Nat) : List Char :=
  widths.flatMap fun width => List.replicate width c

namespace Mark

variable (m : Mark)

/-- Blanks under what is in front of the label, something for the column where it starts,
and something to fill the columns behind. -/
def under (hook : Nat → List Char) (filler : Char) : String :=
  String.ofList (filled ' ' (m.widths.take m.start) ++
    (hook (m.widths.getD m.start 0) ++ filled filler (m.widths.drop (m.start + 1))))

/-- What underlines the character that the label covers, or marks where it stands. -/
def underline : String :=
  m.under (if m.start < m.stop then stretch '┬' '─' else stretch '│' ' ') ' '

/-- What leads from there to the text of the label. -/
def pointer : String := m.under (stretch '╰' '─') '─'

/-- The width of the frame to the left. -/
def indent : Nat := (toString m.number).length + 2

/-- What rows start with that show no source. -/
def gutter : String := " " ++ repeated ((toString m.number).length + 1) ' ' ++ "│ "

/-- The row with the name of the source and a place in it. -/
def positionRow (name place : String) : String :=
  repeated m.indent ' ' ++ "╭─[" ++ name ++ ":" ++ place ++ "]"

/-- A row with a remark. -/
def remarkRow (word text : String) : String := m.gutter ++ word ++ ": " ++ text

/-- The rows of a remark. -/
def remarks (word text : String) : List String := [m.gutter, m.remarkRow word text]

/-- The note that gives a place as lexers count. -/
def note (place : String) : String :=
  "lexer position " ++ place ++ " (0-based line:column)"

end Mark

/-- The row that tells the error. -/
def headingRow (e : LexicalError) : String := "[" ++ e.code.tag ++ "] Error: " ++ e.message

/-- The rows of a complete report: the place in the source, the line that it is in, the
label with its text, what helps, if anything does, a note, and the closing row. -/
def rowsBelow (name place : String) (m : Mark) (label : String) (help : Option String)
    (note : String) : List String :=
  [m.positionRow name place,
    repeated m.indent ' ' ++ "│",
    " " ++ toString m.number ++ " │ " ++ String.ofList (shown m.text),
    m.gutter ++ m.underline,
    m.gutter ++ m.pointer ++ " " ++ label]
  ++ help.elim [] (m.remarks "Help")
  ++ m.remarks "Note" note
  ++ [repeated m.indent '─' ++ "╯"]

/-- The rows of the complete report of an error with the given mark. -/
def rows (name : String) (e : LexicalError) (m : Mark) : List String :=
  headingRow e :: rowsBelow name s!"{m.number}:{m.start + 1}" m e.code.description
    e.code.suggestion (Mark.note s!"{e.location.line}:{e.location.column}")

/-! ### Text -/

/-- A row as it is without paint. -/
def inked (row : List Stroke) : String := String.join (row.map Stroke.text)

@[simp] theorem inked_nil : inked [] = "" := rfl

@[simp] theorem inked_cons (s : Stroke) (row : List Stroke) :
    inked (s :: row) = s.text ++ inked row := by
  simp [inked]

@[simp] theorem inked_append (a b : List Stroke) : inked (a ++ b) = inked a ++ inked b := by
  simp [inked]

/-- Text from rows. -/
def unlines (rows : List String) : String := String.join (rows.map fun row => row ++ "\n")

@[simp] theorem unlines_nil : unlines [] = "" := rfl

@[simp] theorem unlines_cons (row : String) (rows : List String) :
    unlines (row :: rows) = row ++ "\n" ++ unlines rows := by
  simp [unlines]

@[simp] theorem unlines_append (a b : List String) :
    unlines (a ++ b) = unlines a ++ unlines b := by
  simp [unlines]

/-! ### The line -/

theorem inked_flatMap {α : Type} {row : α → List Stroke} {text : α → List Char}
    (each : ∀ x, inked (row x) = String.ofList (text x)) (xs : List α) :
    inked (xs.flatMap row) = String.ofList (xs.flatMap text) := by
  induction xs with
  | nil => rfl
  | cons x xs ih =>
    rw [List.flatMap_cons, List.flatMap_cons, inked_append, String.ofList_append, each, ih]

theorem inked_replicate (c : Char) (ink : Option Ink) (n : Nat) :
    inked (List.replicate n ⟨c.toString, ink⟩) = String.ofList (List.replicate n c) := by
  induction n with
  | zero => rfl
  | succ n ih =>
    rw [List.replicate_succ, List.replicate_succ, inked_cons, ih, ← List.singleton_append,
      String.ofList_append]
    rfl

theorem inked_textRow (m : Mark) : inked m.textRow = String.ofList (shown m.text) := by
  refine inked_flatMap (fun (c, column) => ?_) _
  dsimp only [cell]
  split
  · exact inked_replicate ' ' _ _
  · rw [inked_cons, inked_nil, String.append_empty]
    rfl

/-! ### Under the line -/

theorem inked_widen (first further : Char) (ink : Option Ink) (width : Nat) :
    inked (widen ink first.toString further.toString width) =
      String.ofList (stretch first further width) := by
  cases width with
  | zero => rfl
  | succ width =>
    rw [widen, stretch, inked_cons, inked_replicate, ← List.singleton_append, String.ofList_append]
    rfl

theorem stretch_self (c : Char) (width : Nat) : stretch c c width = List.replicate width c := by
  cases width <;> rfl

/-- Columns that are all drawn with one symbol. -/
theorem inked_zipIdx {row : Nat × Nat → List Stroke} {c : Char} (widths : List Nat) (k : Nat)
    (each : ∀ width column, k ≤ column → column < k + widths.length →
      inked (row (width, column)) = String.ofList (List.replicate width c)) :
    inked ((widths.zipIdx k).flatMap row) = String.ofList (filled c widths) := by
  induction widths generalizing k with
  | nil => rfl
  | cons width widths ih =>
    have first := each width k (Nat.le_refl k) (by simp)
    have more := ih (k + 1) fun width column after before =>
      each width column (by omega) (by rw [List.length_cons]; omega)
    rw [List.zipIdx_cons, List.flatMap_cons, inked_append, first, more, ← String.ofList_append]
    rfl

/-- A row with one symbol in front of a column and one behind it. -/
theorem Mark.inked_under {m : Mark} (inside : m.start < m.widths.length)
    {row : Nat × Nat → List Stroke} {hook : Nat → List Char} {filler : Char}
    (front : ∀ width column, column < m.start →
      inked (row (width, column)) = String.ofList (List.replicate width ' '))
    (here : ∀ width, inked (row (width, m.start)) = String.ofList (hook width))
    (behind : ∀ width column, m.start < column →
      inked (row (width, column)) = String.ofList (List.replicate width filler)) :
    inked (m.widths.zipIdx.flatMap row) = m.under hook filler := by
  have split : m.widths = m.widths.take m.start ++
      m.widths.getD m.start 0 :: m.widths.drop (m.start + 1) := by
    rw [List.getD_eq_getElem?_getD, List.getElem?_eq_getElem inside, Option.getD_some,
      List.getElem_cons_drop, List.take_append_drop]
  have start : (m.widths.take m.start).length = m.start := by
    rw [List.length_take]
    omega
  conv => lhs; rw [split]
  rw [List.zipIdx_append, List.zipIdx_cons, List.flatMap_append, List.flatMap_cons, inked_append,
    inked_append, start, Nat.zero_add, here]
  rw [inked_zipIdx _ 0 fun width column _ before => front width column (by omega),
    inked_zipIdx _ (m.start + 1) fun width column after _ => behind width column after,
    under, String.ofList_append, String.ofList_append]

theorem inked_blank (width : Nat) :
    inked (widen none " " " " width) = String.ofList (List.replicate width ' ') :=
  (inked_widen ' ' ' ' none width).trans (congrArg String.ofList (stretch_self ' ' width))

/-- The label covers one character, or none. -/
def Mark.Narrow (m : Mark) : Prop := m.stop = m.start ∨ m.stop = m.start + 1

namespace Mark.Narrow

variable {m : Mark} (h : m.Narrow)

include h

theorem inside : m.start < m.widths.length := by
  have length : m.widths.length = m.stop + 2 := by
    simp only [widths, List.length_append, List.length_map, List.length_zipIdx,
      List.length_replicate, List.length_take]
    omega
  unfold Narrow at h
  omega

theorem middle_eq : m.middle = m.start := by
  unfold Narrow at h
  unfold middle
  omega

theorem holds_of_ne {column : Nat} (apart : column ≠ m.start) : m.holds column = false := by
  unfold Narrow at h
  simp only [holds, Bool.and_eq_false_iff, decide_eq_false_iff_not]
  omega

/-- **The label is underlined where it starts**, and nowhere else. -/
theorem inked_underlineRow : inked m.underlineRow = m.underline := by
  have apart {width column : Nat} (other : column ≠ m.start) :
      inked (if m.holds column = true then
          if column = m.middle then widen labelled "┬" "─" width else widen labelled "─" "─" width
        else if column = m.middle then widen labelled "│" " " width
        else widen none " " " " width) = String.ofList (List.replicate width ' ') := by
    rw [h.holds_of_ne other, h.middle_eq, if_neg Bool.false_ne_true, if_neg other, inked_blank]
  refine inked_under h.inside (fun width column before => apart (Nat.ne_of_lt before)) ?_
    (fun width column after => apart (Nat.ne_of_gt after))
  intro width
  dsimp only
  rw [h.middle_eq, if_pos rfl, if_pos rfl]
  by_cases covers : m.start < m.stop
  · have held : m.holds m.start = true := by simp [holds, covers]
    rw [if_pos held, if_pos covers]
    exact inked_widen '┬' '─' _ width
  · have free : ¬ m.holds m.start = true := by simp [holds, covers]
    rw [if_neg free, if_neg covers]
    exact inked_widen '│' ' ' _ width

/-- **The text of the label hangs from where it starts.** -/
theorem inked_messageRow : inked m.messageRow = m.pointer := by
  refine inked_under h.inside ?_ ?_ ?_
  · intro width column before
    dsimp only
    rw [h.middle_eq, if_pos before, inked_blank]
  · intro width
    dsimp only
    rw [h.middle_eq, if_neg (Nat.lt_irrefl _), if_pos rfl]
    exact inked_widen '╰' '─' _ width
  · intro width column after
    dsimp only
    rw [h.middle_eq, if_neg (Nat.not_lt_of_lt after), if_neg (Nat.ne_of_gt after)]
    exact (inked_widen '─' '─' _ width).trans (congrArg String.ofList (stretch_self '─' width))

end Mark.Narrow

/-! ### Whole reports -/

theorem inked_heading (e : LexicalError) :
    inked (heading (.ofError e)) = headingRow e ++ "\n" := by
  rw [← String.toList_inj]
  simp [heading, headingRow, Diagnostic.ofError]

theorem inked_gutter (m : Mark) :
    inked [⟨" ", none⟩, ⟨repeated ((toString m.number).length + 1) ' ' ++ "│", some margin⟩,
      ⟨" ", none⟩] = m.gutter := by
  rw [← String.toList_inj]
  simp [Mark.gutter]

theorem inked_remarkRows {m : Mark} {before : List Stroke} (gutter : inked before = m.gutter)
    (word text : String) :
    inked (remarkRows before word text) = unlines (m.remarks word text) := by
  simp [remarkRows, Mark.remarks, Mark.remarkRow, gutter, String.append_assoc]

theorem inked_help {m : Mark} {before : List Stroke} (gutter : inked before = m.gutter)
    (help : Option String) : inked (help.elim [] fun text => remarkRows before "Help" text) =
      unlines (help.elim [] (m.remarks "Help")) := by
  cases help with
  | none => rfl
  | some text => exact inked_remarkRows gutter "Help" text

theorem notes_ofError (e : LexicalError) :
    (Diagnostic.ofError e).notes = [Mark.note s!"{e.location.line}:{e.location.column}"] := rfl

theorem help_ofError (e : LexicalError) : (Diagnostic.ofError e).help = e.code.suggestion := rfl

theorem inked_body (name place : String) (e : LexicalError) {m : Mark} (narrow : m.Narrow) :
    inked (body (name ++ ":" ++ place) (.ofError e) ⟨e.span, e.code.description⟩ m) =
      unlines (rowsBelow name place m e.code.description e.code.suggestion
        (Mark.note s!"{e.location.line}:{e.location.column}")) := by
  -- A row is drawn in more strokes than it is written in here.
  have corner : "╭─[" = "╭" ++ ("─" ++ "[") := rfl
  have bar : " │ " = " │" ++ " " := rfl
  unfold body rowsBelow
  rw [notes_ofError, help_ofError]
  simp only [inked_append, unlines_append, inked_gutter, inked_textRow,
    narrow.inked_underlineRow, narrow.inked_messageRow, List.getLast?_singleton, Option.elim_some, inked_help (inked_gutter m), inked_remarkRows (inked_gutter m)]
  simp only [inked_cons, inked_nil, unlines_cons, unlines_nil, corner, bar, Mark.positionRow,
    Mark.indent, String.append_assoc, String.append_empty, -String.reduceAppend]

end Report

end Lexis
