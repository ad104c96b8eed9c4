import Lexis.Proofs.Reports

/-!
# Paint is decoration

A painted report is the same report with sequences in it that steer a terminal.  **Without
these sequences it is the report without paint** (`Report.coloured_decorates`).

* **What a terminal reads** (`Terminal.signs`) are characters to show and styles.  A style
  sequence starts with an escape character and a bracket, and an escape character with
  anything else behind it is shown like any other.
* **The sequences of a painted report are those of its strokes** (`signs_coloured`).  This
  needs that no text of a stroke makes up a sequence with what stands behind it
  (`Stroke.Legible`).  A source may hold escape characters all the same: each character of a
  line is a stroke of its own, so what stands behind it is the start of the sequence that
  turns its style off, and in a message it is a comma.
* **Strokes do not nest**, so no style is in force where a stroke begins.
-/

namespace Lexis

/-! ### What a terminal reads -/

namespace Terminal

/-- Something that a terminal reads: a character to show, or a style for what follows. -/
inductive Sign where
  | shown (c : Char)
  | style (parameters : List Char)
deriving DecidableEq

/-- The characters that parameters of a style consist of. -/
def isParameter (c : Char) : Bool := isDigit c || c = ';'

/-- The parameters of the style sequence that a text starts with, and the text behind it. -/
def sequence? : List Char → Option (List Char × List Char)
  | escape :: bracket :: text =>
    if escape = '\x1b' && bracket = '[' then
      match text.dropWhile isParameter with
      | 'm' :: after => some (text.takeWhile isParameter, after)
      | _ => none
    else none
  | _ => none

theorem length_sequence? {text parameters after : List Char}
    (h : sequence? text = some (parameters, after)) : after.length < text.length := by
  unfold sequence? at h
  split at h
  · next escape bracket text =>
    split at h
    · split at h
      · next dropped =>
        obtain ⟨-, rfl⟩ := Prod.mk.inj (Option.some.inj h)
        have := (List.dropWhile_suffix (l := text) isParameter).length_le
        rw [dropped] at this
        simp only [List.length_cons] at this ⊢
        omega
      · cases h
    · cases h
  · cases h

/-- What a terminal reads in a text. -/
def signs (text : List Char) : List Sign :=
  match text with
  | [] => []
  | c :: rest =>
    match _h : sequence? (c :: rest) with
    | some (parameters, after) => .style parameters :: signs after
    | none => .shown c :: signs rest
termination_by text.length
decreasing_by
  · exact length_sequence? _h
  · simp

/-- The character that a sign shows. -/
def Sign.shown? : Sign → Option Char
  | shown c => some c
  | style _ => none

/-- A text without its style sequences. -/
def withoutStyles (text : String) : String :=
  String.ofList ((signs text.toList).filterMap Sign.shown?)

/-- What a sign does to the style in force: a zero turns every style off. -/
def changeStyle (style : Option (List Char)) : Sign → Option (List Char)
  | .shown _ => style
  | .style parameters => if parameters = ['0'] then none else some parameters

/-- The style that is in force behind some signs. -/
def styleAfter (signs : List Sign) : Option (List Char) := signs.foldl changeStyle none

@[simp] theorem signs_nil : signs [] = [] := by
  rw [signs]

theorem signs_shown {c : Char} {rest : List Char} (none : sequence? (c :: rest) = none) :
    signs (c :: rest) = .shown c :: signs rest := by
  rw [signs]
  split <;> simp_all

theorem signs_style {parameters : List Char}
    (areParameters : ∀ c ∈ parameters, isParameter c = true) (after : List Char) :
    signs ('\x1b' :: '[' :: (parameters ++ 'm' :: after)) = .style parameters :: signs after := by
  have ends : Ends isParameter ('m' :: after) := ends_cons (by decide) after
  have found : sequence? ('\x1b' :: '[' :: (parameters ++ 'm' :: after)) =
      some (parameters, after) := by
    simp [sequence?, takeWhile_run areParameters ends, dropWhile_run areParameters ends]
  rw [signs]
  split <;> simp_all

theorem sequence?_of_ne {c : Char} (other : c ≠ '\x1b') (rest : List Char) :
    sequence? (c :: rest) = none := by
  cases rest <;> simp [sequence?, other]

theorem sequence?_of_noBracket {c next : Char} (other : next ≠ '[') (rest : List Char) :
    sequence? (c :: next :: rest) = none := by
  simp [sequence?, other]

/-! ### Texts that are shown as they are -/

/-- Whatever stands behind the text, all of its characters are shown. -/
def Inert (text : List Char) : Prop :=
  ∀ after, signs (text ++ after) = text.map .shown ++ signs after

theorem Inert.append {a b : List Char} (ha : Inert a) (hb : Inert b) : Inert (a ++ b) := by
  intro after
  rw [List.append_assoc, ha, hb, List.map_append, List.append_assoc]

theorem inert_of_noEscape {text : List Char} (none : '\x1b' ∉ text) : Inert text := by
  intro after
  induction text with
  | nil => rfl
  | cons c text ih =>
    simp only [List.mem_cons, not_or] at none
    rw [List.cons_append, signs_shown (sequence?_of_ne (Ne.symm none.1) _), ih none.2]
    rfl

/-- A character with another than a bracket behind it. -/
theorem inert_cons {c next : Char} {text : List Char} (other : next ≠ '[')
    (inert : Inert (next :: text)) : Inert (c :: next :: text) := by
  intro after
  rw [List.cons_append, List.cons_append, signs_shown (sequence?_of_noBracket other _),
    ← List.cons_append, inert]
  rfl

end Terminal

open Terminal

/-! ### Strokes -/

theorem isDigit_of_mem_toString {n : Nat} : ∀ c ∈ (toString n).toList, isDigit c = true := by
  intro c mem
  rw [show (toString n).toList = Nat.toDigits 10 n by simp] at mem
  exact Nat.isDigit_of_mem_toDigits (by decide) (by decide) mem

/-- A style is given by parameters. -/
theorem Ink.isParameter_of_mem_code (ink : Ink) :
    ∀ c ∈ ink.code.toList, isParameter c = true := by
  cases ink with
  | palette index =>
    have code : (Ink.palette index).code = "38;5;" ++ toString index := rfl
    rw [code, String.toList_append]
    refine List.forall_mem_append.mpr ⟨List.all_eq_true.mp (by decide), ?_⟩
    intro c mem
    rw [isParameter, isDigit_of_mem_toString c mem, Bool.true_or]
  | _ => exact List.all_eq_true.mp (by decide)

namespace Stroke

/-- The signs of a stroke: its text, and a style that is turned on before and off behind it. -/
def signs (s : Stroke) : List Sign :=
  match s.ink with
  | none => s.text.toList.map .shown
  | some ink => .style ink.code.toList :: (s.text.toList.map .shown ++ [.style ['0']])

/-- The text of a stroke is shown as it is, a painted one in front of the sequence that
turns its style off. -/
def Legible (s : Stroke) : Prop :=
  match s.ink with
  | none => Inert s.text.toList
  | some _ => ∀ after, Terminal.signs (s.text.toList ++ '\x1b' :: after) =
      s.text.toList.map .shown ++ Terminal.signs ('\x1b' :: after)

theorem legible_of_inert {s : Stroke} (inert : Inert s.text.toList) : s.Legible := by
  unfold Legible
  rcases s.ink with _ | ink
  · exact inert
  · exact fun after => inert ('\x1b' :: after)

/-- A painted character is shown as it is, whichever it is. -/
theorem legible_singleton (c : Char) (ink : Ink) : Legible ⟨c.toString, some ink⟩ := by
  intro after
  have single : c.toString.toList = [c] := String.toList_singleton c
  rw [single]
  exact signs_shown (sequence?_of_noBracket (by decide) after)

/-- **A legible stroke is read as it is meant.** -/
theorem Legible.signs_coloured {s : Stroke} (h : s.Legible) (after : List Char) :
    Terminal.signs (s.coloured.toList ++ after) = s.signs ++ Terminal.signs after := by
  unfold Legible at h
  rcases s with ⟨text, _ | ink⟩
  · exact h after
  · have painted : (coloured ⟨text, some ink⟩).toList ++ after =
        '\x1b' :: '[' :: (ink.code.toList ++ 'm' ::
          (text.toList ++ '\x1b' :: '[' :: (['0'] ++ 'm' :: after))) := by
      simp [coloured, Ink.paint]
    have off : ∀ c ∈ ['0'], isParameter c = true := List.all_eq_true.mp (by decide)
    rw [painted, signs_style ink.isParameter_of_mem_code, h, signs_style off]
    simp [signs]

end Stroke

/-- Every stroke is legible. -/
def Legible (strokes : List Stroke) : Prop := ∀ s ∈ strokes, s.Legible

section Strokes

variable {a b strokes : List Stroke} {s : Stroke}

theorem legible_nil : Legible [] := by
  intro s mem
  cases mem

theorem legible_cons : Legible (s :: strokes) ↔ s.Legible ∧ Legible strokes :=
  List.forall_mem_cons

theorem legible_append : Legible (a ++ b) ↔ Legible a ∧ Legible b :=
  List.forall_mem_append

theorem legible_flatMap {α : Type} {row : α → List Stroke} (each : ∀ x, Legible (row x))
    (xs : List α) : Legible (xs.flatMap row) := by
  intro s mem
  obtain ⟨x, -, inside⟩ := List.mem_flatMap.mp mem
  exact each x s inside

/-- **Legible strokes are read one after another.** -/
theorem signs_coloured (h : Legible strokes) :
    Terminal.signs (String.join (strokes.map Stroke.coloured)).toList =
      strokes.flatMap Stroke.signs := by
  induction strokes with
  | nil => rw [List.map_nil, List.flatMap_nil, String.join_nil, String.toList_empty, signs_nil]
  | cons s strokes ih =>
    obtain ⟨first, others⟩ := legible_cons.mp h
    rw [List.map_cons, String.join_cons, String.toList_append, first.signs_coloured, ih others,
      List.flatMap_cons]

theorem filterMap_shown (text : List Char) :
    (text.map Sign.shown).filterMap Sign.shown? = text := by
  rw [List.filterMap_map]
  exact List.filterMap_some

/-- What strokes show is their text. -/
theorem shown_signs (strokes : List Stroke) :
    (strokes.flatMap Stroke.signs).filterMap Sign.shown? =
      (String.join (strokes.map Stroke.text)).toList := by
  induction strokes with
  | nil => rfl
  | cons s strokes ih =>
    have first : s.signs.filterMap Sign.shown? = s.text.toList := by
      rcases s with ⟨text, _ | ink⟩
      · exact filterMap_shown _
      · show (text.toList.map Sign.shown ++ [Sign.style ['0']]).filterMap Sign.shown? = text.toList
        rw [List.filterMap_append, filterMap_shown]
        exact List.append_nil _
    rw [List.flatMap_cons, List.filterMap_append, first, ih, List.map_cons, String.join_cons,
      String.toList_append]

/-- Characters that are shown leave the style as it is. -/
theorem changeStyle_shown (text : List Char) (style : Option (List Char)) :
    (text.map Sign.shown).foldl changeStyle style = style := by
  induction text with
  | nil => rfl
  | cons c text ih => exact ih

/-- **Behind strokes no style is in force.** -/
theorem styleAfter_signs (strokes : List Stroke) :
    styleAfter (strokes.flatMap Stroke.signs) = none := by
  induction strokes with
  | nil => rfl
  | cons s strokes ih =>
    have off : s.signs.foldl changeStyle none = none := by
      rcases s with ⟨text, _ | ink⟩
      · exact changeStyle_shown _ none
      · simp [Stroke.signs, changeStyle_shown, changeStyle]
    rw [styleAfter, List.flatMap_cons, List.foldl_append, off]
    exact ih

end Strokes

namespace Report

/-! ### The strokes of a report -/

/-- The text holds no escape character. -/
def Clean (text : String) : Prop := '\x1b' ∉ text.toList

instance (text : String) : Decidable (Clean text) := inferInstanceAs (Decidable (¬ _))

theorem clean_append {a b : String} (ha : Clean a) (hb : Clean b) : Clean (a ++ b) := by
  rw [Clean, String.toList_append, List.mem_append]
  exact not_or.mpr ⟨ha, hb⟩

theorem clean_toString (n : Nat) : Clean (toString n) := by
  intro mem
  exact absurd (isDigit_of_mem_toString _ mem) (by decide)

/-- A line and a column. -/
theorem clean_place (line column : Nat) : Clean s!"{line}:{column}" :=
  clean_append (clean_append (clean_toString line) (by decide)) (clean_toString column)

theorem clean_repeated (n : Nat) {symbol : Char} (other : symbol ≠ '\x1b') :
    Clean (repeated n symbol) := by
  rw [Clean, repeated, String.toList_ofList]
  intro mem
  exact other (List.eq_of_mem_replicate mem).symm

theorem Clean.legible {text : String} (clean : Clean text) (ink : Option Ink) :
    Stroke.Legible ⟨text, ink⟩ :=
  Stroke.legible_of_inert (inert_of_noEscape clean)

theorem legible_cell (ink : Ink) (column : Nat) (c : Char) : Legible (cell ink column c) := by
  unfold cell
  split
  · intro s mem
    obtain rfl := List.eq_of_mem_replicate mem
    exact Stroke.legible_singleton ' ' ink
  · exact legible_cons.mpr ⟨Stroke.legible_singleton c ink, legible_nil⟩

theorem legible_widen {first further : String} (ink : Option Ink) (clean : Clean first)
    (clean' : Clean further) (width : Nat) : Legible (widen ink first further width) := by
  cases width with
  | zero => exact legible_nil
  | succ width =>
    refine legible_cons.mpr ⟨clean.legible ink, ?_⟩
    intro s mem
    obtain rfl := List.eq_of_mem_replicate mem
    exact clean'.legible ink

theorem legible_textRow (m : Mark) : Legible m.textRow :=
  legible_flatMap (fun _ => legible_cell _ _ _) _

theorem legible_underlineRow (m : Mark) : Legible m.underlineRow := by
  refine legible_flatMap (fun (width, column) => ?_) _
  dsimp only
  split_ifs <;> exact legible_widen _ (by decide) (by decide) _

theorem legible_messageRow (m : Mark) : Legible m.messageRow := by
  refine legible_flatMap (fun (width, column) => ?_) _
  dsimp only
  split_ifs <;> exact legible_widen _ (by decide) (by decide) _

theorem legible_remarkRows {before : List Stroke} {word text : String} (legible : Legible before)
    (cleanWord : Clean word) (clean : Clean text) : Legible (remarkRows before word text) := by
  have cleanText : Clean (": " ++ text ++ "\n") :=
    clean_append (clean_append (by decide) clean) (by decide)
  have newline : Stroke.Legible ⟨"\n", none⟩ := Clean.legible (by decide) none
  simp only [remarkRows, legible_append, legible_cons]
  exact ⟨⟨⟨legible, newline, legible_nil⟩, legible⟩, cleanWord.legible _, cleanText.legible _,
    legible_nil⟩

theorem legible_remark {before : List Stroke} (word : String) {text : Option String}
    (legible : Legible before) (cleanWord : Clean word) (clean : ∀ t ∈ text, Clean t) :
    Legible (text.elim [] fun t => remarkRows before word t) := by
  rcases text with _ | t
  · exact legible_nil
  · exact legible_remarkRows legible cleanWord (clean t rfl)

/-- **All that is under the heading is legible**, whatever the source. -/
theorem legible_body {title : String} {d : Diagnostic} {label : Label} (m : Mark)
    (cleanTitle : Clean title) (cleanLabel : Clean label.message)
    (cleanHelp : ∀ text ∈ d.help, Clean text) (cleanNotes : ∀ text ∈ d.notes, Clean text) :
    Legible (body title d label m) := by
  have blank : Clean " " := by decide
  have feed : Clean "\n" := by decide
  have corner : Clean "╭" := by decide
  have bar : Clean "─" := by decide
  have opening : Clean "[" := by decide
  have closing : Clean "]" := by decide
  have side : Clean "│" := by decide
  have indent (n : Nat) : Clean (repeated n ' ') := clean_repeated n (by decide)
  have margins (n : Nat) : Clean (repeated n ' ' ++ "│") := clean_append (indent n) side
  have number : Clean (toString m.number ++ " │") :=
    clean_append (clean_toString _) (by decide)
  have last (n : Nat) : Clean (repeated n '─' ++ "╯") :=
    clean_append (clean_repeated n (by decide)) (by decide)
  have message : Clean (" " ++ label.message ++ "\n") :=
    clean_append (clean_append blank cleanLabel) feed
  have notes : ∀ text ∈ d.notes.getLast?, Clean text :=
    fun text last => cleanNotes text (List.mem_of_getLast? last)
  -- Only the row with the line of the source can have an escape character in it.
  have gutter (n : Nat) : Legible [⟨" ", none⟩, ⟨repeated n ' ' ++ "│", margin⟩, ⟨" ", none⟩] := by
    simp only [legible_cons]
    exact ⟨blank.legible _, (margins n).legible _, blank.legible _, legible_nil⟩
  have help := fun n => legible_remark "Help" (gutter n) (by decide) cleanHelp
  have note := fun n => legible_remark "Note" (gutter n) (by decide) notes
  unfold body
  simp only [legible_append, legible_cons, legible_nil, legible_textRow, legible_underlineRow,
    legible_messageRow, help, note, blank.legible, feed.legible, corner.legible, bar.legible,
    opening.legible, closing.legible, side.legible, (indent _).legible, (margins _).legible,
    number.legible, (last _).legible, message.legible, cleanTitle.legible, and_true]

theorem clean_description (code : ErrorCode) : Clean code.description := by
  cases code <;> decide

theorem clean_suggestion (code : ErrorCode) : ∀ text ∈ code.suggestion, Clean text := by
  cases code <;> decide

theorem clean_note (l : Location) : Clean (Mark.note s!"{l.line}:{l.column}") :=
  clean_append (clean_append (by decide) (clean_place l.line l.column)) (by decide)

/-- Whatever the character between two texts, if no bracket stands behind it. -/
theorem inert_between {front back : String} (cleanFront : Clean front) (cleanBack : Clean back)
    (next : Char) (begins : back.toList.head? = some next) (other : next ≠ '[') (c : Char) :
    Inert (front ++ c.toString ++ back).toList := by
  obtain ⟨more, split⟩ := List.head?_eq_some_iff.mp begins
  have inert : Inert (next :: more) := split ▸ inert_of_noEscape cleanBack
  have single : c.toString.toList = [c] := String.toList_singleton c
  rw [String.toList_append, String.toList_append, single, split, List.append_assoc]
  exact (inert_of_noEscape cleanFront).append (inert_cons other inert)

/-- **The message about a fault is shown as it is.**  If the character that starts no token
is an escape character, then a comma stands behind it. -/
theorem inert_message {d : Dialect} {text after : List Char} {f : Fault}
    (h : Faulty d text after f) : Inert f.message.toList := by
  cases h with
  | secondDot | openLiteral => exact inert_of_noEscape (by decide +kernel)
  | @strayCharacter c =>
    have front : Clean "Error while reading character: " := by decide +kernel
    have back : Clean ", don't know how to process" := by decide +kernel
    exact inert_between front back ',' (by decide +kernel) (by decide) c

theorem legible_heading {e : LexicalError} (inert : Inert e.message.toList) :
    Legible (heading (.ofError e)) := by
  have tag : Clean ("[" ++ e.code.tag ++ "] " ++ "Error:") := by
    cases e.code <;> decide
  have message : Inert (" " ++ e.message ++ "\n").toList := by
    rw [String.toList_append, String.toList_append]
    exact ((inert_of_noEscape (by decide)).append inert).append (inert_of_noEscape (by decide))
  exact legible_cons.mpr ⟨tag.legible _, legible_cons.mpr ⟨Stroke.legible_of_inert message,
    legible_nil⟩⟩

/-! ### Decoration -/

variable {d : Dialect} {source : String} {e : LexicalError}

/-- Tokenizing fails with a message that is shown as it is. -/
theorem inert_message_of_tokenize (fails : tokenize d source = .error e) :
    Inert e.message.toList := by
  obtain ⟨passed, after, ts, f, -, breaks, rfl⟩ := tokenize_eq_error_iff_breaks.mp fails
  cases breaks with
  | behind yields isGap isFault => exact inert_message isFault

/-- **Paint is decoration.**  The report of a lexical error is drawn in strokes, whatever the
source, as long as offsets in it fit, and whatever the name of the source, as long as no
escape character is in it.

* Without its style sequences the painted report is the report without paint.
* Its sequences are those that paint the strokes: each is turned on in front of the text of
  one stroke and off behind it.
* So where a stroke begins no style is in force, and none is behind the last one.
-/
theorem coloured_decorates (small : source.utf8ByteSize < UInt32.size)
    (fails : tokenize d source = .error e) {name : String} (clean : Clean name) :
    ∃ strokes painted text, draw name source (.ofError e) = .ok strokes ∧
      coloured name source (.ofError e) = .ok painted ∧ plain name source (.ofError e) = .ok text ∧
      withoutStyles painted = text ∧ signs painted.toList = strokes.flatMap Stroke.signs ∧
      ∀ front back, strokes = front ++ back → styleAfter (front.flatMap Stroke.signs) = none := by
  obtain ⟨m, marks⟩ := exists_marks small fails
  have drawn := draw_eq marks name
  generalize strokes_eq : heading (.ofError e) ++ body _ _ _ m = strokes at drawn
  have legible : Legible strokes := by
    have title : Clean (name ++ ":" ++ s!"{m.number}:{m.start + 1}") :=
      clean_append (clean_append clean (by decide)) (clean_place _ _)
    have notes : ∀ text ∈ (Diagnostic.ofError e).notes, Clean text := by
      intro text mem
      rw [notes_ofError] at mem
      exact List.mem_singleton.mp mem ▸ clean_note e.location
    rw [← strokes_eq]
    exact legible_append.mpr ⟨legible_heading (inert_message_of_tokenize fails),
      legible_body m title (clean_description _) (clean_suggestion _) notes⟩
  have read := signs_coloured legible
  refine ⟨strokes, _, _, drawn, by rw [coloured, drawn]; rfl, by rw [plain, drawn]; rfl, ?_, read,
    fun front _ _ => styleAfter_signs front⟩
  rw [withoutStyles, read, shown_signs, String.ofList_toList]

/-- The end of a literal in the tenth line that is not closed: in it are a tab, a wide
character, one without width, and what would turn a style on if it were not in pieces. -/
theorem coloured_decorates_openLiteral :
    let source := "\n\n\n\n\n\n\n\n\n'\t漢\u0301\x1b[31m"
    let d := { Dialect.standard with strictStrings := true }
    let e : LexicalError :=
      ⟨.unterminatedString, "Unterminated string literal", ⟨9, 9⟩, .point 21⟩
    tokenize d source = .error e ∧ ∃ painted text,
      coloured "a b.em" source (.ofError e) = .ok painted ∧
      plain "a b.em" source (.ofError e) = .ok text ∧ withoutStyles painted = text := by
  intro source d e
  have small : source.utf8ByteSize < UInt32.size := by decide +kernel
  have fails : tokenize d source = .error e := by decide +kernel
  have clean : Clean "a b.em" := by decide
  obtain ⟨strokes, painted, text, -, isPainted, isPlain, same, -⟩ :=
    coloured_decorates small fails clean
  exact ⟨fails, painted, text, isPainted, isPlain, same⟩

end Report

end Lexis
