import Lexis.Proofs.Closing

/-!
# Writing literals

Every text can be written as a string literal, and in more than one way.  A `Writing`
holds the text with a choice, for each of its characters, of whether a backslash stands
in front; only for backslashes and delimiters there is no choice.

* **What is written is a body** (`Writing.isBody`), so the delimiter behind it is the one
  that closes the literal, whatever comes after.
* **What is read back** depends on the mode alone (`Writing.decode_body`): the text where
  backslashes are left out, and the body where they stay.

The main statement, `scan_writing`, is about dialects with a delimiter that opens a
literal at all, and that can close one: no backslash, no blank, and not the comment
marker.
-/

namespace Lexis

/-- A way to write a text between delimiters `q`: the characters of the text, each with
whether a backslash stands in front of it. -/
structure Writing (q : Char) where
  marks : List (Char × Bool)
  escapes : ∀ m ∈ marks, m.1 = '\\' ∨ m.1 = q → m.2 = true

namespace Writing

variable {q : Char}

/-- The text that is written. -/
def text (w : Writing q) : List Char := w.marks.map Prod.fst

/-- What stands between the delimiters. -/
def body (w : Writing q) : List Char :=
  w.marks.flatMap fun m => if m.2 then ['\\', m.1] else [m.1]

/-- **Every text can be written**, if only with a backslash in front of each character. -/
theorem exists_text (q : Char) (text : List Char) : ∃ w : Writing q, w.text = text := by
  have all : ∀ m ∈ text.map fun c => (c, true), m.1 = '\\' ∨ m.1 = q → m.2 = true := by
    intro m mem _
    obtain ⟨c, -, rfl⟩ := List.mem_map.mp mem
    rfl
  exact ⟨⟨_, all⟩, by simp [Writing.text, Function.comp_def]⟩

/-- **What is written is a body** that denotes the text. -/
theorem isBody (w : Writing q) : Literal.Body .drop q false w.body w.text := by
  obtain ⟨marks, escapes⟩ := w
  unfold body text
  induction marks with
  | nil => exact .nil
  | cons m marks ih =>
    obtain ⟨escapes_m, escapes⟩ := List.forall_mem_cons.mp escapes
    have more := ih escapes
    obtain ⟨c, escaped⟩ := m
    rw [List.flatMap_cons]
    cases escaped with
    | true => exact .escape more
    | false =>
      have free : ¬ (c = '\\' ∨ c = q) := fun forced => Bool.noConfusion (escapes_m forced)
      obtain ⟨noEscape, noClose⟩ := not_or.mp free
      exact .plain noEscape noClose more

/-- What is read back, by the mode. -/
theorem decode_body (w : Writing q) (mode : EscapeMode) :
    mode.decode w.body = match mode with
      | .drop => w.text
      | .keep => w.body := by
  cases mode with
  | drop => exact Literal.decode_of_body w.isBody
  | keep => rfl

end Writing

namespace Dialect

/-- A delimiter opens literals if it is neither a blank nor the comment marker. -/
theorem starts_stringDelimiter {d : Dialect} (visible : isBlank d.stringDelimiter = false)
    (unmarked : d.stringDelimiter ≠ d.commentMarker) :
    d.Starts .stringStart d.stringDelimiter :=
  starts_iff.mpr ⟨visible, by simp [classify, unmarked]⟩

end Dialect

namespace Lexer

/-- **Every text can be written as a literal and read back.**  Let the delimiter of the
dialect be neither a backslash nor a blank nor the comment marker.  Then each text has a
writing.  A lexer in front of any of its writings, between delimiters, scans a string and
stops right behind the second of them: the string is the text where backslashes are left
out, and the body as it is written where they stay.  It matters neither what follows nor
whether literals have to be closed. -/
theorem scan_writing {d : Dialect} (canClose : d.stringDelimiter ≠ '\\')
    (visible : isBlank d.stringDelimiter = false)
    (unmarked : d.stringDelimiter ≠ d.commentMarker) (x : String) :
    let q := d.stringDelimiter
    (∃ w : Writing q, w.text = x.toList) ∧
    ∀ w : Writing q, w.text = x.toList → ∀ (l : Lexer) (after : List Char), l.dialect = d →
      l.cursor.rest = q :: (w.body ++ q :: after) →
        l.scan.1 = .ok (some (.string (match d.escapeMode with
          | .drop => x
          | .keep => String.ofList w.body))) ∧
        l.scan.2.cursor = l.cursor.forward (w.body.length + 2) ∧
        l.scan.2.cursor.rest = after := by
  intro q
  refine ⟨Writing.exists_text q x.toList, ?_⟩
  rintro w written l after rfl rest_eq
  obtain ⟨value, isBody⟩ := w.isBody.exists_mode l.dialect.escapeMode
  have closed := findsClosed_of_body .nil (Dialect.starts_stringDelimiter visible unmarked)
    canClose isBody rest_eq
  have reply := closed.reply
  have cursor := closed.cursor
  rw [w.decode_body] at reply
  refine ⟨?_, ?_, closed.rest⟩
  · rw [reply, written]
    cases l.dialect.escapeMode with
    | drop => exact congrArg (fun s => Except.ok (some (Token.string s))) String.ofList_toList
    | keep => rfl
  · simpa using cursor

/-- A delimiter and a backslash, which have to be escaped, and a letter that need not be,
in front of a comment. -/
theorem scan_writing_optional_escape :
    let d := Dialect.standard
    let w : Writing d.stringDelimiter :=
      ⟨[('a', false), ('\'', true), ('b', true), ('\\', true)], by decide⟩
    let l := ofText d "'a\\'\\b\\\\'#c"
    d.stringDelimiter ≠ '\\' ∧ isBlank d.stringDelimiter = false ∧
      d.stringDelimiter ≠ d.commentMarker ∧ w.text = "a'b\\".toList ∧
      l.cursor.rest = d.stringDelimiter :: (w.body ++ d.stringDelimiter :: "#c".toList) ∧
      l.scan.1 = .ok (some (.string "a'b\\")) ∧ l.scan.2.cursor.rest = "#c".toList := by
  intro d w l
  have canClose : d.stringDelimiter ≠ '\\' := by decide
  have visible : isBlank d.stringDelimiter = false := by decide
  have unmarked : d.stringDelimiter ≠ d.commentMarker := by decide
  have written : w.text = "a'b\\".toList := by decide +kernel
  have rest_eq : l.cursor.rest =
      d.stringDelimiter :: (w.body ++ d.stringDelimiter :: "#c".toList) := by decide +kernel
  obtain ⟨reply, -, rest⟩ :=
    (scan_writing canClose visible unmarked "a'b\\").2 w written l _ rfl rest_eq
  exact ⟨canClose, visible, unmarked, written, rest_eq, reply, rest⟩

end Lexer

end Lexis
