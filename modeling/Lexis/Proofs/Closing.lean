import Lexis.Proofs.Items
import Mathlib.Algebra.Ring.Parity

/-!
# Where literals close

Reading a literal, one remembers whether the character that comes next is escaped.
Where the literal closes can be told without that memory, from the backslashes in front
of a delimiter alone: an even number of them escape each other, and an odd number leaves
one that escapes the delimiter.

* **The memory is a parity** (`pending_iff_odd`): a backslash waits for a character to
  escape exactly if the text read so far ends in an odd number of backslashes.
* **A body holds no closing delimiter** (`Body.pending_of_split`): in front of each
  delimiter inside it a backslash waits.  At its own end none does
  (`Body.not_pending`), so the delimiter behind a body is the first that closes.

A delimiter that is a backslash has to be set apart: an even number of backslashes may
stand in front of one, and it still escapes what comes next instead of closing.  The main
statement, `scan_literal`, therefore has two parts.
-/

namespace Lexis

namespace Literal

/-! ### Backslashes -/

/-- Whether, behind the text, a backslash waits for a character to escape. -/
def pending (text : List Char) : Bool :=
  text.foldl (fun waits c => !waits && c = '\\') false

/-- The number of backslashes that the text ends in. -/
def backslashesAtEnd (text : List Char) : Nat := (text.rtakeWhile (· = '\\')).length

theorem pending_concat (text : List Char) (c : Char) :
    pending (text ++ [c]) = (!pending text && c = '\\') := by
  simp [pending]

/-- An escaped character leaves nothing that waits. -/
theorem pending_escape (c : Char) (text : List Char) :
    pending ('\\' :: c :: text) = pending text := by
  simp [pending]

theorem pending_plain {c : Char} (noEscape : c ≠ '\\') (text : List Char) :
    pending (c :: text) = pending text := by
  simp [pending, noEscape]

/-- **The memory is a parity.** -/
theorem pending_iff_odd (text : List Char) :
    pending text = true ↔ Odd (backslashesAtEnd text) := by
  -- By the last character: one more backslash turns both sides over.
  induction text using List.reverseRecOn with
  | nil => simp [pending, backslashesAtEnd]
  | append_singleton text c ih =>
    rw [pending_concat, backslashesAtEnd, List.rtakeWhile_concat]
    by_cases escapes : c = '\\'
    · subst escapes
      rw [if_pos (by simp), List.length_append, List.length_singleton, Nat.odd_add_one]
      rw [← backslashesAtEnd, ← ih]
      simp
    · simp [escapes]

theorem even_iff_not_pending (text : List Char) :
    Even (backslashesAtEnd text) ↔ pending text = false := by
  rw [← Nat.not_odd_iff_even, ← pending_iff_odd, Bool.not_eq_true]

/-! ### Bodies -/

variable {mode : EscapeMode} {q : Char} {atEnd : Bool} {body text : List Char}

/-- Behind a body nothing waits. -/
theorem Body.not_pending (h : Body mode q false body text) : pending body = false := by
  induction h with
  | nil => rfl
  | plain noEscape _ _ ih => rwa [pending_plain noEscape]
  | escape _ ih => rwa [pending_escape]
  | dangle ends => cases ends

/-- **In front of a delimiter inside a body** a backslash waits. -/
theorem Body.pending_of_split (h : Body mode q atEnd body text) (canClose : q ≠ '\\')
    {front after : List Char} (split : body = front ++ q :: after) : pending front = true := by
  induction h generalizing front with
  | nil => simp at split
  | plain noEscape noClose _ ih =>
    cases front with
    | nil => exact absurd (List.cons.inj split).1 noClose
    | cons x front =>
      rw [List.cons_append] at split
      obtain ⟨same, tail⟩ := List.cons.inj split
      rw [← same, pending_plain noEscape]
      exact ih tail
  | escape _ ih =>
    -- The backslash is no delimiter, and it waits in front of the character it escapes.
    match front with
    | [] => exact absurd (List.cons.inj split).1.symm canClose
    | [x] =>
      obtain ⟨rfl, -⟩ := List.cons.inj split
      rfl
    | x :: y :: front =>
      rw [List.cons_append, List.cons_append] at split
      obtain ⟨same, escaped⟩ := List.cons.inj split
      obtain ⟨-, tail⟩ := List.cons.inj escaped
      rw [← same, pending_escape]
      exact ih tail
  | dangle =>
    cases front with
    | nil => exact absurd (List.cons.inj split).1.symm canClose
    | cons x front => simp at split

/-! ### Closing delimiters -/

/-- The delimiter between `front` and `after` has an even number of backslashes right in
front of it. -/
structure Closes (q : Char) (text front after : List Char) : Prop where
  split : text = front ++ q :: after
  even : Even (backslashesAtEnd front)

/-- No delimiter before the one behind `front` has an even number of backslashes right in
front of it, and that one has. -/
structure ClosesFirst (q : Char) (text front after : List Char) : Prop
    extends Closes q text front after where
  first : ∀ front' after', Closes q text front' after' → front.length ≤ front'.length

/-- **The delimiter behind a body** is the first that closes. -/
theorem Body.closesFirst {after : List Char} (h : Body mode q false body text)
    (canClose : q ≠ '\\') : ClosesFirst q (body ++ q :: after) body after where
  split := rfl
  even := (even_iff_not_pending body).mpr h.not_pending
  first := by
    intro front' after' closes
    by_contra earlier
    -- A delimiter in front of the closing one lies inside the body.
    obtain ⟨more, inside⟩ : ∃ more, body = front' ++ q :: more := by
      rcases List.append_eq_append_iff.mp closes.split with ⟨x, rfl, -⟩ | ⟨x, rfl, same⟩
      · simp at earlier
      · cases x with
        | nil => simp at earlier
        | cons c more =>
          obtain ⟨rfl, -⟩ := List.cons.inj same
          exact ⟨more, rfl⟩
    have waits := h.pending_of_split canClose inside
    rw [(even_iff_not_pending front').mp closes.even] at waits
    cases waits

/-- **In an open body** no delimiter closes. -/
theorem Body.not_closes (h : Body mode q true body text) (canClose : q ≠ '\\')
    (front after : List Char) : ¬ Closes q body front after := by
  intro closes
  have waits := h.pending_of_split canClose closes.split
  rw [(even_iff_not_pending front).mp closes.even] at waits
  cases waits

end Literal

/-! ### Scanning -/

namespace Lexer

/-- The scan of `l` passes `passed`, the last character of which closes a literal with the
body `body`. -/
structure FindsClosed (l : Lexer) (passed body after : List Char) : Prop where
  reply : l.scan.1 = .ok (some (.string (String.ofList (l.dialect.escapeMode.decode body))))
  cursor : l.scan.2.cursor = l.cursor.forward passed.length
  rest : l.scan.2.cursor.rest = after

/-- The scan of `l` passes all that is left of the text, and nothing closes the literal
with the body `body`: a dialect that asks for it to be closed reports that at the end. -/
structure FindsOpen (l : Lexer) (body : List Char) : Prop where
  strict : l.dialect.strictStrings = true → l.scan.1 =
    .error (l.scan.2.cursor.fail .unterminatedString "Unterminated string literal")
  lenient : l.dialect.strictStrings = false →
    l.scan.1 = .ok (some (.string (String.ofList (l.dialect.escapeMode.decode body))))
  cursor : l.scan.2.cursor = l.cursor.forward l.cursor.rest.length
  rest : l.scan.2.cursor.rest = []

variable {l : Lexer} {q : Char} {gap body text after : List Char}

/-- A scan that comes to a body and a delimiter behind it. -/
theorem findsClosed_of_body (isGap : Gap l.dialect gap (q :: (body ++ q :: after)))
    (starts : l.dialect.Starts .stringStart q) (canClose : q ≠ '\\')
    (isBody : Literal.Body l.dialect.escapeMode q false body text)
    (rest_eq : l.cursor.rest = gap ++ q :: (body ++ q :: after)) :
    l.FindsClosed (gap ++ q :: (body ++ [q])) body after := by
  have parts : q :: (body ++ q :: after) = q :: (body ++ [q]) ++ after := by simp
  rw [parts] at isGap rest_eq
  rw [← List.append_assoc] at rest_eq
  have isLexeme : Lexeme l.dialect (q :: (body ++ [q])) after _ :=
    .closedString starts canClose isBody
  have scanned := scanned_of_scans rest_eq (.behind isGap (.token isLexeme))
  rw [← Literal.decode_of_body isBody] at scanned
  exact ⟨scanned.reply, scanned.cursor, scanned.rest⟩

/-- A scan that comes to a body at the end of the text. -/
theorem findsOpen_of_body (isGap : Gap l.dialect gap (q :: body))
    (starts : l.dialect.Starts .stringStart q)
    (isBody : Literal.Body l.dialect.escapeMode q true body text)
    (rest_eq : l.cursor.rest = gap ++ q :: body) : l.FindsOpen body := by
  rw [← List.append_nil (q :: body)] at isGap rest_eq
  rw [← List.append_assoc] at rest_eq
  have all : l.cursor.rest.length = (gap ++ q :: body).length := by rw [rest_eq, List.append_nil]
  cases rule : l.dialect.strictStrings with
  | true =>
    have isFault := Faulty.openLiteral starts rule isBody
    have scanned := scanned_of_scans rest_eq (.behind isGap (.fault isFault))
    exact ⟨fun _ => scanned.reply, by simp [rule], all ▸ scanned.cursor, scanned.rest⟩
  | false =>
    have isLexeme := Lexeme.openString starts rule isBody
    have scanned := scanned_of_scans rest_eq (.behind isGap (.token isLexeme))
    rw [← Literal.decode_of_body isBody] at scanned
    exact ⟨by simp [rule], fun _ => scanned.reply, all ▸ scanned.cursor, scanned.rest⟩

/-- **Parity decides where a literal closes.**  Let a scan, having passed a gap, come to a
delimiter `q` that starts a string.

* If `q` is no backslash, the literal closes at the first further `q` that has an even
  number of backslashes right in front of it, and the scan stops right behind that one.
  If there is none, the scan runs to the end of the text, and the literal is open.
* If `q` is a backslash, the scan always runs to the end of the text, and the literal is
  open.
-/
theorem scan_literal (isGap : Gap l.dialect gap (q :: text))
    (starts : l.dialect.Starts .stringStart q) (rest_eq : l.cursor.rest = gap ++ q :: text) :
    (q ≠ '\\' →
      (∃ front after, Literal.ClosesFirst q text front after ∧
        l.FindsClosed (gap ++ q :: (front ++ [q])) front after) ∨
      ((∀ front after, ¬ Literal.Closes q text front after) ∧ l.FindsOpen text)) ∧
    (q = '\\' → l.FindsOpen text) := by
  rcases Literal.body_of_read l.dialect.escapeMode q text with
    ⟨body, value, after, rfl, canClose, isBody, -⟩ | ⟨value, isBody, -⟩
  · constructor
    · intro _
      exact Or.inl ⟨body, after, isBody.closesFirst canClose,
        findsClosed_of_body isGap starts canClose isBody rest_eq⟩
    · intro isBackslash
      exact absurd isBackslash canClose
  · have findsOpen := findsOpen_of_body isGap starts isBody rest_eq
    constructor
    · intro canClose
      exact Or.inr ⟨isBody.not_closes canClose, findsOpen⟩
    · intro _
      exact findsOpen

/-- Of three delimiters behind the opening one, the first has one backslash in front of it
and the second has two. -/
theorem scan_literal_two_backslashes :
    let l := ofText .standard " 'a\\'b\\\\'c'"
    let text := "a\\'b\\\\'c'".toList
    Gap l.dialect [' '] ('\'' :: text) ∧ l.dialect.Starts .stringStart '\'' ∧
      l.cursor.rest = [' '] ++ '\'' :: text ∧
      ∃ front after, Literal.ClosesFirst '\'' text front after ∧
        l.FindsClosed ([' '] ++ '\'' :: (front ++ ['\''])) front after := by
  intro l text
  have isGap : Gap l.dialect [' '] ('\'' :: text) := .blank (by decide) .nil
  have starts : l.dialect.Starts .stringStart '\'' :=
    Dialect.starts_iff.mpr ⟨by decide, by decide⟩
  have rest_eq : l.cursor.rest = [' '] ++ '\'' :: text := by decide +kernel
  have closes : Literal.Closes '\'' text "a\\'b\\\\".toList "c'".toList :=
    ⟨by decide +kernel, by decide +kernel⟩
  refine ⟨isGap, starts, rest_eq, ?_⟩
  rcases (scan_literal isGap starts rest_eq).1 (by decide) with closed | ⟨none, -⟩
  · exact closed
  · exact absurd closes (none _ _)

/-- Where the delimiter is a backslash, two of them do not make a literal. -/
example :
    let d : Dialect := { Dialect.standard with stringDelimiter := '\\', strictStrings := true }
    tokenize d "\\a\\" =
      .error ⟨.unterminatedString, "Unterminated string literal", ⟨0, 3⟩, .point 3⟩ := by
  decide +kernel

end Lexer

end Lexis
