import Lexis.Literal

/-!
# Bodies of literals

`Literal.Body` says, character by character, what the body of a literal is and
which text it denotes, without saying how it is read.  The main statements tie
it to reading: `read_of_body` for a body that a delimiter closes,
`read_of_openBody` for one that runs to the end of the text, and `body_of_read`
for the way back.

**A delimiter that is a backslash closes nothing.**  A backslash in a body
escapes the character after it whatever the delimiter is, so a body that is
closed has a delimiter other than the backslash.  This has to be said beside
the body: a body by itself does not show which character closes it.
-/

namespace Lexis

namespace EscapeMode

/-- What an escaped character contributes to the text of a literal. -/
def escaped : EscapeMode → Char → List Char
  | drop, c => [c]
  | keep, c => ['\\', c]

/-- What a backslash at the end of the text contributes to it. -/
def dangling : EscapeMode → List Char
  | drop => []
  | keep => ['\\']

end EscapeMode

namespace Literal

/-- `Body mode q atEnd body text`: no delimiter `q` in `body` is unescaped, and
`body` denotes `text`.  Only a body at the end of the source may end in a
backslash that escapes nothing. -/
inductive Body (mode : EscapeMode) (q : Char) (atEnd : Bool) : List Char → List Char → Prop
  | nil : Body mode q atEnd [] []
  | plain {c : Char} {body text : List Char} (noEscape : c ≠ '\\') (noClose : c ≠ q)
      (more : Body mode q atEnd body text) : Body mode q atEnd (c :: body) (c :: text)
  | escape {c : Char} {body text : List Char} (more : Body mode q atEnd body text) :
      Body mode q atEnd ('\\' :: c :: body) (mode.escaped c ++ text)
  | dangle (ends : atEnd = true) : Body mode q atEnd ['\\'] mode.dangling

variable {mode : EscapeMode} {q : Char} {atEnd : Bool}

/-- A body of a literal is one in either mode. -/
theorem Body.exists_mode {body text : List Char} (h : Body mode q atEnd body text)
    (mode' : EscapeMode) : ∃ text', Body mode' q atEnd body text' := by
  induction h with
  | nil => exact ⟨[], .nil⟩
  | plain noEscape noClose _ ih =>
    obtain ⟨text', isBody⟩ := ih
    exact ⟨_, .plain noEscape noClose isBody⟩
  | escape _ ih =>
    obtain ⟨text', isBody⟩ := ih
    exact ⟨_, .escape isBody⟩
  | dangle ends => exact ⟨_, .dangle ends⟩

/-! ### Reading, one step at a time -/

/-- A literal with more text in front of its body. -/
def prepend (front : List Char) (l : Literal) : Literal := ⟨front ++ l.body, l.closed⟩

/-- What has been read before is only put in front. -/
theorem readOnto_append (q : Char) (later done text : List Char) :
    readOnto q (later ++ done) text = (readOnto q later text).prepend done.reverse := by
  fun_induction readOnto q later text with
  | case1 => simp [readOnto, prepend]
  | case2 => simp [readOnto, prepend]
  | case3 later c rest ih => simpa [readOnto] using ih
  | case4 later rest noEscape noDangle =>
    rw [readOnto]
    · simp [prepend]
    · assumption
    · assumption
  | case5 later c rest noEscape noDangle noClose ih =>
    rw [readOnto]
    · simpa [noClose] using ih
    · assumption
    · assumption

@[simp] theorem read_escape (q c : Char) (rest : List Char) :
    read q ('\\' :: c :: rest) = (read q rest).prepend ['\\', c] :=
  readOnto_append q [] [c, '\\'] rest

theorem read_plain {q c : Char} (noEscape : c ≠ '\\') (rest : List Char) :
    read q (c :: rest) = if c = q then ⟨[], true⟩ else (read q rest).prepend [c] := by
  unfold read
  rw [readOnto]
  · split
    · rfl
    · exact readOnto_append q [] [c] rest
  · intro same
    exact absurd same noEscape
  · intro _ _ same
    exact absurd same noEscape

/-! ### Decoding -/

theorem dropOnto_eq (done body : List Char) :
    EscapeMode.dropOnto done body = done.reverse ++ EscapeMode.dropOnto [] body := by
  suffices general : ∀ later, EscapeMode.dropOnto (later ++ done) body =
      done.reverse ++ EscapeMode.dropOnto later body from general []
  intro later
  fun_induction EscapeMode.dropOnto later body with
  | case1 => simp [EscapeMode.dropOnto]
  | case2 => simp [EscapeMode.dropOnto]
  | case3 later c rest ih => simpa [EscapeMode.dropOnto] using ih
  | case4 later c rest noDangle noEscape ih =>
    rw [EscapeMode.dropOnto]
    · simpa using ih
    · assumption
    · assumption

/-- **A body denotes one text**, the one it is decoded to. -/
theorem decode_of_body {body text : List Char} (h : Body mode q atEnd body text) :
    mode.decode body = text := by
  induction h with
  | nil => cases mode <;> rfl
  | @plain c body text noEscape noClose more ih =>
    cases mode with
    | keep => simpa [EscapeMode.decode] using ih
    | drop =>
      simp only [EscapeMode.decode] at ih ⊢
      rw [EscapeMode.dropOnto, dropOnto_eq, ih]
      · rfl
      · intro same
        exact absurd same noEscape
      · intro _ _ same
        exact absurd same noEscape
  | @escape c body text more ih =>
    cases mode with
    | keep => simpa [EscapeMode.decode, EscapeMode.escaped] using ih
    | drop =>
      simp only [EscapeMode.decode] at ih ⊢
      rw [EscapeMode.dropOnto, dropOnto_eq, ih]
      rfl
  | dangle => cases mode <;> rfl

/-! ### Reading and bodies -/

/-- A body before an unescaped delimiter is read up to that delimiter. -/
theorem read_of_body {body text : List Char} (h : Body mode q false body text)
    (canClose : q ≠ '\\') (after : List Char) : read q (body ++ q :: after) = ⟨body, true⟩ := by
  induction h with
  | nil => simp [read_plain canClose]
  | plain noEscape noClose more ih =>
    rw [List.cons_append, read_plain noEscape, if_neg noClose, ih]
    rfl
  | escape more ih =>
    rw [List.cons_append, List.cons_append, read_escape, ih]
    rfl
  | dangle ends => cases ends

/-- A body at the end of the source is read to the end. -/
theorem read_of_openBody {body text : List Char} (h : Body mode q true body text) :
    read q body = ⟨body, false⟩ := by
  induction h with
  | nil => rfl
  | plain noEscape noClose more ih =>
    rw [read_plain noEscape, if_neg noClose, ih]
    rfl
  | escape more ih =>
    rw [read_escape, ih]
    rfl
  | dangle => rfl

/-- **What is read is a body**: one that a delimiter closes, or else all that is
left of the source. -/
theorem body_of_read (mode : EscapeMode) (q : Char) : ∀ source : List Char,
    (∃ body text after, source = body ++ q :: after ∧ q ≠ '\\' ∧ Body mode q false body text ∧
      read q source = ⟨body, true⟩) ∨
    (∃ text, Body mode q true source text ∧ read q source = ⟨source, false⟩)
  | [] => Or.inr ⟨[], .nil, rfl⟩
  | c :: rest => by
    -- A backslash takes the next character with it, so this is no induction on the tail.
    by_cases escapes : c = '\\'
    · subst escapes
      cases rest with
      | nil => exact Or.inr ⟨_, .dangle rfl, rfl⟩
      | cons e rest =>
        rw [read_escape]
        rcases body_of_read mode q rest with
          ⟨body, text, after, rfl, canClose, isBody, reads⟩ | ⟨text, isBody, reads⟩
        · exact Or.inl ⟨_, _, after, rfl, canClose, .escape isBody, by rw [reads]; rfl⟩
        · exact Or.inr ⟨_, .escape isBody, by rw [reads]; rfl⟩
    · rw [read_plain escapes]
      by_cases closes : c = q
      · subst closes
        exact Or.inl ⟨[], [], rest, rfl, escapes, .nil, by rw [if_pos rfl]⟩
      · rw [if_neg closes]
        rcases body_of_read mode q rest with
          ⟨body, text, after, rfl, canClose, isBody, reads⟩ | ⟨text, isBody, reads⟩
        · exact Or.inl ⟨_, _, after, rfl, canClose, .plain escapes closes isBody,
            by rw [reads]; rfl⟩
        · exact Or.inr ⟨_, .plain escapes closes isBody, by rw [reads]; rfl⟩
termination_by source => source.length

end Literal

end Lexis
