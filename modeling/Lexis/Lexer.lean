import Lexis.Cursor
import Lexis.Piece

/-!
# Lexers

A lexer takes tokens off a text on demand.  It is a cursor, a dialect and at
most one token of lookahead.

* **A scan** (`Lexer.scan`) passes over blanks and comments to the next token,
  the next fault or the end of the text.  It leaves the cursor where it stopped,
  after a fault too, so a later scan starts from there.
* **Peeking** scans at most once and keeps the token; taking the next token
  hands out a kept one first.  An error is not kept: it is found again, because
  the scan that follows starts at the fault.
* **Iterating** differs from taking the next token in one way: after it has
  handed out an error it hands out nothing more.
* **The log** records what the scans passed, for whoever wants to trace them.
  No reply depends on it.
-/

namespace Lexis

/-- Something that a scan came across. -/
inductive Event where
  /-- A comment that starts on the given line. -/
  | skippedComment (line : Nat)
  /-- A token, and the location after it. -/
  | scannedToken (t : Token) (location : Location)
  | lexicalError (e : LexicalError)
deriving DecidableEq

/-- The answer to a request for a token: there may be none left, or an error. -/
abbrev Reply := Except LexicalError (Option Token)

/-- A text that is being split into tokens. -/
structure Lexer where
  dialect : Dialect
  cursor : Cursor
  /-- A token that has been scanned but not handed out. -/
  lookahead : Option Token
  /-- Whether iterating has handed out an error. -/
  failed : Bool
  /-- What the scans have come across, the latest first. -/
  log : List Event

namespace Lexer

/-- A lexer at the start of a text. -/
def ofText (d : Dialect) (source : String) : Lexer := ⟨d, .ofText source, none, false, []⟩

/-- Where the cursor is: after the last token scanned, handed out or not. -/
def location (l : Lexer) : Location := l.cursor.location

/-! ### Scanning -/

/-- What a scan finds, where it stops, and what it came across. -/
structure Scan where
  reply : Reply
  cursor : Cursor
  log : List Event

/-- Scans from a cursor to the next token, fault or end. -/
def scanFrom (d : Dialect) (log : List Event) (c : Cursor) : Scan :=
  match _more : c.rest with
  | [] => ⟨.ok none, c, log⟩
  | ch :: rest =>
    let piece := Piece.first d ch rest
    let after := c.forward piece.text.length
    match _reading : piece.reading with
    | .blank => scanFrom d log after
    | .comment => scanFrom d (.skippedComment c.location.line :: log) after
    | .token t => ⟨.ok (some t), after, .scannedToken t after.location :: log⟩
    | .fault f =>
      let e := after.fail f.code f.message
      ⟨.error e, after, .lexicalError e :: log⟩
termination_by c.rest.length
decreasing_by
  all_goals
    have nonempty : piece.text ≠ [] :=
      Piece.first_text_ne_nil d ch rest fun f h => nomatch _reading.symm.trans h
    exact Cursor.length_rest_forward (by simpa using nonempty) (by simp [_more])

/-- Scans from where the lexer is. -/
def scan (l : Lexer) : Reply × Lexer :=
  let s := scanFrom l.dialect l.log l.cursor
  (s.reply, { l with cursor := s.cursor, log := s.log })

/-! ### Tokens on demand -/

/-- The next token, which stays to be handed out. -/
def peekToken (l : Lexer) : Reply × Lexer :=
  match l.lookahead with
  | some t => (.ok (some t), l)
  | none =>
    match l.scan with
    | (.ok found, l') => (.ok found, { l' with lookahead := found })
    | (.error e, l') => (.error e, l')

/-- Hands out the next token. -/
def nextToken (l : Lexer) : Reply × Lexer :=
  match l.lookahead with
  | some t => (.ok (some t), { l with lookahead := none })
  | none => l.scan

/-- Whether no token is left. -/
def atEnd (l : Lexer) : Except LexicalError Bool × Lexer :=
  let (reply, l') := l.peekToken
  (reply.map Option.isNone, l')

/-- Hands out the next token, or an error once. -/
def iterate (l : Lexer) : Option (Except LexicalError Token) × Lexer :=
  if l.failed then (none, l)
  else match l.nextToken with
    | (.ok found, l') => (found.map .ok, l')
    | (.error e, l') => (some (.error e), { l' with failed := true })

/-! ### Everything that is left -/

/-- A bound on the tokens that are left. -/
def remaining (l : Lexer) : Nat :=
  l.cursor.rest.length + if l.lookahead.isSome then 1 else 0

/-- A scan that finds a token leaves less to read. -/
theorem length_rest_scanFrom {d : Dialect} {log : List Event} {c : Cursor} {t : Token}
    (h : (scanFrom d log c).reply = .ok (some t)) :
    (scanFrom d log c).cursor.rest.length < c.rest.length := by
  fun_induction scanFrom d log c with
  | case1 => simp at h
  | case2 log c ch rest more piece after reading ih =>
    exact Nat.lt_trans (ih h) (Cursor.length_rest_forward
      (by simpa using Piece.first_text_ne_nil d ch rest (by simp_all [piece])) (by simp [more]))
  | case3 log c ch rest more piece after reading ih =>
    exact Nat.lt_trans (ih h) (Cursor.length_rest_forward
      (by simpa using Piece.first_text_ne_nil d ch rest (by simp_all [piece])) (by simp [more]))
  | case4 log c ch rest more piece after t reading =>
    exact Cursor.length_rest_forward
      (by simpa using Piece.first_text_ne_nil d ch rest (by simp_all [piece])) (by simp [more])
  | case5 => simp at h

/-- Handing out a token leaves fewer of them. -/
theorem remaining_nextToken {l l' : Lexer} {t : Token} (h : l.nextToken = (.ok (some t), l')) :
    l'.remaining < l.remaining := by
  unfold nextToken at h
  split at h
  · next kept =>
    obtain ⟨-, rfl⟩ := Prod.mk.inj h
    simp [remaining, kept]
  · next empty =>
    obtain ⟨reply, rfl⟩ := Prod.mk.inj h
    simpa [remaining, empty] using length_rest_scanFrom reply

theorem remaining_iterate {l l' : Lexer} {t : Token} (h : l.iterate = (some (.ok t), l')) :
    l'.remaining < l.remaining := by
  unfold iterate at h
  split at h
  · simp at h
  · split at h
    · next found _ next_eq =>
      obtain ⟨reply, rfl⟩ := Prod.mk.inj h
      cases found with
      | none => simp at reply
      | some t' => exact remaining_nextToken next_eq
    · simp at h

/-- Iterates to the end or to the first error, and gathers the tokens on the
way. -/
def fold {σ : Type} (gather : σ → Token → σ) (s : σ) (l : Lexer) : Except LexicalError σ × Lexer :=
  match _h : l.iterate with
  | (none, l') => (.ok s, l')
  | (some (.error e), l') => (.error e, l')
  | (some (.ok t), l') => l'.fold gather (gather s t)
termination_by l.remaining
decreasing_by exact remaining_iterate _h

/-- The tokens that are left, or the first error. -/
def collect (l : Lexer) : Except LexicalError (List Token) × Lexer :=
  let (tokens, l') := l.fold (fun read t => t :: read) []
  (tokens.map List.reverse, l')

/-- The number of tokens that are left, or the first error. -/
def count (l : Lexer) : Except LexicalError Nat × Lexer := l.fold (fun n _ => n + 1) 0

end Lexer

/-- The tokens of a text, or the first error in it. -/
def tokenize (d : Dialect) (source : String) : Except LexicalError (List Token) :=
  (Lexer.ofText d source).collect.1

end Lexis
