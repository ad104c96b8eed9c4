import Lexis.Proofs.Correspondence

/-!
# Texts with more in front

A lexer reads what lies ahead of it and nothing else.  If another lexer has the
same text ahead of it, but stands at another place, the two give the same answers;
only the places in their errors are moved (`LexicalError.displaced`).

* **Cursors** (`Cursor.Displaced`): the two have the same characters ahead, and
  their counters differ by a place, which every move keeps.  A location is moved by
  `Location.compose`, so its column counts on in the first line alone.
* **Lexers** (`Lexer.Displaced`): what is kept and what has failed is the same,
  too.  They correspond (`Lexer.displacement`), so requests and whole sessions keep
  it so (`Displaced.ask`, `Displaced.run`).

Nothing is assumed about the length of the text, since the words of a span are
moved as words.  Only that the offsets do not wrap needs a text that is not too
long (`Span.range_displaced`).
-/

namespace Lexis

/-! ### Errors -/

theorem BytePos.ofNat_toNat_add (m n : Nat) : ofNat ((ofNat m).toNat + n) = ofNat (m + n) := by
  rw [ofNat, ofNat, ofNat, toNat, UInt32.ofNat_add, UInt32.ofNat_toNat, ← UInt32.ofNat_add]

namespace Span

/-- The span of the same bytes if there are `offset` more in front. -/
def displaced (offset : Nat) (s : Span) : Span :=
  .ofOffsets (s.start.toNat + offset) (s.stop.toNat + offset)

theorem displaced_ofOffsets (offset start stop : Nat) :
    (ofOffsets start stop).displaced offset = ofOffsets (start + offset) (stop + offset) := by
  unfold displaced ofOffsets
  rw [BytePos.ofNat_toNat_add, BytePos.ofNat_toNat_add]

/-- Offsets into a text that is not too long are moved by the bytes in front. -/
theorem range_displaced {offset : Nat} {s : Span} (ordered : s.range.1 ≤ s.range.2)
    (small : s.range.2 + offset < UInt32.size) :
    (s.displaced offset).range = (s.range.1 + offset, s.range.2 + offset) :=
  range_ofOffsets small (Nat.add_le_add_right ordered offset)

end Span

/-- The error `e` of a text that starts at the location `base`, with `offset` bytes
in front. -/
def LexicalError.displaced (base : Location) (offset : Nat) (e : LexicalError) : LexicalError :=
  { e with location := base.compose e.location, span := e.span.displaced offset }

variable {base : Location} {offset : Nat}

/-! ### Cursors -/

namespace Cursor

/-- The cursor `c` has the same text ahead as `m`, and is further on by a place. -/
structure Displaced (base : Location) (offset : Nat) (m c : Cursor) : Prop where
  rest : c.rest = m.rest
  position : c.position = m.position + offset
  location : c.location = base.compose m.location

/-- Any cursor is one at the start of what lies ahead of it, further on by the place
where it is. -/
theorem displaced_ofText (c : Cursor) :
    (ofText (String.ofList c.rest)).Displaced c.location c.position c where
  rest := String.toList_ofList.symm
  position := (Nat.zero_add _).symm
  location := (Location.compose_start _).symm

theorem Displaced.forward {m c : Cursor} (h : m.Displaced base offset c) (n : Nat) :
    (m.forward n).Displaced base offset (c.forward n) where
  rest := by rw [rest_forward, rest_forward, h.rest]
  position := by rw [position_forward, position_forward, h.rest, h.position, Nat.add_right_comm]
  location := by
    rw [location_forward, location_forward, h.rest, h.location, Location.advance_compose]

theorem Displaced.fail {m c : Cursor} (h : m.Displaced base offset c) (code : ErrorCode)
    (message : String) : c.fail code message = (m.fail code message).displaced base offset := by
  have span : c.span = m.span.displaced offset := by
    unfold Cursor.span peek
    rw [h.rest, h.position]
    rcases m.rest with _ | ⟨ch, more⟩
    · exact (Span.displaced_ofOffsets offset m.position m.position).symm
    · exact (congrArg _ (Nat.add_right_comm ..)).trans (Span.displaced_ofOffsets ..).symm
  rw [Cursor.fail, h.location, span]
  rfl

end Cursor

/-! ### Answers -/

/-- The answer with another error in place of the one that it reports. -/
def Answer.mapError (f : LexicalError → LexicalError) : Answer → Answer
  | next reply => next (reply.mapError f)
  | peek reply => peek (reply.mapError f)
  | atEnd reply => atEnd (reply.mapError f)
  | iterate item => iterate (item.map (Except.mapError f))

/-- The result with another error in place of the one that it reports. -/
def Lexer.Result.mapError (f : LexicalError → LexicalError) : Result → Result
  | answer a => answer (a.mapError f)
  | tokens collected => tokens (collected.mapError f)

namespace Translation

/-- The translation that leaves tokens as they are. -/
def ofErrors (f : LexicalError → LexicalError) : Translation := ⟨id, f⟩

theorem reply_ofErrors (f : LexicalError → LexicalError) (r : Reply) :
    (ofErrors f).reply r = r.mapError f := by
  rcases r with e | _ | t <;> rfl

theorem answer_ofErrors (f : LexicalError → LexicalError) (a : Answer) :
    (ofErrors f).answer a = a.mapError f := by
  rcases a with (e | _ | t) | (e | _ | t) | (e | b) | (_ | e | t) <;> rfl

theorem result_ofErrors (f : LexicalError → LexicalError) :
    (ofErrors f).result = Lexer.Result.mapError f := by
  funext r
  rcases r with a | e | ts
  · exact congrArg Lexer.Result.answer (answer_ofErrors f a)
  · rfl
  · show Lexer.Result.tokens (.ok (ts.map id)) = _
    rw [List.map_id]
    rfl

end Translation

/-! ### Lexers -/

namespace Lexer

/-- The lexer `l` has the same text ahead as `m` and is in the same state, but is
further on by a place. -/
structure Displaced (base : Location) (offset : Nat) (m l : Lexer) : Prop where
  dialect : l.dialect = m.dialect
  cursor : m.cursor.Displaced base offset l.cursor
  lookahead : l.lookahead = m.lookahead
  failed : l.failed = m.failed

/-- **Scans find the same**, and stop at the same character. -/
theorem displaced_scanFrom (d : Dialect) {c c' : Cursor} (h : c.Displaced base offset c')
    (log log' : List Event) :
    (scanFrom d log' c').reply =
        (scanFrom d log c).reply.mapError (LexicalError.displaced base offset) ∧
      (scanFrom d log c).cursor.Displaced base offset (scanFrom d log' c').cursor := by
  -- What a scan passes and finds depends on the text ahead, so one will do for both.
  obtain ⟨passed, after, found, rest_eq, scans⟩ := exists_scans d c
  have there := scansTo_scanFrom scans log rest_eq
  have here := scansTo_scanFrom scans log' (h.rest.trans rest_eq)
  have moved := h.forward passed.length
  rw [← there.cursor, ← here.cursor] at moved
  refine ⟨?_, moved⟩
  rw [there.reply, here.reply]
  cases found with
  | ok t => rfl
  | error f => exact congrArg Except.error (moved.fail f.code f.message)

/-- Lexers whose cursors differ by a place correspond: the tokens are the same, and the
places in the errors are moved. -/
def displacement (d : Dialect) (base : Location) (offset : Nat) : Correspondence d d where
  cursors := Cursor.Displaced base offset
  translation := .ofErrors (LexicalError.displaced base offset)
  scan h log log' := by
    rw [Translation.reply_ofErrors]
    exact displaced_scanFrom d h log log'

namespace Displaced

variable {m l : Lexer}

theorem holds (h : Displaced base offset m l) : (displacement m.dialect base offset).Holds m l where
  source := rfl
  target := h.dialect
  cursor := h.cursor
  lookahead := h.lookahead.trans (congrFun Option.map_id _).symm
  failed := h.failed

theorem of_holds {d : Dialect} (h : (displacement d base offset).Holds m l) :
    Displaced base offset m l where
  dialect := h.target.trans h.source.symm
  cursor := h.cursor
  lookahead := h.lookahead.trans (congrFun Option.map_id _)
  failed := h.failed

/-- **Requests are answered alike.** -/
theorem ask (h : Displaced base offset m l) (r : Request) :
    (l.ask r).1 = (m.ask r).1.mapError (LexicalError.displaced base offset) ∧
      Displaced base offset (m.ask r).2 (l.ask r).2 := by
  obtain ⟨answer, holds⟩ := h.holds.ask r
  exact ⟨answer.trans (Translation.answer_ofErrors ..), of_holds holds⟩

/-- **Sessions have the same results**, and end at the same character. -/
theorem run (h : Displaced base offset m l) (ops : List Operation) :
    (Session.run Lexer.perform ops l).1 = (Session.run Lexer.perform ops m).1.map
        (Result.mapError (LexicalError.displaced base offset)) ∧
      Displaced base offset (Session.run Lexer.perform ops m).2
        (Session.run Lexer.perform ops l).2 := by
  obtain ⟨results, holds⟩ := h.holds.run ops
  exact ⟨results.trans (congrArg (List.map · _) (Translation.result_ofErrors _)), of_holds holds⟩

end Displaced

end Lexer

end Lexis
