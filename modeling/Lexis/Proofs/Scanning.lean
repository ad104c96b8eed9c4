import Lexis.Lexer
import Lexis.Proofs.Pieces
import Lexis.Proofs.Walk

/-!
# Scans and the grammar

A scan skips a gap and stops behind a lexeme, at a fault or at the end of the
text.  `Scans d passed after found` says so in terms of the grammar: the scan
passes `passed`, leaves `after`, and finds `found`.

* **Scanning does what the grammar says** (`scanFrom_scansTo`): it moves the
  cursor over the text passed and replies with what is found there.  An error
  is made where the cursor has stopped.
* **The grammar allows one scan** of each text (`Scans.unique`), so it also says
  what scanning does (`scansTo_scanFrom`).

From here on a scan is a statement about texts; the cursor only follows it.
-/

namespace Lexis

/-- A scan of `passed ++ after` passes `passed` and finds `found`. -/
inductive Scans (d : Dialect) : List Char → List Char → Found → Prop
  | behind {gap text after : List Char} {found : Found} (isGap : Gap d gap (text ++ after))
      (finds : Finds d text after found) : Scans d (gap ++ text) after found

namespace Scans

variable {d : Dialect}

/-- What may stand in front of any gap may stand in front of a scan. -/
theorem prepend {front passed after : List Char} {found : Found} (h : Scans d passed after found)
    (lengthens : ∀ gap more, gap ++ more = passed ++ after → Gap d gap more →
      Gap d (front ++ gap) more) : Scans d (front ++ passed) after found := by
  cases h with
  | behind isGap finds =>
    rw [← List.append_assoc]
    exact .behind (lengthens _ _ (List.append_assoc ..).symm isGap) finds

/-- **A text is scanned in one way.** -/
theorem unique {passed passed' after after' : List Char} {found found' : Found}
    (h : Scans d passed after found) (h' : Scans d passed' after' found')
    (same : passed ++ after = passed' ++ after') :
    passed = passed' ∧ after = after' ∧ found = found' := by
  cases h with
  | behind isGap finds =>
    cases h' with
    | behind isGap' finds' =>
      rw [List.append_assoc, List.append_assoc] at same
      obtain ⟨rfl, behindGap⟩ := isGap.unique isGap' finds.noGap finds'.noGap same
      obtain ⟨rfl, rfl, rfl⟩ := finds.unique finds' behindGap
      exact ⟨rfl, rfl, rfl⟩

end Scans

/-! ### Scanning -/

namespace Lexer

/-- The reply to what a scan has found, an error being about the place where the
cursor has stopped. -/
def replyAt (c : Cursor) : Found → Reply
  | .ok t => .ok t
  | .error f => .error (c.fail f.code f.message)

/-- The scan of the text in front of a cursor passes `passed` and finds
`found`. -/
structure ScansTo (d : Dialect) (c : Cursor) (passed : List Char) (found : Found) (s : Scan) :
    Prop where
  scans : ∃ after, c.rest = passed ++ after ∧ Scans d passed after found
  cursor : s.cursor = c.forward passed.length
  reply : s.reply = replyAt s.cursor found

theorem rest_forward_of_split {c : Cursor} {passed after : List Char}
    (split : c.rest = passed ++ after) : (c.forward passed.length).rest = after := by
  rw [Cursor.rest_forward, split, List.drop_left]

theorem ScansTo.skip {d : Dialect} {c : Cursor} {p : Piece} {passed : List Char} {found : Found}
    {s : Scan} (h : ScansTo d (c.forward p.text.length) passed found s)
    (lengthens : Piece.Lengthens d p c.rest) : ScansTo d c (p.text ++ passed) found s := by
  obtain ⟨tail, split, lengthens⟩ := lengthens
  obtain ⟨after, rest_eq, scans⟩ := h.scans
  rw [rest_forward_of_split split] at rest_eq
  subst rest_eq
  refine ⟨⟨after, by rw [split, List.append_assoc], scans.prepend lengthens⟩, ?_, h.reply⟩
  rw [h.cursor, Cursor.forward_forward, List.length_append]

/-- A scan that stops behind the first piece of the text. -/
theorem ScansTo.stop {d : Dialect} {c : Cursor} {ch : Char} {rest : List Char} {s : Scan}
    (more : c.rest = ch :: rest) (kept : (Piece.first d ch rest).reading.found ≠ .ok none)
    (cursor : s.cursor = c.forward (Piece.first d ch rest).text.length)
    (reply : s.reply = replyAt s.cursor (Piece.first d ch rest).reading.found) :
    ScansTo d c (Piece.first d ch rest).text (Piece.first d ch rest).reading.found s := by
  obtain ⟨after, same, finds⟩ := Piece.finds_of_first kept
  exact ⟨⟨after, more.trans same, .behind .nil finds⟩, cursor, reply⟩

/-- **Scanning does what the grammar says.** -/
theorem scanFrom_scansTo (d : Dialect) (log : List Event) (c : Cursor) :
    ∃ passed found, ScansTo d c passed found (scanFrom d log c) := by
  fun_induction scanFrom d log c with
  | case1 log c ended => exact ⟨[], .ok none, ⟨[], ended, .behind .nil .ended⟩, rfl, rfl⟩
  | case2 log c ch rest more piece after reading ih
  | case3 log c ch rest more piece after reading ih =>
    obtain ⟨passed, found, scansTo⟩ := ih
    have lengthens : Piece.Lengthens d piece (ch :: rest) :=
      Piece.lengthens_of_first (by rw [reading]; rfl)
    exact ⟨_, found, scansTo.skip (more ▸ lengthens)⟩
  | case4 log c ch rest more piece after t reading
  | case5 log c ch rest more piece after f reading e =>
    refine ⟨_, _, ScansTo.stop more (by rw [reading]; simp [Reading.found]) rfl ?_⟩
    rw [reading]
    rfl

theorem exists_scans (d : Dialect) (c : Cursor) :
    ∃ passed after found, c.rest = passed ++ after ∧ Scans d passed after found := by
  obtain ⟨passed, found, scansTo⟩ := scanFrom_scansTo d [] c
  obtain ⟨after, rest_eq, scans⟩ := scansTo.scans
  exact ⟨passed, after, found, rest_eq, scans⟩

/-- **The grammar says what scanning does.** -/
theorem scansTo_scanFrom {d : Dialect} {passed after : List Char} {found : Found}
    (scans : Scans d passed after found) (log : List Event) {c : Cursor}
    (rest_eq : c.rest = passed ++ after) : ScansTo d c passed found (scanFrom d log c) := by
  obtain ⟨passed', found', scansTo⟩ := scanFrom_scansTo d log c
  obtain ⟨after', rest_eq', scans'⟩ := scansTo.scans
  obtain ⟨rfl, rfl, rfl⟩ := scans.unique scans' (rest_eq.symm.trans rest_eq')
  exact scansTo

/-- The scan of `l` passes `passed`, stops in front of `after` and finds `found`. -/
structure Scanned (l : Lexer) (passed after : List Char) (found : Found) : Prop where
  cursor : l.scan.2.cursor = l.cursor.forward passed.length
  rest : l.scan.2.cursor.rest = after
  reply : l.scan.1 = replyAt l.scan.2.cursor found

/-- What the grammar says of the text ahead, a lexer does. -/
theorem scanned_of_scans {l : Lexer} {passed after : List Char} {found : Found}
    (rest_eq : l.cursor.rest = passed ++ after) (scans : Scans l.dialect passed after found) :
    l.Scanned passed after found := by
  have scansTo := scansTo_scanFrom scans l.log rest_eq
  refine ⟨scansTo.cursor, ?_, scansTo.reply⟩
  rw [← rest_forward_of_split rest_eq]
  exact congrArg Cursor.rest scansTo.cursor

/-- Neither the reply nor the cursor depends on the log. -/
theorem scanFrom_log (d : Dialect) (log log' : List Event) (c : Cursor) :
    (scanFrom d log c).reply = (scanFrom d log' c).reply ∧
      (scanFrom d log c).cursor = (scanFrom d log' c).cursor := by
  obtain ⟨passed, after, found, rest_eq, scans⟩ := exists_scans d c
  have here := scansTo_scanFrom scans log rest_eq
  have there := scansTo_scanFrom scans log' rest_eq
  have cursors := here.cursor.trans there.cursor.symm
  exact ⟨by rw [here.reply, there.reply, cursors], cursors⟩

end Lexer

end Lexis
