import Lexis.Cursor
import Lexis.Proofs.Session
import Lexis.Text.Lines
import Mathlib.Data.List.DropRight

/-!
# Walks

A cursor that has walked over a text is determined by the text that it has
passed: `Cursor.Follows passed c` says that `c` stands behind `passed`, and all
three of its counters are functions of `passed`.

**Every move is a `Cursor.forward`.**  Reading a character, reading a run and
scanning for a token differ in how they choose the number of characters, not in
what passing them does to the counters.  So the counters are dealt with for
`forward` alone, and what remains to be shown of the others is that they are
`forward` moves.
-/

namespace Lexis

/-! ### Bytes -/

@[simp] theorem byteCount_nil : byteCount [] = 0 := by
  simp [byteCount]

@[simp] theorem byteCount_append (a b : List Char) :
    byteCount (a ++ b) = byteCount a + byteCount b := by
  rw [byteCount, String.ofList_append, String.utf8ByteSize_append]
  rfl

@[simp] theorem byteCount_cons (c : Char) (text : List Char) :
    byteCount (c :: text) = c.utf8Size + byteCount text := by
  have single : byteCount [c] = c.utf8Size := by
    rw [byteCount, ← String.singleton_eq_ofList, String.utf8ByteSize_singleton]
  rw [← List.singleton_append, byteCount_append, single]

/-- A text that is not empty takes some bytes. -/
theorem byteCount_pos {text : List Char} (nonempty : text ≠ []) : 0 < byteCount text := by
  obtain ⟨c, rest, rfl⟩ := List.exists_cons_of_ne_nil nonempty
  have wide := c.utf8Size_pos
  rw [byteCount_cons]
  omega

@[simp] theorem byteCount_toList (s : String) : byteCount s.toList = s.utf8ByteSize := by
  rw [byteCount, String.ofList_toList]

/-! ### Lines and columns -/

/-- **Lines and columns are counts.**  From the start of a text the line is the
number of line feeds passed, and the column the number of characters after the
last of them. -/
theorem Location.advance_start (text : List Char) :
    Location.start.advance text = ⟨text.count '\n', (text.rtakeWhile (· ≠ '\n')).length⟩ := by
  -- By the last character: a line feed starts the column over.
  induction text using List.reverseRecOn with
  | nil => rfl
  | append_singleton text c ih =>
    rw [advance_append, ih, List.rtakeWhile_concat, List.count_append]
    by_cases feed : c = '\n'
    · simp [step, feed]
    · simp [step, feed]

namespace Location

/-- The location `l` of a text that starts at `base`: lines count on from there,
and columns do in the first line only. -/
def compose (base l : Location) : Location :=
  if l.line = 0 then ⟨base.line, base.column + l.column⟩ else ⟨base.line + l.line, l.column⟩

theorem compose_start (base : Location) : base.compose start = base := rfl

theorem step_compose (base l : Location) (c : Char) :
    (base.compose l).step c = base.compose (l.step c) := by
  by_cases feed : c = '\n'
  · by_cases first : l.line = 0
    · simp [compose, step, feed, first]
    · simp [compose, step, feed, first, Nat.add_assoc]
  · by_cases first : l.line = 0
    · simp [compose, step, feed, first, Nat.add_assoc]
    · simp [compose, step, feed, first]

/-- **Moving does not see where the text starts.** -/
theorem advance_compose (base l : Location) (text : List Char) :
    (base.compose l).advance text = base.compose (l.advance text) := by
  induction text generalizing l with
  | nil => rfl
  | cons c text ih => rw [advance_cons, advance_cons, step_compose, ih]

/-- A text leads to a later line, or on in the same line. -/
theorem advance_line_or_column (l : Location) (text : List Char) :
    l.line < (l.advance text).line ∨ l.advance text = ⟨l.line, l.column + text.length⟩ := by
  induction text generalizing l with
  | nil => exact Or.inr rfl
  | cons c text ih =>
    rw [advance_cons]
    by_cases feed : c = '\n'
    · have stepped : l.step c = ⟨l.line + 1, 0⟩ := by simp [step, feed]
      rw [stepped]
      refine Or.inl ?_
      rcases ih ⟨l.line + 1, 0⟩ with later | same
      · exact Nat.lt_of_succ_lt later
      · rw [same]
        exact Nat.lt_succ_self _
    · have stepped : l.step c = ⟨l.line, l.column + 1⟩ := by simp [step, feed]
      rw [stepped, List.length_cons, Nat.add_comm text.length, ← Nat.add_assoc]
      exact ih ⟨l.line, l.column + 1⟩

/-- Over a text that is not empty a location moves on. -/
theorem advance_ne {text : List Char} (moves : text ≠ []) (l : Location) :
    l.advance text ≠ l := by
  intro same
  have nonempty := List.length_pos_iff.mpr moves
  rcases advance_line_or_column l text with later | onward
  · rw [same] at later
    exact Nat.lt_irrefl _ later
  · have columns : l.column = l.column + text.length := congrArg column (same.symm.trans onward)
    omega

end Location

namespace Cursor

/-! ### Moves -/

@[simp] theorem source_next (c : Cursor) : c.next.source = c.source := by
  unfold next
  split <;> rfl

theorem position_next (c : Cursor) : c.next.position = c.position + byteCount (c.rest.take 1) := by
  unfold next
  split
  · next ended => simp [ended]
  · next more => simp [more]

theorem location_next (c : Cursor) : c.next.location = c.location.advance (c.rest.take 1) := by
  unfold next
  split
  · next ended => simp [ended]
  · next more => simp [more]

@[simp] theorem source_forward (n : Nat) (c : Cursor) : (c.forward n).source = c.source := by
  induction n generalizing c with
  | zero => rfl
  | succ n ih => rw [forward, ih, source_next]

theorem take_succ_rest (n : Nat) (c : Cursor) :
    c.rest.take (n + 1) = c.rest.take 1 ++ c.next.rest.take n := by
  rw [rest_next, Nat.add_comm, List.take_add]

theorem position_forward (n : Nat) (c : Cursor) :
    (c.forward n).position = c.position + byteCount (c.rest.take n) := by
  induction n generalizing c with
  | zero => simp [forward]
  | succ n ih =>
    rw [forward, ih, position_next, take_succ_rest n c, byteCount_append, Nat.add_assoc]

theorem location_forward (n : Nat) (c : Cursor) :
    (c.forward n).location = c.location.advance (c.rest.take n) := by
  induction n generalizing c with
  | zero => simp [forward]
  | succ n ih => rw [forward, ih, location_next, take_succ_rest n c, Location.advance_append]

theorem forward_forward (m n : Nat) (c : Cursor) :
    (c.forward m).forward n = c.forward (m + n) := by
  induction m generalizing c with
  | zero => simp [forward]
  | succ m ih => rw [forward, ih, Nat.add_right_comm, forward]

/-- No move goes back. -/
theorem position_le_forward (n : Nat) (c : Cursor) : c.position ≤ (c.forward n).position := by
  rw [position_forward]
  exact Nat.le_add_right _ _

/-- Reading a run is a move over the text read. -/
theorem readOnto_forward {σ : Type} (test : σ → Char → Bool × σ) (read : List Char) (s : σ)
    (c : Cursor) : ∃ n, (readOnto test read s c).cursor = c.forward n ∧
      (readOnto test read s c).text = read.reverse ++ c.rest.take n := by
  fun_induction readOnto test read s c with
  | case1 read s c ended => exact ⟨0, rfl, (List.append_nil _).symm⟩
  | case2 read s c ch rest more s' accepted ih =>
    obtain ⟨n, cursor, text⟩ := ih
    refine ⟨n + 1, cursor, ?_⟩
    rw [text, take_succ_rest, more, List.reverse_cons, List.append_assoc]
    rfl
  | case3 read s c ch rest more s' refused => exact ⟨0, rfl, (List.append_nil _).symm⟩

/-! ### Where a cursor stands -/

/-- The cursor stands behind the text `passed`. -/
structure Follows (passed : List Char) (c : Cursor) : Prop where
  text : c.source.toList = passed ++ c.rest
  position : c.position = byteCount passed
  location : c.location = Location.start.advance passed

theorem follows_ofText (source : String) : (ofText source).Follows [] where
  text := rfl
  position := by simp [ofText]
  location := rfl

/-- A move adds to the text passed what it takes from the text left. -/
theorem Follows.forward {passed : List Char} {c : Cursor} (h : c.Follows passed) (n : Nat) :
    (c.forward n).Follows (passed ++ c.rest.take n) where
  text := by
    rw [source_forward, rest_forward, h.text, List.append_assoc, List.take_append_drop]
  position := by rw [position_forward, h.position, byteCount_append]
  location := by rw [location_forward, h.location, Location.advance_append]

/-- A move over the start of the text left adds it to the text passed. -/
theorem Follows.pass {front passed after : List Char} {c : Cursor} (h : c.Follows front)
    (rest_eq : c.rest = passed ++ after) :
    (c.forward passed.length).Follows (front ++ passed) := by
  have moved := h.forward passed.length
  rwa [rest_eq, List.take_left] at moved

end Cursor

end Lexis
