import Lexis.Proofs.Position
import Mathlib.Data.Nat.ModEq

/-!
# Offsets of errors

The position of a cursor is a number of any size, but the span of an error keeps the low
32 bits of its two ends.  Nothing checks that they suffice, so the span of an error is the
character that the cursor stands before only in the first four gigabytes of a text
(`Cursor.span_fail`):

* **Both ends wrap around**, each on its own.  Before the boundary they are true, and
  behind it they are those of another character, or of none.
* **Across the boundary** the end comes before the start.  A character of several bytes
  can lie so (`Cursor.span_straddles`).
* **Emptiness survives.**  A character has four bytes at most, so its span is empty only
  at the end of the text.
-/

namespace Lexis

/-! ### Spans of some width -/

/-- **An offset survives** exactly if it is below the number of words. -/
theorem BytePos.toNat_ofNat_eq_iff {offset : Nat} :
    (ofNat offset).toNat = offset ↔ offset < UInt32.size := by
  rw [toNat_ofNat]
  exact Nat.mod_eq_iff_lt (by decide)

namespace Span

theorem range_ofOffsets_eq_mod (start stop : Nat) :
    (ofOffsets start stop).range = (start % UInt32.size, stop % UInt32.size) := by
  rw [range, ofOffsets, BytePos.toNat_ofNat, BytePos.toNat_ofNat]

/-- Of two offsets in order the later one decides whether both survive. -/
theorem range_ofOffsets_eq_iff {start stop : Nat} (ordered : start ≤ stop) :
    (ofOffsets start stop).range = (start, stop) ↔ stop < UInt32.size := by
  constructor
  · intro same
    exact BytePos.toNat_ofNat_eq_iff.mp (congrArg Prod.snd same)
  · intro small
    exact range_ofOffsets small ordered

variable {start width : Nat}

/-- The ends are in order unless the boundary lies between them. -/
theorem start_le_stop_iff (narrow : width < UInt32.size) :
    (ofOffsets start (start + width)).start.toNat ≤ (ofOffsets start (start + width)).stop.toNat ↔
      start % UInt32.size + width < UInt32.size := by
  have below : start % UInt32.size < UInt32.size := Nat.mod_lt _ (by decide)
  rw [ofOffsets, BytePos.toNat_ofNat, BytePos.toNat_ofNat, Nat.add_mod, Nat.mod_eq_of_lt narrow]
  rcases Nat.lt_or_ge (start % UInt32.size + width) UInt32.size with inside | across
  · rw [Nat.mod_eq_of_lt inside]
    exact iff_of_true (Nat.le_add_right _ _) inside
  · have wrapped : start % UInt32.size + width - UInt32.size < UInt32.size := by omega
    rw [Nat.mod_eq_sub_mod across, Nat.mod_eq_of_lt wrapped]
    omega

/-- Wrapping around makes no span empty that is not too wide. -/
theorem isEmpty_ofOffsets_iff (narrow : width < UInt32.size) :
    (ofOffsets start (start + width)).isEmpty = true ↔ width = 0 := by
  constructor
  · intro empty
    have same : (ofOffsets start (start + width)).start = (ofOffsets start (start + width)).stop :=
      of_decide_eq_true empty
    have offsets := congrArg BytePos.toNat same
    rw [ofOffsets, BytePos.toNat_ofNat, BytePos.toNat_ofNat] at offsets
    have modulo : start + width ≡ start + 0 [MOD UInt32.size] := offsets.symm
    have widths := Nat.ModEq.add_left_cancel' start modulo
    rwa [Nat.ModEq, Nat.mod_eq_of_lt narrow] at widths
  · rintro rfl
    exact isEmpty_point start

end Span

namespace Cursor

/-! ### The next character -/

/-- The number of bytes of the next character, none at the end of the text. -/
def width (c : Cursor) : Nat := byteCount (c.rest.take 1)

/-- **The span of the next character** is as wide as that character. -/
theorem span_eq (c : Cursor) : c.span = .ofOffsets c.position (c.position + c.width) := by
  rw [span, peek, width]
  cases c.rest with
  | nil => simp [Span.point]
  | cons ch rest => simp

theorem width_lt (c : Cursor) : c.width < UInt32.size := by
  rw [width]
  cases c.rest with
  | nil => decide
  | cons ch rest =>
    have bytes : ch.utf8Size ≤ 4 := ch.utf8Size_le_four
    have four : 4 < UInt32.size := by decide
    simp only [List.take_succ_cons, List.take_zero, byteCount_cons, byteCount_nil]
    omega

theorem width_eq_zero_iff {c : Cursor} : c.width = 0 ↔ c.atEnd = true := by
  rw [width, atEnd, peek]
  cases c.rest with
  | nil => simp
  | cons ch rest => simp [Char.utf8Size_pos ch |>.ne']

theorem Follows.position_add_width_le {passed : List Char} {c : Cursor} (h : c.Follows passed) :
    c.position + c.width ≤ c.source.utf8ByteSize := by
  have next := h.forward 1
  have bounded := next.accounts.bounded
  rwa [source_forward, position_forward] at bounded

/-! ### Reaching a place -/

theorem run_advance (n : Nat) (c : Cursor) :
    (Session.run perform (List.replicate n .advance) c).2 = c.forward n := by
  induction n generalizing c with
  | zero => rfl
  | succ n ih =>
    rw [List.replicate_succ, Session.run_cons]
    exact ih c.next

/-- **Every place of a text is reached** by reading one character after another. -/
theorem session_advance {text : String} {passed after : List Char}
    (split : text.toList = passed ++ after) :
    (session text (List.replicate passed.length .advance)).2.Follows passed ∧
      (session text (List.replicate passed.length .advance)).2.rest = after := by
  rw [session, run_advance]
  constructor
  · exact (follows_ofText text).pass split
  · rw [rest_forward, ofText, split, List.drop_left]

/-- **The span of an error is true in the first four gigabytes of a text.**  Let a session
with a text be followed by an error.

* The cursor stands behind some part of the text, and its width is that of the first
  character of what is left.
* Both ends of the span are the true offsets, without their multiples of 2^32.  They are
  the true offsets exactly if the character ends below 2^32, and they are in order exactly
  if it does not reach from one multiple to the next.
* The span is empty exactly at the end of the text.

So all spans are true exactly if the text is shorter than 2^32 bytes.
-/
theorem span_fail (text : String) :
    (∀ ops code message,
      let c := (session text ops).2
      let span := (c.fail code message).span
      (∃ passed after, text.toList = passed ++ after ∧ c.peek = after.head? ∧
        c.position = byteCount passed ∧ c.width = byteCount (after.take 1)) ∧
      span.range = (c.position % UInt32.size, (c.position + c.width) % UInt32.size) ∧
      (span.range = (c.position, c.position + c.width) ↔
        c.position + c.width < UInt32.size) ∧
      (span.start.toNat ≤ span.stop.toNat ↔
        c.position % UInt32.size + c.width < UInt32.size) ∧
      (span.isEmpty = true ↔ c.atEnd = true)) ∧
    ((∀ ops code message,
        let c := (session text ops).2
        (c.fail code message).span.range = (c.position, c.position + c.width)) ↔
      text.utf8ByteSize < UInt32.size) := by
  have ordered (c : Cursor) : c.position ≤ c.position + c.width := Nat.le_add_right _ _
  refine ⟨?_, ?_, ?_⟩
  · intro ops code message c span
    obtain ⟨follows, source⟩ := follows_session text ops
    have wide : span = .ofOffsets c.position (c.position + c.width) := c.span_eq
    rw [wide]
    refine ⟨⟨_, c.rest, ?_, rfl, follows.position, rfl⟩, ?_, ?_, ?_, ?_⟩
    · rw [← follows.text, source]
    · exact Span.range_ofOffsets_eq_mod _ _
    · exact Span.range_ofOffsets_eq_iff (ordered c)
    · exact Span.start_le_stop_iff c.width_lt
    · rw [Span.isEmpty_ofOffsets_iff c.width_lt, width_eq_zero_iff]
  · -- The end of the text is reached, too, and its position is the size of the text.
    intro allTrue
    obtain ⟨follows, ended⟩ := session_advance (List.append_nil text.toList).symm
    have range := allTrue (List.replicate text.toList.length .advance) .unexpectedDot ""
    have position := follows.position
    rw [byteCount_toList] at position
    rw [← position]
    refine Nat.lt_of_le_of_lt (ordered _) ((Span.range_ofOffsets_eq_iff (ordered _)).mp ?_)
    rwa [← span_eq]
  · intro short ops code message c
    obtain ⟨follows, source⟩ := follows_session text ops
    have bounded : c.position + c.width ≤ c.source.utf8ByteSize := follows.position_add_width_le
    rw [source] at bounded
    have wide : (c.fail code message).span = .ofOffsets c.position (c.position + c.width) :=
      c.span_eq
    rw [wide]
    exact Span.range_ofOffsets (Nat.lt_of_le_of_lt bounded short) (ordered c)

theorem byteCount_replicate (n : Nat) (ch : Char) :
    byteCount (List.replicate n ch) = n * ch.utf8Size := by
  induction n with
  | zero => simp
  | succ n ih => rw [List.replicate_succ, byteCount_cons, ih, Nat.succ_mul, Nat.add_comm]

/-- An error about the character behind `n` letters. -/
theorem fail_behind_letters (n : Nat) (ch : Char) :
    let text := String.ofList (List.replicate n 'a' ++ [ch])
    let c := (session text (List.replicate n .advance)).2
    let span := (c.fail .unexpectedDot "").span
    c.position = n ∧ c.peek = some ch ∧ c.width = ch.utf8Size ∧
      span.range = (n % UInt32.size, (n + ch.utf8Size) % UInt32.size) := by
  intro text c span
  have split : text.toList = List.replicate n 'a' ++ [ch] := String.toList_ofList
  obtain ⟨follows, rest⟩ := session_advance split
  rw [List.length_replicate] at follows rest
  have position : c.position = n := by
    rw [follows.position, byteCount_replicate]
    exact Nat.mul_one n
  have width : c.width = ch.utf8Size := by
    rw [Cursor.width, rest, List.take_one, List.head?_singleton]
    exact byteCount_cons ch []
  refine ⟨position, ?_, width, ?_⟩
  · rw [peek, rest, List.head?_singleton]
  · have wide : span = .ofOffsets c.position (c.position + c.width) := c.span_eq
    rw [wide, Span.range_ofOffsets_eq_mod, position, width]

/-- **A character that straddles the boundary** has a span that ends before it starts.  In
front of this one there are 2^32 - 1 bytes, and it has two. -/
theorem span_straddles :
    let n := UInt32.size - 1
    let text := String.ofList (List.replicate n 'a' ++ ['é'])
    let c := (session text (List.replicate n .advance)).2
    let span := (c.fail .unexpectedDot "").span
    c.position = n ∧ c.peek = some 'é' ∧ c.width = 2 ∧ span.range = (4294967295, 1) :=
  fail_behind_letters (UInt32.size - 1) 'é'

end Cursor

end Lexis
