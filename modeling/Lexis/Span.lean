/-!
# Spans

A span is a range of bytes of a source text.  **Offsets are 32-bit words**: an
offset into a text of four gigabytes or more keeps its low 32 bits only, so a
`BytePos` determines the offset it came from exactly when the text is shorter
than that.  Nothing forces the end of a span to follow its start.
-/

namespace Lexis

/-- A byte offset, held in 32 bits. -/
structure BytePos where
  word : UInt32
deriving DecidableEq, Inhabited

namespace BytePos

/-- The word of an offset: its low 32 bits. -/
def ofNat (offset : Nat) : BytePos := ⟨UInt32.ofNat offset⟩

/-- The offset that a word stands for. -/
def toNat (p : BytePos) : Nat := p.word.toNat

/-- Offsets below `2 ^ 32`, the number of words, survive. -/
theorem toNat_ofNat (offset : Nat) : (ofNat offset).toNat = offset % UInt32.size := by
  simp [ofNat, toNat]

instance : Ord BytePos := ⟨fun a b => compare a.toNat b.toNat⟩

/-- The name and the offset: `BytePos(5)`. -/
def record (p : BytePos) : String := s!"BytePos({p.toNat})"

end BytePos

/-- The bytes from `start` up to `stop`, the latter excluded. -/
structure Span where
  start : BytePos
  stop : BytePos
deriving DecidableEq, Inhabited

namespace Span

/-- The span of the bytes between two offsets. -/
def ofOffsets (start stop : Nat) : Span := ⟨.ofNat start, .ofNat stop⟩

/-- The empty span at an offset. -/
def point (offset : Nat) : Span := ofOffsets offset offset

/-- A span is empty if it ends where it starts. -/
def isEmpty (s : Span) : Bool := s.start = s.stop

/-- The two offsets of a span. -/
def range (s : Span) : Nat × Nat := (s.start.toNat, s.stop.toNat)

/-- Offsets into a text that is not too long survive. -/
theorem range_ofOffsets {start stop : Nat} (small : stop < UInt32.size)
    (ordered : start ≤ stop) : (ofOffsets start stop).range = (start, stop) := by
  rw [range, ofOffsets, BytePos.toNat_ofNat, BytePos.toNat_ofNat, Nat.mod_eq_of_lt small,
    Nat.mod_eq_of_lt (Nat.lt_of_le_of_lt ordered small)]

@[simp] theorem isEmpty_point (offset : Nat) : (point offset).isEmpty = true := by
  simp [point, ofOffsets, isEmpty]

/-- A span is written `start..stop`. -/
instance : ToString Span := ⟨fun s => s!"{s.start.toNat}..{s.stop.toNat}"⟩

end Span

end Lexis
