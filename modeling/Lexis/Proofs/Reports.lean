import Lexis.Proofs.Places
import Lexis.Proofs.Rows
import Lexis.Proofs.Yields

/-!
# Reports of lexical errors

A report can be refused, or it can be cut down to its heading; which of it happens is
decided by where the offsets of a diagnostic lie.  **Neither happens to the report of a
lexical error.**  The error lies between two characters of a text that is not empty, and
is as wide as the next character; so it has a mark (`Marks`), and the report has all its
rows (`Report.rows`).

**A report gives the place twice**: in the row with the name of the source, in lines and
columns as reports count them and from one, and in the note, as the lexer counts and from
zero.  Where line feeds end the lines, with or without a carriage return, the two are the
same place (`Report.position_eq_location`).  What else ends a line in a report is to the
lexer a character like any other; and behind a line feed at the very end of a source a
report sees no further line.
-/

namespace Lexis

/-! ### Marks -/

theorem Span.isEmpty_iff (s : Span) : s.isEmpty = true ↔ s.start.toNat = s.stop.toNat := by
  rw [isEmpty, decide_eq_true_iff]
  constructor
  · intro same
    rw [same]
  · intro same
    obtain ⟨⟨start⟩, ⟨stop⟩⟩ := s
    exact congrArg BytePos.mk (UInt32.toNat_inj.mp same)

/-- The mark of an error at a place in a line: it covers the next character, if there is
one. -/
def Report.Mark.ofSpot (before : List (List Char)) (front back : List Char) : Mark where
  number := before.length + 1
  text := trimEnd (front ++ back)
  start := front.length
  stop := front.length + (back.take 1).length

/-- `Marks source e m`: the error lies at a place in a line of the source and is as wide as
the next character, and the mark is there. -/
inductive Marks (source : String) (e : LexicalError) : Report.Mark → Prop
  | spot {passed after front back : List Char} {before more : List (List Char)}
      (whole : source.toList = passed ++ after) (spot : Spot passed after before front back more)
      (range : e.span.range = (byteCount passed, byteCount (passed ++ after.take 1)))
      (location : e.location = Location.start.advance passed) :
      Marks source e (.ofSpot before front back)

namespace Report

variable {passed after front back : List Char} {before more : List (List Char)}
  {source : String}

/-- **A label at a place is marked there.** -/
theorem Mark.find_eq (spot : Spot passed after before front back more)
    (whole : source.toList = passed ++ after) {s : Span}
    (range : s.range = (byteCount passed, byteCount (passed ++ after.take 1))) :
    Mark.find source s = .ok (some (.ofSpot before front back)) := by
  obtain ⟨start, stop⟩ := Prod.mk.inj range
  rw [← spot.take_one_eq] at stop
  have first := Place.column?_eq before.length front back
  rw [Mark.find, start, spot.of?_eq whole]
  dsimp only
  rw [first]
  cases back with
  | nil =>
    have empty : s.isEmpty = true := by
      rw [Span.isEmpty_iff, start, stop, List.take_nil, List.append_nil]
    rw [empty]
    rfl
  | cons c later =>
    have filled : s.isEmpty = false := by
      have wide := c.utf8Size_pos
      have stop_eq : s.stop.toNat = byteCount passed + c.utf8Size := by simpa using stop
      rw [Bool.eq_false_iff, Ne, Span.isEmpty_iff, start, stop_eq]
      omega
    have last : Place.of? source (s.stop.toNat - 1) =
        some ⟨before.length, front ++ c :: later, byteCount (front ++ [c]) - 1⟩ := by
      rw [stop]
      exact spot.of?_lastByte whole
    -- The label ends in the line in which it starts, so it is not cut.
    rw [filled, last]
    dsimp only
    rw [Place.columnAfter?_eq]
    exact congrArg (fun stop => Except.ok (some (Mark.mk _ _ _ stop))) (if_pos rfl)

theorem position_eq (spot : Spot passed after before front back more)
    (whole : source.toList = passed ++ after) :
    position source (byteCount passed) = .ok s!"{before.length + 1}:{front.length + 1}" := by
  rw [position, spot.of?_eq whole]
  simp [Place.column?_eq]

/-! ### Complete reports -/

/-- **An error with a mark is drawn.** -/
theorem draw_eq {e : LexicalError} {m : Mark} (marks : Marks source e m) (name : String) :
    draw name source (.ofError e) = .ok (heading (.ofError e) ++
      body (name ++ ":" ++ s!"{m.number}:{m.start + 1}") (.ofError e)
        ⟨e.span, e.code.description⟩ m) := by
  cases marks with
  | @spot passed after front back before more whole spot range location =>
    have found := Mark.find_eq spot whole range
    obtain ⟨start, stop⟩ := Prod.mk.inj range
    have ordered : ¬ e.span.stop.toNat < e.span.start.toNat := by
      rw [start, stop, byteCount_append]
      omega
    have place := position_eq spot whole
    rw [← start] at place
    show (if e.span.stop.toNat < e.span.start.toNat then _ else _) = _
    rw [if_neg ordered, found]
    show (position source e.span.start.toNat >>= _) = _
    rw [place]
    rfl

/-- A lexical error is about one character, or about none. -/
theorem narrow_of_marks {e : LexicalError} {m : Mark} (marks : Marks source e m) : m.Narrow := by
  cases marks with
  | @spot passed after front back before more =>
    cases back with
    | nil => exact Or.inl rfl
    | cons c later => exact Or.inr rfl

theorem plain_eq {e : LexicalError} {m : Mark} (marks : Marks source e m) (name : String) :
    plain name source (.ofError e) = .ok (unlines (rows name e m)) := by
  have narrow := narrow_of_marks marks
  rw [plain, draw_eq marks, rows, unlines_cons, ← inked_heading, ← inked_body _ _ _ narrow,
    ← inked_append]
  rfl

theorem exists_coloured {e : LexicalError} {m : Mark} (marks : Marks source e m) (name : String) :
    ∃ report, coloured name source (.ofError e) = .ok report := by
  rw [coloured, draw_eq marks]
  exact ⟨_, rfl⟩

end Report

/-- A fault is never in an empty text. -/
theorem Breaks.ne_nil {d : Dialect} {passed after : List Char} {ts : List Token} {f : Fault}
    (h : Breaks d passed after ts f) : passed ++ after ≠ [] := by
  cases h with
  | behind yields isGap isFault => cases isFault <;> simp

variable {d : Dialect} {source : String} {e : LexicalError}

/-- **Every lexical error has a mark.** -/
theorem exists_marks (small : source.utf8ByteSize < UInt32.size)
    (fails : tokenize d source = .error e) : ∃ m, Marks source e m := by
  obtain ⟨passed, after, ts, f, whole, breaks, rfl⟩ := tokenize_eq_error_iff_breaks.mp fails
  obtain ⟨before, front, back, more, spot⟩ := exists_spot breaks.ne_nil
  rw [← byteCount_toList, whole] at small
  exact ⟨_, .spot whole spot (f.range_report small) rfl⟩

/-- **The report of a lexical error is drawn, and it is complete**, whatever the name of the
source. -/
theorem Report.plain_complete (small : source.utf8ByteSize < UInt32.size)
    (fails : tokenize d source = .error e) (name : String) :
    ∃ m, Marks source e m ∧ plain name source (.ofError e) = .ok (unlines (rows name e m)) := by
  obtain ⟨m, marks⟩ := exists_marks small fails
  exact ⟨m, marks, plain_eq marks name⟩

/-- A literal that is not closed, at the end of a source and behind another line. -/
theorem Report.plain_complete_openLiteral :
    let e : LexicalError :=
      ⟨.unterminatedString, "Unterminated string literal", ⟨1, 2⟩, .point 5⟩
    ∃ m, Marks "1\n'é" e m ∧
      plain "a b.em" "1\n'é" (.ofError e) = .ok (unlines (rows "a b.em" e m)) := by
  have small : ("1\n'é" : String).utf8ByteSize < UInt32.size := by decide
  have fails : tokenize { Dialect.standard with strictStrings := true } "1\n'é" =
      .error ⟨.unterminatedString, "Unterminated string literal", ⟨1, 2⟩, .point 5⟩ := by
    decide +kernel
  exact plain_complete small fails "a b.em"

/-! ### Two ways of counting -/

/-- In front of the byte at an offset, all that ends a line is line feeds, with a carriage
return or not. -/
def FeedsBefore (source : String) (offset : Nat) : Prop :=
  ∀ i < source.length, byteCount (source.toList.take i) < offset →
    source.toList[i]? ∉ ['\x0b', '\x0c', '\u0085', '\u2028', '\u2029'].map some ∧
    (source.toList[i]? = some '\r' → source.toList[i + 1]? = some '\n')

instance (source : String) (offset : Nat) : Decidable (FeedsBefore source offset) :=
  inferInstanceAs (Decidable (∀ i < source.length, _))

theorem FeedsBefore.feedsOnly {passed after : List Char}
    (h : FeedsBefore source (byteCount passed)) (whole : source.toList = passed ++ after) :
    FeedsOnly passed after := by
  rintro front c back rfl ends
  have whole' : source.toList = front ++ c :: (back ++ after) := by simp [whole]
  have inside : front.length < source.length := by
    rw [← String.length_toList, whole']
    simp
  have passes : byteCount (source.toList.take front.length) < byteCount (front ++ c :: back) := by
    have wide := c.utf8Size_pos
    simp [whole']
    omega
  obtain ⟨noOther, pair⟩ := h front.length inside passes
  have here : source.toList[front.length]? = some c := by simp [whole']
  have next : source.toList[front.length + 1]? = (back ++ after).head? := by
    rw [whole', List.getElem?_append_right (by omega), List.head?_eq_getElem?]
    simp
  rw [here] at noOther pair
  rw [next] at pair
  simp only [List.map_cons, List.map_nil, List.mem_cons, Option.some.injEq, List.not_mem_nil,
    or_false, not_or] at noOther
  have feed_or_return : c = '\n' ∨ c = '\r' := by simpa [endsLine, noOther] using ends
  rcases feed_or_return with rfl | rfl
  · exact Or.inl rfl
  · exact Or.inr ⟨rfl, pair rfl⟩

/-- The place where an error is, counted in lines of a report, is its location. -/
theorem Marks.eq_location {m : Report.Mark} (h : Marks source e m)
    (feeds : FeedsBefore source e.span.start.toNat)
    (noFeed : ¬ (e.span.start.toNat = source.utf8ByteSize ∧ source.toList.getLast? = some '\n')) :
    m.number = e.location.line + 1 ∧ m.start = e.location.column := by
  cases h with
  | @spot passed after front back before more whole spot range location =>
    obtain ⟨start, -⟩ := Prod.mk.inj range
    rw [start] at feeds noFeed
    have notLast : after = [] → passed.getLast? ≠ some '\n' := by
      rintro rfl feed
      rw [List.append_nil] at whole
      refine noFeed ⟨?_, whole ▸ feed⟩
      rw [← whole, byteCount_toList]
    rw [location, spot.advance_start (feeds.feedsOnly whole) notLast]
    exact ⟨rfl, rfl⟩

/-- **The report gives one place in two ways**: from one in the row with the name of the
source, and from zero in the note. -/
theorem Report.position_eq_location (small : source.utf8ByteSize < UInt32.size)
    (fails : tokenize d source = .error e) (feeds : FeedsBefore source e.span.start.toNat)
    (noFeed : ¬ (e.span.start.toNat = source.utf8ByteSize ∧ source.toList.getLast? = some '\n'))
    (name : String) :
    ∃ m, plain name source (.ofError e) = .ok (unlines (rows name e m)) ∧
      (rows name e m)[1]? =
        some (m.positionRow name s!"{e.location.line + 1}:{e.location.column + 1}") ∧
      m.remarkRow "Note" (Mark.note s!"{e.location.line}:{e.location.column}") ∈ rows name e m := by
  obtain ⟨m, marks⟩ := exists_marks small fails
  obtain ⟨number, start⟩ := marks.eq_location feeds noFeed
  refine ⟨m, plain_eq marks name, ?_, ?_⟩
  · rw [← number, ← start]
    rfl
  · simp [rows, rowsBelow, Mark.remarks]

/-- A stray character behind a string that is more bytes than characters, the two characters
of a line end and a tab. -/
theorem Report.position_eq_location_strayCharacter :
    let e : LexicalError := ⟨.unexpectedCharacter,
      "Error while reading character: ?, don't know how to process", ⟨1, 1⟩, .ofOffsets 7 8⟩
    ∃ m, plain "main.em" "'é'\r\n\t?" (.ofError e) = .ok (unlines (rows "main.em" e m)) ∧
      (rows "main.em" e m)[1]? = some (m.positionRow "main.em" "2:2") ∧
      m.remarkRow "Note" (Mark.note "1:1") ∈ rows "main.em" e m := by
  have small : ("'é'\r\n\t?" : String).utf8ByteSize < UInt32.size := by decide
  have fails : tokenize .standard "'é'\r\n\t?" = .error ⟨.unexpectedCharacter,
      "Error while reading character: ?, don't know how to process", ⟨1, 1⟩, .ofOffsets 7 8⟩ := by
    decide +kernel
  have feeds : FeedsBefore "'é'\r\n\t?" (Span.ofOffsets 7 8).start.toNat := by decide +kernel
  have noFeed : ¬ ((Span.ofOffsets 7 8).start.toNat = ("'é'\r\n\t?" : String).utf8ByteSize ∧
      "'é'\r\n\t?".toList.getLast? = some '\n') := by
    decide +kernel
  exact position_eq_location small fails feeds noFeed "main.em"

end Lexis
