import Lexis.Proofs.Walk
import Lexis.Text.Lines

/-!
# Places in a source

The lines of a text are told by what a line is (`Lined`): characters that end no line,
and behind them, in every line but perhaps the last, what ends it.  A line feed behind
a carriage return belongs to it.

**A place between two characters is in one line** (`Spot`), and there its byte offset is
found (`Spot.of?_eq`).  So is the last byte of the character behind it
(`Spot.of?_lastByte`).  Between the two, the columns count the characters in front of the
place.  An offset that comes from such a place is never past the end of the text, nor
inside a character.

**Two ways of counting lines agree** where lines end with line feeds, a carriage return
in front of them or not (`FeedsOnly`).  The one splits the text and looks an offset up, the
other walks over the text and counts (`Spot.advance_start`).
-/

namespace Lexis

/-! ### Lines -/

/-- With `after` behind it, the text ends a line. -/
inductive LineEnd : List Char → List Char → Prop
  | pair {after : List Char} : LineEnd ['\r', '\n'] after
  | single {c : Char} {after : List Char} (ends : endsLine c = true)
      (alone : c = '\r' → after.head? ≠ some '\n') : LineEnd [c] after

/-- The text is made up of the lines. -/
inductive Lined : List Char → List (List Char) → Prop
  | nil : Lined [] []
  | last {line : List Char} (unended : ∀ c ∈ line, endsLine c = false) : Lined line [line]
  | line {body ending after : List Char} {more : List (List Char)}
      (unended : ∀ c ∈ body, endsLine c = false) (isEnd : LineEnd ending after)
      (lined : Lined after more) : Lined (body ++ (ending ++ after)) ((body ++ ending) :: more)

theorem exists_linesOnto (done : List (List Char)) (line text : List Char)
    (unended : ∀ c ∈ line, endsLine c = false) :
    ∃ more, linesOnto done line text = done.reverse ++ more ∧
      Lined (line.reverse ++ text) more := by
  have reversed {line : List Char} (unended : ∀ c ∈ line, endsLine c = false) :
      ∀ c ∈ line.reverse, endsLine c = false := by
    intro c mem
    exact unended c (List.mem_reverse.mp mem)
  fun_induction linesOnto done line text with
  | case1 done line =>
    cases line with
    | nil => exact ⟨[], by simp, .nil⟩
    | cons c line =>
      refine ⟨[(c :: line).reverse], by simp, ?_⟩
      rw [List.append_nil]
      exact .last (reversed unended)
  | case2 done line rest ih =>
    obtain ⟨more, lines, lined⟩ := ih (by simp)
    refine ⟨('\n' :: '\r' :: line).reverse :: more, by rw [lines]; simp, ?_⟩
    rw [List.reverse_cons, List.reverse_cons, List.append_assoc]
    exact .line (reversed unended) .pair lined
  | case3 done line c rest noPair ends ih =>
    obtain ⟨more, lines, lined⟩ := ih (by simp)
    refine ⟨(c :: line).reverse :: more, by rw [lines]; simp, ?_⟩
    rw [List.reverse_cons]
    refine .line (reversed unended) (.single ends ?_) lined
    rintro rfl
    cases rest with
    | nil => simp
    | cons c' rest =>
      rintro ⟨⟩
      exact noPair rest rfl rfl
  | case4 done line c rest noPair inside ih =>
    obtain ⟨more, lines, lined⟩ :=
      ih (List.forall_mem_cons.mpr ⟨Bool.eq_false_iff.mpr inside, unended⟩)
    refine ⟨more, lines, ?_⟩
    rwa [List.reverse_cons, List.append_assoc] at lined

/-- **Splitting a text gives its lines.** -/
theorem lined_lines (text : List Char) : Lined text (lines text) := by
  obtain ⟨more, lines_eq, lined⟩ := exists_linesOnto [] [] text (by simp)
  rw [lines, lines_eq]
  exact lined

theorem Lined.exists_behind {text : List Char} {before more : List (List Char)}
    (h : Lined text (before ++ more)) : ∃ behind, Lined behind more := by
  induction before generalizing text with
  | nil => exact ⟨text, h⟩
  | cons line before ih =>
    rw [List.cons_append] at h
    generalize later : before ++ more = rest at h
    cases h with
    | last =>
      obtain ⟨-, rfl⟩ := List.append_eq_nil_iff.mp later
      exact ⟨[], .nil⟩
    | line unended isEnd lined =>
      subst later
      exact ih lined

theorem notMem_of_unended {text : List Char} (unended : ∀ c ∈ text, endsLine c = false) :
    '\n' ∉ text := by
  intro mem
  exact absurd (unended '\n' mem) (by decide)

/-- In a line a line feed is the last character. -/
theorem Lined.notMem_dropLast {text line : List Char} {more : List (List Char)}
    (h : Lined text (line :: more)) : '\n' ∉ line.dropLast := by
  cases h with
  | last unended =>
    intro mem
    exact notMem_of_unended unended (List.dropLast_subset _ mem)
  | line unended isEnd =>
    have body := notMem_of_unended unended
    cases isEnd with
    | pair | single => simp [body]

/-! ### Columns -/

theorem charCountFrom?_eq (seen : Nat) (front back : List Char) :
    charCountFrom? seen (byteCount front) (front ++ back) = some (seen + front.length) := by
  induction front generalizing seen with
  | nil =>
    rw [byteCount_nil, charCountFrom?]
    rfl
  | cons c front ih =>
    obtain ⟨size, wide⟩ := Nat.exists_eq_succ_of_ne_zero (Nat.pos_iff_ne_zero.mp c.utf8Size_pos)
    have bytes : byteCount (c :: front) = size + byteCount front + 1 := by
      rw [byteCount_cons, wide]
      omega
    have left : size + byteCount front + 1 - c.utf8Size = byteCount front := by omega
    have fits : c.utf8Size ≤ size + byteCount front + 1 := by omega
    rw [bytes, List.cons_append, charCountFrom?, if_pos fits, left, ih, List.length_cons]
    congr 1
    omega

/-- The bytes of a front of a text are as many characters as the front has. -/
theorem charCount?_eq (front back : List Char) :
    charCount? (byteCount front) (front ++ back) = some front.length := by
  rw [charCount?, charCountFrom?_eq, Nat.zero_add]

/-! ### Finding places -/

/-- An offset is found in the line that it is in; the end of the text counts for the last
line. -/
theorem Place.find?_eq {line : List Char} {more : List (List Char)} {offset : Nat}
    (fits : offset < byteCount line ∨ more = [] ∧ offset = byteCount line)
    (passed : Nat) (before : List (List Char)) :
    find? passed (byteCount before.flatten + offset) (before ++ line :: more) =
      some ⟨passed + before.length, line, offset⟩ := by
  induction before generalizing passed with
  | nil =>
    rw [List.flatten_nil, byteCount_nil, Nat.zero_add, List.nil_append]
    cases more with
    | nil =>
      rw [find?, if_pos (by omega)]
      rfl
    | cons next more =>
      have short : offset < byteCount line := by simpa using fits
      rw [find?, if_pos short]
      · rfl
      · simp
  | cons first before ih =>
    have behind : ¬ byteCount first + byteCount before.flatten + offset < byteCount first := by
      omega
    have left : byteCount first + byteCount before.flatten + offset - byteCount first =
        byteCount before.flatten + offset := by
      omega
    rw [List.flatten_cons, byteCount_append, List.cons_append, find?, if_neg behind, left, ih,
      List.length_cons, Nat.add_assoc, Nat.add_comm 1]
    simp

/-- `Spot passed after before front back more`: of the lines of the text, `before` are
passed and `more` come later; the place between `passed` and `after` is that between the
parts `front` and `back` of the line in the middle.  The end of a line is a place in it
only if it is the end of the text. -/
structure Spot (passed after : List Char) (before : List (List Char)) (front back : List Char)
    (more : List (List Char)) : Prop where
  lines_eq : lines (passed ++ after) = before ++ (front ++ back) :: more
  passed_eq : passed = before.flatten ++ front
  inside : back ≠ [] ∨ more = []

theorem exists_split_of_flatten (all : List (List Char)) {passed after : List Char}
    (nonempty : all ≠ []) (whole : all.flatten = passed ++ after) :
    ∃ before front back more, all = before ++ (front ++ back) :: more ∧
      passed = before.flatten ++ front ∧ (back ≠ [] ∨ more = []) := by
  -- By the lines: the place is in the first one, or behind it.
  induction all generalizing passed with
  | nil => exact absurd rfl nonempty
  | cons line all ih =>
    by_cases only : all = []
    · subst only
      rw [List.flatten_cons, List.flatten_nil, List.append_nil] at whole
      exact ⟨[], passed, after, [], by rw [whole]; rfl, rfl, Or.inr rfl⟩
    · rcases List.append_eq_append_iff.mp whole with ⟨front, rfl, later⟩ | ⟨back, rfl, rest⟩
      · obtain ⟨before, front, back, more, rfl, rfl, inside⟩ := ih only later
        exact ⟨line :: before, front, back, more, rfl, by simp, inside⟩
      · by_cases ended : back = []
        · subst ended
          have behind : all.flatten = [] ++ after := rest.symm
          obtain ⟨before, front, back, more, rfl, empty, inside⟩ := ih only behind
          exact ⟨(passed ++ []) :: before, front, back, more, rfl, by simp [← empty], inside⟩
        · exact ⟨[], passed, back, all, rfl, rfl, Or.inl ended⟩

/-- **Every place in a text is in one of its lines**, if there are any. -/
theorem exists_spot {passed after : List Char} (nonempty : passed ++ after ≠ []) :
    ∃ before front back more, Spot passed after before front back more := by
  have some_line : lines (passed ++ after) ≠ [] := by
    intro none
    exact nonempty ((flatten_lines _).symm.trans (by rw [none]; rfl))
  obtain ⟨before, front, back, more, lines_eq, passed_eq, inside⟩ :=
    exists_split_of_flatten _ some_line (flatten_lines _)
  exact ⟨before, front, back, more, lines_eq, passed_eq, inside⟩

namespace Spot

variable {passed after front back : List Char} {before more : List (List Char)} {source : String}

theorem after_eq (h : Spot passed after before front back more) : after = back ++ more.flatten := by
  have whole : passed ++ after = passed ++ (back ++ more.flatten) := by
    rw [← flatten_lines (passed ++ after), h.lines_eq, List.flatten_append, List.flatten_cons,
      List.append_assoc, ← List.append_assoc before.flatten, ← h.passed_eq]
  exact List.append_cancel_left whole

/-- The next character is the next one of the line. -/
theorem take_one_eq (h : Spot passed after before front back more) :
    back.take 1 = after.take 1 := by
  rcases h.inside with inside | ended
  · obtain ⟨c, back, rfl⟩ := List.exists_cons_of_ne_nil inside
    rw [h.after_eq]
    rfl
  · rw [h.after_eq, ended, List.flatten_nil, List.append_nil]

/-- An offset into the line of a place is found there. -/
theorem of?_within (h : Spot passed after before front back more)
    (whole : source.toList = passed ++ after) {offset : Nat}
    (fits : offset < byteCount (front ++ back) ∨
      more = [] ∧ offset = byteCount (front ++ back)) :
    Place.of? source (byteCount before.flatten + offset) =
      some ⟨before.length, front ++ back, offset⟩ := by
  rw [Place.of?, whole, h.lines_eq, Place.find?_eq fits, Nat.zero_add]

/-- **A place is found in its line.** -/
theorem of?_eq (h : Spot passed after before front back more)
    (whole : source.toList = passed ++ after) :
    Place.of? source (byteCount passed) =
      some ⟨before.length, front ++ back, byteCount front⟩ := by
  rw [h.passed_eq, byteCount_append]
  refine h.of?_within whole ?_
  rw [byteCount_append]
  cases back with
  | nil => exact Or.inr ⟨h.inside.resolve_left (by simp), by simp⟩
  | cons c back =>
    have wide := c.utf8Size_pos
    rw [byteCount_cons]
    exact Or.inl (by omega)

/-- **The last byte of the next character** is found in the same line. -/
theorem of?_lastByte {c : Char} {later : List Char}
    (h : Spot passed after before front (c :: later) more)
    (whole : source.toList = passed ++ after) :
    Place.of? source (byteCount (passed ++ [c]) - 1) =
      some ⟨before.length, front ++ c :: later, byteCount (front ++ [c]) - 1⟩ := by
  have wide := c.utf8Size_pos
  have offset : byteCount (passed ++ [c]) - 1 =
      byteCount before.flatten + (byteCount (front ++ [c]) - 1) := by
    rw [h.passed_eq, byteCount_append, byteCount_append, byteCount_append, byteCount_cons]
    omega
  rw [offset]
  refine h.of?_within whole (Or.inl ?_)
  rw [byteCount_append, byteCount_append, byteCount_cons, byteCount_cons, byteCount_nil]
  omega

end Spot

/-- The column of a place is the number of characters in front of it in its line. -/
theorem Place.column?_eq (n : Nat) (front back : List Char) :
    column? ⟨n, front ++ back, byteCount front⟩ = some front.length :=
  charCount?_eq front back

theorem Place.columnAfter?_eq (n : Nat) (front back : List Char) (c : Char) :
    columnAfter? ⟨n, front ++ c :: back, byteCount (front ++ [c]) - 1⟩ =
      some (front.length + 1) := by
  have wide := c.utf8Size_pos
  have offset : byteCount (front ++ [c]) - 1 + 1 = byteCount (front ++ [c]) := by
    rw [byteCount_append, byteCount_cons]
    omega
  have split : front ++ c :: back = (front ++ [c]) ++ back := by simp
  rw [columnAfter?, offset, split, charCount?_eq, List.length_append]
  rfl

/-! ### Counting lines -/

/-- With `after` behind it, all that ends a line in the text is line feeds, a carriage
return in front of them or not. -/
def FeedsOnly (text after : List Char) : Prop :=
  ∀ front c back, text = front ++ c :: back → endsLine c = true →
    c = '\n' ∨ c = '\r' ∧ (back ++ after).head? = some '\n'

theorem FeedsOnly.right {front text after : List Char} (h : FeedsOnly (front ++ text) after) :
    FeedsOnly text after := by
  rintro before c back rfl ends
  exact h (front ++ before) c back (List.append_assoc ..).symm ends

theorem Location.advance_of_notMem {text : List Char} (oneLine : '\n' ∉ text) (l : Location) :
    l.advance text = ⟨l.line, l.column + text.length⟩ := by
  induction text generalizing l with
  | nil => rfl
  | cons c text ih =>
    have noFeed : c ≠ '\n' := fun feed => oneLine (feed ▸ List.mem_cons_self)
    rw [advance_cons, ih (List.not_mem_of_not_mem_cons oneLine), step, if_neg noFeed,
      List.length_cons, Nat.add_assoc, Nat.add_comm 1]

/-- Over a line and what ends it, a location moves to the start of the next line. -/
theorem LineEnd.advance {body ending behind after : List Char}
    (h : LineEnd ending (behind ++ after)) (unended : ∀ c ∈ body, endsLine c = false)
    (feeds : FeedsOnly (body ++ (ending ++ behind)) after) (n : Nat) :
    (⟨n, 0⟩ : Location).advance (body ++ ending) = ⟨n + 1, 0⟩ := by
  rw [Location.advance_append, Location.advance_of_notMem (notMem_of_unended unended)]
  cases h with
  | pair => rfl
  | single ends alone =>
    rcases feeds _ _ _ rfl ends with rfl | ⟨rfl, pair⟩
    · rfl
    · exact absurd pair (alone rfl)

/-- **Walking over lines counts them**, and then the characters of the last one. -/
theorem Lined.advance {text front back after : List Char} {before more : List (List Char)}
    (h : Lined text (before ++ (front ++ back) :: more))
    (split : text = before.flatten ++ front ++ after)
    (feeds : FeedsOnly (before.flatten ++ front) after) (unended : '\n' ∉ front) (n : Nat) :
    (⟨n, 0⟩ : Location).advance (before.flatten ++ front) =
      ⟨n + before.length, front.length⟩ := by
  induction before generalizing text n with
  | nil =>
    rw [List.flatten_nil, List.nil_append, Location.advance_of_notMem unended, Nat.zero_add]
    rfl
  | cons line before ih =>
    rw [List.cons_append] at h
    generalize later : before ++ (front ++ back) :: more = rest at h
    cases h with
    | last => simp at later
    | @line body ending behind rest bodyUnended isEnd lined =>
      subst later
      rw [List.flatten_cons, List.append_assoc (body ++ ending), List.append_assoc body] at *
      have behind_eq : behind = before.flatten ++ front ++ after := by
        simpa only [List.append_assoc, List.append_cancel_left_eq] using split
      subst behind_eq
      have moved := isEnd.advance bodyUnended feeds n
      rw [← List.append_assoc body, Location.advance_append, moved,
        ih lined rfl (FeedsOnly.right (FeedsOnly.right feeds)), List.length_cons, Nat.add_assoc,
        Nat.add_comm 1]

/-- In front of a place there is no line feed in its line, unless the text ends there with
one. -/
theorem Spot.notMem_front {passed after front back : List Char} {before more : List (List Char)}
    (h : Spot passed after before front back more)
    (noFeed : after = [] → passed.getLast? ≠ some '\n') : '\n' ∉ front := by
  obtain ⟨behind, lined⟩ := Lined.exists_behind (h.lines_eq ▸ lined_lines (passed ++ after))
  have line := lined.notMem_dropLast
  by_cases ended : back = []
  · subst ended
    have after_nil : after = [] := by
      rw [h.after_eq, h.inside.resolve_left (by simp)]
      rfl
    rw [List.append_nil] at line
    intro mem
    obtain ⟨init, last, rfl⟩ := (List.eq_nil_or_concat front).resolve_left (List.ne_nil_of_mem mem)
    rw [List.concat_eq_append] at line mem h
    rw [List.dropLast_concat] at line
    obtain rfl : '\n' = last := by simpa [line] using mem
    exact noFeed after_nil (by simp [h.passed_eq])
  · rw [List.dropLast_append_of_ne_nil ended] at line
    exact fun mem => line (List.mem_append_left _ mem)

/-- **A place is at the location that walking there gives**, counted by lines: where only
line feeds end lines in front of it, and the text does not end at it with one. -/
theorem Spot.advance_start {passed after front back : List Char} {before more : List (List Char)}
    (h : Spot passed after before front back more) (feeds : FeedsOnly passed after)
    (noFeed : after = [] → passed.getLast? ≠ some '\n') :
    Location.start.advance passed = ⟨before.length, front.length⟩ := by
  have lined := lined_lines (passed ++ after)
  rw [h.lines_eq] at lined
  have unended := h.notMem_front noFeed
  rw [h.passed_eq] at lined feeds ⊢
  rw [Location.start, lined.advance rfl feeds unended 0, Nat.zero_add]

end Lexis
