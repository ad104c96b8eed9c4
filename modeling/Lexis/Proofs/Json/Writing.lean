import Lexis.Proofs.Json.Phrases

/-!
# Written JSON

The text that a value is written as denotes the value (`denotes_write`), in either
layout and for every text in its strings.  A value keeps its numbers as they are to
be written, so the one condition is that they are numbers (`Proper`).
-/

namespace Lexis

namespace Json

/-- Every number in the value is spelled as one. -/
inductive Proper : Json → Prop
  | null : Proper .null
  | bool (b : Bool) : Proper (.bool b)
  | number {text : List Char} (isNumber : Numeric text) : Proper (.number text)
  | string (s : String) : Proper (.string s)
  | array {js : List Json} (items : ∀ j ∈ js, Proper j) : Proper (.array js)
  | object {ms : List (String × Json)} (members : ∀ m ∈ ms, Proper m.2) : Proper (.object ms)

/-! ### Strings -/

/-- The digits of a control's escape spell its code unit. -/
theorem codeUnit_control {n : Nat} (control : n < 0x20) :
    CodeUnit ['0', '0', Nat.digitChar (n / 16), Nat.digitChar (n % 16)] n := by
  have value : ∀ n < 0x20,
      hexValues? ['0', '0', Nat.digitChar (n / 16), Nat.digitChar (n % 16)] = some n := by decide
  exact ⟨rfl, value n control⟩

/-- **One character is escaped as it is spelled**, whichever of the three ways it is
written in. -/
theorem Spells.escape (c : Char) {meaning body : List Char} (more : Spells meaning body) :
    Spells (c :: meaning) (Json.escape c ++ body) := by
  unfold Json.escape
  split
  · next special =>
    simp only [Bool.or_eq_true, decide_eq_true_eq] at special
    rcases special with rfl | rfl <;> exact .short rfl more
  · next plain =>
    simp only [Bool.or_eq_true, decide_eq_true_eq, not_or] at plain
    split
    · next backspace => exact .short (by rw [backspace]; rfl) more
    split
    · next tab => exact .short (by rw [tab]; rfl) more
    split
    · next feed => exact .short (by rw [feed]; rfl) more
    split
    · next formFeed => exact .short (by rw [formFeed]; rfl) more
    split
    · next carriage => exact .short (by rw [carriage]; rfl) more
    split
    · next control =>
      have low : isLowSurrogate c.toNat = false := by
        simp [isLowSurrogate]
        omega
      have high : isHighSurrogate c.toNat = false := by
        simp [isHighSurrogate]
        omega
      have spelled := Spells.unit (codeUnit_control control) low high more
      rwa [Char.ofNat_toNat] at spelled
    · next noControl =>
      exact .plain plain.1 plain.2 (decide_eq_false noControl) more

theorem spells_escape (text : List Char) : Spells text (text.flatMap escape) := by
  induction text with
  | nil => exact .nil
  | cons c text ih => exact ih.escape c

theorem quote_eq (s : String) : quote s = '"' :: (s.toList.flatMap escape ++ ['"']) := rfl

/-- **A quoted text denotes the text.** -/
theorem denotes_quote (s : String) : Denotes (.string s) (quote s) :=
  .string (spells_escape s.toList)

/-! ### Layouts -/

theorem Layout.blank_newline (l : Layout) : Blank l.newline := by
  cases l with
  | compact => exact blank_nil
  | indented depth =>
    intro c mem
    rcases List.mem_cons.mp mem with rfl | mem
    · decide
    · rw [(List.mem_replicate.mp mem).2]
      decide

theorem Layout.colon_eq (l : Layout) : ∃ gap, l.colon = ':' :: gap ∧ Blank gap := by
  cases l with
  | compact => exact ⟨[], rfl, blank_nil⟩
  | indented => exact ⟨[' '], rfl, blank_singleton (by decide)⟩

/-! ### Arrays and objects -/

theorem writeItems_eq_map (l : Layout) (js : List Json) : writeItems l js = js.map (write l) := by
  induction js with
  | nil => rfl
  | cons j js ih => rw [writeItems, ih, List.map_cons]

/-- The text of a member. -/
def writeMember (l : Layout) (m : String × Json) : List Char := quote m.1 ++ l.colon ++ write l m.2

theorem writeMembers_eq_map (l : Layout) (ms : List (String × Json)) :
    writeMembers l ms = ms.map (writeMember l) := by
  induction ms with
  | nil => rfl
  | cons m ms ih => rw [writeMembers, ih, List.map_cons, writeMember]

variable {l : Layout} {front back : List Char}

/-- A written member is one, with the blanks of any layout around it. -/
theorem member_writeMember {m : String × Json} (value : Denotes m.2 (m.2.write l))
    (blank : Blank front) (blank' : Blank back) :
    Grammar Meant (.member m.1 m.2) (front ++ writeMember l m ++ back) := by
  obtain ⟨gap, colon, blankGap⟩ := l.colon_eq
  have keyed : Keyed Meant m.1 (gap ++ (m.2.write l ++ back)) _ :=
    .intro blank (spells_escape m.1.toList) blank_nil
  have text : front ++ writeMember l m ++ back = front ++ '"' ::
      (m.1.toList.flatMap escape ++ '"' :: ([] ++ ':' :: (gap ++ (m.2.write l ++ back)))) := by
    simp [writeMember, quote_eq, colon]
  rw [text]
  exact .member (.item blankGap value blank') keyed

/-- Written items with commas between are items of an array, of which the last has the
blanks in front of the bracket behind it. -/
theorem items_intercalate {js : List Json} (nonempty : js ≠ [])
    (values : ∀ j ∈ js, Denotes j (j.write l)) (blank : Blank front) (blank' : Blank back) :
    Grammar Meant (.items js)
      ([','].intercalate ((js.map (write l)).map (front ++ ·)) ++ back) := by
  induction js with
  | nil => exact absurd rfl nonempty
  | cons j js ih =>
    have value := values j List.mem_cons_self
    cases js with
    | nil =>
      have item := Grammar.item blank value blank'
      simpa using Grammar.lastItem item
    | cons j' js =>
      have more := ih (by simp) fun x mem => values x (List.mem_cons_of_mem j mem)
      have first := Grammar.item blank value blank_nil
      simpa [List.intercalate_cons_cons] using Grammar.moreItems first more

theorem members_intercalate {ms : List (String × Json)} (nonempty : ms ≠ [])
    (values : ∀ m ∈ ms, Denotes m.2 (m.2.write l)) (blank : Blank front) (blank' : Blank back) :
    Grammar Meant (.members ms)
      ([','].intercalate ((ms.map (writeMember l)).map (front ++ ·)) ++ back) := by
  induction ms with
  | nil => exact absurd rfl nonempty
  | cons m ms ih =>
    have value := values m List.mem_cons_self
    cases ms with
    | nil => simpa using Grammar.lastMember (member_writeMember value blank blank')
    | cons m' ms =>
      have more := ih (by simp) fun x mem => values x (List.mem_cons_of_mem m mem)
      have first := member_writeMember value blank blank_nil
      simpa [List.intercalate_cons_cons] using Grammar.moreMembers first more

/-- **What is written denotes what it was written from.** -/
theorem denotes_write {j : Json} (proper : Proper j) (l : Layout) : Denotes j (j.write l) := by
  induction proper generalizing l with
  | null => exact .null
  | bool b => exact .bool b
  | number isNumber => exact .number isNumber
  | string s => exact denotes_quote s
  | @array js _ ih =>
    rw [write, writeItems_eq_map]
    cases js with
    | nil => exact .noItems blank_nil
    | cons j js =>
      have inside := items_intercalate (List.cons_ne_nil j js) (fun x mem => ih x mem l.deeper)
        l.deeper.blank_newline l.blank_newline
      have whole : Denotes (.array (j :: js)) _ := .array inside
      simpa [Layout.enclose] using whole
  | @object ms _ ih =>
    rw [write, writeMembers_eq_map]
    cases ms with
    | nil => exact .noMembers blank_nil
    | cons m ms =>
      have inside := members_intercalate (List.cons_ne_nil m ms) (fun x mem => ih x mem l.deeper)
        l.deeper.blank_newline l.blank_newline
      have whole : Denotes (.object (m :: ms)) _ := .object inside
      simpa [Layout.enclose] using whole

end Json

end Lexis
