import Lexis.Proofs.Json.Atoms

/-!
# From phrase to phrase

What stands where a reader moves on: blanks, brackets, commas and colons.

* **A phrase opens with a character that closes nothing** (`Grammar.opens`), so what
  follows a bracket or a comma tells an empty list or object from one that goes on.
* **Moving on ends in front of a phrase**, the blanks before it left out
  (`nextItem_eq`), or behind a key (`nextKey_gives`).  What has to come first,
  nothing or a comma, is told by `Leads`.
-/

namespace Lexis

namespace Json

variable {i : Input} {rest : List Char}

/-! ### Blanks -/

theorem Blank.append {a b : List Char} (ha : Blank a) (hb : Blank b) : Blank (a ++ b) :=
  List.forall_mem_append.mpr ⟨ha, hb⟩

/-- Blanks end a number. -/
theorem Blank.numberEnds {gap : List Char} (blank : Blank gap) (ends : NumberEnds rest) :
    NumberEnds (gap ++ rest) := by
  cases gap with
  | nil => exact ends
  | cons c gap =>
    have space : Input.isSpace c = true := blank c List.mem_cons_self
    simp only [Input.isSpace, Bool.or_eq_true, decide_eq_true_eq] at space
    rcases space with ((rfl | rfl) | rfl) | rfl <;> exact ends_cons (by decide) _

theorem Input.skipSpace_skipSpace (i : Input) : i.skipSpace.skipSpace = i.skipSpace := by
  obtain ⟨gap, text, split, blank, ends⟩ := exists_run Input.isSpace i.rest
  have left : i.skipSpace.rest = text := Input.rest_skipSpace blank ends split
  have none : i.skipSpace.rest.takeWhile Input.isSpace = [] := by
    rw [left, ← List.nil_append text]
    exact takeWhile_run (by simp) ends
  rw [Input.skipSpace.eq_def i.skipSpace, none]
  rfl

/-- Behind the last blanks of a text stands nothing. -/
theorem Input.peek_skipSpace {gap : List Char} (blank : Blank gap) (h : i.rest = gap) :
    i.skipSpace.peek = none := by
  have ended : i.skipSpace.rest = [] :=
    Input.rest_skipSpace blank (ends_nil _) (by rw [h, List.append_nil])
  rw [Input.peek, ended]
  rfl

/-! ### What phrases start with -/

/-- Behind blanks the text starts with a character that closes no bracket. -/
def Opens (text : List Char) : Prop :=
  ∃ gap c tail, text = gap ++ c :: tail ∧ Blank gap ∧ Input.isSpace c = false ∧
    c ≠ ']' ∧ c ≠ '\x7d'

theorem Opens.append {text : List Char} (h : Opens text) (behind : List Char) :
    Opens (text ++ behind) := by
  obtain ⟨gap, c, tail, rfl, blank, noSpace, opens⟩ := h
  exact ⟨gap, c, tail ++ behind, by simp, blank, noSpace, opens⟩

theorem Opens.prepend {gap text : List Char} (h : Opens text) (blank : Blank gap) :
    Opens (gap ++ text) := by
  obtain ⟨gap', c, tail, rfl, blank', noSpace, opens⟩ := h
  exact ⟨gap ++ gap', c, tail, by simp, blank.append blank', noSpace, opens⟩

theorem opens_cons {c : Char} (noSpace : Input.isSpace c = false) (noBracket : c ≠ ']')
    (noBrace : c ≠ '\x7d') (tail : List Char) : Opens (c :: tail) :=
  ⟨[], c, tail, rfl, blank_nil, noSpace, noBracket, noBrace⟩

/-- A number starts with a minus sign or a digit. -/
theorem Numeric.head {text : List Char} (isNumber : Numeric text) :
    ∃ c tail, text = c :: tail ∧ (c = '-' || c.isDigit) = true := by
  obtain ⟨signed, isWhole, -, -⟩ := isNumber
  rcases signed with rfl | rfl
  · cases isWhole with
    | zero => exact ⟨'0', _, rfl, by decide⟩
    | @digits c ds _ areDigits => exact ⟨c, _, rfl, by simp [areDigits c List.mem_cons_self]⟩
  · exact ⟨'-', _, rfl, by decide⟩

/-- The first character of a number is none of the signs and letters that other
phrases start and end with. -/
theorem ne_of_startsNumber {c : Char} (starts : (c = '-' || c.isDigit) = true) (c' : Char)
    (other : (c' = '-' || c'.isDigit) = false := by decide) : c ≠ c' := by
  rintro rfl
  rw [starts] at other
  cases other

theorem isSpace_of_startsNumber {c : Char} (starts : (c = '-' || c.isDigit) = true) :
    Input.isSpace c = false := by
  simp [Input.isSpace, ne_of_startsNumber starts ' ', ne_of_startsNumber starts '\t',
    ne_of_startsNumber starts '\n', ne_of_startsNumber starts '\r']

theorem Numeric.opens {text : List Char} (isNumber : Numeric text) : Opens text := by
  obtain ⟨c, tail, rfl, starts⟩ := isNumber.head
  exact opens_cons (isSpace_of_startsNumber starts) (ne_of_startsNumber starts ']')
    (ne_of_startsNumber starts '\x7d') tail

section Grammar

variable {strings : String → List Char → Prop}

theorem Keyed.opens {key : String} {value text : List Char} (keyed : Keyed strings key value text) :
    Opens text := by
  obtain ⟨blank, -, -⟩ := keyed
  exact (opens_cons (by decide) (by decide) (by decide) _).prepend blank

theorem Grammar.opens {p : Phrase} {text : List Char} (h : Grammar strings p text) :
    Opens text := by
  induction h with
  | null => exact opens_cons (by decide) (by decide) (by decide) _
  | bool b => cases b <;> exact opens_cons (by decide) (by decide) (by decide) _
  | number isNumber => exact isNumber.opens
  | string => exact opens_cons (by decide) (by decide) (by decide) _
  | noItems | noMembers => exact opens_cons (by decide) (by decide) (by decide) _
  | array | object => exact opens_cons (by decide) (by decide) (by decide) _
  | item blank _ _ ih => exact (ih.append _).prepend blank
  | member _ keyed => exact keyed.opens
  | lastItem _ ih => exact ih
  | lastMember _ ih => exact ih
  | moreItems _ _ ih => exact ih.append _
  | moreMembers _ _ ih => exact ih.append _

/-- A value starts with a character of its own. -/
theorem Grammar.noBlank {j : Json} {text : List Char} (h : Grammar strings (.value j) text)
    (behind : List Char) : Ends Input.isSpace (text ++ behind) := by
  cases h with
  | number isNumber =>
    obtain ⟨c, tail, rfl, starts⟩ := isNumber.head
    exact ends_cons (isSpace_of_startsNumber starts) _
  | bool b => cases b <;> exact ends_cons (by decide) _
  | null | string | noItems | noMembers | array | object => exact ends_cons (by decide) _

end Grammar

/-- Behind the blanks in front of a phrase stands a character that closes no bracket. -/
theorem Opens.rest_skipSpace {text : List Char} (h : Opens text) (here : i.rest = text ++ rest) :
    ∃ c tail, i.skipSpace.rest = c :: tail ∧ c ≠ ']' ∧ c ≠ '\x7d' := by
  obtain ⟨gap, c, tail, rfl, blank, noSpace, opens⟩ := h
  rw [List.append_assoc] at here
  exact ⟨c, tail ++ rest, Input.rest_skipSpace blank (ends_cons noSpace _) here, opens⟩

/-! ### Moving on -/

/-- The step succeeds with the value `a`, and blanks may still stand in front of
`rest`. -/
def GivesNear {α : Type} (result : Except Error (α × Input)) (a : α) (rest : List Char) : Prop :=
  ∃ gap, Blank gap ∧ Gives result a (gap ++ rest)

theorem GivesNear.map {α β : Type} {result : Except Error (α × Input)} {a : α}
    (h : GivesNear result a rest) (f : α → β) :
    GivesNear (result.map fun r => (f r.1, r.2)) (f a) rest := by
  obtain ⟨gap, blank, gives⟩ := h
  exact ⟨gap, blank, gives.map f⟩

theorem readColon_passes {gap : List Char} (blank : Blank gap) (h : i.rest = gap ++ ':' :: rest) :
    Passes (readColon i) rest := by
  have left := Input.rest_skipSpace blank (ends_cons (by decide) _) h
  simp only [readColon, Input.peek_of_rest left, if_pos]
  exact ⟨_, rfl, Input.rest_next_of_rest left⟩

/-- What stands between the last item or member, if there is one, and the next. -/
inductive Leads : Bool → List Char → Prop
  | first : Leads true []
  | later {gap : List Char} (blank : Blank gap) : Leads false (gap ++ [','])

/-- **Moving on to an item** leaves out the blanks in front of it and nothing more. -/
theorem nextItem_eq {lead text : List Char} {first : Bool} (opens : Opens text)
    (leads : Leads first lead) (here : i.rest = lead ++ (text ++ rest)) :
    ∃ m : Input, m.rest = text ++ rest ∧ nextItem first i = .ok (true, m.skipSpace) := by
  cases leads with
  | first =>
    obtain ⟨c, tail, left, noBracket, -⟩ := opens.rest_skipSpace here
    refine ⟨i, here, ?_⟩
    simp only [nextItem, Input.peek_of_rest left, if_neg noBracket, if_pos]
  | later blank =>
    rw [List.append_assoc] at here
    have comma := Input.rest_skipSpace blank (ends_cons (by decide) _) here
    have behind := Input.rest_next_of_rest comma
    obtain ⟨c, tail, left, noBracket, -⟩ := opens.rest_skipSpace behind
    refine ⟨i.skipSpace.next, behind, ?_⟩
    simp [nextItem, Input.peek_of_rest comma, Input.peek_of_rest left, noBracket]

theorem nextItem_end (first : Bool) {gap : List Char} (blank : Blank gap)
    (here : i.rest = gap ++ ']' :: rest) : Gives (nextItem first i) false (']' :: rest) := by
  have left := Input.rest_skipSpace blank (ends_cons (by decide) _) here
  refine ⟨i.skipSpace, ?_, left⟩
  simp only [nextItem, Input.peek_of_rest left, if_pos]

theorem nextKey_gives {key : String} {value lead text : List Char} {first : Bool}
    (keyed : Keyed Meant key value text) (leads : Leads first lead)
    (here : i.rest = lead ++ (text ++ rest)) :
    ∃ gap, Blank gap ∧ Gives (nextKey first i) (some key) (gap ++ ':' :: (value ++ rest)) := by
  obtain ⟨blank, meant, blank'⟩ := keyed
  refine ⟨_, blank', ?_⟩
  simp only [List.cons_append, List.append_assoc] at here
  cases leads with
  | first =>
    have quote := Input.rest_skipSpace blank (ends_cons (by decide) _) here
    have key := (readString_gives meant (Input.rest_next_of_rest quote)).map some
    simpa [nextKey, Input.peek_of_rest quote] using key
  | later blankLead =>
    rw [List.append_assoc] at here
    have comma := Input.rest_skipSpace blankLead (ends_cons (by decide) _) here
    have quote := Input.rest_skipSpace blank (ends_cons (by decide) _)
      (Input.rest_next_of_rest comma)
    have key := (readString_gives meant (Input.rest_next_of_rest quote)).map some
    simpa [nextKey, Input.peek_of_rest comma, Input.peek_of_rest quote] using key

theorem nextKey_end (first : Bool) {gap : List Char} (blank : Blank gap)
    (here : i.rest = gap ++ '\x7d' :: rest) :
    Gives (nextKey first i) none ('\x7d' :: rest) := by
  have left := Input.rest_skipSpace blank (ends_cons (by decide) _) here
  refine ⟨i.skipSpace, ?_, left⟩
  simp only [nextKey, Input.peek_of_rest left, if_pos]

end Json

end Lexis
