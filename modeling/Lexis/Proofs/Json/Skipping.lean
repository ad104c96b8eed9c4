import Lexis.Proofs.Json.Phrases

/-!
# Passing over JSON values

Whatever well-formed value stands next, skipping passes over it and over nothing
more (`skipValue_passes`).

The reader that skips holds the frames around it and does not return from a value:
`skipInto stack` ends in `skipOut stack` behind it.  So the statement that carries
the induction is an equation between the two (`LeadsTo`), for each kind of phrase
with the frame that it stands in (`Skipped`).
-/

namespace Lexis

namespace Json

variable {i : Input} {rest : List Char}

/-! ### Keys -/

theorem skipKey_skipSpace (i : Input) : skipKey i.skipSpace = skipKey i := by
  rw [skipKey, skipKey, i.skipSpace_skipSpace]

theorem skipKey_passes {key : String} {value text : List Char}
    (keyed : Keyed (fun _ body => Passable body) key value text) (h : i.rest = text ++ rest) :
    Passes (skipKey i) (value ++ rest) := by
  obtain ⟨blank, passable, blank'⟩ := keyed
  simp only [List.cons_append, List.append_assoc] at h
  have left := Input.rest_skipSpace blank (ends_cons (by decide) _) h
  simp only [skipKey, Input.peek_of_rest left, if_pos]
  refine (skipString_passes passable (Input.rest_next_of_rest left)).bind ?_
  intro k quoted
  exact readColon_passes blank' quoted

/-! ### One step of skipping -/

section Steps

variable {stack : List Frame}

theorem skipInto_skipSpace (stack : List Frame) (i : Input) :
    skipInto stack i.skipSpace = skipInto stack i := by
  rw [skipInto, skipInto, i.skipSpace_skipSpace]

/-- What is neither a list nor an object is an atom. -/
theorem skipInto_atom {c : Char} {tail : List Char} (h : i.skipSpace.rest = c :: tail)
    (noList : c ≠ '[') (noObject : c ≠ '\x7b') :
    skipInto stack i = (skipAtom i.skipSpace).bind (skipOut stack) := by
  have peeked := Input.peek_of_rest h
  rw [skipInto]
  dsimp only
  split
  · next none => simp [none] at peeked
  · next some =>
    obtain rfl := Option.some.inj (some.symm.trans peeked)
    rw [if_neg noList, if_neg noObject]
    split
    · next atom => rw [atom]; rfl
    · next atom => rw [atom]; rfl

/-- Behind the bracket that opens a list, the list is empty or goes on. -/
theorem skipInto_list {c : Char} {tail tail' : List Char} (h : i.skipSpace.rest = '[' :: tail)
    (h' : i.skipSpace.next.skipSpace.rest = c :: tail') :
    skipInto stack i =
      if c = ']' then skipOut stack i.skipSpace.next.skipSpace.next
      else skipInto (.list :: stack) i.skipSpace.next := by
  have peeked := Input.peek_of_rest h
  have peeked' := Input.peek_of_rest h'
  rw [skipInto]
  dsimp only
  split
  · next none => simp [none] at peeked
  · next some =>
    obtain rfl := Option.some.inj (some.symm.trans peeked)
    rw [if_pos rfl]
    split
    · next none => simp [none] at peeked'
    · next some =>
      obtain rfl := Option.some.inj (some.symm.trans peeked')
      rw [skipInto_skipSpace]

/-- Behind the brace that opens an object, the object is empty or goes on. -/
theorem skipInto_object {c : Char} {tail tail' : List Char}
    (h : i.skipSpace.rest = '\x7b' :: tail)
    (h' : i.skipSpace.next.skipSpace.rest = c :: tail') :
    skipInto stack i =
      if c = '\x7d' then skipOut stack i.skipSpace.next.skipSpace.next
      else (skipKey i.skipSpace.next).bind (skipInto (.object :: stack)) := by
  have peeked := Input.peek_of_rest h
  have peeked' := Input.peek_of_rest h'
  rw [skipInto]
  dsimp only
  split
  · next none => simp [none] at peeked
  · next some =>
    obtain rfl := Option.some.inj (some.symm.trans peeked)
    rw [if_neg (by decide), if_pos rfl]
    split
    · next none => simp [none] at peeked'
    · next some =>
      obtain rfl := Option.some.inj (some.symm.trans peeked')
      rw [skipKey_skipSpace]
      congr 1
      split
      · next key => rw [key]; rfl
      · next key => rw [key]; rfl

/-- Behind a comma a list goes on with an item and an object with a member. -/
def Frame.skipNext (stack : List Frame) : Frame → Input → Except Error Input
  | .list, i => skipInto (.list :: stack) i
  | .object, i => (skipKey i).bind (skipInto (.object :: stack))

/-- Behind a value its frame goes on with a comma, or ends. -/
theorem skipOut_step {frame : Frame} {c : Char} {tail : List Char}
    (h : i.skipSpace.rest = c :: tail) :
    skipOut (frame :: stack) i =
      if c = ',' then frame.skipNext stack i.skipSpace.next
      else if c = frame.closing then skipOut stack i.skipSpace.next
      else .error (i.skipSpace.errorNext frame.commaFault) := by
  have peeked := Input.peek_of_rest h
  rw [skipOut.eq_def]
  dsimp only
  split
  · next none => simp [none] at peeked
  · next some =>
    obtain rfl := Option.some.inj (some.symm.trans peeked)
    congr 1
    cases frame with
    | list => rfl
    | object =>
      dsimp only [Frame.skipNext]
      split
      · next key => rw [key]; rfl
      · next key => rw [key]; rfl

end Steps

/-! ### Atoms -/

/-- The text is a word, a number or a string. -/
inductive Atom : List Char → Prop
  | null : Atom "null".toList
  | bool (b : Bool) : Atom (if b then "true" else "false").toList
  | number {text : List Char} (isNumber : Numeric text) : Atom text
  | string {body : List Char} (passable : Passable body) : Atom ('"' :: (body ++ ['"']))

/-- An atom starts with a character of its own. -/
theorem Atom.head {text : List Char} (isAtom : Atom text) :
    ∃ c tail, text = c :: tail ∧ Input.isSpace c = false ∧ c ≠ '[' ∧ c ≠ '\x7b' := by
  cases isAtom with
  | null => exact ⟨_, _, rfl, by decide⟩
  | bool b => cases b <;> exact ⟨_, _, rfl, by decide⟩
  | number isNumber =>
    obtain ⟨c, tail, rfl, starts⟩ := isNumber.head
    exact ⟨c, tail, rfl, isSpace_of_startsNumber starts, ne_of_startsNumber starts '[',
      ne_of_startsNumber starts '\x7b'⟩
  | string => exact ⟨_, _, rfl, by decide⟩

theorem skipAtom_passes {text : List Char} (isAtom : Atom text) (ends : NumberEnds rest)
    (h : i.rest = text ++ rest) : Passes (skipAtom i) rest := by
  cases isAtom with
  | null =>
    simp only [skipAtom, Input.peek_of_rest h]
    exact readWord_passes _ (Input.rest_next_of_rest h)
  | bool b =>
    cases b with
    | true =>
      simp only [skipAtom, Input.peek_of_rest h]
      exact readWord_passes "rue".toList (Input.rest_next_of_rest h)
    | false =>
      simp only [skipAtom, Input.peek_of_rest h]
      exact readWord_passes "alse".toList (Input.rest_next_of_rest h)
  | number isNumber =>
    obtain ⟨c, tail, rfl, starts⟩ := isNumber.head
    simp only [skipAtom, Input.peek_of_rest h, starts, if_pos,
      if_neg (ne_of_startsNumber starts 'n'),
      if_neg (ne_of_startsNumber starts 't'),
      if_neg (ne_of_startsNumber starts 'f')]
    exact skipNumber_passes isNumber ends h
  | string passable =>
    simp only [List.cons_append, List.append_assoc] at h
    simp only [skipAtom, Input.peek_of_rest h]
    exact skipString_passes passable (Input.rest_next_of_rest h)

/-! ### Values -/

/-- The result is that of going on behind a value, with `rest` still to be read. -/
def LeadsTo (result : Except Error Input) (stack : List Frame) (rest : List Char) : Prop :=
  ∃ k : Input, k.rest = rest ∧ result = skipOut stack k

/-- As `LeadsTo`, but blanks may still stand in front of `rest`. -/
def LeadsNear (result : Except Error Input) (stack : List Frame) (rest : List Char) : Prop :=
  ∃ gap, Blank gap ∧ LeadsTo result stack (gap ++ rest)

/-- **Skipping gets through a phrase**, each kind of phrase in the frame it stands
in: a value anywhere, items in a list and members in an object. -/
def Skipped : Phrase → List Char → Prop
  | .value _, text => ∀ (stack : List Frame) (i : Input) (gap rest : List Char), Blank gap →
      i.rest = gap ++ (text ++ rest) → NumberEnds rest → LeadsTo (skipInto stack i) stack rest
  | .item _, text => ∀ (stack : List Frame) (i : Input) (rest : List Char),
      i.rest = text ++ rest → NumberEnds rest → LeadsNear (skipInto stack i) stack rest
  | .member _ _, text => ∀ (stack : List Frame) (i : Input) (rest : List Char),
      i.rest = text ++ rest → NumberEnds rest →
      LeadsNear ((skipKey i).bind (skipInto stack)) stack rest
  | .items _, text => ∀ (stack : List Frame) (i : Input) (rest : List Char),
      i.rest = text ++ ']' :: rest → LeadsTo (skipInto (.list :: stack) i) stack rest
  | .members _, text => ∀ (stack : List Frame) (i : Input) (rest : List Char),
      i.rest = text ++ '\x7d' :: rest →
      LeadsTo ((skipKey i).bind (skipInto (.object :: stack))) stack rest

section Values

variable {stack : List Frame} {gap text : List Char}

theorem leadsTo_atom (isAtom : Atom text) (blank : Blank gap) (ends : NumberEnds rest)
    (h : i.rest = gap ++ (text ++ rest)) : LeadsTo (skipInto stack i) stack rest := by
  obtain ⟨c, tail, rfl, noSpace, noList, noObject⟩ := isAtom.head
  have left := Input.rest_skipSpace blank (ends_cons noSpace _) h
  rw [skipInto_atom left noList noObject]
  obtain ⟨k, passed, after⟩ := skipAtom_passes isAtom ends left
  exact ⟨k, after, by rw [passed]; rfl⟩

/-- The closing bracket ends a frame. -/
theorem LeadsNear.closing {result : Except Error Input} {frame : Frame}
    (near : LeadsNear result (frame :: stack) (frame.closing :: rest)) :
    LeadsTo result stack rest := by
  obtain ⟨gap, blank, i, here, rfl⟩ := near
  have left := Input.rest_skipSpace blank (ends_cons (by cases frame <;> decide) _) here
  rw [skipOut_step left, if_neg (by cases frame <;> decide), if_pos rfl]
  exact ⟨_, Input.rest_next_of_rest left, rfl⟩

/-- A comma makes a frame go on. -/
theorem LeadsNear.comma {result : Except Error Input} {frame : Frame}
    (near : LeadsNear result (frame :: stack) (',' :: rest)) :
    ∃ k : Input, k.rest = rest ∧ result = frame.skipNext stack k := by
  obtain ⟨gap, blank, i, here, rfl⟩ := near
  have left := Input.rest_skipSpace blank (ends_cons (by decide) _) here
  exact ⟨_, Input.rest_next_of_rest left, by rw [skipOut_step left, if_pos rfl]⟩

theorem leadsTo_emptyList (blank : Blank gap) (blank' : Blank text)
    (h : i.rest = gap ++ '[' :: (text ++ ']' :: rest)) :
    LeadsTo (skipInto stack i) stack rest := by
  have left := Input.rest_skipSpace blank (ends_cons (by decide) _) h
  have inside := Input.rest_skipSpace blank' (ends_cons (by decide) _)
    (Input.rest_next_of_rest left)
  rw [skipInto_list left inside, if_pos rfl]
  exact ⟨_, Input.rest_next_of_rest inside, rfl⟩

theorem leadsTo_emptyObject (blank : Blank gap) (blank' : Blank text)
    (h : i.rest = gap ++ '\x7b' :: (text ++ '\x7d' :: rest)) :
    LeadsTo (skipInto stack i) stack rest := by
  have left := Input.rest_skipSpace blank (ends_cons (by decide) _) h
  have inside := Input.rest_skipSpace blank' (ends_cons (by decide) _)
    (Input.rest_next_of_rest left)
  rw [skipInto_object left inside, if_pos rfl]
  exact ⟨_, Input.rest_next_of_rest inside, rfl⟩

theorem Skipped.list {js : List Json} (inside : Skipped (.items js) text) (opens : Opens text)
    (blank : Blank gap) (h : i.rest = gap ++ '[' :: (text ++ ']' :: rest)) :
    LeadsTo (skipInto stack i) stack rest := by
  have left := Input.rest_skipSpace blank (ends_cons (by decide) _) h
  have behind := Input.rest_next_of_rest left
  obtain ⟨c, tail, first, noBracket, -⟩ := opens.rest_skipSpace behind
  rw [skipInto_list left first, if_neg noBracket]
  exact inside stack _ rest behind

theorem Skipped.object {ms : List (String × Json)} (inside : Skipped (.members ms) text)
    (opens : Opens text) (blank : Blank gap)
    (h : i.rest = gap ++ '\x7b' :: (text ++ '\x7d' :: rest)) :
    LeadsTo (skipInto stack i) stack rest := by
  have left := Input.rest_skipSpace blank (ends_cons (by decide) _) h
  have behind := Input.rest_next_of_rest left
  obtain ⟨c, tail, first, -, noBrace⟩ := opens.rest_skipSpace behind
  rw [skipInto_object left first, if_neg noBrace]
  exact inside stack _ rest behind

end Values

/-- **Skipping gets through every phrase of the grammar.** -/
theorem Grammar.skipped {p : Phrase} {text : List Char}
    (h : Grammar (fun _ body => Passable body) p text) : Skipped p text := by
  induction h with
  | null =>
    intro stack i gap rest blank here ends
    exact leadsTo_atom .null blank ends here
  | bool b =>
    intro stack i gap rest blank here ends
    exact leadsTo_atom (.bool b) blank ends here
  | number isNumber =>
    intro stack i gap rest blank here ends
    exact leadsTo_atom (.number isNumber) blank ends here
  | string passable =>
    intro stack i gap rest blank here ends
    exact leadsTo_atom (.string passable) blank ends here
  | noItems blank' =>
    intro stack i gap rest blank here ends
    exact leadsTo_emptyList blank blank' (by simpa using here)
  | noMembers blank' =>
    intro stack i gap rest blank here ends
    exact leadsTo_emptyObject blank blank' (by simpa using here)
  | array inside ih =>
    intro stack i gap rest blank here ends
    exact ih.list inside.opens blank (by simpa using here)
  | object inside ih =>
    intro stack i gap rest blank here ends
    exact ih.object inside.opens blank (by simpa using here)
  | item blank value blank' ih =>
    intro stack i rest here ends
    refine ⟨_, blank', ih stack i _ _ blank ?_ (blank'.numberEnds ends)⟩
    simpa using here
  | member item keyed ih =>
    intro stack i rest here ends
    obtain ⟨k, passed, after⟩ := skipKey_passes keyed here
    rw [passed]
    exact ih stack k rest after ends
  | lastItem last ih =>
    intro stack i rest here
    exact (ih (.list :: stack) i _ here (ends_cons (by decide) _)).closing
  | lastMember last ih =>
    intro stack i rest here
    exact (ih (.object :: stack) i _ here (ends_cons (by decide) _)).closing
  | moreItems first more ih ih' =>
    intro stack i rest here
    rw [List.append_assoc] at here
    obtain ⟨k, behind, eq⟩ := (ih (.list :: stack) i _ here (ends_cons (by decide) _)).comma
    rw [eq]
    exact ih' stack k rest behind
  | moreMembers first more ih ih' =>
    intro stack i rest here
    rw [List.append_assoc] at here
    obtain ⟨k, behind, eq⟩ := (ih (.object :: stack) i _ here (ends_cons (by decide) _)).comma
    rw [eq]
    exact ih' stack k rest behind

/-- **A well-formed value is passed over**, and nothing behind it but blanks. -/
theorem skipValue_passes {j : Json} {text : List Char}
    (h : Grammar (fun _ body => Passable body) (.item j) text) (here : i.rest = text ++ rest)
    (ends : NumberEnds rest) : ∃ gap, Blank gap ∧ Passes (skipValue i) (gap ++ rest) := by
  obtain ⟨gap, blank, k, after, eq⟩ := h.skipped [] i rest here ends
  refine ⟨gap, blank, k, ?_, after⟩
  rw [skipValue, eq, skipOut]

end Json

end Lexis
