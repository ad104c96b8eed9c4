import Lexis.Json.Values
import Lexis.Proofs.Json.Phrases

/-!
# Reading any JSON text

`Json.read` reads a whole text into the value it denotes.  It is put together from
the readers of strings, words, items and keys that also read a dialect, and keeps
numbers as they are written, as a value does.

* **It reads every text that denotes a value** (`Grammar.parsed`, `read_of_denotes`).
  The number that bounds the recursion is the length of the text; each phrase needs no
  more than its own.
* **So a text denotes one value at most** (`Denotes.unique`).
-/

namespace Lexis

namespace Json

/-! ### The reader -/

mutual

/-- Reads a value, nested no deeper than the given number. -/
def parse : Nat → Input → Except Error (Json × Input)
  | 0, i => .error (i.errorSeen .endInValue)
  | n + 1, i =>
    let i := i.skipSpace
    match i.peek with
    | none => .error (i.errorSeen .endInValue)
    | some c =>
      if c = '[' then (parseItems n true i.next).map fun r => (.array r.1, r.2)
      else if c = '\x7b' then (parseMembers n true i.next).map fun r => (.object r.1, r.2)
      else if c = '"' then (readString i.next).map fun r => (.string r.1, r.2)
      else if c = 'n' then (readWord i "null".toList).map fun k => (.null, k)
      else if c = 't' then (readWord i "true".toList).map fun k => (.bool true, k)
      else if c = 'f' then (readWord i "false".toList).map fun k => (.bool false, k)
      else (skipNumber i).map fun k =>
        (.number (i.rest.take (i.rest.length - k.rest.length)), k)

/-- Reads the items of an array up to its bracket. -/
def parseItems : Nat → Bool → Input → Except Error (List Json × Input)
  | 0, _, i => .error (i.errorSeen .endInList)
  | n + 1, first, i =>
    match nextItem first i with
    | .error e => .error e
    | .ok (false, i) => .ok ([], i.next)
    | .ok (true, i) => (parse n i).bind fun r =>
      (parseItems n false r.2).map fun s => (r.1 :: s.1, s.2)

/-- Reads the members of an object up to its brace. -/
def parseMembers : Nat → Bool → Input → Except Error (List (String × Json) × Input)
  | 0, _, i => .error (i.errorSeen .endInObject)
  | n + 1, first, i =>
    match nextKey first i with
    | .error e => .error e
    | .ok (none, i) => .ok ([], i.next)
    | .ok (some key, i) => ((readColon i).bind (parse n)).bind fun r =>
      (parseMembers n false r.2).map fun s => ((key, r.1) :: s.1, s.2)

end

/-- **The value of a text.**  Nothing but blanks may come after it. -/
def read (text : String) : Except Error Json :=
  (parse text.toList.length (Input.ofText text)).bind fun r =>
    let i := r.2.skipSpace
    if i.peek.isSome then .error (i.errorNext .trailingCharacters) else .ok r.1

/-! ### One step of reading -/

section Steps

variable {n : Nat} {i k : Input} {first : Bool} {rest : List Char}

theorem parse_skipSpace (n : Nat) (i : Input) : parse (n + 1) i.skipSpace = parse (n + 1) i := by
  rw [parse, parse, i.skipSpace_skipSpace]

theorem parse_list {text : List Char} (here : i.skipSpace.rest = '[' :: text) :
    parse (n + 1) i =
      (parseItems n true i.skipSpace.next).map fun r => (.array r.1, r.2) := by
  simp only [parse, Input.peek_of_rest here, if_pos]

theorem parse_object {text : List Char} (here : i.skipSpace.rest = '\x7b' :: text) :
    parse (n + 1) i =
      (parseMembers n true i.skipSpace.next).map fun r => (.object r.1, r.2) := by
  simp [parse, Input.peek_of_rest here]

theorem parse_quote {text : List Char} (here : i.skipSpace.rest = '"' :: text) :
    parse (n + 1) i = (readString i.skipSpace.next).map fun r => (.string r.1, r.2) := by
  simp [parse, Input.peek_of_rest here]

theorem parse_null {text : List Char} (here : i.skipSpace.rest = 'n' :: text) :
    parse (n + 1) i = (readWord i.skipSpace "null".toList).map fun k => (.null, k) := by
  simp [parse, Input.peek_of_rest here]

theorem parse_true {text : List Char} (here : i.skipSpace.rest = 't' :: text) :
    parse (n + 1) i = (readWord i.skipSpace "true".toList).map fun k => (.bool true, k) := by
  simp [parse, Input.peek_of_rest here]

theorem parse_false {text : List Char} (here : i.skipSpace.rest = 'f' :: text) :
    parse (n + 1) i = (readWord i.skipSpace "false".toList).map fun k => (.bool false, k) := by
  simp [parse, Input.peek_of_rest here]

theorem parse_number {c : Char} {text : List Char} (here : i.skipSpace.rest = c :: text)
    (starts : (c = '-' || c.isDigit) = true) :
    parse (n + 1) i = (skipNumber i.skipSpace).map fun k =>
      (.number (i.skipSpace.rest.take (i.skipSpace.rest.length - k.rest.length)), k) := by
  simp only [parse, Input.peek_of_rest here, if_neg (ne_of_startsNumber starts '['),
    if_neg (ne_of_startsNumber starts '\x7b'), if_neg (ne_of_startsNumber starts '"'),
    if_neg (ne_of_startsNumber starts 'n'), if_neg (ne_of_startsNumber starts 't'),
    if_neg (ne_of_startsNumber starts 'f')]

theorem parseItems_end (ended : nextItem first i = .ok (false, k)) :
    parseItems (n + 1) first i = .ok ([], k.next) := by
  simp only [parseItems, ended]

theorem parseItems_more (more : nextItem first i = .ok (true, k)) :
    parseItems (n + 1) first i = (parse n k).bind fun r =>
      (parseItems n false r.2).map fun s => (r.1 :: s.1, s.2) := by
  simp only [parseItems, more]

theorem parseMembers_end (ended : nextKey first i = .ok (none, k)) :
    parseMembers (n + 1) first i = .ok ([], k.next) := by
  simp only [parseMembers, ended]

theorem parseMembers_more {key : String} (more : nextKey first i = .ok (some key, k)) :
    parseMembers (n + 1) first i = ((readColon k).bind (parse n)).bind fun r =>
      (parseMembers n false r.2).map fun s => ((key, r.1) :: s.1, s.2) := by
  simp only [parseMembers, more]

end Steps

/-! ### Every phrase is read -/

/-- **Reading gets through a phrase** and finds its value, if the number that bounds
the recursion is not less than the length of the phrase. -/
def Parsed : Phrase → List Char → Prop
  | .value j, text => ∀ (n : Nat) (i : Input) (gap rest : List Char), Blank gap →
      i.rest = gap ++ (text ++ rest) → NumberEnds rest → text.length ≤ n + 1 →
      Gives (parse (n + 1) i) j rest
  | .item j, text => ∀ (n : Nat) (i : Input) (rest : List Char), i.rest = text ++ rest →
      NumberEnds rest → text.length ≤ n + 1 → GivesNear (parse (n + 1) i) j rest
  | .member key j, text => ∀ (n : Nat) (first : Bool) (lead : List Char) (i : Input)
      (rest : List Char), Leads first lead → i.rest = lead ++ (text ++ rest) → NumberEnds rest →
      text.length ≤ n + 1 → ∃ k, nextKey first i = .ok (some key, k) ∧
        GivesNear ((readColon k).bind (parse (n + 1))) j rest
  | .items js, text => ∀ (n : Nat) (first : Bool) (lead : List Char) (i : Input)
      (rest : List Char), Leads first lead → i.rest = lead ++ (text ++ ']' :: rest) →
      text.length ≤ n → Gives (parseItems (n + 1) first i) js rest
  | .members ms, text => ∀ (n : Nat) (first : Bool) (lead : List Char) (i : Input)
      (rest : List Char), Leads first lead → i.rest = lead ++ (text ++ '\x7d' :: rest) →
      text.length ≤ n → Gives (parseMembers (n + 1) first i) ms rest

theorem Opens.exists_length {text : List Char} (opens : Opens text) {n : Nat}
    (enough : text.length ≤ n) : ∃ m, n = m + 1 := by
  obtain ⟨gap, c, tail, rfl, -⟩ := opens
  refine ⟨n - 1, ?_⟩
  simp only [List.length_append, List.length_cons] at enough
  omega

theorem Keyed.length_value {key : String} {value text : List Char} {strings}
    (keyed : Keyed strings key value text) : value.length ≤ text.length := by
  obtain ⟨-, -, -⟩ := keyed
  simp only [List.length_append, List.length_cons]
  omega

section Cases

variable {n : Nat} {i : Input} {first : Bool} {text gap lead rest : List Char}

/-- A number is kept as the text that was passed over. -/
theorem parse_numeric (isNumber : Numeric text) (blank : Blank gap)
    (here : i.rest = gap ++ (text ++ rest)) (ends : NumberEnds rest) :
    Gives (parse (n + 1) i) (.number text) rest := by
  obtain ⟨c, tail, rfl, starts⟩ := isNumber.head
  have left := Input.rest_skipSpace blank (ends_cons (isSpace_of_startsNumber starts) _) here
  obtain ⟨k, passed, after⟩ := skipNumber_passes isNumber ends left
  refine ⟨k, ?_, after⟩
  have taken : i.skipSpace.rest.take (i.skipSpace.rest.length - k.rest.length) = c :: tail := by
    have left : i.skipSpace.rest = c :: tail ++ rest := left
    rw [after, left, List.length_append, Nat.add_sub_cancel]
    exact List.take_left
  rw [parse_number left starts, passed, ← taken]
  rfl

/-- An item is read, then the items behind it. -/
theorem parseItems_gives {j : Json} {js : List Json} (opens : Opens text)
    (item : ∀ (i : Input) (rest : List Char), i.rest = text ++ rest → NumberEnds rest →
      GivesNear (parse (n + 1) i) j rest)
    (leads : Leads first lead) {behind : List Char} (here : i.rest = lead ++ (text ++ behind))
    (ends : NumberEnds behind)
    (more : ∀ (k : Input) (gap : List Char), Blank gap → k.rest = gap ++ behind →
      Gives (parseItems (n + 1) false k) js rest) :
    Gives (parseItems (n + 2) first i) (j :: js) rest := by
  obtain ⟨m, left, next⟩ := nextItem_eq opens leads here
  obtain ⟨gap, blank, k, read, after⟩ := item m behind left ends
  obtain ⟨e, behind, ended⟩ := more k gap blank after
  rw [parseItems_more next, parse_skipSpace, read]
  refine ⟨e, ?_, ended⟩
  show (parseItems (n + 1) false k).map _ = _
  rw [behind]
  rfl

theorem parseMembers_gives {key : String} {j : Json} {ms : List (String × Json)}
    {behind : List Char}
    (member : ∃ k, nextKey first i = .ok (some key, k) ∧
      GivesNear ((readColon k).bind (parse (n + 1))) j behind)
    (more : ∀ (k : Input) (gap : List Char), Blank gap → k.rest = gap ++ behind →
      Gives (parseMembers (n + 1) false k) ms rest) :
    Gives (parseMembers (n + 2) first i) ((key, j) :: ms) rest := by
  obtain ⟨m, next, gap, blank, k, read, after⟩ := member
  obtain ⟨e, behind, ended⟩ := more k gap blank after
  rw [parseMembers_more next, read]
  refine ⟨e, ?_, ended⟩
  show (parseMembers (n + 1) false k).map _ = _
  rw [behind]
  rfl

end Cases

/-- **Every phrase of the grammar is read.** -/
theorem Grammar.parsed {p : Phrase} {text : List Char} (h : Grammar Meant p text) :
    Parsed p text := by
  induction h with
  | null =>
    intro n i gap rest blank here _ _
    have left := Input.rest_skipSpace blank (ends_cons (by decide) _) here
    rw [parse_null left]
    exact (readWord_passes _ left).map Json.null
  | bool b =>
    intro n i gap rest blank here _ _
    cases b with
    | true =>
      have left := Input.rest_skipSpace blank (ends_cons (by decide) _) here
      rw [parse_true left]
      exact (readWord_passes _ left).map (Json.bool true)
    | false =>
      have left := Input.rest_skipSpace blank (ends_cons (by decide) _) here
      rw [parse_false left]
      exact (readWord_passes _ left).map (Json.bool false)
  | number isNumber =>
    intro n i gap rest blank here ends _
    exact parse_numeric isNumber blank here ends
  | string meant =>
    intro n i gap rest blank here _ _
    simp only [List.cons_append, List.append_assoc] at here
    have left := Input.rest_skipSpace blank (ends_cons (by decide) _) here
    rw [parse_quote left]
    exact (readString_gives meant (Input.rest_next_of_rest left)).map Json.string
  | noItems blank' =>
    intro n i gap rest blank here _ enough
    simp only [List.cons_append, List.append_assoc] at here
    have left := Input.rest_skipSpace blank (ends_cons (by decide) _) here
    obtain ⟨n, rfl⟩ : ∃ m, n = m + 1 := ⟨n - 1, by simp at enough; omega⟩
    obtain ⟨k, ended, after⟩ := nextItem_end true blank' (Input.rest_next_of_rest left)
    rw [parse_list left, parseItems_end ended]
    exact ⟨k.next, rfl, Input.rest_next_of_rest after⟩
  | noMembers blank' =>
    intro n i gap rest blank here _ enough
    simp only [List.cons_append, List.append_assoc] at here
    have left := Input.rest_skipSpace blank (ends_cons (by decide) _) here
    obtain ⟨n, rfl⟩ : ∃ m, n = m + 1 := ⟨n - 1, by simp at enough; omega⟩
    obtain ⟨k, ended, after⟩ := nextKey_end true blank' (Input.rest_next_of_rest left)
    rw [parse_object left, parseMembers_end ended]
    exact ⟨k.next, rfl, Input.rest_next_of_rest after⟩
  | array inside ih =>
    intro n i gap rest blank here _ enough
    simp only [List.cons_append, List.append_assoc] at here
    have left := Input.rest_skipSpace blank (ends_cons (by decide) _) here
    obtain ⟨n, rfl⟩ : ∃ m, n = m + 1 := ⟨n - 1, by simp at enough; omega⟩
    rw [parse_list left]
    exact (ih n true [] _ rest .first (Input.rest_next_of_rest left)
      (by simp at enough; omega)).map Json.array
  | object inside ih =>
    intro n i gap rest blank here _ enough
    simp only [List.cons_append, List.append_assoc] at here
    have left := Input.rest_skipSpace blank (ends_cons (by decide) _) here
    obtain ⟨n, rfl⟩ : ∃ m, n = m + 1 := ⟨n - 1, by simp at enough; omega⟩
    rw [parse_object left]
    exact (ih n true [] _ rest .first (Input.rest_next_of_rest left)
      (by simp at enough; omega)).map Json.object
  | item blank value blank' ih =>
    intro n i rest here ends enough
    refine ⟨_, blank', ih n i _ _ blank ?_ (blank'.numberEnds ends) ?_⟩
    · simpa using here
    · simp only [List.length_append] at enough
      omega
  | member item keyed ih =>
    intro n first lead i rest leads here ends enough
    obtain ⟨gap, blank, k, found, colon⟩ := nextKey_gives keyed leads here
    obtain ⟨m, parted, value⟩ := readColon_passes blank colon
    refine ⟨k, found, ?_⟩
    rw [parted]
    exact ih n m rest value ends (Nat.le_trans keyed.length_value enough)
  | lastItem last ih =>
    intro n first lead i rest leads here enough
    obtain ⟨n, rfl⟩ := last.opens.exists_length enough
    refine parseItems_gives last.opens (fun i rest here ends => ih n i rest here ends enough)
      leads here (ends_cons (by decide) _) ?_
    intro k gap blank after
    obtain ⟨e, ended, left⟩ := nextItem_end false blank after
    rw [parseItems_end ended]
    exact ⟨e.next, rfl, Input.rest_next_of_rest left⟩
  | moreItems item more ih ih' =>
    intro n first lead i rest leads here enough
    simp only [List.length_append, List.length_cons] at enough
    obtain ⟨n, rfl⟩ : ∃ m, n = m + 1 := ⟨n - 1, by omega⟩
    rw [List.append_assoc] at here
    refine parseItems_gives item.opens
      (fun i rest here ends => ih n i rest here ends (by omega)) leads here
      (ends_cons (by decide) _) ?_
    intro k gap blank after
    exact ih' n false _ k rest (.later blank) (by simpa using after) (by omega)
  | lastMember last ih =>
    intro n first lead i rest leads here enough
    obtain ⟨n, rfl⟩ := last.opens.exists_length enough
    refine parseMembers_gives (ih n first lead i _ leads here (ends_cons (by decide) _) enough) ?_
    intro k gap blank after
    obtain ⟨e, ended, left⟩ := nextKey_end false blank after
    rw [parseMembers_end ended]
    exact ⟨e.next, rfl, Input.rest_next_of_rest left⟩
  | moreMembers member more ih ih' =>
    intro n first lead i rest leads here enough
    simp only [List.length_append, List.length_cons] at enough
    obtain ⟨n, rfl⟩ : ∃ m, n = m + 1 := ⟨n - 1, by omega⟩
    rw [List.append_assoc] at here
    refine parseMembers_gives
      (ih n first lead i _ leads here (ends_cons (by decide) _) (by omega)) ?_
    intro k gap blank after
    exact ih' n false _ k rest (.later blank) (by simpa using after) (by omega)

/-- **Every text that denotes a value is read as that value**, with any blanks around
it. -/
theorem read_of_denotes {j : Json} {front text back : List Char} (blank : Blank front)
    (denotes : Denotes j text) (blank' : Blank back) :
    read (String.ofList (front ++ (text ++ back))) = .ok j := by
  have here : (Input.ofText (String.ofList (front ++ (text ++ back)))).rest =
      front ++ (text ++ back) := String.toList_ofList
  have ends : NumberEnds back := by simpa using blank'.numberEnds (ends_nil _)
  obtain ⟨n, bound⟩ := denotes.opens.exists_length (n := (front ++ (text ++ back)).length)
    (by simp only [List.length_append]; omega)
  obtain ⟨k, parsed, left⟩ := denotes.parsed n _ front back blank here ends
    (by simp only [List.length_append] at bound; omega)
  rw [read, String.toList_ofList, bound, parsed]
  simp [Except.bind, Input.peek_skipSpace blank' left]

/-- **A text denotes one value at most.** -/
theorem Denotes.unique {j j' : Json} {text : List Char} (h : Denotes j text)
    (h' : Denotes j' text) : j = j' := by
  have first := read_of_denotes blank_nil h blank_nil
  have second := read_of_denotes blank_nil h' blank_nil
  exact Except.ok.inj (first.symm.trans second)

end Json

end Lexis
