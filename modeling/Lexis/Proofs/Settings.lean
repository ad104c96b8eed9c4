import Lexis.Dialect.Reading
import Lexis.Proofs.Json.Phrases

/-!
# Reading settings

The value of a field is read from every text that denotes its JSON form
(`Dialect.readSetting_gives`): whatever blanks stand in it, and whichever escapes
its strings are spelled with.  Each kind of value has a lemma of its own, and the
strings of a list are read one after the other by induction (`Dialect.readTextsOnto_gives`).
-/

namespace Lexis

theorem EscapeMode.ofKey?_key (mode : EscapeMode) : EscapeMode.ofKey? mode.key = some mode := by
  cases mode <;> decide

namespace Dialect

open Json

variable {i : Input} {text rest : List Char}

/-! ### Values of fields -/

theorem readText_gives {s : String} (expected : String)
    (h : Grammar Meant (.item (.string s)) text) (here : i.rest = text ++ rest) :
    GivesNear (readText expected i) s rest := by
  cases h with
  | item blank value blank' =>
    cases value with
    | string meant =>
      simp only [List.cons_append, List.append_assoc] at here
      have quote := Input.rest_skipSpace blank (ends_cons (by decide) _) here
      refine ⟨_, blank', ?_⟩
      simp only [readText, Input.peek_of_rest quote, if_pos]
      exact readString_gives meant (Input.rest_next_of_rest quote)

theorem readText_skipSpace (expected : String) (i : Input) :
    readText expected i.skipSpace = readText expected i := by
  rw [readText, readText, i.skipSpace_skipSpace]

theorem readChar_gives {c : Char} (h : Grammar Meant (.item (.string c.toString)) text)
    (here : i.rest = text ++ rest) : GivesNear (readChar i) c rest := by
  obtain ⟨gap, blank, k, read, left⟩ := readText_gives "a character" h here
  refine ⟨gap, blank, k, ?_, left⟩
  simp [readChar, read, bind, Except.bind]

theorem readBool_gives {b : Bool} (h : Grammar Meant (.item (.bool b)) text)
    (here : i.rest = text ++ rest) : GivesNear (readBool i) b rest := by
  cases h with
  | item blank value blank' =>
    cases value with
    | bool =>
      rw [List.append_assoc, List.append_assoc] at here
      refine ⟨_, blank', ?_⟩
      cases b with
      | true =>
        have word := Input.rest_skipSpace blank (ends_cons (by decide) _) here
        simp only [readBool, Input.peek_of_rest word, if_pos]
        exact (readWord_passes "true".toList word).map true
      | false =>
        have word := Input.rest_skipSpace blank (ends_cons (by decide) _) here
        simp only [readBool, Input.peek_of_rest word]
        exact (readWord_passes "false".toList word).map false

theorem readMode_gives {mode : EscapeMode} (h : Grammar Meant (.item (.string mode.key)) text)
    (here : i.rest = text ++ rest) : GivesNear (readMode i) mode rest := by
  cases h with
  | item blank value blank' =>
    cases value with
    | string meant =>
      simp only [List.cons_append, List.append_assoc] at here
      have quote := Input.rest_skipSpace blank (ends_cons (by decide) _) here
      obtain ⟨k, read, left⟩ := readString_gives meant (Input.rest_next_of_rest quote)
      refine ⟨_, blank', k, ?_, left⟩
      simp [readMode, Input.peek_of_rest quote, readModeName, read, EscapeMode.ofKey?_key, bind,
        Except.bind]

/-! ### Lists of strings -/

theorem readTextsOnto_end {read : List String} {k : Input}
    (ended : nextItem read.isEmpty i = .ok (false, k)) :
    readTextsOnto read i = .ok (read.reverse, k.next) := by
  rw [readTextsOnto]
  split
  · next failed => simp [ended] at failed
  · next found =>
    obtain ⟨-, rfl⟩ := Prod.mk.inj (Except.ok.inj (found.symm.trans ended))
    rfl
  · next found => simp [ended] at found

theorem readTextsOnto_text {read : List String} {k m : Input} {s : String}
    (more : nextItem read.isEmpty i = .ok (true, k)) (text : readText "a string" k = .ok (s, m)) :
    readTextsOnto read i = readTextsOnto (s :: read) m := by
  rw [readTextsOnto]
  split
  · next failed => simp [more] at failed
  · next found => simp [more] at found
  · next found =>
    obtain ⟨-, rfl⟩ := Prod.mk.inj (Except.ok.inj (found.symm.trans more))
    split
    · next failed => simp [text] at failed
    · next found =>
      obtain ⟨rfl, rfl⟩ := Prod.mk.inj (Except.ok.inj (found.symm.trans text))
      rfl

/-- **The strings of a list are read in their order**, behind those read before. -/
theorem readTextsOnto_gives {words read : List String} {lead : List Char} (nonempty : words ≠ [])
    (h : Grammar Meant (.items (words.map .string)) text) (leads : Leads read.isEmpty lead)
    (here : i.rest = lead ++ (text ++ ']' :: rest)) :
    Gives (readTextsOnto read i) (read.reverse ++ words) rest := by
  induction words generalizing text read lead i with
  | nil => exact absurd rfl nonempty
  | cons word words ih =>
    -- Reading one string leaves the strings behind it, in front of which a comma stands.
    have first {t behind : List Char} (item : Grammar Meant (.item (.string word)) t)
        (here : i.rest = lead ++ (t ++ behind)) : ∃ gap m, Blank gap ∧ m.rest = gap ++ behind ∧
          readTextsOnto read i = readTextsOnto (word :: read) m := by
      obtain ⟨k, left, more⟩ := nextItem_eq item.opens leads here
      obtain ⟨gap, blank, m, taken, left'⟩ := readText_gives "a string" item left
      rw [← readText_skipSpace] at taken
      exact ⟨gap, m, blank, left', readTextsOnto_text more taken⟩
    cases words with
    | nil =>
      cases h with
      | lastItem item =>
        obtain ⟨gap, m, blank, left, eq⟩ := first item here
        obtain ⟨k, ended, left'⟩ := nextItem_end (word :: read).isEmpty blank left
        rw [eq, readTextsOnto_end ended, List.reverse_cons]
        exact ⟨k.next, rfl, Input.rest_next_of_rest left'⟩
      | moreItems _ none => cases none
    | cons word' words =>
      cases h with
      | moreItems item behind =>
        rw [List.append_assoc] at here
        obtain ⟨gap, m, blank, left, eq⟩ := first item here
        have gives : Gives (readTextsOnto (word :: read) m) _ rest :=
          ih (by simp) behind (.later blank) (by simpa using left)
        rw [eq]
        simpa using gives

theorem readTexts_gives {words : List String}
    (h : Grammar Meant (.item (.array (words.map .string))) text) (here : i.rest = text ++ rest) :
    GivesNear (readTexts i) words rest := by
  generalize strings : words.map Json.string = js at h
  cases h with
  | item blank value blank' =>
    refine ⟨_, blank', ?_⟩
    rw [List.append_assoc, List.append_assoc] at here
    have bracket := Input.rest_skipSpace blank (value.noBlank _) here
    cases value with
    | noItems blankInside =>
      obtain rfl : words = [] := by simpa using strings
      simp only [List.cons_append, List.append_assoc] at bracket
      obtain ⟨k, ended, left⟩ := nextItem_end ([] : List String).isEmpty blankInside
        (Input.rest_next_of_rest bracket)
      simp only [readTexts, Input.peek_of_rest bracket, if_pos, readTextsOnto_end ended]
      exact ⟨k.next, rfl, Input.rest_next_of_rest left⟩
    | array inside =>
      subst strings
      simp only [List.cons_append, List.append_assoc] at bracket
      have nonempty : words ≠ [] := by
        rintro rfl
        cases inside
      simp only [readTexts, Input.peek_of_rest bracket, if_pos]
      exact readTextsOnto_gives nonempty inside .first (Input.rest_next_of_rest bracket)

/-! ### Settings -/

/-- **The value of a field is read back** from what denotes it. -/
theorem readSetting_gives {s : Setting} (h : Grammar Meant (.item s.toJson) text)
    (here : i.rest = text ++ rest) : GivesNear (readSetting i s.field) s rest := by
  cases s with
  | keywords words => exact (readTexts_gives h here).map Setting.keywords
  | punctuation chars => exact (readText_gives _ h here).map Setting.punctuation
  | operators chars => exact (readText_gives _ h here).map Setting.operators
  | stringDelimiter c => exact (readChar_gives h here).map Setting.stringDelimiter
  | commentMarker c => exact (readChar_gives h here).map Setting.commentMarker
  | escapeMode mode => exact (readMode_gives h here).map Setting.escapeMode
  | strictStrings strict => exact (readBool_gives h here).map Setting.strictStrings

end Dialect

end Lexis
