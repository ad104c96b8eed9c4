import Lexis.Json.Strings
import Lexis.Proofs.Grammar
import Lexis.Text.Quoted

/-!
# Quoted text reads back

A quoted text is on one line, and no other text is quoted in the same way
(`Quoted.text_injective`, `Quoted.feed_notMem_text`).

`Quoted.unescape?` reads the character that an escaped text starts with, whichever of
the ways it is written in, and finds where the next one starts.  That is why escaped
characters cannot run into each other: a code point ends at its brace, and every other
escape has two characters.
-/

namespace Lexis

/-! ### Hexadecimal digits -/

namespace Json

theorem hexValues?_concat (digits : List Char) (c : Char) :
    hexValues? (digits ++ [c]) =
      (hexValues? digits).bind fun n => (hexValue? c).map (16 * n + ·) := by
  simp [hexValues?, List.foldlM_append]

theorem hexValue?_digitChar {n : Nat} (small : n < 16) :
    hexValue? (Nat.digitChar n) = some n := by
  have each : ∀ n < 16, hexValue? (Nat.digitChar n) = some n := by decide
  exact each n small

/-- The hexadecimal digits of a number denote it. -/
theorem hexValues?_toDigits (n : Nat) : hexValues? (Nat.toDigits 16 n) = some n := by
  induction n using Nat.strongRecOn with
  | _ n ih =>
    rw [Nat.toDigits_eq_if (by decide)]
    by_cases single : n < 16
    · rw [if_pos single, ← List.nil_append [n.digitChar], hexValues?_concat,
        hexValue?_digitChar single]
      simp [hexValues?]
    · have digit : n % 16 < 16 := Nat.mod_lt n (by decide)
      rw [if_neg single, hexValues?_concat, ih (n / 16) (by omega), hexValue?_digitChar digit]
      simp [Nat.div_add_mod]

end Json

/-- What is no hexadecimal digit is not among those of a number. -/
theorem notMem_toDigits {c : Char} (noDigit : ∀ n < 16, Nat.digitChar n ≠ c) (n : Nat) :
    c ∉ Nat.toDigits 16 n := by
  induction n using Nat.strongRecOn with
  | _ n ih =>
    rw [Nat.toDigits_eq_if (by decide)]
    by_cases single : n < 16
    · rw [if_pos single, List.mem_singleton]
      exact (noDigit n single).symm
    · have digit : n % 16 < 16 := Nat.mod_lt n (by decide)
      rw [if_neg single, List.mem_append, List.mem_singleton, not_or]
      exact ⟨ih (n / 16) (by omega), (noDigit _ digit).symm⟩

namespace Quoted

/-! ### Characters -/

/-- Reads the first character of an escaped text. -/
def unescape? : List Char → Option (Char × List Char)
  | '\\' :: 'u' :: '\x7b' :: text =>
    (Json.hexValues? (text.takeWhile (· ≠ '\x7d'))).map fun n =>
      (Char.ofNat n, (text.dropWhile (· ≠ '\x7d')).drop 1)
  | '\\' :: 't' :: text => some ('\t', text)
  | '\\' :: 'r' :: text => some ('\r', text)
  | '\\' :: 'n' :: text => some ('\n', text)
  | '\\' :: '0' :: text => some ('\x00', text)
  | '\\' :: c :: text => some (c, text)
  | ['\\'] | [] => none
  | c :: text => some (c, text)

/-- A code point is read up to its closing brace. -/
theorem unescape?_codePoint (c : Char) (rest : List Char) :
    unescape? (codePoint c ++ rest) = some (c, rest) := by
  have brace : Ends (· ≠ '\x7d') ('\x7d' :: rest) := ends_cons (by decide) rest
  have inside : ∀ x ∈ Nat.toDigits 16 c.toNat, decide (x ≠ '\x7d') = true := by
    intro x mem
    have noBrace : x ≠ '\x7d' := by
      rintro rfl
      exact notMem_toDigits (by decide) _ mem
    exact decide_eq_true noBrace
  have split : codePoint c ++ rest =
      '\\' :: 'u' :: '\x7b' :: (Nat.toDigits 16 c.toNat ++ '\x7d' :: rest) := by
    simp [codePoint]
  rw [split, unescape?, takeWhile_run inside brace, dropWhile_run inside brace,
    Json.hexValues?_toDigits]
  simp

theorem unescape?_plain {c : Char} (noBackslash : c ≠ '\\') (rest : List Char) :
    unescape? (c :: rest) = some (c, rest) := by
  unfold unescape?
  split <;> simp_all

/-- **A character is escaped in one of three ways**: by a backslash and a letter that stands
for it, by its code point, or not at all. -/
theorem escape_cases (c : Char) :
    (∃ letter, escape '"' c = ['\\', letter] ∧ letter ≠ '\n' ∧
      ∀ rest, unescape? ('\\' :: letter :: rest) = some (c, rest)) ∨
    escape '"' c = codePoint c ∨ (escape '"' c = [c] ∧ c ≠ '\\' ∧ c ≠ '\n') := by
  unfold escape
  split
  · next special =>
    simp only [Bool.or_eq_true, decide_eq_true_eq] at special
    rcases special with rfl | rfl <;> exact Or.inl ⟨_, rfl, by decide, fun rest => rfl⟩
  · next plain =>
    simp only [Bool.or_eq_true, decide_eq_true_eq, not_or] at plain
    split
    · next tab => exact Or.inl ⟨'t', rfl, by decide, fun rest => tab ▸ rfl⟩
    split
    · next carriage => exact Or.inl ⟨'r', rfl, by decide, fun rest => carriage ▸ rfl⟩
    split
    · next feed => exact Or.inl ⟨'n', rfl, by decide, fun rest => feed ▸ rfl⟩
    split
    · next null => exact Or.inl ⟨'0', rfl, by decide, fun rest => null ▸ rfl⟩
    split
    · exact Or.inr (Or.inl rfl)
    · next noFeed _ _ => exact Or.inr (Or.inr ⟨rfl, plain.2, noFeed⟩)

/-- **An escaped character reads back**, and what follows it is left. -/
theorem unescape?_escape (c : Char) (rest : List Char) :
    unescape? (escape '"' c ++ rest) = some (c, rest) := by
  rcases escape_cases c with ⟨letter, escaped, -, read⟩ | escaped | ⟨escaped, noBackslash, -⟩
  · rw [escaped]
    exact read rest
  · rw [escaped, unescape?_codePoint]
  · rw [escaped]
    exact unescape?_plain noBackslash rest

theorem feed_notMem_escape (c : Char) : '\n' ∉ escape '"' c := by
  rcases escape_cases c with ⟨letter, escaped, noFeed, -⟩ | escaped | ⟨escaped, -, noFeed⟩
  · simp [escaped, Ne.symm noFeed]
  · have digits : '\n' ∉ Nat.toDigits 16 c.toNat := notMem_toDigits (by decide) _
    simp [escaped, codePoint, digits]
  · simp [escaped, Ne.symm noFeed]

/-! ### Texts -/

/-- **Texts that are escaped alike are equal.** -/
theorem escape_injective {text text' : List Char}
    (same : text.flatMap (escape '"') = text'.flatMap (escape '"')) : text = text' := by
  -- Reading one character off both sides gives their heads and what is left of them.
  induction text generalizing text' with
  | nil =>
    cases text' with
    | nil => rfl
    | cons c' text' =>
      have read := congrArg unescape? same
      rw [List.flatMap_nil, List.flatMap_cons, unescape?_escape] at read
      cases read
  | cons c text ih =>
    have read := congrArg unescape? same
    rw [List.flatMap_cons, unescape?_escape] at read
    cases text' with
    | nil => cases read
    | cons c' text' =>
      rw [List.flatMap_cons, unescape?_escape] at read
      obtain ⟨heads, tails⟩ := Prod.mk.inj (Option.some.inj read)
      rw [heads, ih tails]

/-- **Texts that are quoted alike are equal.** -/
theorem text_injective {s s' : String} (same : text s = text s') : s = s' := by
  have inside : s.toList.flatMap (escape '"') = s'.toList.flatMap (escape '"') := by
    simpa [text] using congrArg String.toList same
  exact String.toList_inj.mp (escape_injective inside)

/-- **A quoted text is on one line.** -/
theorem feed_notMem_text (s : String) : '\n' ∉ (text s).toList := by
  have inside : '\n' ∉ s.toList.flatMap (escape '"') := by
    intro mem
    obtain ⟨c, -, escaped⟩ := List.mem_flatMap.mp mem
    exact feed_notMem_escape c escaped
  simp only [text, String.toList_ofList, List.cons_append, List.mem_cons, List.mem_append, not_or]
  exact ⟨by decide, inside, by decide, List.not_mem_nil⟩

end Quoted

end Lexis
