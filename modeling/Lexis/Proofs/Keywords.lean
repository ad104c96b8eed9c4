import Lexis.Proofs.Correspondence
import Lexis.Proofs.Variants
import Mathlib.Data.List.Forall2

/-!
# Keywords

The keywords of a dialect are asked for in one place only, and late: a word is read to
its end, and then it is looked up.  So they decide nothing but what a word is called.

* **Relabelling** (`Token.relabel`) gives each word the kind that a list of keywords
  gives it.  What is a lexeme in one dialect is the same lexeme in a dialect with other
  keywords, relabelled (`Lexeme.relabel`), and neither gaps nor faults depend on the
  keywords.  Hence dialects that differ in their keywords correspond
  (`Dialect.recasts_relabel`).
* **Entries that are no words** (`isWord`) are never found when a word is looked up.
  Without them a list relabels every lexeme as it did (`Lexeme.relabel_onlyWords`), so the
  dialect corresponds to itself without them, token by token the same.

The main statement is `tokenize_keywords`.
-/

namespace Lexis

/-- Whether a text is a word: not empty, and of identifier characters alone. -/
def isWord (text : String) : Bool := text.toList ≠ [] ∧ text.toList.all isIdentifierChar

namespace Token

/-- A word with the kind that the keywords `ks` give it; any other token as it is. -/
def relabel (ks : List String) : Token → Token
  | keyword x | identifier x => if x ∈ ks then keyword x else identifier x
  | t => t

/-- The tokens are equal, or the same word as a keyword and as an identifier. -/
def SameUpToKeyword (t u : Token) : Prop :=
  t = u ∨ ∃ x, t = keyword x ∧ u = identifier x ∨ t = identifier x ∧ u = keyword x

theorem sameUpToKeyword_relabel (ks : List String) (t : Token) :
    t.SameUpToKeyword (t.relabel ks) := by
  cases t with
  | keyword x =>
    by_cases listed : x ∈ ks
    · exact Or.inl (if_pos listed).symm
    · exact Or.inr ⟨x, Or.inl ⟨rfl, if_neg listed⟩⟩
  | identifier x =>
    by_cases listed : x ∈ ks
    · exact Or.inr ⟨x, Or.inr ⟨rfl, if_pos listed⟩⟩
    · exact Or.inl (if_neg listed).symm
  | number | operator | punctuation | string => exact Or.inl rfl

end Token

variable {d : Dialect} {ks ks' : List String} {lexeme text after : List Char} {t : Token}

/-! ### Lexemes and faults -/

theorem Dialect.sameClasses_keywords (d : Dialect) (ks ks' : List String) :
    { d with keywords := ks }.SameClasses { d with keywords := ks' } := ⟨rfl, rfl, rfl, rfl⟩

/-- The words of a list without the entries that are none. -/
theorem mem_onlyWords {x : String} (word : isWord x = true) : x ∈ ks.filter isWord ↔ x ∈ ks := by
  simp [List.mem_filter, word]

theorem isWord_ofList {c : Char} {word : List Char} (starts : d.Starts .identStart c)
    (areWordChars : ∀ x ∈ word, isIdentifierChar x = true) :
    isWord (String.ofList (c :: word)) = true := by
  have all : ∀ x ∈ c :: word, isIdentifierChar x = true :=
    List.forall_mem_cons.mpr ⟨starts.claimed, areWordChars⟩
  simpa [isWord] using all

/-- **Other keywords relabel a lexeme**, and do nothing else to it. -/
theorem Lexeme.relabel (h : Lexeme { d with keywords := ks } lexeme after t) :
    Lexeme { d with keywords := ks' } lexeme after (t.relabel ks') := by
  have same := d.sameClasses_keywords ks ks'
  cases h with
  | closedString starts canClose isBody =>
    exact .closedString (starts.congr same) canClose isBody
  | openString starts lenient isBody => exact .openString (starts.congr same) lenient isBody
  | whole starts areDigits ends => exact .whole (starts.congr same) areDigits ends
  | pointed starts areDigits fractionDigits ends =>
    exact .pointed (starts.congr same) areDigits fractionDigits ends
  | @keyword c word after starts isWord ends | @identifier c word after starts isWord ends =>
    by_cases listed : String.ofList (c :: word) ∈ ks'
    · rw [Token.relabel, if_pos listed]
      exact .keyword (starts.congr same) isWord ends listed
    · rw [Token.relabel, if_neg listed]
      exact .identifier (starts.congr same) isWord ends listed
  | punctuation starts => exact .punctuation (starts.congr same)
  | operator starts areSigns ends => exact .operator (starts.congr same) areSigns ends

/-- A lexeme is what the keywords of its dialect make of it. -/
theorem Lexeme.relabel_eq_self (h : Lexeme d lexeme after t) : t.relabel d.keywords = t := by
  cases h with
  | keyword starts isWord ends listed => exact if_pos listed
  | identifier starts isWord ends unlisted => exact if_neg unlisted
  | closedString | openString | whole | pointed | punctuation | operator => rfl

/-- **Entries that are no words** label no lexeme. -/
theorem Lexeme.relabel_onlyWords (h : Lexeme d lexeme after t) :
    t.relabel (ks.filter isWord) = t.relabel ks := by
  cases h with
  | keyword starts isWord | identifier starts isWord =>
    have word := isWord_ofList starts isWord
    simp only [Token.relabel, mem_onlyWords word]
  | closedString | openString | whole | pointed | punctuation | operator => rfl

/-! ### Dialects with the same lexemes -/

/-- The lexemes of `d` are those of `d'`, but the token `t` of one becomes `f t`; and
faults are the same. -/
structure Dialect.Recasts (f : Token → Token) (d d' : Dialect) : Prop where
  same : d.SameClasses d'
  strict : d'.strictStrings = d.strictStrings
  lexeme : ∀ {lexeme after : List Char} {t : Token}, Lexeme d lexeme after t →
    Lexeme d' lexeme after (f t)

namespace Dialect.Recasts

variable {d' : Dialect} {f : Token → Token}

/-- **A scan finds the same**, recast. -/
theorem scans (h : Recasts f d d') {passed after : List Char} {found : Found}
    (found_d : Scans d passed after found) : Scans d' passed after (found.map (Option.map f)) := by
  cases found_d with
  | behind isGap finds =>
    refine .behind (isGap.congr h.same) ?_
    cases finds with
    | ended => exact .ended
    | token isLexeme => exact .token (h.lexeme isLexeme)
    | fault isFault => exact .fault (isFault.congr h.same h.strict)

/-- Lexers at the same place of a text correspond. -/
def correspondence (h : Recasts f d d') : Correspondence d d' where
  cursors := Eq
  translation := ⟨f, id⟩
  scan := by
    rintro c _ rfl log log'
    obtain ⟨passed, after, found, rest_eq, scans⟩ := Lexer.exists_scans d c
    have here := Lexer.scansTo_scanFrom scans log rest_eq
    have there := Lexer.scansTo_scanFrom (h.scans scans) log' rest_eq
    have cursor := here.cursor.trans there.cursor.symm
    refine ⟨?_, cursor⟩
    rw [there.reply, here.reply, cursor]
    rcases found with _ | _ | _ <;> rfl

end Dialect.Recasts

/-- **Other keywords relabel.** -/
theorem Dialect.recasts_relabel (d : Dialect) (ks ks' : List String) :
    Recasts (Token.relabel ks') { d with keywords := ks } { d with keywords := ks' } :=
  ⟨d.sameClasses_keywords ks ks', rfl, Lexeme.relabel⟩

/-- **Entries that are no words** may be left out. -/
theorem Dialect.recasts_onlyWords (d : Dialect) (ks : List String) :
    Recasts id { d with keywords := ks } { d with keywords := ks.filter isWord } where
  same := d.sameClasses_keywords ks _
  strict := rfl
  lexeme h := by
    have relabelled : Lexeme { d with keywords := ks.filter isWord } _ _ _ := h.relabel
    rwa [h.relabel_onlyWords, h.relabel_eq_self] at relabelled

/-! ### Tokenizing -/

/-- The words among the tokens are keywords exactly if they are on the list. -/
def LabelledBy (ks : List String) (ts : List Token) : Prop :=
  ∀ x, (Token.keyword x ∈ ts → x ∈ ks) ∧ (Token.identifier x ∈ ts → x ∉ ks)

theorem labelledBy_of_tokenize {source : String} {ts : List Token}
    (lexes : tokenize d source = .ok ts) : LabelledBy d.keywords ts := by
  have lexemes := (tokenize_eq_ok_iff_completes.mp lexes).exists_lexeme
  intro x
  constructor
  · intro mem
    obtain ⟨lexeme, behind, isLexeme⟩ := lexemes _ mem
    cases isLexeme with
    | keyword _ _ _ listed => exact listed
  · intro mem
    obtain ⟨lexeme, behind, isLexeme⟩ := lexemes _ mem
    cases isLexeme with
    | identifier _ _ _ unlisted => exact unlisted

/-- **Keywords only relabel.**  Of two dialects that differ in nothing but their keywords,
either both fail with the same error, or both succeed.  Then their tokens are the same
position by position, but a word may be a keyword in the one and an identifier in the
other; in each of the two it is a keyword exactly if it is on the list.

Entries of the list that are no words have no influence on anything that is done with a
lexer: without them, every session goes as it did. -/
theorem tokenize_keywords (d : Dialect) (ks ks' : List String) (source : String) :
    let one := { d with keywords := ks }
    let other := { d with keywords := ks' }
    ((∃ e, tokenize one source = .error e ∧ tokenize other source = .error e) ∨
      ∃ ts us, tokenize one source = .ok ts ∧ tokenize other source = .ok us ∧
        List.Forall₂ Token.SameUpToKeyword ts us ∧ LabelledBy ks ts ∧ LabelledBy ks' us) ∧
    ∀ ops, (Lexer.session { d with keywords := ks.filter isWord } source ops).1 =
      (Lexer.session one source ops).1 := by
  intro one other
  constructor
  · have relabelled : tokenize other source = Translation.tokens _ (tokenize one source) :=
      (d.recasts_relabel ks ks').correspondence.tokenize_eq rfl
    rcases lexes : tokenize one source with e | ts
    · rw [lexes] at relabelled
      exact Or.inl ⟨e, rfl, relabelled⟩
    · rw [lexes] at relabelled
      refine Or.inr ⟨ts, _, rfl, relabelled, ?_, labelledBy_of_tokenize lexes,
        labelledBy_of_tokenize relabelled⟩
      apply List.forall₂_map_right_iff.mpr
      apply List.forall₂_same.mpr
      intro t _
      exact t.sameUpToKeyword_relabel ks'
  · intro ops
    have same : (Lexer.session _ source ops).1 = List.map Translation.same.result _ :=
      (d.recasts_onlyWords ks).correspondence.session_eq rfl ops
    rw [same, Translation.same_result, List.map_id]

/-- A list with an operator, an empty entry and a word that is on it twice. -/
example :
    tokenize { Dialect.standard with keywords := ["=>", "", "x", "x"] } "if x => 'x'" =
      .ok [.identifier "if", .keyword "x", .operator "=>", .string "x"] := by
  decide +kernel

end Lexis
