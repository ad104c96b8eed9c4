import Lexis.Proofs.Items

/-!
# Cutting a text

`Cut d text slices last` cuts a text into slices, each a gap and a lexeme, and a
last gap.  Nothing is lost and nothing is used twice, since the text of the
judgement is built from the parts.

The main statement, `tokenize_eq_ok_iff`, is that tokenizing is cutting: a text
has the tokens `ts` exactly if it can be cut into lexemes that are these tokens,
and then it can be cut in one way only.  It holds of every dialect, also where
the sets of characters overlap or contain blanks.
-/

namespace Lexis

/-- A lexeme, the gap in front of it, and the token that it is. -/
structure Slice where
  gap : List Char
  lexeme : List Char
  token : Token

/-- `Cut d text slices last`: the text is made up of the slices and a last
gap. -/
inductive Cut (d : Dialect) : List Char → List Slice → List Char → Prop
  | last {gap : List Char} (isGap : Gap d gap []) : Cut d gap [] gap
  | slice {gap lexeme after last : List Char} {t : Token} {slices : List Slice}
      (isGap : Gap d gap (lexeme ++ after)) (isLexeme : Lexeme d lexeme after t)
      (more : Cut d after slices last) :
      Cut d (gap ++ (lexeme ++ after)) (⟨gap, lexeme, t⟩ :: slices) last

namespace Cut

variable {d : Dialect}

/-- The parts of a cut are the text. -/
theorem text_eq {text last : List Char} {slices : List Slice} (h : Cut d text slices last) :
    text = slices.flatMap (fun s => s.gap ++ s.lexeme) ++ last := by
  induction h with
  | last => rfl
  | slice isGap isLexeme more ih =>
    rw [List.flatMap_cons, List.append_assoc, List.append_assoc, ← ih]

/-- A gap that is all that is left holds no lexeme. -/
theorem no_lexeme {whole gap lexeme after : List Char} {t : Token} (isWhole : Gap d whole [])
    (isGap : Gap d gap (lexeme ++ after)) (isLexeme : Lexeme d lexeme after t) :
    whole ≠ gap ++ (lexeme ++ after) := by
  intro same
  rw [← List.append_nil whole] at same
  obtain ⟨-, behind⟩ := isWhole.unique isGap (noGap_nil d) isLexeme.noGap same
  exact isLexeme.ne_nil (List.append_eq_nil_iff.mp behind.symm).1

/-- **A text is cut in one way.** -/
theorem unique {text text' last last' : List Char} {slices slices' : List Slice}
    (h : Cut d text slices last) (h' : Cut d text' slices' last') (same : text = text') :
    slices = slices' ∧ last = last' := by
  induction h generalizing text' slices' last' with
  | last isGap =>
    cases h' with
    | last => exact ⟨rfl, same⟩
    | slice isGap' isLexeme' => exact absurd same (no_lexeme isGap isGap' isLexeme')
  | slice isGap isLexeme more ih =>
    cases h' with
    | last isGap' => exact absurd same.symm (no_lexeme isGap' isGap isLexeme)
    | slice isGap' isLexeme' more' =>
      -- The gaps agree, then the lexemes, and then the texts left to cut.
      obtain ⟨rfl, behind⟩ := isGap.unique isGap' isLexeme.noGap isLexeme'.noGap same
      obtain ⟨rfl, rfl, tokens⟩ := (Finds.token isLexeme).unique (.token isLexeme') behind
      obtain ⟨rfl, rfl⟩ := ih more' rfl
      cases tokens
      exact ⟨rfl, rfl⟩

/-- What a text can be cut into, a lexer in front of it yields. -/
theorem items_eq {text last : List Char} {slices : List Slice} (h : Cut d text slices last)
    {l : Lexer} (plain : l.Plain) (dialect : l.dialect = d) (rest_eq : l.cursor.rest = text) :
    l.items = (slices.map Slice.token).map .ok := by
  induction h generalizing l with
  | last isGap =>
    subst dialect
    have scans := Scans.behind isGap .ended
    rw [List.append_nil] at scans
    rw [plain.items_eq (rest_eq.trans (List.append_nil _).symm) scans]
    rfl
  | slice isGap isLexeme more ih =>
    subst dialect
    have scans := Scans.behind isGap (.token isLexeme)
    rw [← List.append_assoc] at rest_eq
    rw [plain.items_eq rest_eq scans, ih plain.scan rfl (Lexer.scanned_of_scans rest_eq scans).rest]
    rfl

end Cut

/-- What a lexer yields without an error, the text in front of it can be cut
into. -/
theorem Lexer.Plain.exists_cut {l : Lexer} (plain : l.Plain) {ts : List Token}
    (yields : l.items = ts.map .ok) :
    ∃ slices last, Cut l.dialect l.cursor.rest slices last ∧ slices.map Slice.token = ts := by
  induction ts generalizing l with
  | nil =>
    rcases plain.items_cases with
      ⟨isGap, -⟩ | ⟨gap, lexeme, after, t, -, -, -, -, items⟩ | ⟨e, items⟩
    · exact ⟨[], _, .last isGap, rfl⟩
    · rw [items] at yields
      cases yields
    · rw [items] at yields
      cases yields
  | cons t ts ih =>
    rcases plain.items_cases with
      ⟨-, items⟩ | ⟨gap, lexeme, after, t', rest_eq, isGap, isLexeme, behind, items⟩ | ⟨e, items⟩
    · rw [items] at yields
      cases yields
    · rw [items] at yields
      obtain ⟨same, yields⟩ := List.cons.inj yields
      obtain ⟨slices, last, cut, tokens⟩ := ih plain.scan yields
      rw [behind] at cut
      rw [rest_eq]
      refine ⟨_, last, .slice isGap isLexeme cut, ?_⟩
      rw [List.map_cons, tokens, Except.ok.inj same]
    · rw [items] at yields
      cases yields

/-- **Tokenizing is cutting.**  A text has the tokens `ts` exactly if it can be
cut, in one way, into lexemes that are these tokens. -/
theorem tokenize_eq_ok_iff (d : Dialect) (source : String) (ts : List Token) :
    tokenize d source = .ok ts ↔
      ∃! cut : List Slice × List Char,
        Cut d source.toList cut.1 cut.2 ∧ cut.1.map Slice.token = ts := by
  rw [tokenize, Lexer.collect_eq_ok_iff]
  constructor
  · intro yields
    obtain ⟨slices, last, cut, tokens⟩ := (Lexer.plain_ofText d source).exists_cut yields
    refine ⟨(slices, last), ⟨cut, tokens⟩, ?_⟩
    rintro ⟨slices', last'⟩ ⟨cut', -⟩
    obtain ⟨rfl, rfl⟩ := cut'.unique cut rfl
    rfl
  · rintro ⟨⟨slices, last⟩, ⟨cut, rfl⟩, -⟩
    exact cut.items_eq (Lexer.plain_ofText d source) rfl rfl

end Lexis
