import Lexis.Proofs.Stalling
import Lexis.Proofs.Variants

/-!
# Strict and lenient dialects

Whether literals have to be closed matters to the last token of a text only.  A
literal that nothing closes takes in all that is left of the text, so neither a token
nor another mistake can stand behind it (`EndsOpen`).  Hence a strict dialect finds
what the lenient one finds, with one exception: where the lenient one ends in an open
literal, the strict one has the tokens in front of it and then an error at the end of
the text (`tokenize_strictness`).
-/

namespace Lexis

variable {d : Dialect} {text : List Char} {ts : List Token}

/-! ### Open literals -/

/-- The text yields the tokens, and the last of them is a literal that nothing closes:
it runs to the end of the text without an unescaped delimiter. -/
inductive EndsOpen (d : Dialect) : List Char → List Token → Prop
  | behind {front gap body value : List Char} {q : Char} {ts : List Token}
      (yields : Yields d front (gap ++ q :: body) ts) (isGap : Gap d gap (q :: body))
      (starts : d.Starts .stringStart q) (isBody : Literal.Body d.escapeMode q true body value) :
      EndsOpen d (front ++ (gap ++ q :: body)) (ts ++ [.string (String.ofList value)])

/-- **An open literal is a token** where literals need not be closed. -/
theorem EndsOpen.completes (h : EndsOpen d text ts) (lenient : d.strictStrings = false) :
    Completes d text ts := by
  cases h with
  | behind yields isGap starts isBody =>
    have isLexeme := Lexeme.openString starts lenient isBody
    rw [← List.append_nil (_ :: _)] at isGap
    exact yields.completes (Yields.single (.behind isGap (.token isLexeme))).completes_self

/-- **An open literal is an error** where literals have to be closed, and nothing in
front of it is. -/
theorem EndsOpen.breaks (h : EndsOpen d text ts) :
    Breaks { d with strictStrings := true } text [] ts.dropLast .openLiteral := by
  cases h with
  | @behind front gap body value q ts yields isGap starts isBody =>
    have strict := yields.strictness true (by simp)
    have isFault : Faulty { d with strictStrings := true } (q :: body) [] .openLiteral :=
      .openLiteral (starts.strictness true) rfl isBody
    rw [← List.append_nil (q :: body)] at strict isGap
    rw [List.dropLast_concat]
    exact .behind strict (isGap.strictness true) isFault

/-- Only a strict dialect asks for a literal to be closed. -/
theorem Faulty.strict_of_openLiteral {text after : List Char}
    (h : Faulty d text after .openLiteral) : d.strictStrings = true := by
  cases h with
  | openLiteral _ strict _ => exact strict

/-- Where a literal is found that has to be closed, a lenient dialect ends in it. -/
theorem Breaks.endsOpen {passed after : List Char} (h : Breaks d passed after ts .openLiteral) :
    after = [] ∧ ∃ value, EndsOpen { d with strictStrings := false } passed
      (ts ++ [.string value]) := by
  cases h with
  | behind yields isGap isFault =>
    cases isFault with
    | openLiteral starts strict isBody =>
      rw [List.append_nil] at yields isGap
      have lenient := yields.strictness false fun _ _ => rfl
      exact ⟨rfl, _, .behind lenient (isGap.strictness false) (starts.strictness false) isBody⟩

/-! ### Everything else -/

/-- What is in order with its literals closed is in order if they need not be. -/
theorem Completes.lenient (h : Completes d text ts) :
    Completes { d with strictStrings := false } text ts := by
  cases h with
  | behind yields isGap =>
    exact .behind (yields.strictness false fun _ _ => rfl) (isGap.strictness false)

/-- **Every other fault** is one in strict and in lenient dialects. -/
theorem Breaks.strictness {passed after : List Char} {f : Fault} (h : Breaks d passed after ts f)
    (closed : f ≠ .openLiteral) (strict : Bool) :
    Breaks { d with strictStrings := strict } passed after ts f := by
  cases h with
  | @behind front gap body after ts f yields isGap isFault =>
    have more : after ≠ [] := by
      cases isFault with
      | strayCharacter | secondDot => simp
      | openLiteral => exact absurd rfl closed
    have isFault' : Faulty { d with strictStrings := strict } body after f := by
      cases isFault with
      | strayCharacter starts => exact .strayCharacter (starts.strictness strict)
      | secondDot starts areDigits fractionDigits =>
        exact .secondDot (starts.strictness strict) areDigits fractionDigits
      | openLiteral => exact absurd rfl closed
    exact .behind (yields.strictness strict (by simp [more])) (isGap.strictness strict) isFault'

/-- What is in order stays so if its literals have to be closed, unless it ends in one
that is not. -/
theorem Completes.strict (h : Completes { d with strictStrings := false } text ts)
    (closed : ¬ EndsOpen { d with strictStrings := false } text ts) :
    Completes { d with strictStrings := true } text ts := by
  rcases completes_or_breaks { d with strictStrings := true } text with
    ⟨ts', completes⟩ | ⟨passed, after, ts', f, rfl, breaks⟩
  · -- The lenient dialect finds the same tokens, and a text has no others in it.
    rwa [h.unique completes.lenient]
  · by_cases isOpen : f = .openLiteral
    · subst isOpen
      obtain ⟨rfl, value, endsOpen⟩ := breaks.endsOpen
      rw [List.append_nil] at h closed
      rw [h.unique (endsOpen.completes rfl)] at closed
      exact absurd endsOpen closed
    · exact absurd (breaks.strictness isOpen false) (h.not_breaks)

/-! ### Sessions -/

/-- A lenient lexer never asks for a literal to be closed. -/
theorem Lexer.code_ne_unterminatedString {l : Lexer} {r : Request} {e : LexicalError}
    (lenient : l.dialect.strictStrings = false) (reported : (l.ask r).1.error? = some e) :
    e.code ≠ .unterminatedString := by
  obtain ⟨-, reply⟩ := scan_of_reported reported
  obtain ⟨-, body, f, -, -, isFault, rfl⟩ := exists_fault_of_scan reply
  generalize l.scan.2.cursor.rest = after at isFault
  cases f with
  | strayCharacter | malformedNumeral | secondDot =>
    intro same
    cases same
  | openLiteral => exact absurd isFault.strict_of_openLiteral (by simp [lenient])

/-! ### Tokenizing -/

/-- The error `e` says that a literal is open at the end of the source. -/
structure LexicalError.IsOpenEnd (source : String) (e : LexicalError) : Prop where
  code : e.code = .unterminatedString
  message : e.message = "Unterminated string literal"
  location : e.location =
    ⟨source.toList.count '\n', (source.toList.rtakeWhile (· ≠ '\n')).length⟩
  span : e.span = .point source.utf8ByteSize

theorem Fault.isOpenEnd (source : String) :
    (Fault.openLiteral.report source.toList []).IsOpenEnd source where
  code := rfl
  message := rfl
  location := Location.advance_start source.toList
  span := congrArg Span.point (byteCount_toList source)

/-- **Strict dialects refine lenient ones.**

* Where the lenient dialect fails, the strict one fails with the same error.
* Where the lenient one succeeds with the tokens `ts`, the strict one does, too, unless
  the last of the tokens is a literal that nothing closes.  Then it has the tokens in
  front of it, and an error at the end of the source.
* So what the strict one accepts, the lenient one accepts with the same tokens; and in
  no session does the lenient one ask for a literal to be closed.
-/
theorem tokenize_strictness (d : Dialect) (source : String) :
    let lenient := { d with strictStrings := false }
    let strict := { d with strictStrings := true }
    (match tokenize lenient source with
      | .error e => tokenize strict source = .error e
      | .ok ts =>
        (¬ EndsOpen lenient source.toList ts ∧ tokenize strict source = .ok ts) ∨
        (EndsOpen lenient source.toList ts ∧ ∃ e, e.IsOpenEnd source ∧
          tokenize strict source = .error e ∧
          (Lexer.ofText strict source).items = ts.dropLast.map .ok ++ [.error e])) ∧
    (∀ ts, tokenize strict source = .ok ts → tokenize lenient source = .ok ts) ∧
    ∀ ops, ∀ result ∈ (Lexer.session lenient source ops).1, ∀ e,
      result.error? = some e → e.code ≠ .unterminatedString := by
  intro lenient strict
  have accepted : ∀ ts, tokenize strict source = .ok ts → tokenize lenient source = .ok ts := by
    intro ts lexes
    rw [tokenize_eq_ok_iff_completes] at lexes ⊢
    exact lexes.lenient
  refine ⟨?_, accepted, ?_⟩
  · cases lexes : tokenize lenient source with
    | error e =>
      obtain ⟨passed, after, ts, f, whole, breaks, rfl⟩ := tokenize_eq_error_iff_breaks.mp lexes
      have closed : f ≠ .openLiteral := by
        rintro rfl
        cases breaks with
        | behind _ _ isFault => cases isFault.strict_of_openLiteral
      exact tokenize_eq_error_iff_breaks.mpr
        ⟨passed, after, ts, f, whole, breaks.strictness closed true, rfl⟩
    | ok ts =>
      by_cases endsOpen : EndsOpen lenient source.toList ts
      · have breaks : Breaks strict source.toList [] ts.dropLast .openLiteral := endsOpen.breaks
        have whole : source.toList = source.toList ++ [] := (List.append_nil _).symm
        refine Or.inr ⟨endsOpen, _, Fault.isOpenEnd source, ?_, breaks.items whole⟩
        exact tokenize_eq_error_iff_breaks.mpr ⟨_, _, _, _, whole, breaks, rfl⟩
      · refine Or.inl ⟨endsOpen, ?_⟩
        rw [tokenize_eq_ok_iff_completes] at lexes ⊢
        exact lexes.strict endsOpen
  · intro ops
    refine Lexer.forall_errors_run (P := fun l => l.dialect.strictStrings = false) ?_
      (fun r l e => Lexer.code_ne_unterminatedString) ops rfl
    intro r l isLenient
    rw [Lexer.dialect_ask]
    exact isLenient

/-- A word, and a literal that is open. -/
theorem tokenize_strictness_open_literal :
    let source := "x 'a"
    let strict : Dialect := { Dialect.standard with strictStrings := true }
    tokenize .standard source = .ok [.identifier "x", .string "a"] ∧
      EndsOpen .standard source.toList [.identifier "x", .string "a"] ∧
      ∃ e, e.IsOpenEnd source ∧ tokenize strict source = .error e ∧
        (Lexer.ofText strict source).items = [.ok (.identifier "x"), .error e] := by
  intro source strict
  have lexes : tokenize .standard source = .ok [.identifier "x", .string "a"] := by
    decide +kernel
  have refuses : tokenize strict source ≠ .ok [.identifier "x", .string "a"] := by
    decide +kernel
  have refines := (tokenize_strictness .standard source).1
  have same : { Dialect.standard with strictStrings := false } = Dialect.standard := rfl
  rw [same, lexes] at refines
  obtain ⟨-, accepts⟩ | endsOpen := refines
  · exact absurd accepts refuses
  · exact ⟨lexes, endsOpen⟩

end Lexis
