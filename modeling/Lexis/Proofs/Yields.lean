import Lexis.Proofs.Items
import Lexis.Proofs.Walk

/-!
# What a text yields

Scans of a text, one after another, find tokens until one of them finds
something else.  `Yields d passed after ts` says that they find the tokens `ts`
and pass `passed` on the way, with `after` left to scan.  There are two ways for
that to end:

* **The text is over** (`Completes`): only a gap is left.
* **There is a fault** (`Breaks`): a further scan finds it, having passed a gap
  and what is in order of an unfinished lexeme.

Every text ends in one of the two ways (`completes_or_breaks`), so they say when
tokenizing succeeds and when it fails (`tokenize_eq_ok_iff_completes`,
`tokenize_eq_error_iff_breaks`).  The error of a fault is a function of the two
texts between which the fault lies (`Fault.report`); no cursor is left in these
statements, and two texts can be compared by their scans alone.

What a scan skips may be longer: a text that can stand in front of any gap (`Pads`)
changes neither the tokens behind it nor the way in which they end.
-/

namespace Lexis

/-! ### Errors as functions of the text -/

/-- The error about a fault that lies between `passed` and `after`. -/
def Fault.report (f : Fault) (passed after : List Char) : LexicalError where
  code := f.code
  message := f.message
  location := Location.start.advance passed
  span := match after with
    | [] => .point (byteCount passed)
    | c :: _ => .ofOffsets (byteCount passed) (byteCount passed + c.utf8Size)

/-- **A cursor reports what the text around it determines.** -/
theorem Cursor.Follows.fail_eq {passed : List Char} {c : Cursor} (h : c.Follows passed)
    (f : Fault) : c.fail f.code f.message = f.report passed c.rest := by
  unfold fail span peek
  rw [h.position, h.location]
  rcases c.rest with _ | ⟨ch, more⟩ <;> rfl

/-- In a text that is not too long, the span is that of the character behind the
fault, or empty at the end. -/
theorem Fault.range_report (f : Fault) {passed after : List Char}
    (small : byteCount (passed ++ after) < UInt32.size) :
    (f.report passed after).span.range =
      (byteCount passed, byteCount (passed ++ after.take 1)) := by
  cases after with
  | nil =>
    rw [List.append_nil] at small
    rw [List.take_nil, List.append_nil]
    exact Span.range_ofOffsets small (Nat.le_refl _)
  | cons c more =>
    rw [byteCount_append, byteCount_cons] at small
    show _ = (byteCount passed, byteCount (passed ++ [c]))
    rw [byteCount_append, byteCount_cons, byteCount_nil]
    exact Span.range_ofOffsets (by omega) (Nat.le_add_right _ _)

/-! ### Tokens -/

/-- A scan that finds a token passes a gap and the lexeme of the token. -/
theorem Scans.exists_lexeme {d : Dialect} {text after : List Char} {t : Token}
    (h : Scans d text after (.ok (some t))) :
    ∃ gap lexeme, text = gap ++ lexeme ∧ Gap d gap (lexeme ++ after) ∧ Lexeme d lexeme after t := by
  cases h with
  | behind isGap finds =>
    cases finds with
    | token isLexeme => exact ⟨_, _, rfl, isGap, isLexeme⟩

/-- `Yields d passed after ts`: scans of `passed ++ after`, one after another,
find the tokens `ts` and pass `passed`. -/
inductive Yields (d : Dialect) : List Char → List Char → List Token → Prop
  | nil {after : List Char} : Yields d [] after []
  | scan {text passed after : List Char} {t : Token} {ts : List Token}
      (first : Scans d text (passed ++ after) (.ok (some t))) (more : Yields d passed after ts) :
      Yields d (text ++ passed) after (t :: ts)

namespace Yields

variable {d : Dialect}

theorem single {text after : List Char} {t : Token} (scans : Scans d text after (.ok (some t))) :
    Yields d text after [t] := by
  have first : Scans d text ([] ++ after) (.ok (some t)) := scans
  have one := Yields.scan first .nil
  rwa [List.append_nil] at one

/-- What is yielded by two texts, one behind the other, is yielded in turn. -/
theorem append {passed text after : List Char} {ts us : List Token}
    (h : Yields d passed (text ++ after) ts) (more : Yields d text after us) :
    Yields d (passed ++ text) after (ts ++ us) := by
  generalize behind : text ++ after = tail at h
  induction h with
  | nil => exact more
  | @scan first passed tail t ts scans _ ih =>
    subst behind
    rw [List.append_assoc]
    rw [← List.append_assoc] at scans
    exact .scan scans (ih rfl)

/-- **A lexer in front of the text yields the tokens**, and goes on behind
them. -/
theorem exists_behind {passed after : List Char} {ts : List Token} (h : Yields d passed after ts)
    {l : Lexer} (plain : l.Plain) (dialect : l.dialect = d)
    (rest_eq : l.cursor.rest = passed ++ after) :
    ∃ l' : Lexer, l'.Plain ∧ l'.dialect = d ∧ l'.cursor = l.cursor.forward passed.length ∧
      l.items = ts.map .ok ++ l'.items := by
  induction h generalizing l with
  | nil => exact ⟨l, plain, dialect, rfl, rfl⟩
  | @scan text passed after t ts first more ih =>
    subst dialect
    rw [List.append_assoc] at rest_eq
    have scanned := Lexer.scanned_of_scans rest_eq first
    obtain ⟨l', plain', dialect', cursor', items⟩ := ih plain.scan rfl scanned.rest
    refine ⟨l', plain', dialect', ?_, ?_⟩
    · rw [cursor', scanned.cursor, Cursor.forward_forward, List.length_append]
    · rw [plain.items_eq rest_eq first, items]
      rfl

/-- Each token yielded is that of a lexeme. -/
theorem exists_lexeme {passed after : List Char} {ts : List Token} (h : Yields d passed after ts) :
    ∀ t ∈ ts, ∃ lexeme behind, Lexeme d lexeme behind t := by
  induction h with
  | nil =>
    intro t mem
    cases mem
  | scan first _ ih =>
    obtain ⟨-, lexeme, -, -, isLexeme⟩ := first.exists_lexeme
    exact List.forall_mem_cons.mpr ⟨⟨lexeme, _, isLexeme⟩, ih⟩

end Yields

/-! ### The two ways to end -/

/-- The text yields the tokens `ts`, and only a gap is left. -/
inductive Completes (d : Dialect) : List Char → List Token → Prop
  | behind {passed gap : List Char} {ts : List Token} (yields : Yields d passed gap ts)
      (isGap : Gap d gap []) : Completes d (passed ++ gap) ts

/-- The text `passed ++ after` yields the tokens `ts`, and then the fault `f` is
found in front of `after`. -/
inductive Breaks (d : Dialect) : List Char → List Char → List Token → Fault → Prop
  | behind {front gap text after : List Char} {ts : List Token} {f : Fault}
      (yields : Yields d front (gap ++ (text ++ after)) ts) (isGap : Gap d gap (text ++ after))
      (isFault : Faulty d text after f) : Breaks d (front ++ (gap ++ text)) after ts f

variable {d : Dialect}

/-- A text that its tokens use up is in order. -/
theorem Yields.completes_self {text : List Char} {ts : List Token} (h : Yields d text [] ts) :
    Completes d text ts := by
  have all := Completes.behind h .nil
  rwa [List.append_nil] at all

theorem Completes.exists_lexeme {text : List Char} {ts : List Token} (h : Completes d text ts) :
    ∀ t ∈ ts, ∃ lexeme behind, Lexeme d lexeme behind t := by
  cases h with
  | behind yields => exact yields.exists_lexeme

theorem Breaks.exists_lexeme {passed after : List Char} {ts : List Token} {f : Fault}
    (h : Breaks d passed after ts f) : ∀ t ∈ ts, ∃ lexeme behind, Lexeme d lexeme behind t := by
  cases h with
  | behind yields => exact yields.exists_lexeme

/-- Tokens may stand in front of a text that is in order. -/
theorem Yields.completes {passed text : List Char} {ts us : List Token}
    (h : Yields d passed text ts) (more : Completes d text us) :
    Completes d (passed ++ text) (ts ++ us) := by
  cases more with
  | behind yields isGap =>
    rw [← List.append_assoc]
    exact .behind (h.append yields) isGap

/-- Tokens may stand in front of a text with a fault. -/
theorem Yields.breaks {passed text after : List Char} {ts us : List Token} {f : Fault}
    (h : Yields d passed (text ++ after) ts) (more : Breaks d text after us f) :
    Breaks d (passed ++ text) after (ts ++ us) f := by
  cases more with
  | @behind front gap body after us f yields isGap isFault =>
    simp only [List.append_assoc] at h
    rw [← List.append_assoc]
    exact .behind (h.append yields) isGap isFault

/-! ### Longer gaps -/

/-- `front` may stand in front of any gap. -/
def Pads (d : Dialect) (front : List Char) : Prop :=
  ∀ gap after, Gap d gap after → Gap d (front ++ gap) after

theorem Yields.prepend {front passed after : List Char} {t : Token} {ts : List Token}
    (h : Yields d passed after (t :: ts)) (pads : Pads d front) :
    Yields d (front ++ passed) after (t :: ts) := by
  cases h with
  | scan first more =>
    rw [← List.append_assoc]
    exact .scan (first.prepend fun gap after _ isGap => pads gap after isGap) more

theorem Completes.prepend {front text : List Char} {ts : List Token} (h : Completes d text ts)
    (pads : Pads d front) : Completes d (front ++ text) ts := by
  cases h with
  | @behind passed gap ts yields isGap =>
    cases ts with
    | nil =>
      cases yields
      show Completes d ([] ++ (front ++ gap)) []
      exact .behind .nil (pads gap [] isGap)
    | cons t ts =>
      rw [← List.append_assoc]
      exact .behind (yields.prepend pads) isGap

theorem Breaks.prepend {front passed after : List Char} {ts : List Token} {f : Fault}
    (h : Breaks d passed after ts f) (pads : Pads d front) :
    Breaks d (front ++ passed) after ts f := by
  cases h with
  | @behind start gap text after ts f yields isGap isFault =>
    cases ts with
    | nil =>
      cases yields
      rw [List.nil_append, ← List.append_assoc]
      exact .behind .nil (pads gap _ isGap) isFault
    | cons t ts =>
      rw [← List.append_assoc]
      exact .behind (yields.prepend pads) isGap isFault

/-! ### Every text ends -/

theorem exists_scans_text (d : Dialect) (text : List Char) :
    ∃ passed after found, text = passed ++ after ∧ Scans d passed after found := by
  obtain ⟨passed, after, found, same, scans⟩ :=
    Lexer.exists_scans d (.ofText (String.ofList text))
  refine ⟨passed, after, found, ?_, scans⟩
  rw [← same]
  exact String.toList_ofList.symm

/-- **A text ends in one of the two ways.** -/
theorem completes_or_breaks (d : Dialect) (text : List Char) :
    (∃ ts, Completes d text ts) ∨
      ∃ passed after ts f, text = passed ++ after ∧ Breaks d passed after ts f := by
  induction length : text.length using Nat.strong_induction_on generalizing text with
  | _ n ih =>
    obtain ⟨passed, after, found, rfl, scans⟩ := exists_scans_text d text
    rcases found with f | _ | t
    · cases scans with
      | behind isGap finds =>
        cases finds with
        | fault isFault => exact Or.inr ⟨_, after, [], f, rfl, .behind .nil isGap isFault⟩
    · cases scans with
      | behind isGap finds =>
        cases finds with
        | ended =>
          rw [List.append_nil, List.append_nil]
          exact Or.inl ⟨[], .behind .nil isGap⟩
    · -- The scan has moved on, so what is left is shorter.
      have shorter : after.length < n := by
        obtain ⟨gap, lexeme, rfl, -, isLexeme⟩ := scans.exists_lexeme
        have := List.length_pos_iff.mpr isLexeme.ne_nil
        rw [← length, List.length_append, List.length_append]
        omega
      have first := Yields.single scans
      rcases ih _ shorter after rfl with ⟨ts, completes⟩ | ⟨passed', after', ts, f, rfl, breaks⟩
      · exact Or.inl ⟨_, first.completes completes⟩
      · exact Or.inr ⟨_, after', _, f, (List.append_assoc ..).symm, first.breaks breaks⟩

/-! ### Iterating and tokenizing -/

theorem Completes.items {source : String} {ts : List Token} (h : Completes d source.toList ts) :
    (Lexer.ofText d source).items = ts.map .ok := by
  generalize whole : source.toList = text at h
  cases h with
  | @behind passed gap ts yields isGap =>
    obtain ⟨l, plain, dialect, cursor, items⟩ :=
      yields.exists_behind (Lexer.plain_ofText d source) rfl whole
    subst dialect
    have rest_eq : l.cursor.rest = gap ++ [] := by
      rw [cursor, Lexer.rest_forward_of_split whole, List.append_nil]
    have scans : Scans l.dialect (gap ++ []) [] (.ok none) := .behind isGap .ended
    rw [List.append_nil] at scans
    rw [items, plain.items_eq rest_eq scans]
    exact List.append_nil _

theorem Breaks.items {source : String} {passed after : List Char} {ts : List Token} {f : Fault}
    (h : Breaks d passed after ts f) (whole : source.toList = passed ++ after) :
    (Lexer.ofText d source).items = ts.map .ok ++ [.error (f.report passed after)] := by
  cases h with
  | @behind front gap text after ts f yields isGap isFault =>
    simp only [List.append_assoc] at whole
    obtain ⟨l, plain, dialect, cursor, items⟩ :=
      yields.exists_behind (Lexer.plain_ofText d source) rfl whole
    subst dialect
    have rest_eq : l.cursor.rest = (gap ++ text) ++ after := by
      rw [cursor, Lexer.rest_forward_of_split whole, List.append_assoc]
    have scans : Scans l.dialect (gap ++ text) after (.error f) := .behind isGap (.fault isFault)
    have scanned := Lexer.scanned_of_scans rest_eq scans
    have here : l.cursor.Follows front := cursor ▸ (Cursor.follows_ofText source).pass whole
    have follows : l.scan.2.cursor.Follows (front ++ (gap ++ text)) :=
      scanned.cursor ▸ here.pass rest_eq
    rw [items, plain.items_eq rest_eq scans]
    show _ ++ [Except.error (l.scan.2.cursor.fail f.code f.message)] = _
    rw [follows.fail_eq, scanned.rest]

/-- Each token that iterating yields is that of a lexeme. -/
theorem exists_lexeme_of_mem_items {source : String} {t : Token}
    (mem : .ok t ∈ (Lexer.ofText d source).items) :
    ∃ lexeme behind, Lexeme d lexeme behind t := by
  rcases completes_or_breaks d source.toList with
    ⟨ts, completes⟩ | ⟨passed, after, ts, f, whole, breaks⟩
  · rw [completes.items] at mem
    exact completes.exists_lexeme t (by simpa using mem)
  · rw [breaks.items whole] at mem
    exact breaks.exists_lexeme t (by simpa using mem)

/-- **Tokenizing succeeds** for the texts that are in order. -/
theorem tokenize_eq_ok_iff_completes {source : String} {ts : List Token} :
    tokenize d source = .ok ts ↔ Completes d source.toList ts := by
  constructor
  · intro lexes
    rcases completes_or_breaks d source.toList with
      ⟨ts', completes⟩ | ⟨passed, after, ts', f, whole, breaks⟩
    · rw [tokenize, Lexer.collect_of_items completes.items] at lexes
      exact Except.ok.inj lexes ▸ completes
    · rw [tokenize, Lexer.collect_of_items_error (breaks.items whole)] at lexes
      cases lexes
  · intro completes
    exact Lexer.collect_of_items completes.items

theorem Completes.tokenize_ofList {text : List Char} {ts : List Token} (h : Completes d text ts) :
    tokenize d (String.ofList text) = .ok ts := by
  rw [tokenize_eq_ok_iff_completes, String.toList_ofList]
  exact h

/-- **Tokenizing fails** where a fault is found, and reports it. -/
theorem tokenize_eq_error_iff_breaks {source : String} {e : LexicalError} :
    tokenize d source = .error e ↔ ∃ passed after ts f, source.toList = passed ++ after ∧
      Breaks d passed after ts f ∧ e = f.report passed after := by
  constructor
  · intro fails
    rcases completes_or_breaks d source.toList with
      ⟨ts, completes⟩ | ⟨passed, after, ts, f, whole, breaks⟩
    · rw [tokenize, Lexer.collect_of_items completes.items] at fails
      cases fails
    · rw [tokenize, Lexer.collect_of_items_error (breaks.items whole)] at fails
      exact ⟨passed, after, ts, f, whole, breaks, (Except.error.inj fails).symm⟩
  · rintro ⟨passed, after, ts, f, whole, breaks, rfl⟩
    exact Lexer.collect_of_items_error (breaks.items whole)

/-- **A text is in order with one list of tokens.** -/
theorem Completes.unique {text : List Char} {ts ts' : List Token} (h : Completes d text ts)
    (h' : Completes d text ts') : ts = ts' :=
  Except.ok.inj (h.tokenize_ofList.symm.trans h'.tokenize_ofList)

/-- **A text that is in order has no fault.** -/
theorem Completes.not_breaks {passed after : List Char} {ts ts' : List Token} {f : Fault}
    (h : Completes d (passed ++ after) ts) : ¬ Breaks d passed after ts' f := by
  intro breaks
  have fails := tokenize_eq_error_iff_breaks.mpr ⟨_, _, _, _, String.toList_ofList, breaks, rfl⟩
  rw [h.tokenize_ofList] at fails
  cases fails

end Lexis
