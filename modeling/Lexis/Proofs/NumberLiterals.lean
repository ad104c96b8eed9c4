import Lexis.Proofs.Nearest
import Lexis.Proofs.Numerals
import Lexis.Proofs.Stalling

/-!
# Number literals

A number literal is the longest run of digits and points, and there is at most one
point in it.  Its value is the rational number that its characters denote place by place
(`Numeral.value`), rounded correctly, however long it is.

* **The run decides** (`lexeme_or_secondDot`).  A run with one point or none is a
  numeral, and the number is all of it; a run with more of them is read up to the second
  one, which is the fault.
* **Nothing is lost before rounding** (`Numeral.value_eq`).  The digits of a numeral are
  read as one number and scaled by the places behind the point, which is the same
  rational number.

So whatever is read of a number is a numeral, and no scan ends at a malformed one
(`code_ne_invalidNumber`).
-/

namespace Lexis

/-! ### Values -/

theorem Decimal.ofDigits_cons (c : Char) (digits : List Char) :
    ofDigits (c :: digits) = digitValue c * 10 ^ digits.length + ofDigits digits := by
  rw [ofDigits_eq, Nat.ofDigitChars_cons, Nat.ofDigitChars_eq_ofDigitChars_zero, Nat.mul_zero,
    Nat.zero_add, Nat.mul_comm]
  rfl

theorem Decimal.ofDigits_append (digits fraction : List Char) :
    ofDigits (digits ++ fraction) = ofDigits digits * 10 ^ fraction.length + ofDigits fraction := by
  rw [ofDigits_eq, Nat.ofDigitChars_append, Nat.ofDigitChars_eq_ofDigitChars_zero, Nat.mul_comm]
  rfl

namespace Numeral

/-- The value of the digits in front of a point: each counts ten times what it would count
one place further right. -/
def wholeValue : List Char → ℚ
  | [] => 0
  | c :: digits => Decimal.digitValue c * 10 ^ digits.length + wholeValue digits

/-- The value of the digits behind a point: each counts a tenth of what it would count
one place further left. -/
def fractionValue : List Char → ℚ
  | [] => 0
  | c :: digits => (Decimal.digitValue c + fractionValue digits) / 10

/-- The value of a numeral. -/
def value (text : List Char) : ℚ :=
  wholeValue (text.takeWhile isDigit) + fractionValue ((text.dropWhile isDigit).drop 1)

theorem wholeValue_eq (digits : List Char) : wholeValue digits = Decimal.ofDigits digits := by
  induction digits with
  | nil => simp [wholeValue]
  | cons c digits ih =>
    rw [wholeValue, ih, Decimal.ofDigits_cons]
    push_cast
    rfl

theorem fractionValue_eq (digits : List Char) :
    fractionValue digits = Decimal.ofDigits digits / 10 ^ digits.length := by
  induction digits with
  | nil => simp [fractionValue]
  | cons c digits ih =>
    rw [fractionValue, ih, Decimal.ofDigits_cons, List.length_cons, pow_succ]
    push_cast
    field_simp

/-- **Nothing is lost before rounding**: a numeral denotes a decimal of its value. -/
theorem value_eq {text : List Char} {d : Decimal} (h : Numeral text d) :
    value text = d.toRat := by
  unfold value Decimal.toRat
  cases h with
  | @whole c digits areDigits =>
    have run := takeWhile_run areDigits (ends_nil _)
    have left := dropWhile_run areDigits (ends_nil _)
    rw [List.append_nil] at run left
    rw [run, left, wholeValue_eq]
    simp [fractionValue]
  | @pointed c digits fraction areDigits fractionDigits =>
    have ends := Piece.ends_digit_dot fraction
    have run := takeWhile_run areDigits ends
    have left := dropWhile_run areDigits ends
    rw [List.cons_append] at run left
    rw [run, left, List.drop_succ_cons, List.drop_zero, wholeValue_eq, fractionValue_eq,
      ← List.cons_append, Decimal.ofDigits_append, zpow_neg, zpow_natCast]
    push_cast
    field_simp

end Numeral

/-! ### Runs of digits and points -/

variable {d : Dialect}

/-- A numeral that nothing continues is the whole run. -/
theorem Numeral.run {text after : List Char} {value : Decimal} {t : Token}
    (numeral : Numeral text value) (ends : Ends isNumeralChar after)
    (isLexeme : Lexeme d text after t) :
    let run := (text ++ after).takeWhile isNumeralChar
    Numeral run value ∧ Lexeme d run ((text ++ after).dropWhile isNumeralChar) t := by
  intro run
  have inside := numeral.isNumeralChar_of_mem
  have run_eq : run = text := takeWhile_run inside ends
  rw [run_eq, dropWhile_run inside ends]
  exact ⟨numeral, isLexeme⟩

/-- A numeral with a second point behind it is not the whole run. -/
theorem Numeral.two_le_count_dot {text : List Char} {value : Decimal}
    (numeral : Numeral text value) (dotted : '.' ∈ text) (after : List Char) :
    2 ≤ ((text ++ '.' :: after).takeWhile isNumeralChar).count '.' := by
  have one : 0 < text.count '.' := List.count_pos_iff.mpr dotted
  rw [List.takeWhile_append_of_pos numeral.isNumeralChar_of_mem, List.count_append,
    List.takeWhile_cons_of_pos (by decide), List.count_cons_self]
  omega

/-- **The run decides** whether a number is found: a run with at most one point is a
numeral, and the number is all of it; otherwise a second point is a fault. -/
theorem lexeme_or_secondDot {c : Char} (starts : d.Starts .digit c) (rest : List Char) :
    let run := (c :: rest).takeWhile isNumeralChar
    (∃ value, Numeral run value ∧
      Lexeme d run ((c :: rest).dropWhile isNumeralChar) (.number (.ofDecimal value))) ∨
    (2 ≤ run.count '.' ∧ ∃ read after, c :: rest = read ++ '.' :: after ∧
      Faulty d read ('.' :: after) .secondDot) := by
  intro run
  obtain ⟨digits, tail, rfl, areDigits, ends⟩ := exists_run isDigit rest
  have wholeDigits := Piece.digit_of_starts starts areDigits
  by_cases dotted : tail.head? = some '.'
  · obtain ⟨tail, rfl⟩ := List.head?_eq_some_iff.mp dotted
    obtain ⟨fraction, after, rfl, fractionDigits, fractionEnds⟩ := exists_run isDigit tail
    have numeral := Numeral.pointed wholeDigits fractionDigits
    have split : c :: (digits ++ '.' :: (fraction ++ after)) =
        c :: (digits ++ '.' :: fraction) ++ after := by simp
    by_cases again : after.head? = some '.'
    · obtain ⟨after, rfl⟩ := List.head?_eq_some_iff.mp again
      refine Or.inr ⟨?_, _, after, split, .secondDot starts areDigits fractionDigits⟩
      have run_eq : run = _ := congrArg (List.takeWhile isNumeralChar) split
      rw [run_eq]
      exact numeral.two_le_count_dot (by simp) after
    · have ends := Piece.ends_numeralChar fractionEnds again
      have found := numeral.run ends (.pointed starts areDigits fractionDigits ends)
      rw [← split] at found
      exact Or.inl ⟨_, found⟩
  · have ends := Piece.ends_numeralChar ends dotted
    exact Or.inl ⟨_, (Numeral.whole wholeDigits).run ends (.whole starts areDigits ends)⟩

/-! ### No malformed numeral -/

namespace Lexer

/-- No scan ends at a malformed numeral. -/
theorem code_ne_invalidNumber {l : Lexer} {e : LexicalError} (reply : l.scan.1 = .error e) :
    e.code ≠ .invalidNumber := by
  obtain ⟨-, text, f, -, -, isFault, rfl⟩ := exists_fault_of_scan reply
  show f.code ≠ .invalidNumber
  generalize l.scan.2.cursor.rest = after at isFault
  cases isFault <;> simp [Fault.code]

theorem code_ne_invalidNumber_of_ask {l : Lexer} {r : Request} {e : LexicalError}
    (reported : (l.ask r).1.error? = some e) : e.code ≠ .invalidNumber :=
  code_ne_invalidNumber (scan_of_reported reported).2

theorem code_ne_invalidNumber_of_perform {l : Lexer} {op : Operation} {e : LexicalError}
    (reported : (l.perform op).1.error? = some e) : e.code ≠ .invalidNumber := by
  obtain ⟨r, l', -, asked⟩ :=
    exists_ask_of_perform_error (P := fun _ => True) (fun _ _ _ => trivial) trivial reported
  exact code_ne_invalidNumber_of_ask asked

theorem code_ne_invalidNumber_of_fold {σ : Type} {gather : σ → Token → σ} {s : σ} {l : Lexer}
    {e : LexicalError} (failed : (l.fold gather s).1 = .error e) : e.code ≠ .invalidNumber := by
  obtain ⟨l', -, answer⟩ :=
    exists_iterate_of_fold_error (P := fun _ => True) (fun _ _ => trivial) trivial failed
  have reported : (l'.ask .iterate).1.error? = some e := by
    rw [ask, answer]
    rfl
  exact code_ne_invalidNumber_of_ask reported

/-! ### Scanning numbers -/

/-- **Numbers are rounded correctly.**  Let a scan come to a digit that starts a number.
If the run of digits and points from there on has at most one point, the run is a
numeral, whatever its length; the scan finds the number that the value of the run rounds
to, and stops behind the run.  Otherwise it stops at a second point.

In particular a numeral is never malformed: neither what a lexer is asked nor gathering
all tokens that are left, in whatever state it is, reports an invalid number. -/
theorem scan_number :
    (∀ {l : Lexer} {gap text : List Char} {c : Char}, l.cursor.rest = gap ++ c :: text →
      Gap l.dialect gap (c :: text) → l.dialect.classify c = .digit →
      let run := (c :: text).takeWhile isNumeralChar
      (run.count '.' ≤ 1 → ∃ value, Decimal.ofNumeral? run = some value ∧
        Binary64.RoundsTo (Numeral.value run) (.ofDecimal value) ∧
        l.Scanned (gap ++ run) ((c :: text).dropWhile isNumeralChar)
          (.ok (some (.number (.ofDecimal value))))) ∧
      (2 ≤ run.count '.' → ∃ read after, c :: text = read ++ '.' :: after ∧
        l.Scanned (gap ++ read) ('.' :: after) (.error .secondDot))) ∧
    (∀ (l : Lexer) (op : Operation) (e : LexicalError),
      (l.perform op).1.error? = some e → e.code ≠ .invalidNumber) ∧
    ∀ {σ : Type} (gather : σ → Token → σ) (s : σ) (l : Lexer) (e : LexicalError),
      (l.fold gather s).1 = .error e → e.code ≠ .invalidNumber := by
  refine ⟨?_, fun _ _ _ => code_ne_invalidNumber_of_perform,
    fun _ _ _ _ => code_ne_invalidNumber_of_fold⟩
  intro l gap text c rest_eq isGap class_eq run
  rcases lexeme_or_secondDot (Dialect.starts_of_classify_digit class_eq) text with
    ⟨value, numeral, isLexeme⟩ | ⟨many, read, after, split, isFault⟩
  · refine ⟨fun _ => ⟨value, numeral.ofNumeral?, ?_, ?_⟩, fun many => ?_⟩
    · rw [numeral.value_eq]
      exact Binary64.roundsTo_ofDecimal value
    · have split : c :: text = run ++ (c :: text).dropWhile isNumeralChar :=
        List.takeWhile_append_dropWhile.symm
      rw [split] at rest_eq isGap
      rw [← List.append_assoc] at rest_eq
      exact scanned_of_scans rest_eq (.behind isGap (.token isLexeme))
    · exact absurd (Nat.le_trans many numeral.count_dot_le) (by decide)
  · refine ⟨fun few => ?_, fun _ => ⟨read, after, split, ?_⟩⟩
    · exact absurd (Nat.le_trans many few) (by decide)
    · rw [split] at rest_eq isGap
      rw [← List.append_assoc] at rest_eq
      exact scanned_of_scans rest_eq (.behind isGap (.fault isFault))

/-- The first whole number that lies halfway between two others of the format. -/
theorem scan_number_tie :
    let l := ofText .standard " 9007199254740993)"
    let text := "007199254740993)".toList
    let run := "9007199254740993".toList
    l.cursor.rest = [' '] ++ '9' :: text ∧ Gap l.dialect [' '] ('9' :: text) ∧
      l.dialect.classify '9' = .digit ∧ run.count '.' ≤ 1 ∧
      l.scan.1 = .ok (some (.number (.ofDecimal ⟨9007199254740992, 0⟩))) ∧
      Binary64.RoundsTo (Numeral.value run) (.ofDecimal ⟨9007199254740992, 0⟩) := by
  intro l text run
  have isGap : Gap l.dialect [' '] ('9' :: text) := .blank (by decide) .nil
  have class_eq : l.dialect.classify '9' = .digit := by decide
  have rest_eq : l.cursor.rest = [' '] ++ '9' :: text := by decide +kernel
  have run_eq : ('9' :: text).takeWhile isNumeralChar = run := by decide +kernel
  have few : run.count '.' ≤ 1 := by decide +kernel
  have tie : Binary64.ofDecimal ⟨9007199254740993, 0⟩ = .ofDecimal ⟨9007199254740992, 0⟩ := by
    decide +kernel
  have found := (scan_number.1 rest_eq isGap class_eq).1
  rw [run_eq] at found
  obtain ⟨value, parses, rounds, scanned⟩ := found few
  obtain rfl : ⟨9007199254740993, 0⟩ = value :=
    Option.some.inj ((by decide +kernel : some _ = Decimal.ofNumeral? run).trans parses)
  rw [tie] at rounds scanned
  exact ⟨rest_eq, isGap, class_eq, few, scanned.reply, rounds⟩

end Lexer

end Lexis
