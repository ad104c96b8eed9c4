import Lexis.Diagnostic
import Lexis.Proofs.Extension

/-!
# Numbers with extra dots

A number has one point at most, and the help for a further one is to remove it.  That is
what `mend?` does: it deletes the bytes that the error spans.  The help gets on, though it
need not be enough:

* **One deletion** leaves the tokens in front of the error what they are
  (`Breaks.mend`).  The digits behind the deleted dot join the number, and the number then
  ends, or yet another dot follows.  Whatever goes wrong next does so further on.
* **One deletion after another** ends, since each takes a dot away (`Mends.keeps`).  The
  text is then in order or has an error of another kind (`exists_mends`).

The text has to be shorter than 2^32 bytes, or else the span need not be that of the dot.
-/

namespace Lexis

variable {d : Dialect}

/-! ### Deleting -/

/-- The text without the bytes of the span, unless that is no text. -/
def Span.delete? (s : Span) (source : String) : Option String :=
  String.fromUTF8? (source.toByteArray.extract 0 s.start.toNat ++
    source.toByteArray.extract s.stop.toNat source.utf8ByteSize)

/-- The text without the dot at fault, if it is one dot too many at which tokenizing
fails. -/
def mend? (d : Dialect) (source : String) : Option String :=
  match tokenize d source with
  | .error e => if e.code = .unexpectedDot then e.span.delete? source else none
  | .ok _ => none

/-- **Deleting the bytes of a character** deletes that character. -/
theorem Span.delete?_of_split {s : Span} {source : String} {before after : List Char} {c : Char}
    (split : source.toList = before ++ c :: after)
    (range : s.range = (byteCount before, byteCount (before ++ [c]))) :
    s.delete? source = some (String.ofList (before ++ after)) := by
  have start : s.start.toNat = byteCount before := congrArg Prod.fst range
  have stop : s.stop.toNat = byteCount (before ++ [c]) := congrArg Prod.snd range
  have upTo : source = String.ofList before ++ String.ofList (c :: after) := by
    rw [← String.ofList_append, ← split, String.ofList_toList]
  have behind : source = String.ofList (before ++ [c]) ++ String.ofList after := by
    rw [← String.ofList_append, List.append_assoc, List.singleton_append, ← split,
      String.ofList_toList]
  have front : source.toByteArray.extract 0 (byteCount before) =
      (String.ofList before).toByteArray := by
    rw [upTo, String.toByteArray_append]
    exact ByteArray.extract_append_eq_left rfl
  have back : source.toByteArray.extract (byteCount (before ++ [c])) source.utf8ByteSize =
      (String.ofList after).toByteArray := by
    rw [behind, String.utf8ByteSize_append, String.toByteArray_append]
    exact ByteArray.extract_append_eq_right rfl rfl
  rw [delete?, start, stop, front, back, ← String.toByteArray_append, ← String.ofList_append]
  exact dif_pos (String.isValidUTF8 _)

theorem mend?_of_error {source : String} {e : LexicalError} (fails : tokenize d source = .error e)
    (code : e.code = .unexpectedDot) : mend? d source = e.span.delete? source := by
  rw [mend?, fails]
  exact if_pos code

/-- Only an error about a dot is mended. -/
theorem exists_error_of_mend? {source mended : String} (mends : mend? d source = some mended) :
    ∃ e, tokenize d source = .error e ∧ e.code = .unexpectedDot := by
  rw [mend?] at mends
  split at mends
  · next e fails =>
    split at mends
    · next code => exact ⟨e, fails, code⟩
    · cases mends
  · cases mends

/-! ### One deletion -/

theorem Breaks.exists_dot {passed after : List Char} {ts : List Token}
    (h : Breaks d passed after ts .secondDot) : ∃ more, after = '.' :: more := by
  cases h with
  | behind _ _ isFault =>
    cases isFault with
    | secondDot => exact ⟨_, rfl⟩

/-- The text `passed ++ more` has the tokens `ts` first, and then maybe others; and if it
is not in order, a fault is found behind `passed`. -/
inductive GoesOn (d : Dialect) (passed more : List Char) (ts : List Token) : Prop
  | completes {us : List Token} (h : Completes d (passed ++ more) (ts ++ us))
  | breaks {added after : List Char} {us : List Token} {f : Fault} (split : more = added ++ after)
      (h : Breaks d (passed ++ added) after (ts ++ us) f)

section

variable {passed part more : List Char} {ts us : List Token}

theorem Yields.goesOn (h : Yields d passed more ts) : GoesOn d passed more ts := by
  rcases completes_or_breaks d more with ⟨us, completes⟩ | ⟨added, after, us, f, rfl, breaks⟩
  · exact .completes (h.completes completes)
  · exact .breaks rfl (h.breaks breaks)

theorem Breaks.goesOn {f : Fault} (h : Breaks d passed more ts f) : GoesOn d passed more ts := by
  have here : Breaks d (passed ++ []) more (ts ++ []) f := by simpa using h
  exact .breaks rfl here

/-- What goes on far behind a place goes on behind that place. -/
theorem GoesOn.shorten (h : GoesOn d (passed ++ part) more (ts ++ us)) :
    GoesOn d passed (part ++ more) ts := by
  cases h with
  | completes completes =>
    rw [List.append_assoc, List.append_assoc] at completes
    exact .completes completes
  | breaks split breaks =>
    rw [List.append_assoc, List.append_assoc] at breaks
    exact .breaks (by rw [split, List.append_assoc]) breaks

/-- **Without the second point** of a number the text goes on with the same tokens, and
whatever is wrong with it is behind the place where the point was. -/
theorem Breaks.mend (h : Breaks d passed ('.' :: more) ts .secondDot) :
    GoesOn d passed more ts := by
  generalize behind : '.' :: more = tail at h
  generalize isSecondDot : Fault.secondDot = f at h
  cases h with
  | @behind front gap text after ts f yields isGap isFault =>
    subst isSecondDot
    cases isFault with
    | @secondDot c digits fraction after' starts areDigits fractionDigits =>
      obtain ⟨-, rfl⟩ := List.cons.inj behind
      obtain ⟨part, after, rfl, goesOn⟩ := pointed_or_secondDot starts areDigits fractionDigits more
      have longer : c :: (digits ++ '.' :: (fraction ++ part)) =
          c :: (digits ++ '.' :: fraction) ++ part := by simp
      rw [longer] at goesOn
      have nonempty : c :: (digits ++ '.' :: fraction) ≠ [] := List.cons_ne_nil _ _
      generalize c :: (digits ++ '.' :: fraction) = number at *
      -- What stands in front of the number sees its start only.
      have first : Yields d front (gap ++ (number ++ part ++ after)) ts := by
        refine yields.replace (.behind (.of_head? ?_) gap)
        rw [List.append_assoc, List.head?_append_of_ne_nil _ nonempty,
          List.head?_append_of_ne_nil _ nonempty]
      have isGap' : Gap d gap (number ++ part ++ after) := isGap.replace (by simp [nonempty])
      have whole : front ++ (gap ++ number) ++ part = front ++ (gap ++ (number ++ part)) := by simp
      rcases goesOn with ⟨x, isLexeme, -⟩ | isFault
      · have token : Scans d (gap ++ (number ++ part)) after (.ok (some (.number x))) :=
          .behind isGap' (.token isLexeme)
        rw [← List.append_assoc] at first
        have found := (first.append (Yields.single token)).goesOn
        rw [← whole] at found
        exact found.shorten
      · have found := (Breaks.behind first isGap' isFault).goesOn
        rw [← whole, ← List.append_nil ts] at found
        exact found.shorten

end

/-- The text `mended` is `source` without a dot that `e` is about.  It has the tokens that
`source` has in front of `e`, and then maybe others; and if it has an error, that does not
lie in front of `e`. -/
structure Advances (d : Dialect) (source : String) (e : LexicalError) (mended : String) :
    Prop where
  deleted : ∃ before after, source.toList = before ++ '.' :: after ∧
    mended.toList = before ++ after ∧
    e.span.range = (byteCount before, byteCount before + 1)
  kept : ∃ ts us, (Lexer.ofText d source).items = ts.map .ok ++ [.error e] ∧
    (tokenize d mended = .ok (ts ++ us) ∨
      ∃ e', tokenize d mended = .error e' ∧
        (Lexer.ofText d mended).items = (ts ++ us).map .ok ++ [.error e'] ∧
        e.span.start.toNat ≤ e'.span.start.toNat)

/-- The tokens that there are first in `source` are there first in `mended`. -/
def KeepsTokens (d : Dialect) (source mended : String) : Prop :=
  ∀ ts : List Token, ts.map .ok <+: (Lexer.ofText d source).items →
    ts.map .ok <+: (Lexer.ofText d mended).items

theorem KeepsTokens.refl (source : String) : KeepsTokens d source source := fun _ found => found

theorem KeepsTokens.trans {source next mended : String} (h : KeepsTokens d source next)
    (more : KeepsTokens d next mended) : KeepsTokens d source mended :=
  fun ts found => more ts (h ts found)

variable {source mended : String} {e : LexicalError}

/-- **One deletion gets on.** -/
theorem exists_advances (small : source.utf8ByteSize < UInt32.size)
    (fails : tokenize d source = .error e) (code : e.code = .unexpectedDot) :
    ∃ mended, mend? d source = some mended ∧ Advances d source e mended := by
  obtain ⟨passed, after, ts, f, split, breaks, rfl⟩ := tokenize_eq_error_iff_breaks.mp fails
  cases f with
  | strayCharacter | malformedNumeral | openLiteral => cases code
  | secondDot =>
    obtain ⟨more, rfl⟩ := breaks.exists_dot
    have size : byteCount (passed ++ '.' :: more) < UInt32.size := by
      rwa [← split, byteCount_toList]
    have range := Fault.range_report .secondDot size
    have deleted : (Fault.secondDot.report passed ('.' :: more)).span.delete? source =
        some (String.ofList (passed ++ more)) := Span.delete?_of_split split range
    have width : byteCount (passed ++ ['.']) = byteCount passed + 1 := byteCount_append ..
    refine ⟨_, (mend?_of_error fails code).trans deleted, ⟨passed, more, split, ?_, ?_⟩, ts, ?_⟩
    · exact String.toList_ofList
    · rw [← width]
      exact range
    · cases breaks.mend with
      | @completes us completes =>
        exact ⟨us, breaks.items split, Or.inl completes.tokenize_ofList⟩
      | @breaks added after us f same breaks' =>
        subst same
        have whole : (String.ofList (passed ++ (added ++ after))).toList =
            passed ++ added ++ after := by simp
        refine ⟨us, breaks.items split, Or.inr ⟨f.report (passed ++ added) after, ?_, ?_, ?_⟩⟩
        · exact tokenize_eq_error_iff_breaks.mpr ⟨_, _, _, _, whole, breaks', rfl⟩
        · exact breaks'.items whole
        · have size' : byteCount (passed ++ added ++ after) < UInt32.size := by
            simp only [byteCount_append, byteCount_cons] at size ⊢
            omega
          have start := congrArg Prod.fst range
          have start' := congrArg Prod.fst (f.range_report size')
          simp only [Span.range, byteCount_append] at start start'
          rw [start, start']
          exact Nat.le_add_right _ _

namespace Advances

/-- One deletion takes one dot away. -/
theorem count (h : Advances d source e mended) :
    1 + mended.toList.count '.' = source.toList.count '.' := by
  obtain ⟨before, after, split, mended_eq, -⟩ := h.deleted
  rw [split, mended_eq, List.count_append, List.count_append, List.count_cons_self]
  omega

theorem size_le (h : Advances d source e mended) :
    mended.utf8ByteSize ≤ source.utf8ByteSize := by
  obtain ⟨before, after, split, mended_eq, -⟩ := h.deleted
  rw [← byteCount_toList, ← byteCount_toList, split, mended_eq]
  simp

/-- **No token is lost.** -/
theorem keepsTokens (h : Advances d source e mended) : KeepsTokens d source mended := by
  intro ts found
  obtain ⟨us, vs, items, goesOn⟩ := h.kept
  have before : ts.map Except.ok <+: us.map (Except.ok (ε := LexicalError)) := by
    rw [items, List.prefix_concat_iff] at found
    rcases found with all | before
    · have mem : Except.error e ∈ ts.map (Except.ok (ε := LexicalError)) := by simp [all]
      simp at mem
    · exact before
  have behind : us.map Except.ok <+: (Lexer.ofText d mended).items := by
    rcases goesOn with lexes | ⟨e', -, items', -⟩
    · rw [Lexer.collect_eq_ok_iff.mp lexes, List.map_append]
      exact List.prefix_append _ _
    · rw [items', List.map_append, List.append_assoc]
      exact List.prefix_append _ _
  exact before.trans behind

end Advances

/-! ### One deletion after another -/

/-- `n` deletions, one after another, make `mended` of `source`. -/
inductive Mends (d : Dialect) : Nat → String → String → Prop
  | nothing {source : String} : Mends d 0 source source
  | step {n : Nat} {source next mended : String} (first : mend? d source = some next)
      (more : Mends d n next mended) : Mends d (n + 1) source mended

theorem advances_of_mend? (small : source.utf8ByteSize < UInt32.size)
    (mends : mend? d source = some mended) : ∃ e, Advances d source e mended := by
  obtain ⟨e, fails, code⟩ := exists_error_of_mend? mends
  obtain ⟨mended', mends', advances⟩ := exists_advances small fails code
  obtain rfl := Option.some.inj (mends.symm.trans mends')
  exact ⟨e, advances⟩

/-- **Each deletion takes one dot away**, and no token is lost. -/
theorem Mends.keeps {n : Nat} (h : Mends d n source mended)
    (small : source.utf8ByteSize < UInt32.size) :
    n + mended.toList.count '.' = source.toList.count '.' ∧ KeepsTokens d source mended := by
  induction h with
  | nothing => exact ⟨Nat.zero_add _, .refl _⟩
  | step first more ih =>
    obtain ⟨e, advances⟩ := advances_of_mend? small first
    obtain ⟨count, kept⟩ := ih (Nat.lt_of_le_of_lt advances.size_le small)
    refine ⟨?_, advances.keepsTokens.trans kept⟩
    rw [← advances.count, ← count]
    omega

/-- **Deleting ends** with a text that is in order or has an error of another kind. -/
theorem exists_mends (d : Dialect) (small : source.utf8ByteSize < UInt32.size) :
    ∃ n mended, Mends d n source mended ∧
      ∀ e, tokenize d mended = .error e → e.code ≠ .unexpectedDot := by
  -- By the number of dots, which each deletion lowers.
  induction dots : source.toList.count '.' using Nat.strong_induction_on generalizing source with
  | _ n ih =>
    by_cases settled : ∀ e, tokenize d source = .error e → e.code ≠ .unexpectedDot
    · exact ⟨0, source, .nothing, settled⟩
    · obtain ⟨e, fails, code⟩ : ∃ e, tokenize d source = .error e ∧ e.code = .unexpectedDot := by
        simpa using settled
      obtain ⟨next, first, advances⟩ := exists_advances small fails code
      have fewer : next.toList.count '.' < n := by
        rw [← dots, ← advances.count]
        omega
      obtain ⟨m, mended, more, settled'⟩ :=
        ih _ fewer (Nat.lt_of_le_of_lt advances.size_le small) rfl
      exact ⟨m + 1, mended, .step first more, settled'⟩

/-- **Removing dots gets on, and ends.**  Let the source be shorter than 2^32 bytes.

* If tokenizing fails since a number has a second point, then the help is to remove it,
  and the error spans that point.  Without it there are the same tokens as in front of the
  error, and then the text is in order or has an error that does not lie in front of that
  one.
* However often the point at fault is deleted, each time takes one dot away, so there are
  no more deletions than dots; and the tokens in front of the first error stay.
* It ends with a text that is in order or has an error of another kind.
-/
theorem removing_dots (d : Dialect) (small : source.utf8ByteSize < UInt32.size) :
    (∀ e, tokenize d source = .error e → e.code = .unexpectedDot →
      (Diagnostic.ofError e).help = some "remove the extra `.` from the number" ∧
      ∃ mended, mend? d source = some mended ∧ Advances d source e mended) ∧
    (∀ n mended, Mends d n source mended →
      n ≤ source.toList.count '.' ∧ KeepsTokens d source mended) ∧
    ∃ n mended, Mends d n source mended ∧
      ((∃ ts, tokenize d mended = .ok ts) ∨
        ∃ e, tokenize d mended = .error e ∧ e.code ≠ .unexpectedDot) := by
  refine ⟨?_, ?_, ?_⟩
  · intro e fails code
    exact ⟨congrArg ErrorCode.suggestion code, exists_advances small fails code⟩
  · intro n mended mends
    obtain ⟨count, kept⟩ := mends.keeps small
    exact ⟨count ▸ Nat.le_add_right _ _, kept⟩
  · obtain ⟨n, mended, mends, settled⟩ := exists_mends d small
    refine ⟨n, mended, mends, ?_⟩
    cases result : tokenize d mended with
    | ok ts => exact Or.inl ⟨ts, rfl⟩
    | error e => exact Or.inr ⟨e, rfl, settled e result⟩

/-- A number with two dots too many. -/
theorem removing_dots_twice :
    let source := "a 1.2.3.4"
    let e : LexicalError :=
      ⟨.unexpectedDot, "Unexpected dot in number", ⟨0, 5⟩, .ofOffsets 5 6⟩
    source.utf8ByteSize < UInt32.size ∧ tokenize .standard source = .error e ∧
      ∃ mended, mend? .standard source = some mended ∧ Advances .standard source e mended := by
  intro source e
  have small : source.utf8ByteSize < UInt32.size := by decide +kernel
  have fails : tokenize .standard source = .error e := by decide +kernel
  exact ⟨small, fails, ((removing_dots .standard small).1 e fails rfl).2⟩

/-- It takes two deletions to mend that number. -/
example : Mends .standard 2 "a 1.2.3.4" "a 1.234" := by
  have first : mend? .standard "a 1.2.3.4" = some "a 1.23.4" := by decide +kernel
  have second : mend? .standard "a 1.23.4" = some "a 1.234" := by decide +kernel
  exact .step first (.step second .nothing)

end Lexis
