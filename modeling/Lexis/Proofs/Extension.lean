import Lexis.Proofs.Contexts
import Lexis.Proofs.Lookahead

/-!
# Texts with more behind

Putting more text behind a text changes no token but the last (`dialogue_append`).  A
lexeme is judged with the text behind it, but only its end is: once a further
character stands there, no later one matters.  So the tokens in front of the last stay
what they are, and the last one does too unless it touches the end of the text.

What becomes of a token that touches the end is told by `Outgrowth`:

* **It stays** if the text behind it does not continue its lexeme.
* **It grows** if it does: its lexeme takes in some of that text, and it becomes a
  token of the same kind with a longer text, or with another value if it is a number.
  A word that grows may become a keyword or cease to be one.
* **It breaks** if it is a number and a second point follows.

There is nothing else (`Lexeme.exists_outgrowth`); in particular the token never
vanishes.
-/

namespace Lexis

variable {d : Dialect}

/-! ### The last token of a list -/

/-- The last token is found by a scan behind the tokens in front of it. -/
theorem Yields.exists_last {passed after : List Char} {ts : List Token} {t : Token}
    (h : Yields d passed after (ts ++ [t])) :
    ∃ front text, passed = front ++ text ∧ Yields d front (text ++ after) ts ∧
      Scans d text after (.ok (some t)) := by
  induction ts generalizing passed with
  | nil =>
    cases h with
    | scan first more =>
      cases more
      rw [List.append_nil]
      exact ⟨[], _, rfl, .nil, first⟩
  | cons u ts ih =>
    cases h with
    | @scan text passed after _ _ first more =>
      obtain ⟨front, last, rfl, yields, scans⟩ := ih more
      refine ⟨text ++ front, last, (List.append_assoc ..).symm, .scan ?_ yields, scans⟩
      rwa [List.append_assoc] at first

/-! ### Asking for the next token -/

namespace Lexer

/-- The answers to someone who asks for the next token and is given `ts`. -/
def handing (ts : List Token) : List Answer := ts.map fun t => .next (.ok (some t))

/-- **Tokens that are handed out are yielded** by the text in front of the lexer. -/
theorem exists_yields_of_handing {ts : List Token} {l : Lexer} (empty : l.lookahead = none)
    (answers : (Session.run ask (.replicate ts.length .next) l).1 = handing ts) :
    ∃ passed, Yields l.dialect passed
        (Session.run ask (.replicate ts.length .next) l).2.cursor.rest ts ∧
      l.cursor.rest = passed ++ (Session.run ask (.replicate ts.length .next) l).2.cursor.rest := by
  induction ts generalizing l with
  | nil => exact ⟨[], .nil, rfl⟩
  | cons t ts ih =>
    have next : l.ask .next = (.next l.scan.1, l.scan.2) := by
      rw [ask, nextToken_of_empty empty]
    rw [List.length_cons, List.replicate_succ, Session.run_cons, next] at answers ⊢
    obtain ⟨first, others⟩ := List.cons.inj answers
    obtain ⟨passed, yields, rest_eq⟩ := ih (l := l.scan.2) empty others
    obtain ⟨text, after, found, split, scans⟩ := exists_scans l.dialect l.cursor
    have scanned := scanned_of_scans split scans
    have reply := scanned.reply
    rw [Answer.next.inj first] at reply
    rw [scanned.rest] at rest_eq
    rcases found with f | found
    · cases reply
    · cases reply
      refine ⟨text ++ passed, .scan ?_ yields, ?_⟩
      · rwa [← rest_eq]
      · rw [split, rest_eq, List.append_assoc]

/-- **Tokens that the text yields are handed out**, and the lexer is left behind
them. -/
theorem run_next_of_yields {passed after : List Char} {ts : List Token}
    (h : Yields d passed after ts) {l : Lexer} (empty : l.lookahead = none) (dialect : l.dialect = d)
    (rest_eq : l.cursor.rest = passed ++ after) :
    let run := Session.run ask (.replicate ts.length .next) l
    run.1 = handing ts ∧ run.2.lookahead = none ∧ run.2.dialect = d ∧ run.2.cursor.rest = after := by
  induction h generalizing l with
  | nil => exact ⟨rfl, empty, dialect, rest_eq⟩
  | @scan text passed after t ts first more ih =>
    subst dialect
    rw [List.append_assoc] at rest_eq
    have scanned := scanned_of_scans rest_eq first
    have next : l.ask .next = (.next (.ok (some t)), l.scan.2) := by
      rw [ask, nextToken_of_empty empty, scanned.reply]
      rfl
    obtain ⟨answers, kept⟩ := ih (l := l.scan.2) empty rfl scanned.rest
    rw [List.length_cons, List.replicate_succ, Session.run_cons, next]
    refine ⟨?_, kept⟩
    rw [answers]
    rfl

/-- One more request for the next token is answered by what a scan finds behind the
tokens. -/
theorem run_next_of_scans {passed text after : List Char} {ts : List Token} {found : Found}
    (h : Yields d passed (text ++ after) ts) (scans : Scans d text after found) {l : Lexer}
    (empty : l.lookahead = none) (dialect : l.dialect = d)
    (rest_eq : l.cursor.rest = passed ++ (text ++ after)) :
    let run := Session.run ask (.replicate (ts.length + 1) .next) l
    run.1 = handing ts ++ [.next (replyAt run.2.cursor found)] := by
  obtain ⟨answers, empty', dialect', rest_eq'⟩ := run_next_of_yields h empty dialect rest_eq
  rw [List.replicate_succ', Session.run_append, answers, Session.run_cons, Session.run_nil]
  generalize (Session.run ask (.replicate ts.length .next) l).2 = l' at *
  subst dialect'
  rw [ask, nextToken_of_empty empty', (scanned_of_scans rest_eq' scans).reply]

end Lexer

/-! ### Tokens at the end of a text -/

namespace Token

/-- Whether a token is a keyword or an identifier. -/
def isWord (t : Token) : Bool := t.kind = .keyword || t.kind = .identifier

/-- The token `t'` is of the kind of `t`, or both are words, and the text of `t` goes on
in it. -/
structure Grows (t t' : Token) : Prop where
  kind : t'.kind = t.kind ∨ t.isWord = true ∧ t'.isWord = true
  text : ∀ text ∈ t.text?, ∃ added, t'.text? = some (text ++ added)

theorem grows_number (x y : Binary64) : Grows (number x) (number y) where
  kind := Or.inl rfl
  text := by rintro _ ⟨⟩

theorem Grows.of_ofList {t t' : Token} {text added : List Char}
    (kind : t'.kind = t.kind ∨ t.isWord = true ∧ t'.isWord = true)
    (old : t.text? = some (String.ofList text))
    (new : t'.text? = some (String.ofList (text ++ added))) : Grows t t' where
  kind := kind
  text := by
    rw [old]
    rintro _ ⟨⟩
    exact ⟨String.ofList added, by rw [new, String.ofList_append]⟩

end Token

/-- `Outgrowth d lexeme t more found`: the lexeme of `t` stands at the end of a text, and
with `more` behind it `found` is found in its place. -/
inductive Outgrowth (d : Dialect) (lexeme : List Char) (t : Token) : List Char → Found → Prop
  | stays {more : List Char} (isLexeme : Lexeme d lexeme more t) :
      Outgrowth d lexeme t more (.ok (some t))
  | grows {part after : List Char} {t' : Token} (nonempty : part ≠ [])
      (isLexeme : Lexeme d (lexeme ++ part) after t') (grows : t.Grows t') :
      Outgrowth d lexeme t (part ++ after) (.ok (some t'))
  | breaks {part after : List Char} {x : Binary64} (isNumber : t = .number x)
      (isFault : Faulty d (lexeme ++ part) after .secondDot) :
      Outgrowth d lexeme t (part ++ after) (.error .secondDot)

namespace Outgrowth

variable {lexeme : List Char} {t : Token}

/-- A lexeme that takes in nothing stays what it is. -/
theorem of_lexeme {part after : List Char} {t' : Token}
    (isLexeme : Lexeme d (lexeme ++ part) after t') (same : part = [] → t' = t)
    (grows : t.Grows t') : Outgrowth d lexeme t (part ++ after) (.ok (some t')) := by
  by_cases empty : part = []
  · obtain rfl := same empty
    subst empty
    rw [List.append_nil] at isLexeme
    exact .stays isLexeme
  · exact .grows empty isLexeme grows

/-- What a token becomes is found in its place. -/
theorem exists_finds {more : List Char} {found : Found} (h : Outgrowth d lexeme t more found) :
    ∃ text after, lexeme ++ more = text ++ after ∧ Finds d text after found := by
  cases h with
  | stays isLexeme => exact ⟨lexeme, more, rfl, .token isLexeme⟩
  | @grows part after t' nonempty isLexeme grows =>
    exact ⟨lexeme ++ part, after, (List.append_assoc ..).symm, .token isLexeme⟩
  | @breaks part after x isNumber isFault =>
    exact ⟨lexeme ++ part, after, (List.append_assoc ..).symm, .fault isFault⟩

end Outgrowth

/-! ### Literals -/

theorem EscapeMode.escaped_eq (mode : EscapeMode) (c : Char) :
    mode.escaped c = mode.dangling ++ [c] := by
  cases mode <;> rfl

/-- The body of a literal at the end of a text, with more behind it: either a delimiter
closes it there, or it takes in all of it. -/
theorem Literal.Body.extend {mode : EscapeMode} {q : Char} {body text : List Char}
    (h : Body mode q true body text) (more : List Char) :
    (∃ part added after, more = part ++ q :: after ∧ q ≠ '\\' ∧
      Body mode q false (body ++ part) (text ++ added)) ∨
    ∃ added, Body mode q true (body ++ more) (text ++ added) := by
  induction h with
  | nil =>
    rcases body_of_read mode q more with
      ⟨part, added, after, whole, canClose, isBody, -⟩ | ⟨added, isBody, -⟩
    · exact Or.inl ⟨part, added, after, whole, canClose, isBody⟩
    · exact Or.inr ⟨added, isBody⟩
  | plain noEscape noClose _ ih =>
    rcases ih with ⟨part, added, after, whole, canClose, isBody⟩ | ⟨added, isBody⟩
    · exact Or.inl ⟨part, added, after, whole, canClose, .plain noEscape noClose isBody⟩
    · exact Or.inr ⟨added, .plain noEscape noClose isBody⟩
  | escape _ ih =>
    simp only [List.append_assoc]
    rcases ih with ⟨part, added, after, whole, canClose, isBody⟩ | ⟨added, isBody⟩
    · exact Or.inl ⟨part, added, after, whole, canClose, .escape isBody⟩
    · exact Or.inr ⟨added, .escape isBody⟩
  | dangle =>
    -- The backslash that escaped nothing escapes the first character behind it.
    cases more with
    | nil => exact Or.inr ⟨[], by simpa using Body.dangle rfl⟩
    | cons c more =>
      rcases body_of_read mode q more with
        ⟨part, added, after, rfl, canClose, isBody, -⟩ | ⟨added, isBody, -⟩
      · have escaped := Body.escape (c := c) isBody
        rw [mode.escaped_eq, List.append_assoc] at escaped
        exact Or.inl ⟨c :: part, c :: added, after, rfl, canClose, escaped⟩
      · have escaped := Body.escape (c := c) isBody
        rw [mode.escaped_eq, List.append_assoc] at escaped
        exact Or.inr ⟨c :: added, escaped⟩

/-! ### What becomes of each lexeme -/

/-- A literal that is open at the end of a text. -/
theorem exists_outgrowth_string {q : Char} {body text : List Char}
    (starts : d.Starts .stringStart q) (lenient : d.strictStrings = false)
    (isBody : Literal.Body d.escapeMode q true body text) (more : List Char) :
    ∃ found, Outgrowth d (q :: body) (.string (String.ofList text)) more found := by
  have grows (added : List Char) : (Token.string (String.ofList text)).Grows
      (.string (String.ofList (text ++ added))) := .of_ofList (Or.inl rfl) rfl rfl
  rcases isBody.extend more with
    ⟨part, added, after, rfl, canClose, closed⟩ | ⟨added, stillOpen⟩
  · have isLexeme : Lexeme d (q :: (body ++ part ++ [q])) after _ :=
      .closedString starts canClose closed
    have whole : part ++ q :: after = (part ++ [q]) ++ after := by simp
    rw [whole]
    refine ⟨_, .grows (by simp) ?_ (grows added)⟩
    rwa [List.cons_append, ← List.append_assoc]
  · have isLexeme : Lexeme d (q :: body ++ more) [] _ := .openString starts lenient stillOpen
    rw [← List.append_nil more]
    refine ⟨_, .of_lexeme isLexeme ?_ (grows added)⟩
    rintro rfl
    rw [List.append_nil] at stillOpen
    rw [← Literal.decode_of_body stillOpen, Literal.decode_of_body isBody]

/-- What is read of a number behind its point: more digits, and then a second point or
the end of the number. -/
theorem pointed_or_secondDot {c : Char} {digits fraction : List Char} (starts : d.Starts .digit c)
    (areDigits : ∀ x ∈ digits, isDigit x = true)
    (fractionDigits : ∀ x ∈ fraction, isDigit x = true) (more : List Char) :
    ∃ part after, more = part ++ after ∧
      ((∃ x, Lexeme d (c :: (digits ++ '.' :: (fraction ++ part))) after (.number x) ∧
          (part = [] →
            x = .ofDecimal ⟨Decimal.ofDigits (c :: (digits ++ fraction)), -fraction.length⟩)) ∨
        Faulty d (c :: (digits ++ '.' :: (fraction ++ part))) after .secondDot) := by
  obtain ⟨part, after, rfl, partDigits, ends⟩ := exists_run isDigit more
  have allDigits : ∀ x ∈ fraction ++ part, isDigit x = true :=
    List.forall_mem_append.mpr ⟨fractionDigits, partDigits⟩
  refine ⟨part, after, rfl, ?_⟩
  by_cases dotted : after.head? = some '.'
  · obtain ⟨after, rfl⟩ := List.head?_eq_some_iff.mp dotted
    exact Or.inr (.secondDot starts areDigits allDigits)
  · refine Or.inl ⟨_, .pointed starts areDigits allDigits (Piece.ends_numeralChar ends dotted), ?_⟩
    rintro rfl
    rw [List.append_nil]

/-- A number with a point, at the end of a text. -/
theorem exists_outgrowth_pointed {c : Char} {digits fraction : List Char}
    (starts : d.Starts .digit c) (areDigits : ∀ x ∈ digits, isDigit x = true)
    (fractionDigits : ∀ x ∈ fraction, isDigit x = true) (more : List Char) :
    ∃ found, Outgrowth d (c :: (digits ++ '.' :: fraction)) (.number
      (.ofDecimal ⟨Decimal.ofDigits (c :: (digits ++ fraction)), -fraction.length⟩)) more found := by
  obtain ⟨part, after, rfl, goesOn⟩ := pointed_or_secondDot starts areDigits fractionDigits more
  have longer : c :: (digits ++ '.' :: (fraction ++ part)) =
      c :: (digits ++ '.' :: fraction) ++ part := by simp
  rw [longer] at goesOn
  rcases goesOn with ⟨x, isLexeme, same⟩ | isFault
  · exact ⟨_, .of_lexeme isLexeme (fun empty => by rw [same empty]) (Token.grows_number _ x)⟩
  · exact ⟨_, .breaks rfl isFault⟩

/-- A number without a point, at the end of a text. -/
theorem exists_outgrowth_whole {c : Char} {digits : List Char} (starts : d.Starts .digit c)
    (areDigits : ∀ x ∈ digits, isDigit x = true) (more : List Char) :
    ∃ found, Outgrowth d (c :: digits)
      (.number (.ofDecimal ⟨Decimal.ofDigits (c :: digits), 0⟩)) more found := by
  obtain ⟨part, tail, rfl, partDigits, ends⟩ := exists_run isDigit more
  have allDigits : ∀ x ∈ digits ++ part, isDigit x = true :=
    List.forall_mem_append.mpr ⟨areDigits, partDigits⟩
  by_cases dotted : tail.head? = some '.'
  · obtain ⟨tail, rfl⟩ := List.head?_eq_some_iff.mp dotted
    obtain ⟨fraction, after, rfl, goesOn⟩ :=
      pointed_or_secondDot starts allDigits (List.forall_mem_nil _) tail
    have longer : c :: (digits ++ part ++ '.' :: ([] ++ fraction)) =
        c :: digits ++ (part ++ '.' :: fraction) := by simp
    have whole : part ++ '.' :: (fraction ++ after) = (part ++ '.' :: fraction) ++ after := by simp
    rw [longer] at goesOn
    rw [whole]
    rcases goesOn with ⟨x, isLexeme, -⟩ | isFault
    · exact ⟨_, .grows (by simp) isLexeme (Token.grows_number _ x)⟩
    · exact ⟨_, .breaks rfl isFault⟩
  · have isLexeme : Lexeme d (c :: digits ++ part) tail _ :=
      .whole starts allDigits (Piece.ends_numeralChar ends dotted)
    refine ⟨_, .of_lexeme isLexeme ?_ (Token.grows_number _ _)⟩
    rintro rfl
    simp

/-- A run of identifier characters is a word, listed or not. -/
theorem exists_lexeme_word {c : Char} {word after : List Char} (starts : d.Starts .identStart c)
    (isWord : ∀ x ∈ word, isIdentifierChar x = true) (ends : Ends isIdentifierChar after) :
    ∃ t, Lexeme d (c :: word) after t ∧ t.isWord = true ∧
      t.text? = some (String.ofList (c :: word)) := by
  by_cases listed : String.ofList (c :: word) ∈ d.keywords
  · exact ⟨_, .keyword starts isWord ends listed, rfl, rfl⟩
  · exact ⟨_, .identifier starts isWord ends listed, rfl, rfl⟩

/-- A word at the end of a text. -/
theorem exists_outgrowth_word {c : Char} {word : List Char} {t : Token}
    (starts : d.Starts .identStart c) (isWord : ∀ x ∈ word, isIdentifierChar x = true)
    (stays : ∀ after, Ends isIdentifierChar after → Lexeme d (c :: word) after t)
    (kind : t.isWord = true) (text : t.text? = some (String.ofList (c :: word)))
    (more : List Char) : ∃ found, Outgrowth d (c :: word) t more found := by
  obtain ⟨part, after, rfl, partWord, ends⟩ := exists_run isIdentifierChar more
  by_cases empty : part = []
  · subst empty
    exact ⟨_, .stays (stays _ ends)⟩
  · have allWord : ∀ x ∈ word ++ part, isIdentifierChar x = true :=
      List.forall_mem_append.mpr ⟨isWord, partWord⟩
    obtain ⟨t', isLexeme, kind', text'⟩ := exists_lexeme_word starts allWord ends
    exact ⟨_, .grows empty isLexeme (.of_ofList (Or.inr ⟨kind, kind'⟩) text text')⟩

/-- An operator at the end of a text. -/
theorem exists_outgrowth_operator {c : Char} {signs : List Char} (starts : d.Starts .operator c)
    (areSigns : ∀ x ∈ signs, d.isOperator x = true) (more : List Char) :
    ∃ found, Outgrowth d (c :: signs) (.operator (String.ofList (c :: signs))) more found := by
  obtain ⟨part, after, rfl, partSigns, ends⟩ := exists_run d.isOperator more
  have isLexeme : Lexeme d (c :: signs ++ part) after _ :=
    .operator starts (List.forall_mem_append.mpr ⟨areSigns, partSigns⟩) ends
  refine ⟨_, .of_lexeme isLexeme ?_ (.of_ofList (Or.inl rfl) rfl rfl)⟩
  rintro rfl
  simp

/-- **What becomes of a token** at the end of a text, with more behind it. -/
theorem Lexeme.exists_outgrowth {lexeme : List Char} {t : Token} (h : Lexeme d lexeme [] t)
    (more : List Char) : ∃ found, Outgrowth d lexeme t more found := by
  cases h with
  | closedString starts canClose isBody => exact ⟨_, .stays (.closedString starts canClose isBody)⟩
  | openString starts lenient isBody => exact exists_outgrowth_string starts lenient isBody more
  | whole starts areDigits => exact exists_outgrowth_whole starts areDigits more
  | pointed starts areDigits fractionDigits =>
    exact exists_outgrowth_pointed starts areDigits fractionDigits more
  | keyword starts isWord _ listed =>
    exact exists_outgrowth_word starts isWord (fun _ ends => .keyword starts isWord ends listed)
      rfl rfl more
  | identifier starts isWord _ unlisted =>
    exact exists_outgrowth_word starts isWord
      (fun _ ends => .identifier starts isWord ends unlisted) rfl rfl more
  | punctuation starts => exact ⟨_, .stays (.punctuation starts)⟩
  | operator starts areSigns => exact exists_outgrowth_operator starts areSigns more

/-! ### Longer texts -/

/-- With more behind the text, tokens with something behind them stay what they are. -/
theorem Yields.extend {passed after : List Char} {ts : List Token} (h : Yields d passed after ts)
    (nonempty : after ≠ []) (more : List Char) : Yields d passed (after ++ more) ts := by
  refine h.replace (.of_head? ?_)
  rw [List.head?_append_of_ne_nil after nonempty]

/-- With more behind the text, a lexeme at its end is found again, or what has become of
it. -/
theorem Scans.exists_outgrowth {text : List Char} {t : Token}
    (h : Scans d text [] (.ok (some t))) (more : List Char) :
    ∃ gap lexeme found passed after, text = gap ++ lexeme ∧ Lexeme d lexeme [] t ∧
      Outgrowth d lexeme t more found ∧ text ++ more = passed ++ after ∧
      Scans d passed after found := by
  obtain ⟨gap, lexeme, rfl, isGap, isLexeme⟩ := h.exists_lexeme
  obtain ⟨found, outgrowth⟩ := isLexeme.exists_outgrowth more
  obtain ⟨passed, after, whole, finds⟩ := outgrowth.exists_finds
  have isGap' : Gap d gap (passed ++ after) := by
    refine isGap.replace fun ended => ?_
    exact absurd (List.append_eq_nil_iff.mp ended).1 isLexeme.ne_nil
  refine ⟨gap, lexeme, found, gap ++ passed, after, rfl, isLexeme, outgrowth, ?_,
    .behind isGap' finds⟩
  rw [List.append_assoc, whole, List.append_assoc]

namespace Lexer

/-- Where tokens have been handed out, the last of them is found behind the others. -/
theorem exists_scans_of_handing {source : String} {ts : List Token} {t : Token}
    (answers : (dialogue d source (.replicate (ts.length + 1) .next)).1 = handing (ts ++ [t])) :
    let rest := (dialogue d source (.replicate (ts.length + 1) .next)).2.cursor.rest
    ∃ front text, source.toList = front ++ (text ++ rest) ∧ Yields d front (text ++ rest) ts ∧
      Scans d text rest (.ok (some t)) := by
  have counted : (ts ++ [t]).length = ts.length + 1 := by simp
  obtain ⟨passed, yields, whole⟩ := exists_yields_of_handing (l := ofText d source) rfl
    (counted ▸ answers)
  rw [counted] at yields whole
  obtain ⟨front, text, rfl, yields, scans⟩ := yields.exists_last
  rw [List.append_assoc] at whole
  exact ⟨front, text, whole, yields, scans⟩

/-- **More text behind a text changes no token but the last.**  Let `ts` and then `t` be
handed out to someone who asks for the next token of a text, and let `rest` be what is
left of it then.  With `more` behind the text `ts` are handed out again.

* If something is left, `t` is handed out again, too.
* If nothing is left, the lexeme of `t` is at the end of the text, and what is replied
  is what has become of it: `t`, a token that `t` has grown to, or the error about a
  second point.
-/
theorem dialogue_append {source more : String} {ts : List Token} {t : Token}
    (answers : (dialogue d source (.replicate (ts.length + 1) .next)).1 = handing (ts ++ [t])) :
    let rest := (dialogue d source (.replicate (ts.length + 1) .next)).2.cursor.rest
    let extended := dialogue d (source ++ more) (.replicate (ts.length + 1) .next)
    ∃ reply : Reply, extended.1 = handing ts ++ [.next reply] ∧
      (rest ≠ [] → reply = .ok (some t)) ∧
      (rest = [] → ∃ front lexeme found, source.toList = front ++ lexeme ∧
        Lexeme d lexeme [] t ∧ Outgrowth d lexeme t more.toList found ∧
        reply = replyAt extended.2.cursor found) := by
  intro rest extended
  obtain ⟨front, text, whole, yields, scans⟩ := exists_scans_of_handing answers
  rw [show (dialogue d source (.replicate (ts.length + 1) .next)).2.cursor.rest = rest from rfl]
    at whole yields scans
  clear_value rest
  have nonempty : text ++ rest ≠ [] := by
    obtain ⟨gap, lexeme, rfl, -, isLexeme⟩ := scans.exists_lexeme
    simp [isLexeme.ne_nil]
  have yields' := yields.extend nonempty more.toList
  have whole' : (source ++ more).toList = front ++ (text ++ (rest ++ more.toList)) := by
    rw [String.toList_append, whole, List.append_assoc, List.append_assoc]
  rw [List.append_assoc] at yields'
  by_cases ended : rest = []
  · subst ended
    obtain ⟨gap, lexeme, found, passed, after, rfl, isLexeme, outgrowth, split, scans'⟩ :=
      scans.exists_outgrowth more.toList
    rw [List.nil_append, split] at yields' whole'
    refine ⟨_, run_next_of_scans yields' scans' rfl rfl whole', absurd rfl, fun _ => ?_⟩
    refine ⟨front ++ gap, lexeme, found, ?_, isLexeme, outgrowth, rfl⟩
    rw [whole, List.append_nil, List.append_assoc]
  · have sameHead : Replaces d rest (rest ++ more.toList) :=
      .of_head? (List.head?_append_of_ne_nil rest ended)
    refine ⟨_, run_next_of_scans yields' (scans.replace sameHead) rfl rfl whole', fun _ => rfl, ?_⟩
    intro none
    exact absurd none ended

/-- Two words and a number with a point: with a further point behind the text the words
stay, and the number is an error. -/
theorem dialogue_append_second_point :
    let answers := (dialogue .standard "let x 1." (.replicate 3 .next)).1
    let rest := (dialogue .standard "let x 1." (.replicate 3 .next)).2.cursor.rest
    let extended := dialogue .standard ("let x 1." ++ ".5") (.replicate 3 .next)
    let t : Token := .number (.ofDecimal ⟨1, 0⟩)
    answers = handing ([.keyword "let", .identifier "x"] ++ [t]) ∧ rest = [] ∧
      ∃ reply : Reply, extended.1 = handing [.keyword "let", .identifier "x"] ++ [.next reply] ∧
        ∃ front lexeme found, ("let x 1." : String).toList = front ++ lexeme ∧
          Lexeme .standard lexeme [] t ∧ Outgrowth .standard lexeme t (".5" : String).toList found ∧
          reply = replyAt extended.2.cursor found := by
  intro answers rest extended t
  have handed : answers = handing ([.keyword "let", .identifier "x"] ++ [t]) := by decide +kernel
  have ended : rest = [] := by decide +kernel
  obtain ⟨reply, replies, -, outgrown⟩ := @dialogue_append .standard "let x 1." ".5"
    [.keyword "let", .identifier "x"] t handed
  exact ⟨handed, ended, reply, replies, outgrown ended⟩

end Lexer

end Lexis
