import Lexis.Proofs.Requests

/-!
# Lexers that correspond

Two lexers are compared operation by operation.  What one of them reports is put in
the terms of the other by a `Translation`, which says what becomes of a token and of
an error; all answers and results are translated by these two.

* **A correspondence** (`Correspondence d d'`) is a relation between cursors that
  scans keep: from related cursors, a scan in `d'` replies what a scan in `d` replies,
  translated, and the two stop at related cursors.
* **Lexers correspond** (`Correspondence.Holds`) if their cursors are related and they
  have kept corresponding tokens.  Then so they do after every request, every operation
  and every session, and what they report is the same, translated (`Holds.run`).

A lexer gets tokens and errors from scans alone, which is why the scans are all that
has to be compared.
-/

namespace Lexis

/-! ### Translations -/

/-- What becomes of tokens and of errors. -/
structure Translation where
  token : Token → Token
  error : LexicalError → LexicalError

namespace Translation

/-- The translation that leaves everything as it is. -/
def same : Translation := ⟨id, id⟩

variable (f : Translation)

/-- A reply, translated. -/
def reply (r : Reply) : Reply := (r.map (Option.map f.token)).mapError f.error

/-- An item, translated. -/
def item (i : Item) : Item := (i.map f.token).mapError f.error

/-- An answer, translated. -/
def answer : Answer → Answer
  | .next r => .next (f.reply r)
  | .peek r => .peek (f.reply r)
  | .atEnd r => .atEnd (r.mapError f.error)
  | .iterate i => .iterate (i.map f.item)

/-- What is collected, translated. -/
def tokens (collected : Except LexicalError (List Token)) : Except LexicalError (List Token) :=
  (collected.map (List.map f.token)).mapError f.error

/-- A result, translated. -/
def result : Lexer.Result → Lexer.Result
  | .answer a => .answer (f.answer a)
  | .tokens collected => .tokens (f.tokens collected)

theorem same_result : same.result = id := by
  funext r
  rcases r with ((e | _ | t) | (e | _ | t) | (e | b) | (_ | e | t)) | (e | ts)
  all_goals first
    | rfl
    | simp [result, tokens, same, Except.map, Except.mapError]

end Translation

namespace Lexer

/-! ### Collecting, one item at a time -/

section Fold

variable {σ : Type} {gather : σ → Token → σ} {s : σ} {l l' : Lexer}

theorem fold_of_none (next : l.iterate = (none, l')) : l.fold gather s = (.ok s, l') := by
  rw [fold]
  split <;> simp_all

theorem fold_of_error {e : LexicalError} (next : l.iterate = (some (.error e), l')) :
    l.fold gather s = (.error e, l') := by
  rw [fold]
  split <;> simp_all

theorem fold_of_token {t : Token} (next : l.iterate = (some (.ok t), l')) :
    l.fold gather s = l'.fold gather (gather s t) := by
  rw [fold]
  split <;> simp_all

end Fold

end Lexer

/-! ### Correspondences -/

/-- A relation between cursors, under which scans in `d'` reply what scans in `d`
reply, translated. -/
structure Correspondence (d d' : Dialect) where
  cursors : Cursor → Cursor → Prop
  translation : Translation
  scan : ∀ {c c' : Cursor}, cursors c c' → ∀ log log' : List Event,
    (Lexer.scanFrom d' log' c').reply = translation.reply (Lexer.scanFrom d log c).reply ∧
      cursors (Lexer.scanFrom d log c).cursor (Lexer.scanFrom d' log' c').cursor

namespace Correspondence

variable {d d' : Dialect} {k : Correspondence d d'} {m l : Lexer}

/-- The lexers `m` and `l` correspond: their cursors do, and what they have kept is the
same, translated. -/
structure Holds (k : Correspondence d d') (m l : Lexer) : Prop where
  source : m.dialect = d
  target : l.dialect = d'
  cursor : k.cursors m.cursor l.cursor
  lookahead : l.lookahead = m.lookahead.map k.translation.token
  failed : l.failed = m.failed

namespace Holds

theorem scan (h : k.Holds m l) :
    l.scan.1 = k.translation.reply m.scan.1 ∧ k.Holds m.scan.2 l.scan.2 := by
  obtain ⟨rfl, rfl, cursor, lookahead, failed⟩ := h
  obtain ⟨reply, related⟩ := k.scan cursor m.log l.log
  exact ⟨reply, rfl, rfl, related, lookahead, failed⟩

theorem nextToken (h : k.Holds m l) :
    l.nextToken.1 = k.translation.reply m.nextToken.1 ∧ k.Holds m.nextToken.2 l.nextToken.2 := by
  unfold Lexer.nextToken
  rw [h.lookahead]
  rcases m.lookahead with _ | t
  · exact h.scan
  · exact ⟨rfl, h.source, h.target, h.cursor, rfl, h.failed⟩

theorem peekToken (h : k.Holds m l) :
    l.peekToken.1 = k.translation.reply m.peekToken.1 ∧ k.Holds m.peekToken.2 l.peekToken.2 := by
  have kept' := h.lookahead
  rcases kept : m.lookahead with _ | t
  · rw [kept] at kept'
    obtain ⟨reply, holds⟩ := h.scan
    rw [Lexer.peekToken_of_empty kept, Lexer.peekToken_of_empty kept', reply]
    rcases m.scan.1 with e | found
    · exact ⟨rfl, holds⟩
    · exact ⟨rfl, holds.source, holds.target, holds.cursor, rfl, holds.failed⟩
  · rw [kept] at kept'
    rw [Lexer.peekToken, Lexer.peekToken, kept, kept']
    exact ⟨rfl, h⟩

theorem iterate (h : k.Holds m l) :
    l.iterate.1 = m.iterate.1.map k.translation.item ∧ k.Holds m.iterate.2 l.iterate.2 := by
  obtain ⟨reply, holds⟩ := h.nextToken
  unfold Lexer.iterate
  rw [h.failed]
  rcases m.failed with _ | _
  -- Neither of the two fails without the other, so the mixed cases are void.
  · rcases next : m.nextToken with ⟨e | found, m'⟩ <;>
      rcases next' : l.nextToken with ⟨e' | found', l'⟩ <;> rw [next, next'] at reply holds
    · cases reply
      exact ⟨rfl, holds.source, holds.target, holds.cursor, holds.lookahead, rfl⟩
    · cases reply
    · cases reply
    · cases reply
      exact ⟨by rcases found with _ | t <;> rfl, holds⟩
  · exact ⟨rfl, h⟩

/-- **Requests are answered alike.** -/
theorem ask (h : k.Holds m l) (r : Request) :
    (l.ask r).1 = k.translation.answer (m.ask r).1 ∧ k.Holds (m.ask r).2 (l.ask r).2 := by
  cases r with
  | next => exact ⟨congrArg Answer.next h.nextToken.1, h.nextToken.2⟩
  | peek => exact ⟨congrArg Answer.peek h.peekToken.1, h.peekToken.2⟩
  | atEnd =>
    obtain ⟨reply, holds⟩ := h.peekToken
    refine ⟨congrArg Answer.atEnd ?_, holds⟩
    show l.peekToken.1.map Option.isNone = (m.peekToken.1.map Option.isNone).mapError _
    rw [reply]
    rcases m.peekToken.1 with e | _ | t <;> rfl
  | iterate => exact ⟨congrArg Answer.iterate h.iterate.1, h.iterate.2⟩

/-- Folding over corresponding lexers: `carry` takes what the one gathers to what the
other does. -/
theorem fold {σ τ : Type} (gather : σ → Token → σ) (gather' : τ → Token → τ) (carry : σ → τ)
    (step : ∀ s t, carry (gather s t) = gather' (carry s) (k.translation.token t)) (s : σ)
    (h : k.Holds m l) :
    (l.fold gather' (carry s)).1 = ((m.fold gather s).1.map carry).mapError k.translation.error ∧
      k.Holds (m.fold gather s).2 (l.fold gather' (carry s)).2 := by
  fun_induction Lexer.fold gather s m generalizing l with
  | case1 s m m' next =>
    obtain ⟨item, holds⟩ := h.iterate
    rw [next] at item holds
    rw [Lexer.fold_of_none (Prod.ext item rfl)]
    exact ⟨rfl, holds⟩
  | case2 s m e m' next =>
    obtain ⟨item, holds⟩ := h.iterate
    rw [next] at item holds
    rw [Lexer.fold_of_error (Prod.ext item rfl)]
    exact ⟨rfl, holds⟩
  | case3 s m t m' next ih =>
    obtain ⟨item, holds⟩ := h.iterate
    rw [next] at item holds
    rw [Lexer.fold_of_token (Prod.ext item rfl)]
    have onward := ih holds
    rwa [step] at onward

theorem collect (h : k.Holds m l) :
    l.collect.1 = k.translation.tokens m.collect.1 ∧ k.Holds m.collect.2 l.collect.2 := by
  obtain ⟨folded, holds⟩ := h.fold (fun read t => t :: read) (fun read t => t :: read)
    (List.map k.translation.token) (fun _ _ => rfl) []
  rw [List.map_nil] at folded holds
  refine ⟨?_, holds⟩
  show (l.fold _ []).1.map List.reverse =
    (((m.fold _ []).1.map List.reverse).map (List.map k.translation.token)).mapError _
  rw [folded]
  rcases (m.fold (fun read t => t :: read) []).1 with e | ts
  · rfl
  · exact congrArg Except.ok List.map_reverse.symm

/-- **Operations have the same results**, translated. -/
theorem perform (h : k.Holds m l) (op : Lexer.Operation) :
    (l.perform op).1 = k.translation.result (m.perform op).1 ∧
      k.Holds (m.perform op).2 (l.perform op).2 := by
  cases op with
  | ask r => exact ⟨congrArg Lexer.Result.answer (h.ask r).1, (h.ask r).2⟩
  | collect => exact ⟨congrArg Lexer.Result.tokens h.collect.1, h.collect.2⟩

/-- **Sessions have the same results**, translated. -/
theorem run (h : k.Holds m l) (ops : List Lexer.Operation) :
    (Session.run Lexer.perform ops l).1 =
        (Session.run Lexer.perform ops m).1.map k.translation.result ∧
      k.Holds (Session.run Lexer.perform ops m).2 (Session.run Lexer.perform ops l).2 :=
  Session.run_alongside (fun op _ _ holds => holds.perform op) ops h

end Holds

/-! ### Whole texts -/

/-- Lexers at the start of a text correspond, if their cursors do. -/
theorem holds_ofText {source source' : String}
    (starts : k.cursors (.ofText source) (.ofText source')) :
    k.Holds (.ofText d source) (.ofText d' source') :=
  ⟨rfl, rfl, starts, rfl, rfl⟩

/-- **Texts are tokenized alike.** -/
theorem tokenize_eq {source source' : String}
    (starts : k.cursors (.ofText source) (.ofText source')) :
    tokenize d' source' = k.translation.tokens (tokenize d source) :=
  (k.holds_ofText starts).collect.1

/-- **Sessions with a text go alike.** -/
theorem session_eq {source source' : String}
    (starts : k.cursors (.ofText source) (.ofText source')) (ops : List Lexer.Operation) :
    (Lexer.session d' source' ops).1 = (Lexer.session d source ops).1.map k.translation.result :=
  ((k.holds_ofText starts).run ops).1

end Correspondence

end Lexis
