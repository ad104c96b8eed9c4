import Lexis.Proofs.Items
import Lexis.Proofs.Session

/-!
# Requests

A lexer can be asked for its next token in four ways, in any order.  They share
one buffer of at most one token and one cursor, and `Lexer.Step` says what each
of them does to the two:

* **Some requests scan** (`Request.scans`).  Then the cursor moves as in a scan,
  and the token found is handed out or kept.
* **The others do not move the cursor**, and hand out or keep the token that was
  kept before.

In both cases the tokens handed out and kept together are those of one reply,
and the request answers with an error exactly if that reply is one
(`step_of_scans`, `step_of_not_scans`).  What is left to say of collecting is
that it iterates (`fold_invariant`, `exists_iterate_of_fold_error`).
-/

namespace Lexis

/-- What a lexer can be asked for. -/
inductive Request where
  | next
  | peek
  | atEnd
  | iterate
deriving DecidableEq

/-- The answer to a request. -/
inductive Answer where
  | next (reply : Reply)
  | peek (reply : Reply)
  | atEnd (reply : Except LexicalError Bool)
  | iterate (item : Option Item)
deriving DecidableEq

namespace Answer

/-- The error that an answer reports, if it reports one. -/
def error? : Answer → Option LexicalError
  | next (.error e) | peek (.error e) | atEnd (.error e) | iterate (some (.error e)) => some e
  | next (.ok _) | peek (.ok _) | atEnd (.ok _) | iterate (some (.ok _)) | iterate none => none

/-- The token that an answer hands out, if it hands one out. -/
def handed : Answer → List Token
  | next (.ok (some t)) | iterate (some (.ok t)) => [t]
  | _ => []

end Answer

namespace Lexer

/-- Puts a request to a lexer. -/
def ask : Request → Lexer → Answer × Lexer
  | .next, l => (.next l.nextToken.1, l.nextToken.2)
  | .peek, l => (.peek l.peekToken.1, l.peekToken.2)
  | .atEnd, l => (.atEnd l.atEnd.1, l.atEnd.2)
  | .iterate, l => (.iterate l.iterate.1, l.iterate.2)

end Lexer

/-- Whether a request takes a scan: not if a token is kept, and not if iterating
has come to an error before. -/
def Request.scans : Request → Lexer → Bool
  | .iterate, l => l.lookahead.isNone && !l.failed
  | _, l => l.lookahead.isNone

namespace Lexer

/-- The number of scans that a list of requests takes. -/
def scanCount : List Request → Lexer → Nat
  | [], _ => 0
  | r :: rs, l => scanCount rs (l.ask r).2 + (r.scans l).toNat

/-! ### What a request does -/

/-- A request leaves the cursor at `cursor`, and draws on `reply`: it hands out
or keeps the token of the reply, and reports the error of it. -/
structure Step (l : Lexer) (reply : Reply) (cursor : Cursor) (answered : Answer × Lexer) :
    Prop where
  dialect : answered.2.dialect = l.dialect
  cursor : answered.2.cursor = cursor
  error : answered.1.error? = (Answer.next reply).error?
  tokens : answered.1.handed ++ answered.2.lookahead.toList = (Answer.next reply).handed

theorem peekToken_of_empty {l : Lexer} (empty : l.lookahead = none) :
    l.peekToken = match l.scan.1 with
      | .ok found => (.ok found, { l.scan.2 with lookahead := found })
      | .error e => (.error e, l.scan.2) := by
  unfold peekToken
  rw [empty]
  rcases l.scan with ⟨found | e, l'⟩ <;> rfl

theorem empty_of_scans {r : Request} {l : Lexer} (scans : r.scans l = true) :
    l.lookahead = none := by
  cases r <;> simp_all [Request.scans]

/-- **A request that scans** draws on what the scan finds. -/
theorem step_of_scans {r : Request} {l : Lexer} (scans : r.scans l = true) :
    Step l l.scan.1 l.scan.2.cursor (l.ask r) := by
  have empty := empty_of_scans scans
  have stillEmpty : l.scan.2.lookahead = none := empty
  cases r with
  | next =>
    rw [ask, nextToken_of_empty empty]
    exact ⟨rfl, rfl, rfl, by rw [stillEmpty]; exact List.append_nil _⟩
  | peek =>
    rw [ask, peekToken_of_empty empty]
    rcases l.scan.1 with _ | _ | t <;> exact ⟨rfl, rfl, rfl, by simp [Answer.handed, stillEmpty]⟩
  | atEnd =>
    rw [ask, atEnd, peekToken_of_empty empty]
    rcases l.scan.1 with _ | _ | t <;> exact ⟨rfl, rfl, rfl, by simp [Answer.handed, stillEmpty]⟩
  | iterate =>
    have plain : l.Plain := ⟨empty, by simp_all [Request.scans]⟩
    rw [ask, plain.iterate_eq]
    rcases l.scan.1 with _ | _ | t <;> exact ⟨rfl, rfl, rfl, by simp [Answer.handed, stillEmpty]⟩

/-- **A request that does not scan** draws on the token kept. -/
theorem step_of_not_scans {r : Request} {l : Lexer} (noScan : r.scans l = false) :
    Step l (.ok l.lookahead) l.cursor (l.ask r) := by
  rcases kept : l.lookahead with _ | t
  -- Without a token kept, only iterating behind an error does without a scan.
  · cases r with
    | next | peek | atEnd => simp [Request.scans, kept] at noScan
    | iterate =>
      have failed : l.failed = true := by simpa [Request.scans, kept] using noScan
      rw [ask, iterate, if_pos failed]
      exact ⟨rfl, rfl, rfl, by simp [Answer.handed, kept]⟩
  · cases r with
    | next =>
      rw [ask, nextToken, kept]
      exact ⟨rfl, rfl, rfl, rfl⟩
    | peek =>
      rw [ask, peekToken, kept]
      exact ⟨rfl, rfl, rfl, by simp [Answer.handed, kept]⟩
    | atEnd =>
      rw [ask, atEnd, peekToken, kept]
      exact ⟨rfl, rfl, rfl, by simp [Answer.handed, kept]⟩
    | iterate =>
      by_cases failed : l.failed = true
      · rw [ask, iterate, if_pos failed]
        exact ⟨rfl, rfl, rfl, by simp [Answer.handed, kept]⟩
      · rw [ask, iterate, if_neg failed, nextToken, kept]
        exact ⟨rfl, rfl, rfl, rfl⟩

/-- A request leaves the dialect as it is. -/
theorem dialect_ask (r : Request) (l : Lexer) : (l.ask r).2.dialect = l.dialect := by
  rcases scans : r.scans l with _ | _
  · exact (step_of_not_scans scans).dialect
  · exact (step_of_scans scans).dialect

/-- **A request reports no error but that of a scan.** -/
theorem scan_of_reported {l : Lexer} {r : Request} {e : LexicalError}
    (reported : (l.ask r).1.error? = some e) : r.scans l = true ∧ l.scan.1 = .error e := by
  rcases scans : r.scans l with _ | _
  -- What does not scan draws on a token, so it reports no error.
  · rw [(step_of_not_scans scans).error] at reported
    cases reported
  · rw [(step_of_scans scans).error] at reported
    rcases replied : l.scan.1 with e' | found
    · rw [replied] at reported
      exact ⟨rfl, congrArg Except.error (Option.some.inj reported)⟩
    · rw [replied] at reported
      cases reported

/-! ### Collecting -/

variable {σ : Type} {gather : σ → Token → σ} {P : Lexer → Prop}

/-- What iterating keeps, collecting keeps. -/
theorem fold_invariant (keeps : ∀ l, P l → P l.iterate.2) {s : σ} {l : Lexer} (h : P l) :
    P (l.fold gather s).2 := by
  fun_induction fold gather s l with
  | case1 s l l' next | case2 s l e l' next =>
    have kept := keeps l h
    rwa [next] at kept
  | case3 s l t l' next ih =>
    have kept := keeps l h
    rw [next] at kept
    exact ih kept

/-- An error that collecting meets is one that iterating reports, and collecting
goes no further. -/
theorem exists_iterate_of_fold_error (keeps : ∀ l, P l → P l.iterate.2) {s : σ} {l : Lexer}
    {e : LexicalError} (h : P l) (failed : (l.fold gather s).1 = .error e) :
    ∃ l', P l' ∧ l'.iterate = (some (.error e), (l.fold gather s).2) := by
  fun_induction fold gather s l with
  | case1 => cases failed
  | case2 s l e' l' next =>
    cases failed
    exact ⟨l, h, next⟩
  | case3 s l t l' next ih =>
    have kept := keeps l h
    rw [next] at kept
    exact ih kept failed

/-! ### Everything that can be done with a lexer -/

/-- An operation on a lexer: a request, or collecting what is left. -/
inductive Operation where
  | ask (r : Request)
  | collect
deriving DecidableEq

/-- What an operation gives. -/
inductive Result where
  | answer (a : Answer)
  | tokens (collected : Except LexicalError (List Token))

/-- The error that a result reports, if it reports one. -/
def Result.error? : Result → Option LexicalError
  | answer a => a.error?
  | tokens (.error e) => some e
  | tokens (.ok _) => none

/-- Performs an operation. -/
def perform : Operation → Lexer → Result × Lexer
  | .ask r, l => (.answer (l.ask r).1, (l.ask r).2)
  | .collect, l => (.tokens l.collect.1, l.collect.2)

/-- A session with a lexer, from the start of a text. -/
def session (d : Dialect) (text : String) (ops : List Operation) : List Result × Lexer :=
  Session.run perform ops (ofText d text)

/-- What every request keeps, every operation keeps. -/
theorem perform_invariant (keeps : ∀ r l, P l → P (l.ask r).2) (op : Operation) (l : Lexer)
    (h : P l) : P (l.perform op).2 := by
  cases op with
  | ask r => exact keeps r l h
  | collect => exact fold_invariant (keeps .iterate) h

/-- An error that an operation reports is one that the last of its requests
reports. -/
theorem exists_last_ask_of_perform_error (keeps : ∀ r l, P l → P (l.ask r).2) {op : Operation}
    {l : Lexer} {e : LexicalError} (h : P l) (failed : (l.perform op).1.error? = some e) :
    ∃ r l', P l' ∧ (l'.ask r).1.error? = some e ∧ (l'.ask r).2 = (l.perform op).2 := by
  cases op with
  | ask r => exact ⟨r, l, h, failed, rfl⟩
  | collect =>
    have folded : (l.fold (fun read t => t :: read) []).1 = .error e := by
      rcases collected : l.fold (fun read t => t :: read) [] with ⟨e' | ts, l'⟩
      · simpa [perform, Result.error?, collect, collected, Except.map] using failed
      · simp [perform, Result.error?, collect, collected, Except.map] at failed
    obtain ⟨l', kept, answer⟩ := exists_iterate_of_fold_error (keeps .iterate) h folded
    exact ⟨.iterate, l', kept, by rw [ask, answer]; rfl, by rw [ask, answer]; rfl⟩

/-- An error that an operation reports is one that a request reports. -/
theorem exists_ask_of_perform_error (keeps : ∀ r l, P l → P (l.ask r).2) {op : Operation}
    {l : Lexer} {e : LexicalError} (h : P l) (failed : (l.perform op).1.error? = some e) :
    ∃ r l', P l' ∧ (l'.ask r).1.error? = some e := by
  obtain ⟨r, l', kept, reported, -⟩ := exists_last_ask_of_perform_error keeps h failed
  exact ⟨r, l', kept, reported⟩

/-- What holds of every error that a request reports, holds of every error of a
session. -/
theorem forall_errors_run {Q : LexicalError → Prop} (keeps : ∀ r l, P l → P (l.ask r).2)
    (errors : ∀ r l e, P l → (l.ask r).1.error? = some e → Q e) (ops : List Operation)
    {l : Lexer} (h : P l) :
    ∀ result ∈ (Session.run perform ops l).1, ∀ e, result.error? = some e → Q e := by
  refine Session.forall_mem_answers (perform_invariant keeps) ?_ ops h
  intro op l h e failed
  obtain ⟨r, l', kept, reported⟩ := exists_ask_of_perform_error keeps h failed
  exact errors r l' e kept reported

end Lexer

end Lexis
