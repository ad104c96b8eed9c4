import Lexis.Proofs.Displacement
import Lexis.Proofs.Peeking

/-!
# Iterating comes to an end once

Iterating hands out tokens and then ends, either with an error or because no token is
left.  Both ends are for good (`session_fused`), but for two reasons:

* **Behind an error** only the flag of the lexer says that iterating is over.  Nothing
  but iterating sets it (`failed_perform`) and nothing clears it, so it records whether
  an error has been met, whatever else was asked on the way (`failed_run`).  Requests
  that do not iterate still go on behind the error.
* **Behind the last token** it is the cursor that says so: the lexer is stalled at the
  end of the text, and every request of any kind finds nothing (`Stalled.perform_eq`).

Collecting is iterating, call for call, up to the first call that hands out no token
(`exists_run_iterate_of_fold`).  So it goes no further than the first error, and what
ends iterating ends collecting.
-/

namespace Lexis

namespace Lexer

/-! ### Operations that iterate -/

/-- Whether an operation iterates. -/
def Operation.iterates : Operation → Bool
  | ask .iterate | collect => true
  | ask _ => false

/-- What an operation gives if there is no token to be had. -/
def Operation.exhausted : Operation → Result
  | ask r => .answer (.due r none)
  | collect => .tokens (.ok [])

/-- Iterating has met an error: an operation that iterates has reported one. -/
def MetError (ops : List Operation) (results : List Result) : Prop :=
  ∃ p ∈ ops.zip results, p.1.iterates = true ∧ ∃ e, p.2.error? = some e

/-- Iterating has come to its end without an error: it has handed out nothing, or
everything that was left has been collected. -/
def Result.Ends : Result → Prop
  | answer (.iterate none) | tokens (.ok _) => True
  | answer _ | tokens (.error _) => False

/-! ### The flag -/

section Flag

variable {l : Lexer}

theorem failed_nextToken (l : Lexer) : l.nextToken.2.failed = l.failed := by
  unfold nextToken
  rcases l.lookahead with _ | t <;> rfl

theorem failed_peekToken (l : Lexer) : l.peekToken.2.failed = l.failed := by
  rcases kept : l.lookahead with _ | t
  · rw [peekToken_of_empty kept]
    rcases l.scan.1 with e | found <;> rfl
  · rw [peekToken, kept]

theorem failed_iterate (l : Lexer) :
    l.iterate.2.failed = true ↔ l.failed = true ∨ ∃ e, l.iterate.1 = some (.error e) := by
  have kept := l.failed_nextToken
  unfold iterate
  rcases failed : l.failed with _ | _
  · rw [failed] at kept
    rw [if_neg (by simp)]
    rcases next : l.nextToken with ⟨e | found, l'⟩ <;> rw [next] at kept
    · simp
    · rcases found with _ | t <;> simpa using kept
  · simpa using failed

/-- What a fold keeps is what its calls keep: the flag is set behind an error. -/
theorem failed_fold {σ : Type} (gather : σ → Token → σ) (s : σ) (l : Lexer) :
    (l.fold gather s).2.failed = true ↔
      l.failed = true ∨ ∃ e, (l.fold gather s).1 = .error e := by
  fun_induction fold gather s l with
  | case1 s l l' next | case2 s l e l' next => simpa [next] using l.failed_iterate
  | case3 s l t l' next ih =>
    have kept := l.failed_iterate
    simp only [next, Option.some.injEq, reduceCtorEq, exists_false, or_false] at kept
    rw [ih, kept]

/-- **Only iterating sets the flag**, and only where it reports an error. -/
theorem failed_perform (op : Operation) (l : Lexer) :
    (l.perform op).2.failed = true ↔ l.failed = true ∨
      op.iterates = true ∧ ∃ e, (l.perform op).1.error? = some e := by
  cases op with
  | ask r =>
    cases r with
    | next => simp [perform, ask, Operation.iterates, failed_nextToken]
    | peek => simp [perform, ask, Operation.iterates, failed_peekToken]
    | atEnd => simp [perform, ask, Operation.iterates, atEnd, failed_peekToken]
    | iterate =>
      have flag := l.failed_iterate
      rcases item : l.iterate.1 with _ | e | t <;> rw [item] at flag <;>
        simpa [perform, ask, Operation.iterates, Result.error?, Answer.error?, item] using flag
  | collect =>
    have flag := l.failed_fold (fun read t => t :: read) []
    rcases folded : (l.fold (fun read t => t :: read) []).1 with e | ts <;> rw [folded] at flag <;>
      simpa [perform, collect, Operation.iterates, Result.error?, folded, Except.map] using flag

/-- **The flag records** whether iterating has met an error. -/
theorem failed_run (ops : List Operation) (l : Lexer) :
    (Session.run perform ops l).2.failed = true ↔
      l.failed = true ∨ MetError ops (Session.run perform ops l).1 := by
  induction ops generalizing l with
  | nil => simp [MetError]
  | cons op ops ih =>
    rw [Session.run_cons, ih, failed_perform, or_assoc]
    simp [MetError]

/-- Once iterating has met an error it hands out nothing more. -/
theorem perform_of_failed (failed : l.failed = true) {op : Operation}
    (iterates : op.iterates = true) : (l.perform op).1 = op.exhausted := by
  obtain ⟨item, collected⟩ := (offers_outlook l).spent failed
  cases op with
  | ask r =>
    cases r with
    | next | peek | atEnd => cases iterates
    | iterate => exact congrArg Result.answer item
  | collect => exact congrArg Result.tokens collected

end Flag

/-! ### The end of the text -/

/-- **At the end of the text there is nothing to be had**, in whatever way it is asked
for. -/
theorem Stalled.perform_eq {l : Lexer} (h : l.Stalled (.ok none)) (op : Operation) :
    (l.perform op).1 = op.exhausted := by
  have item : l.outlook = none := h.outlook_eq
  rcases failed : l.failed with _ | _
  · cases op with
    | ask r =>
      have answer : (l.ask r).1 = .due r none := item ▸ ask_eq_due fun _ => failed
      exact congrArg Result.answer answer
    | collect =>
      have collected := (offers_outlook l).collect failed
      rw [item] at collected
      exact congrArg Result.tokens collected
  · cases op with
    | ask r =>
      by_cases again : r = .iterate
      · exact perform_of_failed failed (by rw [again]; rfl)
      · have answer : (l.ask r).1 = .due r none := item ▸ ask_eq_due fun same => absurd same again
        exact congrArg Result.answer answer
    | collect => exact perform_of_failed failed rfl

theorem Stalled.perform {reply : Reply} {l : Lexer} (h : l.Stalled reply) (op : Operation) :
    (l.perform op).2.Stalled reply :=
  perform_invariant (P := Stalled reply) (fun r _ stalled => (stalled.ask r).1) op l h

/-- A request for the next token that finds none leaves the lexer at the end of the
text. -/
theorem stalled_of_nextToken {l : Lexer} (reply : l.nextToken.1 = .ok none) :
    l.nextToken.2.Stalled (.ok none) := by
  rcases kept : l.lookahead with _ | t
  · rw [nextToken_of_empty kept] at reply ⊢
    exact stalled_of_ended kept (rest_of_scan_none reply)
  · rw [nextToken, kept] at reply
    cases reply

/-- Iterating that hands out nothing, but has met no error, is at the end of the
text. -/
theorem stalled_of_iterate {l : Lexer} (unfailed : l.failed = false) (item : l.iterate.1 = none) :
    l.iterate.2.Stalled (.ok none) := by
  unfold iterate at item ⊢
  rw [if_neg (by simp [unfailed])] at item ⊢
  have stalled := l.stalled_of_nextToken
  rcases next : l.nextToken with ⟨e | found, l'⟩ <;> rw [next] at stalled item
  · cases item
  · rcases found with _ | t
    · exact stalled rfl
    · cases item

/-! ### Collecting -/

/-- **Folding is iterating**, call for call, up to the first call that hands out no
token. -/
theorem exists_run_iterate_of_fold {σ : Type} (gather : σ → Token → σ) (s : σ) (l : Lexer) :
    ∃ (ts : List Token) (last : Option LexicalError),
      Session.run ask (.replicate (ts.length + 1) .iterate) l =
        (ts.map (fun t => .iterate (some (.ok t))) ++ [.iterate (last.map .error)],
          (l.fold gather s).2) ∧
      (l.fold gather s).1 = match last with
        | none => .ok (ts.foldl gather s)
        | some e => .error e := by
  fun_induction fold gather s l with
  | case1 s l l' next => exact ⟨[], none, by simp [ask, next], rfl⟩
  | case2 s l e l' next => exact ⟨[], some e, by simp [ask, next], rfl⟩
  | case3 s l t l' next ih =>
    obtain ⟨ts, last, calls, folded⟩ := ih
    refine ⟨t :: ts, last, ?_, folded⟩
    rw [List.length_cons, List.replicate_succ, Session.run_cons]
    simp [ask, next, calls]

/-- Folding that meets no error ends at the end of the text. -/
theorem stalled_of_fold {σ : Type} {gather : σ → Token → σ} {s s' : σ} {l : Lexer}
    (unfailed : l.failed = false) (folded : (l.fold gather s).1 = .ok s') :
    (l.fold gather s).2.Stalled (.ok none) := by
  fun_induction fold gather s l with
  | case1 s l l' next =>
    have stalled := stalled_of_iterate unfailed (by rw [next])
    rwa [next] at stalled
  | case2 => cases folded
  | case3 s l t l' next ih =>
    refine ih ?_ folded
    have kept := l.failed_iterate
    rw [next, unfailed] at kept
    simpa using kept

/-- Where iterating has come to its end without an error, there is nothing more to be
had. -/
theorem stalled_of_ends {l : Lexer} {op : Operation} (unfailed : l.failed = false)
    (ends : (l.perform op).1.Ends) : (l.perform op).2.Stalled (.ok none) := by
  cases op with
  | ask r =>
    cases r with
    | next | peek | atEnd => exact ends.elim
    | iterate =>
      rcases item : l.iterate.1 with _ | _
      · exact stalled_of_iterate unfailed item
      · simp [Lexer.perform, ask, item, Result.Ends] at ends
  | collect =>
    rcases folded : (l.fold (fun read t => t :: read) []).1 with e | ts
    · simp [Lexer.perform, collect, folded, Except.map, Result.Ends] at ends
    · exact stalled_of_fold unfailed folded

/-! ### Sessions -/

/-- **Iterating comes to an end once.**  Let `l` be where a session has led to.

* If iterating has met an error in the session, iterating hands out nothing more and
  collecting gathers nothing more, whatever is done in between.
* If it has not, and iterating comes to its end next, every later operation of any
  kind finds nothing.
* Collecting is iterating up to the first call that hands out no token.  It gives the
  error if that call reports one, and leaves the lexer as that call leaves it.
-/
theorem session_fused (d : Dialect) (source : String) (ops : List Operation) :
    let results := (session d source ops).1
    let l := (session d source ops).2
    (MetError ops results → ∀ later : List Operation,
      ∀ p ∈ later.zip (Session.run perform later l).1, p.1.iterates = true →
        p.2 = p.1.exhausted) ∧
    (¬ MetError ops results → ∀ op : Operation, (l.perform op).1.Ends →
      ∀ later : List Operation,
        (Session.run perform later (l.perform op).2).1 = later.map Operation.exhausted) ∧
    ∃ (ts : List Token) (last : Option LexicalError),
      Session.run ask (.replicate (ts.length + 1) .iterate) l =
        (ts.map (fun t => .iterate (some (.ok t))) ++ [.iterate (last.map .error)],
          l.collect.2) ∧
      l.collect.1 = match last with
        | none => .ok ts
        | some e => .error e := by
  intro results l
  have flag : l.failed = true ↔ MetError ops results := by
    refine (failed_run ops (ofText d source)).trans ⟨?_, Or.inr⟩
    rintro (set | met)
    · cases set
    · exact met
  refine ⟨?_, ?_, ?_⟩
  · intro met later
    refine Session.forall_mem_zip_answers (P := fun l : Lexer => l.failed = true)
      (Q := fun op result => op.iterates = true → result = op.exhausted) ?_ ?_ later (flag.mpr met)
    · intro op l failed
      exact (failed_perform op l).mpr (Or.inl failed)
    · intro op l failed
      exact perform_of_failed failed
  · intro none op ends later
    have unfailed := Bool.eq_false_iff.mpr fun failed => none (flag.mp failed)
    exact Session.run_eq_map (fun op _ stalled => Stalled.perform stalled op)
      (fun op _ stalled => stalled.perform_eq op) later (stalled_of_ends unfailed ends)
  · obtain ⟨ts, last, calls, folded⟩ := exists_run_iterate_of_fold (fun read t => t :: read) [] l
    refine ⟨ts, last, calls, ?_⟩
    show (l.fold _ []).1.map List.reverse = _
    rw [folded]
    rcases last with _ | e
    · simp [Except.map]
    · rfl

/-- A stray character between two words: iterating meets it and is over, although a
peek in between sees it again. -/
theorem session_fused_stray_character :
    let ops : List Operation := [.ask .iterate, .ask .peek, .ask .iterate]
    let later : List Operation := [.ask .iterate, .ask .peek, .collect, .ask .iterate]
    let results := (session .standard "a ~ b" ops).1
    let l := (session .standard "a ~ b" ops).2
    MetError ops results ∧ ∀ p ∈ later.zip (Session.run perform later l).1,
      p.1.iterates = true → p.2 = p.1.exhausted := by
  intro ops later results l
  have met : MetError ops results :=
    (failed_run ops (ofText .standard "a ~ b")).mp (by decide +kernel) |>.resolve_left (by decide)
  exact ⟨met, (session_fused .standard "a ~ b" ops).1 met later⟩

end Lexer

end Lexis
