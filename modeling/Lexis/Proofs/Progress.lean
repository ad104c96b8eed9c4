import Lexis.Proofs.Fusion

/-!
# Progress

A scan goes over a stretch of the text: a gap, which it skips, and a piece behind the
gap, which it reads.  The piece is empty at the end of the text and in front of a
character that starts no token.  **Every other piece starts with a character that is not
blank**, so a scan that finds anything in it moves on (`Stretch.LiesAt.moves`).

**The stretches of all scans lie one behind another** from the start of the text
(`Passed`), whatever was asked for in between, errors included: a request scans from where
the last scan has stopped or does not scan at all.  So no two pieces share a character, and
there are no more tokens than characters that are not blank (`session_progress`).

What the scans have found is kept in the log of the lexer, and the tokens handed out are
among the ones found (`Accounts`).
-/

namespace Lexis

/-! ### Replies -/

namespace Reply

/-- Whether the reply says that the text has ended. -/
def isEnd : Reply → Bool
  | .ok found => found.isNone
  | .error _ => false

/-- Whether the reply is about a piece that has been read: a token, or the part of a lexeme
in front of what is wrong with it. -/
def reads : Reply → Bool
  | .ok found => found.isSome
  | .error e => e.code = .unexpectedDot || e.code = .unterminatedString

end Reply

/-- The reply of the scan that an event tells of; skipping a comment is only part of one. -/
def Event.reply? : Event → Option Reply
  | .skippedComment _ => none
  | .scannedToken t _ => some (.ok (some t))
  | .lexicalError e => some (.error e)

/-! ### Stretches -/

/-- What one scan goes over, and its reply. -/
structure Stretch where
  /-- What the scan skips. -/
  gap : List Char
  /-- What it reads behind that. -/
  piece : List Char
  reply : Reply

namespace Stretch

/-- The text of a stretch. -/
def text (s : Stretch) : List Char := s.gap ++ s.piece

/-- The stretch lies in front of the cursor: a gap, behind it what is to be found there, and
the reply to that. -/
def LiesAt (d : Dialect) (c : Cursor) (s : Stretch) : Prop :=
  ∃ after found, c.rest = s.text ++ after ∧ Gap d s.gap (s.piece ++ after) ∧
    Finds d s.piece after found ∧ s.reply = Lexer.replyAt (c.forward s.text.length) found

variable {d : Dialect} {c : Cursor} {s : Stretch}

/-- **A piece starts with no blank.** -/
theorem LiesAt.noBlank (h : s.LiesAt d c) : ∀ ch ∈ s.piece.head?, isBlank ch = false := by
  obtain ⟨after, found, -, -, finds, -⟩ := h
  intro ch mem
  refine (finds.noGap ch ?_).1
  rw [List.head?_append, Option.mem_def.mp mem]
  rfl

/-- **What is read is not empty**, and where nothing is read no character is. -/
theorem LiesAt.reads_iff (h : s.LiesAt d c) : s.reply.reads = true ↔ s.piece ≠ [] := by
  obtain ⟨after, found, -, -, finds, reply⟩ := h
  rw [reply]
  generalize s.piece = piece at finds ⊢
  cases finds with
  | ended => simp [Lexer.replyAt, Reply.reads]
  | token isLexeme => simpa [Lexer.replyAt, Reply.reads] using isLexeme.ne_nil
  | fault isFault =>
    cases isFault <;> simp [Lexer.replyAt, Reply.reads, Cursor.fail, Fault.code]

/-- **A scan that reads something moves on.** -/
theorem LiesAt.moves (h : s.LiesAt d c) (reads : s.reply.reads = true) :
    c.position < (c.forward s.text.length).position := by
  have nonempty : s.text ≠ [] := List.append_ne_nil_of_right_ne_nil _ (h.reads_iff.mp reads)
  obtain ⟨after, found, split, -⟩ := h
  rw [Cursor.position_forward, split, List.take_left]
  exact Nat.lt_add_of_pos_right (byteCount_pos nonempty)

end Stretch

/-- The stretches lie one behind another, from the start of the text to the cursor. -/
inductive Passed (d : Dialect) (source : String) : List Stretch → Cursor → Prop
  | start : Passed d source [] (.ofText source)
  | scan {stretches : List Stretch} {c : Cursor} {s : Stretch}
      (passed : Passed d source stretches c) (lies : s.LiesAt d c) :
      Passed d source (stretches ++ [s]) (c.forward s.text.length)

namespace Passed

variable {d : Dialect} {source : String} {stretches : List Stretch} {c : Cursor}

/-- **The stretches and the text left are the text.** -/
theorem source_eq (h : Passed d source stretches c) :
    source.toList = stretches.flatMap Stretch.text ++ c.rest := by
  induction h with
  | start => rfl
  | @scan stretches c s passed lies ih =>
    obtain ⟨after, found, split, -⟩ := lies
    rw [ih, List.flatMap_append, Cursor.rest_forward, split, List.drop_left]
    simp

/-- What holds of a stretch where it lies holds of all that have been gone over. -/
theorem forall_reads (h : Passed d source stretches c) : ∀ s ∈ stretches,
    (s.reply.reads = true ↔ s.piece ≠ []) ∧ ∀ ch ∈ s.piece.head?, isBlank ch = false := by
  induction h with
  | start => intro s mem; cases mem
  | scan passed lies ih =>
    intro s mem
    rcases List.mem_append.mp mem with earlier | last
    · exact ih s earlier
    · obtain rfl := List.mem_singleton.mp last
      exact ⟨lies.reads_iff, lies.noBlank⟩

end Passed

/-! ### Counting -/

/-- The number of characters of a text that are not blank. -/
def visibleCount (text : List Char) : Nat := text.countP fun ch => !isBlank ch

theorem visibleCount_append (a b : List Char) :
    visibleCount (a ++ b) = visibleCount a + visibleCount b :=
  List.countP_append

theorem countP_reads_le {stretches : List Stretch}
    (each : ∀ s ∈ stretches, s.reply.reads = true → 0 < visibleCount s.text) :
    stretches.countP (·.reply.reads) ≤ visibleCount (stretches.flatMap Stretch.text) := by
  induction stretches with
  | nil => exact Nat.zero_le _
  | cons s stretches ih =>
    obtain ⟨first, others⟩ := List.forall_mem_cons.mp each
    have := ih others
    rw [List.countP_cons, List.flatMap_cons, visibleCount_append]
    split
    · next reads =>
      have := first reads
      omega
    · omega

/-- **Each piece takes a character that is not blank**, so no more of them can be read. -/
theorem Passed.countP_reads_le {d : Dialect} {source : String} {stretches : List Stretch}
    {c : Cursor} (h : Passed d source stretches c) :
    stretches.countP (·.reply.reads) ≤ visibleCount source.toList := by
  have each : ∀ s ∈ stretches, s.reply.reads = true → 0 < visibleCount s.text := by
    intro s mem reads
    obtain ⟨reads_iff, noBlank⟩ := h.forall_reads s mem
    obtain ⟨ch, more, piece⟩ := List.exists_cons_of_ne_nil (reads_iff.mp reads)
    have shown : isBlank ch = false := noBlank ch (by rw [piece]; rfl)
    refine List.countP_pos_iff.mpr ⟨ch, ?_, by simp [shown]⟩
    rw [Stretch.text, piece]
    simp
  rw [h.source_eq, visibleCount_append]
  exact Nat.le_add_right_of_le (Lexis.countP_reads_le each)

namespace Lexer

/-! ### What a lexer has found -/

/-- The replies of the scans so far, except that the text has ended. -/
def replies (l : Lexer) : List Reply := l.log.reverse.filterMap Event.reply?

/-- The tokens that have been found so far. -/
def found (l : Lexer) : List Token := l.replies.flatMap fun reply => (Answer.next reply).handed

theorem reply?_log_scanFrom (d : Dialect) (log : List Event) (c : Cursor) :
    (scanFrom d log c).log.filterMap Event.reply? =
      [(scanFrom d log c).reply].filter (!·.isEnd) ++ log.filterMap Event.reply? := by
  fun_induction scanFrom d log c with
  | case1 | case4 | case5 => rfl
  | case2 log c ch rest more piece after reading ih
  | case3 log c ch rest more piece after reading ih => exact ih

/-- A scan adds its reply. -/
theorem replies_scan (l : Lexer) :
    l.scan.2.replies = l.replies ++ [l.scan.1].filter (!·.isEnd) := by
  have added : l.scan.2.log.filterMap Event.reply? =
      [l.scan.1].filter (!·.isEnd) ++ l.log.filterMap Event.reply? :=
    reply?_log_scanFrom l.dialect l.log l.cursor
  rw [replies, replies, List.filterMap_reverse, List.filterMap_reverse, added,
    List.reverse_append, ← List.filter_reverse]
  rfl

/-- The token of a scan is found by it. -/
theorem found_scan (l : Lexer) : l.scan.2.found = l.found ++ (Answer.next l.scan.1).handed := by
  rw [found, replies_scan, List.flatMap_append]
  congr 1
  rcases l.scan.1 with e | _ | t <;> rfl

/-- Only a scan writes to the log. -/
theorem log_ask (r : Request) (l : Lexer) :
    (l.ask r).2.log = if r.scans l then l.scan.2.log else l.log := by
  rcases kept : l.lookahead with _ | t
  · cases r with
    | next => simp [ask, nextToken_of_empty kept, Request.scans, kept]
    | peek | atEnd =>
      rcases reply : l.scan.1 with e | found <;>
        simp [ask, atEnd, peekToken_of_empty kept, Request.scans, kept, reply]
    | iterate =>
      rcases failed : l.failed with _ | _
      · have plain : l.Plain := ⟨kept, failed⟩
        rcases reply : l.scan.1 with e | found <;>
          simp [ask, plain.iterate_eq, Request.scans, kept, failed, reply]
      · simp [ask, iterate, Request.scans, kept, failed]
  · cases r with
    | next => simp [ask, nextToken, Request.scans, kept]
    | peek | atEnd => simp [ask, atEnd, peekToken, Request.scans, kept]
    | iterate =>
      rcases failed : l.failed with _ | _ <;>
        simp [ask, iterate, nextToken, Request.scans, kept, failed]

theorem replies_ask (r : Request) (l : Lexer) :
    (l.ask r).2.replies = if r.scans l then l.scan.2.replies else l.replies := by
  rw [replies, log_ask]
  split <;> rfl

theorem found_ask (r : Request) (l : Lexer) :
    (l.ask r).2.found = if r.scans l then l.scan.2.found else l.found := by
  rw [found, replies_ask]
  split <;> rfl

/-! ### Sessions -/

/-- The lexer has scanned the stretches, and its log tells of them. -/
structure Traces (d : Dialect) (source : String) (stretches : List Stretch) (l : Lexer) : Prop where
  dialect : l.dialect = d
  passed : Passed d source stretches l.cursor
  replies : l.replies = (stretches.map Stretch.reply).filter (!·.isEnd)

/-- **The next scan goes over a stretch.** -/
theorem exists_stretch (l : Lexer) : ∃ s : Stretch, s.LiesAt l.dialect l.cursor ∧
    l.scan.1 = s.reply ∧ l.scan.2.cursor = l.cursor.forward s.text.length := by
  obtain ⟨passed, after, found, split, scans⟩ := exists_scans l.dialect l.cursor
  have scanned := scanned_of_scans split scans
  cases scans with
  | @behind gap piece _ _ isGap finds =>
    refine ⟨⟨gap, piece, l.scan.1⟩, ⟨after, found, split, isGap, finds, ?_⟩, rfl, scanned.cursor⟩
    rw [scanned.reply, scanned.cursor]
    rfl

variable {d : Dialect} {source : String} {l : Lexer}

theorem Traces.ask {stretches : List Stretch} (h : Traces d source stretches l) (r : Request) :
    ∃ stretches, Traces d source stretches (l.ask r).2 := by
  have dialect := (dialect_ask r l).trans h.dialect
  have replies := replies_ask r l
  rcases scans : r.scans l with _ | _
  · rw [scans, if_neg (by simp)] at replies
    have cursor := (step_of_not_scans scans).cursor
    exact ⟨stretches, dialect, cursor ▸ h.passed, replies.trans h.replies⟩
  · rw [scans, if_pos rfl] at replies
    obtain ⟨s, lies, reply, moved⟩ := l.exists_stretch
    have cursor := (step_of_scans scans).cursor.trans moved
    rw [h.dialect] at lies
    refine ⟨stretches ++ [s], dialect, cursor ▸ h.passed.scan lies, ?_⟩
    rw [replies, replies_scan, h.replies, reply, List.map_append, List.filter_append]
    rfl

theorem traces_session (d : Dialect) (source : String) (ops : List Operation) :
    ∃ stretches, Traces d source stretches (session d source ops).2 := by
  have fresh : Traces d source [] (ofText d source) := ⟨rfl, .start, rfl⟩
  refine Session.run_invariant (P := fun l => ∃ stretches, Traces d source stretches l) ?_ ops
    ⟨[], fresh⟩
  intro op l traced
  refine perform_invariant (P := fun l => ∃ stretches, Traces d source stretches l) ?_ op l traced
  rintro r l ⟨stretches, traces⟩
  exact traces.ask r

/-- The tokens of a result. -/
def Result.handed : Result → List Token
  | answer a => a.handed
  | tokens (.ok ts) => ts
  | tokens (.error _) => []

/-- The tokens handed out so far, and the one that is kept, are among the tokens found, in
this order. -/
def Accounts (handed : List Token) (l : Lexer) : Prop :=
  (handed ++ l.lookahead.toList).Sublist l.found

variable {handed : List Token}

theorem Accounts.ask (h : Accounts handed l) (r : Request) :
    Accounts (handed ++ (l.ask r).1.handed) (l.ask r).2 := by
  have found := found_ask r l
  rcases scans : r.scans l with _ | _
  -- Without a scan the token that is kept is drawn on, which has been found before.
  · rw [scans, if_neg (by simp)] at found
    have tokens := (step_of_not_scans scans).tokens
    rw [Accounts, found, List.append_assoc, tokens]
    rcases kept : l.lookahead with _ | t <;> rw [Accounts, kept] at h <;> exact h
  · rw [scans, if_pos rfl] at found
    have tokens := (step_of_scans scans).tokens
    rw [Accounts, empty_of_scans scans, Option.toList_none, List.append_nil] at h
    rw [Accounts, found, found_scan, List.append_assoc, tokens]
    exact h.append_right _

theorem Accounts.run (h : Accounts handed l) (requests : List Request) :
    Accounts (handed ++ handedOut (Session.run Lexer.ask requests l).1)
      (Session.run Lexer.ask requests l).2 := by
  induction requests generalizing handed l with
  | nil => rwa [Session.run_nil, handedOut, List.flatMap_nil, List.append_nil]
  | cons r requests ih =>
    rw [Session.run_cons, handedOut_cons, ← List.append_assoc]
    exact ih (h.ask r)

theorem handedOut_iterations (ts : List Token) (last : Option LexicalError) :
    handedOut (ts.map (fun t => .iterate (some (.ok t))) ++ [.iterate (last.map .error)]) = ts := by
  induction ts with
  | nil => cases last <;> rfl
  | cons t ts ih =>
    rw [List.map_cons, List.cons_append, handedOut_cons, ih]
    rfl

/-- Collecting hands out what iterating does, or nothing. -/
theorem Accounts.perform (h : Accounts handed l) (op : Operation) :
    Accounts (handed ++ (l.perform op).1.handed) (l.perform op).2 := by
  cases op with
  | ask r => exact h.ask r
  | collect =>
    obtain ⟨ts, last, calls, folded⟩ := exists_run_iterate_of_fold (fun read t => t :: read) [] l
    have accounts := h.run (.replicate (ts.length + 1) .iterate)
    rw [calls, handedOut_iterations] at accounts
    have fewer : (Result.tokens l.collect.1).handed.Sublist ts := by
      show (Result.tokens ((l.fold _ []).1.map List.reverse)).handed.Sublist ts
      rw [folded]
      cases last with
      | none => simp [Except.map, Result.handed]
      | some e => exact List.nil_sublist _
    exact ((fewer.append_left handed).append_right _).trans accounts

theorem accounts_session (d : Dialect) (source : String) (ops : List Operation) :
    Accounts ((session d source ops).1.flatMap Result.handed) (session d source ops).2 := by
  refine Session.run_history (P := fun results l => Accounts (results.flatMap Result.handed) l) ?_
    ops [] (List.Sublist.refl _)
  intro past op l accounts
  rw [List.flatMap_append, List.flatMap_singleton]
  exact accounts.perform op

/-- A token is found by a scan that reads something. -/
theorem length_handed_le {stretches : List Stretch} :
    (((stretches.map Stretch.reply).filter (!·.isEnd)).flatMap
      fun reply => (Answer.next reply).handed).length ≤ stretches.countP (·.reply.reads) := by
  induction stretches with
  | nil => exact Nat.le_refl _
  | cons s stretches ih =>
    rcases reply : s.reply with e | _ | t <;>
      simp [reply, Reply.isEnd, Reply.reads, Answer.handed, List.countP_cons] at ih ⊢ <;> omega

/-- **There are no more tokens than characters that are not blank.** -/
theorem Traces.length_found_le {stretches : List Stretch} (h : Traces d source stretches l) :
    l.found.length ≤ visibleCount source.toList := by
  rw [found, h.replies]
  exact length_handed_le.trans h.passed.countP_reads_le

/-! ### Calls for a token -/

/-- Whether an operation is a call for one token, to be handed out. -/
def Operation.takes : Operation → Bool
  | ask .next | ask .iterate => true
  | ask _ | collect => false

/-- A call for a token that hands out none says that there is none, or reports an error. -/
theorem exhausted_or_error {op : Operation} (takes : op.takes = true)
    (none : (l.perform op).1.handed = []) :
    (l.perform op).1 = op.exhausted ∨ ∃ e, (l.perform op).1.error? = some e := by
  cases op with
  | collect => cases takes
  | ask r =>
    cases r with
    | peek | atEnd => cases takes
    | next =>
      rw [Lexer.perform, Lexer.ask] at none ⊢
      rcases reply : l.nextToken.1 with e | _ | t <;> rw [reply] at none
      · exact Or.inr ⟨e, rfl⟩
      · exact Or.inl rfl
      · cases none
    | iterate =>
      rw [Lexer.perform, Lexer.ask] at none ⊢
      rcases item : l.iterate.1 with _ | e | t <;> rw [item] at none
      · exact Or.inl rfl
      · exact Or.inr ⟨e, rfl⟩
      · cases none

/-- Calls that each hand out a token are no more than the tokens handed out. -/
theorem countP_takes_le {ops : List Operation} {l : Lexer}
    (each : ∀ p ∈ ops.zip (Session.run Lexer.perform ops l).1, p.1.takes = true → p.2.handed ≠ []) :
    ops.countP Operation.takes ≤
      ((Session.run Lexer.perform ops l).1.flatMap Result.handed).length := by
  induction ops generalizing l with
  | nil => exact Nat.zero_le _
  | cons op ops ih =>
    rw [Session.run_cons, List.zip_cons_cons] at each
    obtain ⟨first, others⟩ := List.forall_mem_cons.mp each
    have := ih others
    rw [Session.run_cons, List.countP_cons, List.flatMap_cons, List.length_append]
    split
    · next takes =>
      have : 0 < (l.perform op).1.handed.length := List.length_pos_iff.mpr (first takes)
      omega
    · omega

/-- Among more calls for a token than there are tokens handed out is one that hands out
none. -/
theorem exists_exhausted_or_error {ops : List Operation} {l : Lexer}
    (more : ((Session.run Lexer.perform ops l).1.flatMap Result.handed).length <
      ops.countP Operation.takes) :
    ∃ p ∈ ops.zip (Session.run Lexer.perform ops l).1, p.1.takes = true ∧
      (p.2 = p.1.exhausted ∨ ∃ e, p.2.error? = some e) := by
  have calls : ∀ p ∈ ops.zip (Session.run Lexer.perform ops l).1, p.1.takes = true →
      p.2.handed = [] → p.2 = p.1.exhausted ∨ ∃ e, p.2.error? = some e :=
    Session.forall_mem_zip_answers (P := fun _ => True)
      (Q := fun op result => op.takes = true → result.handed = [] →
        result = op.exhausted ∨ ∃ e, result.error? = some e)
      (fun _ _ _ => trivial) (fun _ _ _ => exhausted_or_error) ops trivial
  by_contra none
  refine Nat.not_lt.mpr (countP_takes_le ?_) more
  intro p mem takes tokenless
  exact none ⟨p, mem, takes, calls p mem takes tokenless⟩

/-- **Scanning makes progress.**  Let a lexer be used in any way, from the start of a text
and for any dialect, and let `visible` be the number of characters of the text that are not
blank.

* The next scan goes over a stretch of the text.  If it finds a token, a second point or an
  open literal, then the piece that it reads is not empty, starts with a character that is
  not blank, and the cursor moves on; if not, it reads nothing.
* The scans so far have gone over such stretches, one behind another, and the text that they
  have not gone over is left.  The log tells what each of them has found.
* The tokens handed out are among those found, in order, and so are no more than `visible`.
* Of more than `visible` calls for a token one says that there is none, or reports an error.
-/
theorem session_progress (d : Dialect) (source : String) (ops : List Operation) :
    let results := (session d source ops).1
    let l := (session d source ops).2
    let visible := visibleCount source.toList
    (∃ s : Stretch, s.LiesAt d l.cursor ∧ l.scan.1 = s.reply ∧
      l.scan.2.cursor = l.cursor.forward s.text.length ∧
      (s.reply.reads = true ↔ s.piece ≠ []) ∧ (∀ ch ∈ s.piece.head?, isBlank ch = false) ∧
      (s.reply.reads = true → l.cursor.position < l.scan.2.cursor.position)) ∧
    (∃ stretches, Passed d source stretches l.cursor ∧
      source.toList = stretches.flatMap Stretch.text ++ l.cursor.rest ∧
      (∀ s ∈ stretches, (s.reply.reads = true ↔ s.piece ≠ []) ∧
        ∀ ch ∈ s.piece.head?, isBlank ch = false) ∧
      l.replies = (stretches.map Stretch.reply).filter (!·.isEnd)) ∧
    ((results.flatMap Result.handed).Sublist l.found ∧ l.found.length ≤ visible) ∧
    (visible < ops.countP Operation.takes → ∃ p ∈ ops.zip results, p.1.takes = true ∧
      (p.2 = p.1.exhausted ∨ ∃ e, p.2.error? = some e)) := by
  intro results l visible
  obtain ⟨stretches, traces⟩ := traces_session d source ops
  have handed : (results.flatMap Result.handed).Sublist l.found :=
    (List.sublist_append_left _ _).trans (accounts_session d source ops)
  have found_le : l.found.length ≤ visible := traces.length_found_le
  refine ⟨?_, ?_, ⟨handed, found_le⟩, ?_⟩
  · obtain ⟨s, lies, reply, moved⟩ := l.exists_stretch
    have lies : s.LiesAt d l.cursor := traces.dialect ▸ lies
    refine ⟨s, lies, reply, moved, lies.reads_iff, lies.noBlank, ?_⟩
    rw [moved]
    exact lies.moves
  · exact ⟨stretches, traces.passed, traces.passed.source_eq, traces.passed.forall_reads,
      traces.replies⟩
  · intro more
    exact exists_exhausted_or_error ((handed.length_le.trans found_le).trans_lt more)

/-- A dialect in which a digit delimits strings, a blank marks comments and a line feed is an
operator: six characters are not blank, and the third of seven calls meets the tilde. -/
theorem session_progress_digit_delimiter :
    let d : Dialect := { Dialect.standard with
      operators := "\n", stringDelimiter := '1', commentMarker := ' ' }
    let ops : List Operation := .replicate 7 (.ask .next)
    visibleCount "x 1y1 ~\nz".toList < ops.countP Operation.takes ∧
      ∃ p ∈ ops.zip (session d "x 1y1 ~\nz" ops).1, p.1.takes = true ∧
        (p.2 = p.1.exhausted ∨ ∃ e, p.2.error? = some e) := by
  intro d ops
  have more : visibleCount "x 1y1 ~\nz".toList < ops.countP Operation.takes := by decide +kernel
  exact ⟨more, (session_progress d "x 1y1 ~\nz" ops).2.2.2 more⟩

end Lexer

end Lexis
