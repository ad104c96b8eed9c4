import Lexis.Command.Outcome
import Lexis.Proofs.Displacement
import Lexis.Proofs.Reports

/-!
# The two subcommands

Both subcommands go through the same text, each by itself: `check` iterates and counts,
`tokens` collects.  **They agree on whether the text is in order**, and each does all of
its work or none (`subcommands_agree`).

* **A run that fails** (`Fails`) writes nothing to the standard output, however many tokens
  are in front of the error.  What it writes otherwise is the report of the error, which
  there always is, and behind it the line that a quiet run leaves out.
* **A run that succeeds** (`Succeeds`) has seen every token of the text.

A run depends on its command line only through what the words ask for, and its log not
even on the subcommand: folding goes the same way whatever is gathered (`fold_snd`).
-/

namespace Lexis

/-! ### Folding -/

namespace Lexer

/-- **What folding leaves of a lexer** does not depend on what is gathered. -/
theorem fold_snd {σ τ : Type} (gather : σ → Token → σ) (gather' : τ → Token → τ) (s : σ) (s' : τ)
    (l : Lexer) : (l.fold gather s).2 = (l.fold gather' s').2 := by
  fun_induction fold gather s l generalizing s' with
  | case1 s l l' next => rw [fold_of_none next]
  | case2 s l e l' next => rw [fold_of_error next]
  | case3 s l t l' next ih => rw [fold_of_token next, ← ih]

theorem snd_collect (l : Lexer) : l.collect.2 = l.count.2 := fold_snd ..

/-- **Counting** counts what is collected, or meets the same error. -/
theorem fst_count (l : Lexer) : l.count.1 = l.collect.1.map List.length := by
  obtain ⟨ts, all | ⟨e, upTo⟩⟩ := l.exists_items
  · rw [count, fold_fst, collect_of_items all, all, ← List.append_nil (ts.map _), foldlM_tokens]
    simp [pure, Except.pure, Except.map]
  · rw [count, fold_fst, collect_of_items_error upTo, upTo, foldlM_tokens]
    rfl

end Lexer

/-- A run that is not verbose logs warnings and errors. -/
@[simp] theorem Log.Filter.passes_standard_false (entry : Entry) :
    (standard false).passes entry = decide (entry.level.rank ≤ Level.warn.rank) := by
  simp [standard, passes, rule?, Rule.fits]

namespace Command

/-! ### Going through a text -/

/-- The line that tells of an error in the text. -/
def errorLine : String := Ink.red.paint "error:" ++ " " ++ "lexical error" ++ "\n"

/-- The line that tells that there is none. -/
def okLine : String := Ink.green.paint "OK - No errors found" ++ "\n"

/-- The line with a remark. -/
def infoLine (remark : String) : String := Ink.blue.paint "info:" ++ " " ++ remark ++ "\n"

namespace Invocation

/-- What a run comes to in a text with the given tokens. -/
def success (i : Invocation) (ts : List Token) : Success :=
  match i.subcommand with
  | .tokens => ⟨(if i.json then Listing.json else .lines).write ts, s!"{ts.length} token(s)"⟩
  | .check => ⟨okLine, s!"Lexed {ts.length} token(s)"⟩

/-- Going through a text ends as tokenizing it does. -/
theorem result_lex (i : Invocation) (d : Dialect) (source : String) :
    (i.lex d source).result =
      ((tokenize d source).mapError (.lexical i.file source)).map i.success := by
  unfold lex success tokenize
  rcases i.subcommand with _ | _
  · rfl
  · dsimp only
    rw [Lexer.fst_count]
    rcases (Lexer.ofText d source).collect.1 with e | ts <;> rfl

/-- Whatever the subcommand, the log is that of collecting. -/
theorem log_lex (i : Invocation) (d : Dialect) (source : String) :
    (i.lex d source).log = (Lexer.ofText d source).collect.2.log.reverse.map .ofEvent := by
  unfold lex
  rcases i.subcommand with _ | _
  · rfl
  · rw [Lexer.snd_collect]

theorem rank_log_lex (i : Invocation) (d : Dialect) (source : String) :
    ∀ entry ∈ (i.lex d source).log, Level.warn.rank < entry.level.rank := by
  rw [log_lex]
  intro entry mem
  obtain ⟨event, -, rfl⟩ := List.mem_map.mp mem
  cases event <;> simp [Log.Entry.ofEvent, Level.rank]

end Invocation

/-! ### Carrying out -/

/-- The invocation is about a text that can be read, in a dialect that can be loaded. -/
structure Invocation.Opens (i : Invocation) (files : Files) (d : Dialect) (source : String) :
    Prop where
  loads : loadDialect files i.config = .ok d
  text : files.text i.file = .ok source

namespace Invocation

variable {i j : Invocation} {files : Files} {d : Dialect} {source : String}

/-- What is written of the log. -/
def logged (i : Invocation) (files : Files) (filter : Option String) (time : String) : String :=
  let filter := (filter.bind Log.Filter.ofText?).getD (.standard i.verbose)
  String.join (((i.run files).log.filter filter.passes).map (·.line time))

theorem outcome_eq (i : Invocation) (files : Files) (filter : Option String) (time : String) :
    i.outcome files filter time = match (i.run files).result with
      | .error failure => ⟨1, "", i.logged files filter time ++ failure.report ++
          if i.quiet then "" else Ink.red.paint "error:" ++ " " ++ failure.message ++ "\n"⟩
      | .ok success => ⟨0, success.output, i.logged files filter time ++
          if i.verbose then infoLine success.remark else ""⟩ := rfl

theorem Opens.log_run (h : i.Opens files d source) : (i.run files).log =
    i.config.toList.map Log.Entry.loadedConfig ++ (i.lex d source).log := by
  unfold run
  rw [h.loads, h.text]

theorem Opens.result_run (h : i.Opens files d source) : (i.run files).result =
    ((tokenize d source).mapError (.lexical i.file source)).map i.success := by
  unfold run
  rw [h.loads, h.text]
  exact i.result_lex d source

/-- What is logged depends on the file, the config and on whether the run is verbose. -/
theorem Opens.logged_congr (h : i.Opens files d source) (h' : j.Opens files d source)
    (config : i.config = j.config) (verbose : i.verbose = j.verbose) (filter : Option String)
    (time : String) : i.logged files filter time = j.logged files filter time := by
  unfold logged
  rw [h.log_run, h'.log_run, config, verbose, log_lex, log_lex]

/-- **Nothing is logged** unless it is asked for. -/
theorem Opens.logged_eq (h : i.Opens files d source) (terse : i.verbose = false)
    (time : String) : i.logged files none time = "" := by
  have minor : ∀ entry ∈ (i.run files).log, Level.warn.rank < entry.level.rank := by
    rw [h.log_run]
    intro entry mem
    rcases List.mem_append.mp mem with loaded | scanned
    · obtain ⟨path, -, rfl⟩ := List.mem_map.mp loaded
      simp [Log.Entry.loadedConfig, Level.rank]
    · exact i.rank_log_lex d source entry scanned
  have none_passes : (i.run files).log.filter (Log.Filter.standard false).passes = [] := by
    rw [List.filter_eq_nil_iff]
    intro entry mem
    simpa using minor entry mem
  unfold logged
  rw [terse]
  exact congrArg (fun log => String.join (log.map (·.line time))) none_passes

theorem Opens.outcome_of_error (h : i.Opens files d source) {e : LexicalError}
    (fails : tokenize d source = .error e) {report : String}
    (drawn : Report.coloured i.file source (.ofError e) = .ok report) (filter : Option String)
    (time : String) : i.outcome files filter time =
      ⟨1, "", i.logged files filter time ++ report ++ if i.quiet then "" else errorLine⟩ := by
  have shown : (Failure.lexical i.file source e).report = report := by
    rw [Failure.report, drawn]
    rfl
  rw [outcome_eq, h.result_run, fails]
  show Outcome.mk _ _ (_ ++ (Failure.lexical i.file source e).report ++ _) = _
  rw [shown]
  rfl

theorem Opens.outcome_of_ok (h : i.Opens files d source) {ts : List Token}
    (lexes : tokenize d source = .ok ts) (filter : Option String) (time : String) :
    i.outcome files filter time = ⟨0, (i.success ts).output, i.logged files filter time ++
      if i.verbose then infoLine (i.success ts).remark else ""⟩ := by
  rw [outcome_eq, h.result_run, lexes]
  rfl

end Invocation

/-! ### Command lines -/

/-- Two dashes allow for any file name. -/
theorem Invocation.ofWords_dashes (subcommand : Subcommand) (file : String) :
    ofWords [subcommand.name, "--", file] = .ok ⟨subcommand, file, none, false, false, false⟩ := by
  cases subcommand <;> rfl

/-- The command line `words`, which asks for `i`, fails with a report. -/
structure Fails (words : List String) (i : Invocation) (files : Files) (filter : Option String)
    (time report : String) : Prop where
  exit : (Outcome.ofWords words files filter time).exit = 1
  output : (Outcome.ofWords words files filter time).output = ""
  errors : i.verbose = false → filter = none →
    (Outcome.ofWords words files filter time).errors = report ++ if i.quiet then "" else errorLine
  quieter : i.quiet = false → ∀ hushed, Invocation.ofWords hushed = .ok { i with quiet := true } →
    ∃ errors, Outcome.ofWords hushed files filter time = ⟨1, "", errors⟩ ∧
      Outcome.ofWords words files filter time = ⟨1, "", errors ++ errorLine⟩

/-- The command line `words`, which asks for `i`, succeeds with an output and a remark. -/
structure Succeeds (words : List String) (i : Invocation) (files : Files)
    (filter : Option String) (time output remark : String) : Prop where
  exit : (Outcome.ofWords words files filter time).exit = 0
  output : (Outcome.ofWords words files filter time).output = output
  errors : i.verbose = false → filter = none →
    (Outcome.ofWords words files filter time).errors = ""
  remark : i.verbose = true → ∃ log,
    (Outcome.ofWords words files filter time).errors = log ++ infoLine remark
  quieter : ∀ hushed, Invocation.ofWords hushed = .ok { i with quiet := true } →
    Outcome.ofWords hushed files filter time = Outcome.ofWords words files filter time

section Words

variable {words : List String} {i : Invocation} {files : Files} {d : Dialect} {source : String}

theorem outcome_ofWords (asks : Invocation.ofWords words = .ok i) (files : Files)
    (filter : Option String) (time : String) :
    Outcome.ofWords words files filter time = i.outcome files filter time := by
  rw [Outcome.ofWords, asks]

theorem Invocation.Opens.fails (h : i.Opens files d source)
    (asks : Invocation.ofWords words = .ok i) {e : LexicalError}
    (lexes : tokenize d source = .error e) {report : String}
    (drawn : Report.coloured i.file source (.ofError e) = .ok report) (filter : Option String)
    (time : String) : Fails words i files filter time report := by
  have outcome := (outcome_ofWords asks files filter time).trans
    (h.outcome_of_error lexes drawn filter time)
  refine ⟨by rw [outcome], by rw [outcome], ?_, ?_⟩
  · rintro terse rfl
    rw [outcome, h.logged_eq terse, String.empty_append]
  · -- Being quiet changes neither what is opened nor what is logged.
    intro loud hushed asks'
    have opens : ({ i with quiet := true } : Invocation).Opens files d source := ⟨h.loads, h.text⟩
    refine ⟨i.logged files filter time ++ report, ?_, ?_⟩
    · rw [outcome_ofWords asks', opens.outcome_of_error lexes drawn, if_pos rfl,
        String.append_empty]
      rfl
    · rw [outcome, loud]
      rfl

theorem Invocation.Opens.succeeds (h : i.Opens files d source)
    (asks : Invocation.ofWords words = .ok i) {ts : List Token}
    (lexes : tokenize d source = .ok ts) (filter : Option String) (time : String) :
    Succeeds words i files filter time (i.success ts).output (i.success ts).remark := by
  have outcome := (outcome_ofWords asks files filter time).trans
    (h.outcome_of_ok lexes filter time)
  refine ⟨by rw [outcome], by rw [outcome], ?_, ?_, ?_⟩
  · rintro terse rfl
    rw [outcome, h.logged_eq terse, terse]
    rfl
  · intro verbose
    rw [outcome, verbose]
    exact ⟨_, rfl⟩
  · intro hushed asks'
    have opens : ({ i with quiet := true } : Invocation).Opens files d source := ⟨h.loads, h.text⟩
    rw [outcome, outcome_ofWords asks', opens.outcome_of_ok lexes]
    rfl

end Words

/-- **The two subcommands agree**, on any file that is text and in any dialect that can be
loaded.

* They exit alike, and say that all is well exactly if the text can be tokenized.
* If it cannot be, both show the report of the one error, and nothing else goes to the
  standard output; given the same switches they do the very same.
* If it can be, both have seen all tokens. -/
theorem subcommands_agree {checking listing : List String} {i j : Invocation}
    (asks : Invocation.ofWords checking = .ok i) (asks' : Invocation.ofWords listing = .ok j)
    (checks : i.subcommand = .check) (lists : j.subcommand = .tokens) (file : j.file = i.file)
    (config : j.config = i.config) {files : Files} {d : Dialect} {source : String}
    (opens : i.Opens files d source) (small : source.utf8ByteSize < UInt32.size)
    (filter : Option String) (time : String) :
    let checked := Outcome.ofWords checking files filter time
    let listed := Outcome.ofWords listing files filter time
    checked.exit = listed.exit ∧ (checked.exit = 0 ∨ checked.exit = 1) ∧
    (checked.exit = 0 ↔ ∃ ts, tokenize d source = .ok ts) ∧
    match tokenize d source with
    | .error e => ∃ report, Report.coloured i.file source (.ofError e) = .ok report ∧
        Fails checking i files filter time report ∧ Fails listing j files filter time report ∧
        (j.verbose = i.verbose → j.quiet = i.quiet → checked = listed)
    | .ok ts =>
        Succeeds checking i files filter time okLine s!"Lexed {ts.length} token(s)" ∧
        Succeeds listing j files filter time
          ((if j.json then Listing.json else .lines).write ts) s!"{ts.length} token(s)" := by
  intro checked listed
  have opens' : j.Opens files d source := ⟨config ▸ opens.loads, file ▸ opens.text⟩
  cases lexes : tokenize d source with
  | error e =>
    obtain ⟨m, marks⟩ := exists_marks small lexes
    obtain ⟨report, drawn⟩ := Report.exists_coloured marks i.file
    have drawn' : Report.coloured j.file source (.ofError e) = .ok report := file ▸ drawn
    have checkFails := opens.fails asks lexes drawn filter time
    have listFails := opens'.fails asks' lexes drawn' filter time
    refine ⟨checkFails.exit.trans listFails.exit.symm, Or.inr checkFails.exit, ?_,
      report, drawn, checkFails, listFails, ?_⟩
    · simp [checked, checkFails.exit]
    · intro verbose quiet
      show Outcome.ofWords checking files filter time = Outcome.ofWords listing files filter time
      rw [outcome_ofWords asks, outcome_ofWords asks', opens.outcome_of_error lexes drawn,
        opens'.outcome_of_error lexes drawn', opens'.logged_congr opens config verbose, quiet]
  | ok ts =>
    have checkSucceeds := opens.succeeds asks lexes filter time
    have listSucceeds := opens'.succeeds asks' lexes filter time
    rw [Invocation.success, checks] at checkSucceeds
    rw [Invocation.success, lists] at listSucceeds
    exact ⟨checkSucceeds.exit.trans listSucceeds.exit.symm, Or.inl checkSucceeds.exit,
      by simp [checked, checkSucceeds.exit], checkSucceeds, listSucceeds⟩

/-- A stray character behind a word. -/
theorem subcommands_agree_strayCharacter :
    let files : Files := fun _ => .ok "a ?".toUTF8
    let checked := Outcome.ofWords ["check", "--", "main.em"] files none ""
    let listed := Outcome.ofWords ["tokens", "--", "main.em"] files none ""
    let e : LexicalError := ⟨.unexpectedCharacter,
      "Error while reading character: ?, don't know how to process", ⟨0, 2⟩, .ofOffsets 2 3⟩
    checked.exit = 1 ∧ listed.exit = 1 ∧ listed.output = "" ∧
      ∃ report, Report.coloured "main.em" "a ?" (.ofError e) = .ok report ∧
        checked.errors = report ++ errorLine ∧ checked = listed := by
  have opens : Invocation.Opens ⟨.check, "main.em", none, false, false, false⟩
      (fun _ => .ok "a ?".toUTF8) .standard "a ?" := ⟨rfl, by decide +kernel⟩
  have small : ("a ?" : String).utf8ByteSize < UInt32.size := by decide
  have lexes : tokenize .standard "a ?" = .error ⟨.unexpectedCharacter,
      "Error while reading character: ?, don't know how to process", ⟨0, 2⟩, .ofOffsets 2 3⟩ := by
    decide +kernel
  have agree := subcommands_agree (Invocation.ofWords_dashes .check "main.em")
    (Invocation.ofWords_dashes .tokens "main.em") rfl rfl rfl rfl opens small none ""
  rw [lexes] at agree
  obtain ⟨-, -, -, report, drawn, checkFails, listFails, same⟩ := agree
  exact ⟨checkFails.exit, listFails.exit, listFails.output, report, drawn,
    checkFails.errors rfl rfl, same rfl rfl⟩

end Command

end Lexis
