import Lexis.Command.Help
import Lexis.Dialect.Reading
import Lexis.Files
import Lexis.Listing
import Lexis.Log
import Lexis.Report

/-!
# Outcomes

What a command line comes to: an exit status and what is written, given the
files, the filter for the log and the time.

* **A run stops at the first failure**: of reading the config, the file and its
  tokens, in this order.  Nothing goes to the standard output then.
* **Both subcommands go through the file alike**; `check` counts the tokens and
  `tokens` keeps them.
* **Quiet runs** leave out the line that tells a failure, but not the report of
  a lexical error.  **Verbose runs** tell how many tokens there were.
-/

namespace Lexis

namespace Command

/-- Why a run fails. -/
inductive Failure where
  | unreadableConfig (path : String) (why : ReadFailure)
  | invalidConfig (path : String) (why : Json.Error)
  | unreadableFile (path : String) (why : ReadFailure)
  /-- An error in the text of a file. -/
  | lexical (path source : String) (e : LexicalError)

namespace Failure

/-- What is told about a failure. -/
def message : Failure → String
  | unreadableConfig path why => s!"cannot read config '{path}': {why.message}"
  | invalidConfig path why => s!"invalid config '{path}': {why}"
  | unreadableFile path why => s!"cannot read file '{path}': {why.message}"
  | lexical .. => "lexical error"

/-- The report of a failure, for those that have one. -/
def report : Failure → String
  | lexical path source e => (Report.coloured path source (.ofError e)).toOption.getD ""
  | unreadableConfig .. | invalidConfig .. | unreadableFile .. => ""

end Failure

/-- What a run comes to if it does not fail. -/
structure Success where
  /-- What goes to the standard output. -/
  output : String
  /-- What a verbose run tells. -/
  remark : String

/-- The events of a run, and how it ended. -/
structure Run where
  log : List Log.Entry
  result : Except Failure Success

/-- Loads the dialect of a run. -/
def loadDialect (files : Files) : Option String → Except Failure Dialect
  | none => .ok .standard
  | some path =>
    match files.text path with
    | .error why => .error (.unreadableConfig path why)
    | .ok text => (Dialect.ofText text).mapError (.invalidConfig path)

/-- Goes through the text of a file. -/
def Invocation.lex (i : Invocation) (d : Dialect) (source : String) : Run :=
  let lexer := Lexer.ofText d source
  let entries (l : Lexer) : List Log.Entry := l.log.reverse.map .ofEvent
  match i.subcommand with
  | .tokens =>
    let (tokens, after) := lexer.collect
    let form : Listing := if i.json then .json else .lines
    ⟨entries after, (tokens.mapError (.lexical i.file source)).map fun tokens =>
      ⟨form.write tokens, s!"{tokens.length} token(s)"⟩⟩
  | .check =>
    let (count, after) := lexer.count
    ⟨entries after, (count.mapError (.lexical i.file source)).map fun count =>
      ⟨Ink.green.paint "OK - No errors found" ++ "\n", s!"Lexed {count} token(s)"⟩⟩

/-- Carries out an invocation. -/
def Invocation.run (i : Invocation) (files : Files) : Run :=
  match loadDialect files i.config with
  | .error failure => ⟨[], .error failure⟩
  | .ok d =>
    let loaded := i.config.toList.map Log.Entry.loadedConfig
    match files.text i.file with
    | .error why => ⟨loaded, .error (.unreadableFile i.file why)⟩
    | .ok source =>
      let run := i.lex d source
      { run with log := loaded ++ run.log }

/-- An exit status, and what is written. -/
structure Outcome where
  exit : Nat
  output : String
  /-- What goes to the standard error. -/
  errors : String
deriving DecidableEq

/-- The outcome of an invocation.  A text that is no filter is passed over. -/
def Invocation.outcome (i : Invocation) (files : Files) (filter : Option String) (time : String) :
    Outcome :=
  let run := i.run files
  let filter := (filter.bind Log.Filter.ofText?).getD (.standard i.verbose)
  let log := String.join ((run.log.filter filter.passes).map (·.line time))
  match run.result with
  | .error failure =>
    let line := if i.quiet then "" else Ink.red.paint "error:" ++ " " ++ failure.message ++ "\n"
    ⟨1, "", log ++ failure.report ++ line⟩
  | .ok success =>
    let line := if i.verbose then Ink.blue.paint "info:" ++ " " ++ success.remark ++ "\n" else ""
    ⟨0, success.output, log ++ line⟩

/-- The outcome of what is asked for in place of a run. -/
def Diversion.outcome : Diversion → Outcome
  | help topic => ⟨0, topic.text, ""⟩
  | version => ⟨0, versionText ++ "\n", ""⟩
  | misuse e => ⟨2, "", "error: " ++ e.message ++ "\n"⟩

/-- The outcome of a command line. -/
def Outcome.ofWords (words : List String) (files : Files) (filter : Option String)
    (time : String) : Outcome :=
  match Invocation.ofWords words with
  | .ok i => i.outcome files filter time
  | .error d => d.outcome

end Command

end Lexis
