/-!
# Arguments

The words of a command line, and what they ask for: a run of a subcommand on a
file (`Invocation`), or something else instead (`Diversion`): help, the
version, or a complaint about the words.

A command line has two sides, the words before the subcommand and those after
it, and both are read from left to right by the same rules (`Side`).

* **An option may be given on either side**, but once only on each.  A switch is
  on if it is on at either side; of two configs the one after the subcommand
  counts.
* **A value apart from its option is checked late**: that it is there, that it is
  not empty and that it is the first one is found out at the next option or file
  name, or at the end of its side (`Side.settle`).  The end of the first side is
  the end of the command line.  So help that is asked for earlier is given.
* **Two dashes** make file names of all words after them.
-/

namespace Lexis

namespace Command

/-! ### Words -/

/-- What is done with a file. -/
inductive Subcommand where
  /-- Print its tokens. -/
  | tokens
  /-- Tell whether it has any errors. -/
  | check
deriving DecidableEq

namespace Subcommand

/-- The word for a subcommand. -/
def name : Subcommand → String
  | tokens => "tokens"
  | check => "check"

/-- The subcommand that a word stands for. -/
def ofName? (word : String) : Option Subcommand := [tokens, check].find? (·.name = word)

end Subcommand

/-- An option without a value. -/
inductive Switch where
  | verbose
  | quiet
  | json
  | help
  | version
deriving DecidableEq

namespace Switch

/-- Every switch. -/
def all : List Switch := [verbose, quiet, json, help, version]

/-- The name of a switch, which stands after two dashes. -/
def name : Switch → String
  | verbose => "verbose"
  | quiet => "quiet"
  | json => "json"
  | help => "help"
  | version => "version"

/-- The letter of a switch, which stands after one dash. -/
def letter : Switch → Option Char
  | verbose => some 'v'
  | quiet => some 'q'
  | json => none
  | help => some 'h'
  | version => some 'V'

/-- Whether a switch may stand after a subcommand, or before any. -/
def allowed (scope : Option Subcommand) : Switch → Bool
  | verbose | quiet | help => true
  | json => scope = some .tokens
  | version => scope = none

end Switch

/-- A word of a command line, by its dashes. -/
inductive Word where
  /-- Two dashes and nothing else. -/
  | dashes
  /-- A name after two dashes, perhaps with a value after an equals sign. -/
  | long (name : String) (value : Option String)
  /-- Letters after one dash. -/
  | short (letters : List Char)
  /-- Any other word; one dash alone is such a word. -/
  | plain (text : String)
deriving DecidableEq

/-- The kind of a word. -/
def Word.ofText (text : String) : Word :=
  match text.toList with
  | ['-', '-'] => .dashes
  | '-' :: '-' :: rest =>
    let name := String.ofList (rest.takeWhile (· ≠ '='))
    match rest.dropWhile (· ≠ '=') with
    | [] => .long name none
    | _ :: value => .long name (some (String.ofList value))
  | '-' :: letter :: letters => .short (letter :: letters)
  | _ => .plain text

/-! ### What is asked for -/

/-- A run on a file. -/
structure Invocation where
  subcommand : Subcommand
  file : String
  config : Option String
  verbose : Bool
  quiet : Bool
  json : Bool
deriving DecidableEq

/-- What help is about. -/
inductive Topic where
  | program
  | subcommand (s : Subcommand)
  | help
deriving DecidableEq

/-- Why a command line cannot be followed. -/
inductive UsageError where
  | unknownArgument (word : String)
  | unexpectedValue (option : String)
  | missingValue (option : String)
  | emptyValue (option : String)
  | repeated (option : String)
  | missingSubcommand
  | missingFile
deriving DecidableEq

/-- What is reported about a command line. -/
def UsageError.message : UsageError → String
  | unknownArgument word => s!"unexpected argument '{word}' found"
  | unexpectedValue option => s!"the option '{option}' takes no value"
  | missingValue option => s!"a value is required for '{option}' but none was supplied"
  | emptyValue option => s!"the value of '{option}' must not be empty"
  | repeated option => s!"the argument '{option}' cannot be used multiple times"
  | missingSubcommand => "a subcommand is required but none was given"
  | missingFile => "the required argument <FILE> was not provided"

/-- What a command line asks for in place of a run. -/
inductive Diversion where
  | help (topic : Topic)
  | version
  | misuse (e : UsageError)
deriving DecidableEq

/-- What stops a command line that cannot be followed. -/
def misuse {α : Type} (e : UsageError) : Except Diversion α := .error (.misuse e)

/-! ### Sides -/

/-- A value that is given apart from its option. -/
inductive Pending where
  /-- It has yet to come. -/
  | awaited
  | given (value : String)
deriving DecidableEq

/-- What the words of one side have said so far. -/
structure Side where
  /-- The subcommand before these words. -/
  scope : Option Subcommand
  /-- The switches that are on. -/
  on : List Switch := []
  config : Option String := none
  /-- A value of the config option that has not been checked. -/
  pending : Option Pending := none

namespace Side

/-- The option with a value, as it is written. -/
def configOption : String := "--config"

/-- Takes a value of the config option. -/
def setConfig (s : Side) (value : String) : Except Diversion Side :=
  if s.config.isSome then misuse (.repeated configOption)
  else if value.isEmpty then misuse (.emptyValue configOption)
  else .ok { s with config := some value }

/-- Checks a value that is pending. -/
def settle (s : Side) : Except Diversion Side :=
  match s.pending with
  | none => .ok s
  | some .awaited => misuse (.missingValue configOption)
  | some (.given value) => { s with pending := none }.setConfig value

/-- Turns a switch on. -/
def turnOn (s : Side) (w : Switch) : Except Diversion Side := do
  let s ← s.settle
  match w with
  | .help => .error (.help (s.scope.elim .program .subcommand))
  | .version => .error .version
  | .verbose | .quiet | .json =>
    if s.on.contains w then misuse (.repeated ("--" ++ w.name))
    else .ok { s with on := w :: s.on }

/-- Takes an option by its name. -/
def long (s : Side) (name : String) (value : Option String) : Except Diversion Side :=
  if "--" ++ name = configOption then do
    let s ← s.settle
    match value with
    | some value => s.setConfig value
    | none => .ok { s with pending := some .awaited }
  else
    match Switch.all.find? fun w => w.allowed s.scope && w.name = name with
    | none => misuse (.unknownArgument ("--" ++ name))
    | some w => if value.isSome then misuse (.unexpectedValue ("--" ++ name)) else s.turnOn w

/-- Takes switches by their letters. -/
def short (s : Side) : List Char → Except Diversion Side
  | [] => .ok s
  | c :: letters =>
    match Switch.all.find? fun w => w.allowed s.scope && w.letter = some c with
    | none => misuse (.unknownArgument ("-" ++ c.toString))
    | some w => do (← s.turnOn w).short letters

/-- Takes a word that may be the value awaited; if it is not, there is none. -/
def take? (s : Side) (text : String) : Option Side :=
  if s.pending = some .awaited then some { s with pending := some (.given text) } else none

end Side

/-! ### Reading -/

/-- Reads the words after two dashes, which are file names. -/
def readFiles (s : Side) : Option String → List String → Except Diversion (Side × String)
  | none, [] => do
    let _ ← s.settle
    misuse .missingFile
  | none, file :: words => readFiles s (some file) words
  | some file, [] => do .ok (← s.settle, file)
  | some _, word :: _ => misuse (.unknownArgument word)

/-- Reads the words after the subcommand; `file` is the file name among those
already read. -/
def readAfter (s : Side) (file : Option String) : List String → Except Diversion (Side × String)
  | [] => readFiles s file []
  | word :: words =>
    match Word.ofText word with
    | .dashes => readFiles s file words
    | .long name value => do readAfter (← s.long name value) file words
    | .short letters => do readAfter (← s.short letters) file words
    | .plain text =>
      match s.take? text with
      | some s => readAfter s file words
      | none => do
        let s ← s.settle
        if file.isSome then misuse (.unknownArgument text) else readAfter s (some text) words

/-- Reads the words after the word `help`. -/
def readTopic : List String → Diversion
  | [] => .help .program
  | [word] =>
    if word = Switch.help.name then .help .help
    else match Subcommand.ofName? word with
      | some s => .help (.subcommand s)
      | none => .misuse (.unknownArgument word)
  | _ :: word :: _ => .misuse (.unknownArgument word)

/-- Reads the words of a command line, those before the subcommand on a side of
their own. -/
def readBefore (s : Side) : List String → Except Diversion Invocation
  | [] => misuse .missingSubcommand
  | word :: words =>
    match Word.ofText word with
    | .dashes => misuse .missingSubcommand
    | .long name value => do readBefore (← s.long name value) words
    | .short letters => do readBefore (← s.short letters) words
    | .plain text =>
      match s.take? text with
      | some s => readBefore s words
      | none =>
        if text = Switch.help.name then .error (readTopic words)
        else match Subcommand.ofName? text with
          | none => misuse (.unknownArgument text)
          | some subcommand => do
            let (inner, file) ← readAfter ⟨some subcommand, [], none, none⟩ none words
            let outer ← s.settle
            let on (w : Switch) : Bool := inner.on.contains w || outer.on.contains w
            .ok ⟨subcommand, file, inner.config <|> outer.config, on .verbose, on .quiet, on .json⟩

/-- What a command line asks for. -/
def Invocation.ofWords (words : List String) : Except Diversion Invocation :=
  readBefore ⟨none, [], none, none⟩ words

end Command

end Lexis
