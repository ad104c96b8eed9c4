import Lexis.Lexer
import Lexis.Text.Alphanumeric
import Lexis.Text.Ink
import Lexis.Text.WhiteSpace

/-!
# Logs

What goes on in a run can be followed in a log, a line for each entry.

* **An entry** has a level, a target that tells which part of the program it is
  from, a message and named fields.
* **A filter** decides which entries are written.  It is a list of rules, and the
  most specific one that fits an entry gives the level for it: the one with the
  longest start of a target, and of two with the same start the one that asks for
  a field.
* **A message shows no control characters** that could steer a terminal: they
  are written as escapes.  Fields are written as they are.
-/

namespace Lexis

/-! ### Levels -/

/-- How much is logged, and how minor an entry is. -/
inductive Level where
  | off
  | error
  | warn
  | info
  | debug
  | trace
deriving DecidableEq

namespace Level

/-- Every level, the most silent first. -/
def all : List Level := [off, error, warn, info, debug, trace]

/-- The rank of a level: what is logged at a level is logged at any higher one. -/
def rank : Level → Nat
  | off => 0
  | error => 1
  | warn => 2
  | info => 3
  | debug => 4
  | trace => 5

/-- The name of a level. -/
def name : Level → String
  | off => "OFF"
  | error => "ERROR"
  | warn => "WARN"
  | info => "INFO"
  | debug => "DEBUG"
  | trace => "TRACE"

/-- The ink of a level's name. -/
def ink : Level → Ink
  | off => .dim
  | error => .red
  | warn => .yellow
  | info => .green
  | debug => .blue
  | trace => .magenta

/-- The level with the given rank. -/
def ofRank? (rank : Nat) : Option Level := all.find? (·.rank = rank)

/-- The level that a text stands for: its name, in capitals or not, or its rank,
perhaps with zeros or a plus sign in front. -/
def ofText? (text : String) : Option Level :=
  let digits := if text.toList.head? = some '+' then text.toList.drop 1 else text.toList
  if !digits.isEmpty && digits.all Char.isDigit then ofRank? (Decimal.ofDigits digits)
  else all.find? (·.name = text.toUpper)

end Level

/-! ### Entries -/

namespace Log

/-- Something to be logged. -/
structure Entry where
  level : Level
  target : String
  message : String
  fields : List (String × String)
deriving DecidableEq

/-- Writes a character so that a terminal does not obey it. -/
def harmless (c : Char) : List Char :=
  if ['\x07', '\x08', '\x0c', '\x1b', '\x7f'].contains c then
    let digits := Nat.toDigits 16 c.toNat
    '\\' :: 'x' :: List.replicate (2 - digits.length) '0' ++ digits
  else if 0x80 ≤ c.toNat && c.toNat ≤ 0x9f then Quoted.codePoint c
  else [c]

namespace Entry

/-- The line of an entry that is logged at the given time. -/
def line (time : String) (e : Entry) : String :=
  Ink.dim.paint time ++ " " ++ e.level.ink.paint e.level.name ++ " "
    ++ Ink.dim.paint e.target ++ Ink.dim.paint ":" ++ " "
    ++ String.ofList (e.message.toList.flatMap harmless)
    ++ String.join (e.fields.map fun field =>
        " " ++ Ink.italic.paint field.1 ++ Ink.dim.paint "=" ++ field.2)
    ++ "\n"

/-- The entry for something that a scan came across. -/
def ofEvent : Event → Entry
  | .skippedComment line =>
    ⟨.debug, "ember_lexer::lexer", "skipped comment", [("line", toString line)]⟩
  | .scannedToken t location =>
    ⟨.trace, "ember_lexer::lexer", "scanned token",
      [("token", toString t), ("location", toString location)]⟩
  | .lexicalError e =>
    ⟨.debug, "ember_lexer::lexer", "lexical error: " ++ e.message,
      [("code", toString e.code), ("location", toString e.location)]⟩

/-- The entry for a config that has been loaded. -/
def loadedConfig (path : String) : Entry :=
  ⟨.debug, "ember::config", "loaded lexer config", [("path", path)]⟩

end Entry

/-! ### Filters -/

/-- Which of the entries with a fitting target a rule is about. -/
inductive Scope where
  /-- All of them. -/
  | all
  /-- Those that have a field with the given name; the message is a field too. -/
  | field (name : String)
  /-- Those in certain spans.  Entries here are not in spans, so this is none. -/
  | span
deriving DecidableEq

/-- A level for the entries whose target starts in a certain way. -/
structure Rule where
  start : String
  scope : Scope
  level : Level
deriving DecidableEq

namespace Rule

/-- Whether a rule is about an entry. -/
def fits (r : Rule) (e : Entry) : Bool :=
  r.start.toList.isPrefixOf e.target.toList && match r.scope with
    | .all => true
    | .field name => name = "message" || e.fields.any (·.1 = name)
    | .span => false

/-- The name of the field that a rule asks for. -/
def fieldName : Rule → Option String
  | ⟨_, .field name, _⟩ => some name
  | _ => none

/-- Whether a rule decides in place of an earlier one that fits the same entry: it
is more specific, or no less specific.  Of two that ask for different fields the
one with the later name decides. -/
def replaces (r other : Rule) : Bool :=
  other.start.length < r.start.length || other.start.length = r.start.length &&
    match other.fieldName, r.fieldName with
    | none, _ => true
    | some _, none => false
    | some a, some b => a ≤ b

end Rule

/-- Which entries are written. -/
abbrev Filter := List Rule

namespace Filter

/-- The rule that decides for an entry. -/
def rule? (f : Filter) (e : Entry) : Option Rule :=
  f.foldl (fun best rule => if rule.fits e && best.all rule.replaces then some rule else best) none

/-- Whether an entry is written.  It is not where no rule decides. -/
def passes (f : Filter) (e : Entry) : Bool :=
  (f.rule? e).any fun rule => e.level.rank ≤ rule.level.rank

/-- The filter of a run, verbose or not. -/
def standard (verbose : Bool) : Filter :=
  let parts := ["ember", "ember_lexer", "ember_diagnostic"]
  ⟨"", .all, .warn⟩ :: if verbose then parts.map fun start => ⟨start, .all, .debug⟩ else []

/-! ### Reading filters -/

/-- Whether a character may start a rule, white space in front of it apart. -/
def startsRule (c : Char) : Bool := isAlphanumeric c || ['-', ':', '_', '['].contains c

/-- Reads the level of a rule.  None at all stands for the highest. -/
def readLevel (text : List Char) : Option Level :=
  if text.isEmpty then some .trace else Level.ofText? (String.ofList text)

/-- Reads a scope after its opening bracket: the name of a span, a field in
braces, or both.  A field with a value is one of a span. -/
def readScope (text : List Char) : Option (Scope × List Char) :=
  let name := text.takeWhile fun c => c ≠ ']' && c ≠ '\x7b'
  match text.drop name.length with
  | ']' :: rest => some (.span, rest)
  | '\x7b' :: rest =>
    let field := rest.takeWhile (· ≠ '\x7d')
    match rest.drop field.length with
    | '\x7d' :: ']' :: rest =>
      if field.isEmpty then none
      else if name.isEmpty && !field.contains '=' then
        some (.field (String.ofList field), rest)
      else some (.span, rest)
    | _ => none
  | _ => none

/-- Reads a rule: how targets start, a scope in brackets and a level after an
equals sign.  A level may also stand alone.  White space is not skipped, except
after a bracket at the end, and a rule that starts with it cannot give a level. -/
def readRule (text : List Char) : Option Rule := do
  let start := text.takeWhile fun c => c ≠ '=' && c ≠ '['
  guard ((text.dropWhile isWhiteSpace).head?.any startsRule)
  let (scope, rest) ← match text.drop start.length with
    | '[' :: rest => readScope rest
    | rest => some (.all, rest)
  let start := String.ofList start
  match rest with
  | '=' :: level =>
    guard (!text.head?.any isWhiteSpace)
    return ⟨start, scope, ← readLevel level⟩
  | rest =>
    guard (rest.all isWhiteSpace)
    match scope, Level.ofText? start with
    | .all, some level => return ⟨"", .all, level⟩
    | _, _ => return ⟨start, scope, .trace⟩

/-- Reads rules with commas between them.  No text at all stands for errors
only. -/
def ofText? (text : String) : Option Filter :=
  if text.isEmpty then some [⟨"", .all, .error⟩]
  else ((text.splitOn ",").filter (!·.isEmpty)).mapM fun rule => readRule rule.toList

end Filter

end Log

end Lexis
