import Lexis.LexicalError
import Lexis.Text.Record

/-!
# Diagnostics

A diagnostic is what a report is made from: a message about a span of a source,
labels on spans, notes, and help.  `Diagnostic.ofError` makes one of a lexical
error; there the label tells what the code of the error means, the note gives
the place as the lexer counts it, and the help is there only for the codes with
a known remedy.
-/

namespace Lexis

/-- A message about a span. -/
structure Label where
  span : Span
  message : String
deriving DecidableEq, Inhabited

/-- An error to report, with what helps to understand it. -/
structure Diagnostic where
  code : Option ErrorCode := none
  message : String
  span : Span
  labels : List Label := []
  notes : List String := []
  help : Option String := none
deriving DecidableEq, Inhabited

namespace Diagnostic

/-- A diagnostic with a message and nothing else. -/
def error (span : Span) (message : String) : Diagnostic where
  message := message
  span := span

/-- A piece of a diagnostic that is added to it. -/
inductive Addition where
  | code (code : ErrorCode)
  | label (label : Label)
  | note (text : String)
  | help (text : String)

/-- Adds to a diagnostic.  Labels and notes gather; a code or a help takes the
place of an earlier one. -/
def add (d : Diagnostic) : Addition → Diagnostic
  | .code code => { d with code := some code }
  | .label label => { d with labels := d.labels ++ [label] }
  | .note text => { d with notes := d.notes ++ [text] }
  | .help text => { d with help := some text }

/-- The diagnostic of a lexical error. -/
def ofError (e : LexicalError) : Diagnostic where
  code := some e.code
  message := e.message
  span := e.span
  labels := [⟨e.span, e.code.description⟩]
  notes := [s!"lexer position {e.location} (0-based line:column)"]
  help := e.code.suggestion

/-- A label as a record. -/
def labelRecord (l : Label) : String :=
  Record.fields "Label" [("span", toString l.span), ("message", Quoted.text l.message)]

/-- A diagnostic as a record. -/
def record (d : Diagnostic) : String :=
  Record.fields "Diagnostic" [
    ("code", Record.option (d.code.map ErrorCode.name)),
    ("message", Quoted.text d.message),
    ("span", toString d.span),
    ("labels", Record.list (d.labels.map labelRecord)),
    ("notes", Record.list (d.notes.map Quoted.text)),
    ("help", Record.option (d.help.map Quoted.text))]

end Diagnostic

namespace LexicalError

/-- A lexical error as a record. -/
def record (e : LexicalError) : String :=
  Record.fields "LexicalError" [
    ("code", e.code.name),
    ("message", Quoted.text e.message),
    ("location", toString e.location),
    ("span", toString e.span)]

end LexicalError

end Lexis
