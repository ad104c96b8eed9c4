import Lexis.Command.Outcome
import Std.Time.Format

/-!
# The program

Reads the files that the command line names and writes the outcome.  What the
outcome is, is decided in `Lexis.Command.Outcome`.
-/

open Lexis

/-- Why a file cannot be read, by the number that the system gives the reason.
Some come with their sign changed. -/
def failureOf (code : UInt32) (details : String) : ReadFailure :=
  match (min code (0 - code)).toNat with
  | 2 => .notFound
  | 20 => .notDirectory
  | 21 => .isDirectory
  | number => .other s!"{details} (os error {number})"

/-- The bytes of a file, or why it cannot be read. -/
def readBytes (path : String) : IO (Except ReadFailure ByteArray) := do
  try
    return .ok (← IO.FS.readBinFile path)
  catch
    | .noFileOrDirectory _ code details | .inappropriateType _ code details
    | .permissionDenied _ code details => return .error (failureOf code details)
    | e => return .error (.other (toString e))

/-- The time, as it stands in the log. -/
def timeText : IO String := do
  let now ← Std.Time.Timestamp.now
  return (Std.Time.DateTime.ofTimestampWithZone now .GMT).format "uuuu-MM-dd'T'HH:mm:ss.SSSSSS'Z'"

/-- Runs the program. -/
def main (words : List String) : IO UInt32 := do
  let paths := match Command.Invocation.ofWords words with
    | .ok i => i.config.toList ++ [i.file]
    | .error _ => []
  let contents ← paths.mapM fun path => return (path, ← readBytes path)
  let files : Files := fun path => (contents.lookup path).getD (.error .notFound)
  let outcome := Command.Outcome.ofWords words files (← IO.getEnv "RUST_LOG") (← timeText)
  (← IO.getStdout).putStr outcome.output
  (← IO.getStderr).putStr outcome.errors
  return outcome.exit.toUInt32
