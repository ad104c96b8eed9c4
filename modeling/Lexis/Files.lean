/-!
# Files

Where texts are read from.  A program that reads files is given a function from
paths to what reading them gives, so that it is itself a function; `Directory`
is such a source of files that is held in memory.
-/

namespace Lexis

/-- Why a file cannot be read. -/
inductive ReadFailure where
  | notFound
  | isDirectory
  /-- A path that leads through something that is no directory. -/
  | notDirectory
  /-- The content is not text in UTF-8. -/
  | notText
  | other (reason : String)
deriving DecidableEq

/-- What is reported about a failure. -/
def ReadFailure.message : ReadFailure → String
  | notFound => "No such file or directory (os error 2)"
  | isDirectory => "Is a directory (os error 21)"
  | notDirectory => "Not a directory (os error 20)"
  | notText => "stream did not contain valid UTF-8"
  | other reason => reason

/-- What reading the bytes of a file gives, by its path. -/
abbrev Files := String → Except ReadFailure ByteArray

/-- The text of a file. -/
def Files.text (files : Files) (path : String) : Except ReadFailure String :=
  match files path with
  | .error failure => .error failure
  | .ok bytes =>
    match String.fromUTF8? bytes with
    | some text => .ok text
    | none => .error .notText

/-! ### Directories -/

/-- The files in a directory and the directories under it, each by the names on
the way to it. -/
abbrev Directory := List (List String × ByteArray)

namespace Directory

/-- The names in a path. -/
def names (path : String) : List String := path.splitOn "/"

/-- Whether a name only says where a path goes on. -/
def isStep (name : String) : Bool := name.isEmpty || name = "." || name = ".."

/-- Reads a path that has left the directory.  Nothing is known to be there
but directories on the way. -/
def readOutside (path : List String) : Except ReadFailure ByteArray :=
  if path.all isStep then .error .isDirectory else .error .notFound

/-- Reads a path from the place that `here` leads to. -/
def readFrom (d : Directory) (here : List String) : List String → Except ReadFailure ByteArray
  | [] =>
    match d.find? (·.1 = here) with
    | some (_, bytes) => .ok bytes
    | none => .error .isDirectory
  | name :: path =>
    let there := here ++ [name]
    if d.any (·.1 = here) then .error .notDirectory
    else if name.isEmpty || name = "." then d.readFrom here path
    else if name = ".." then
      if here.isEmpty then readOutside path else d.readFrom here.dropLast path
    else if d.any (fun file => there.isPrefixOf file.1) then d.readFrom there path
    else .error .notFound

/-- The files as they are seen from the directory. -/
def files (d : Directory) : Files := fun path =>
  if path.isEmpty then .error .notFound
  else if path.startsWith "/" then readOutside (names path)
  else d.readFrom [] (names path)

end Directory

end Lexis
