import Lexis.Command.Arguments

/-!
# Help

The texts that tell how a command line is written.  A text names what it is
about, gives the form of the command line and then lists its parts in sections,
each entry on a line with its description in a column of its own.
-/

namespace Lexis

namespace Command

/-- The name of the program. -/
def programName : String := "ember"

/-- The name and the version of the program. -/
def versionText : String := programName ++ " 0.1.0"

namespace Topic

/-- What a topic is, in a sentence. -/
def about : Topic → String
  | program => "Ember - tokenize Ember source files"
  | subcommand .tokens => "Print the tokens of a file. / 打印文件的 token。"
  | subcommand .check => "Check that a file is lexically valid. / 检查文件的词法是否有效。"
  | help => "Print this message or the help of the given subcommand(s)"

/-- The form of the words after the name of the program. -/
def form : Topic → String
  | program => "[OPTIONS] <COMMAND>"
  | subcommand s => s.name ++ " [OPTIONS] <FILE>"
  | help => "help [COMMAND]..."

/-- A part of a command line, with its description. -/
abbrev Entry := String × String

/-- The options of the program, or of a subcommand. -/
def options (scope : Option Subcommand) : List Entry :=
  let json := ("    --json",
    "Print a JSON array instead of one token per line. / 输出 JSON 数组。")
  let version := ("-V, --version", "Print version")
  (if Switch.json.allowed scope then [json] else []) ++ [
    ("    --config <CONFIG>", "JSON file overriding the lexer tables. / 覆盖词法表的 JSON 文件。"),
    ("-v, --verbose", "Enable verbose output. / 启用详细输出。"),
    ("-q, --quiet", "Suppress output. / 抑制输出。"),
    ("-h, --help", "Print help")] ++
  (if Switch.version.allowed scope then [version] else [])

/-- The parts of a command line, by sections. -/
def sections : Topic → List (String × List Entry)
  | program => [
    ("Commands", [
      (Subcommand.tokens.name, (subcommand .tokens).about),
      (Subcommand.check.name, (subcommand .check).about),
      (Switch.help.name, help.about)]),
    ("Options", options none)]
  | subcommand s =>
    let file := match s with
      | .tokens => "The file to tokenize. / 要分析的文件。"
      | .check => "The file to check. / 要检查的文件。"
    [("Arguments", [("<FILE>", file)]), ("Options", options (some s))]
  | help => [("Arguments", [("[COMMAND]...", "Print help for the subcommand(s)")])]

/-- A text, filled up with spaces to a width. -/
def padded (width : Nat) (text : String) : String :=
  text ++ String.ofList (List.replicate (width - text.length) ' ')

/-- A section, with its descriptions in one column. -/
def sectionText : String × List Entry → String
  | (title, entries) =>
    let width := (entries.map fun entry => entry.1.length).foldl max 0
    "\n" ++ title ++ ":\n" ++ String.join (entries.map fun entry =>
      "  " ++ padded width entry.1 ++ "  " ++ entry.2 ++ "\n")

/-- The help on a topic. -/
def text (t : Topic) : String :=
  t.about ++ "\n\nUsage: " ++ programName ++ " " ++ t.form ++ "\n"
    ++ String.join (t.sections.map sectionText)

end Topic

end Command

end Lexis
