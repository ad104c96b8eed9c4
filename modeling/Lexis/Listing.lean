import Lexis.Token

/-!
# Token listings

A list of tokens is written in one of two forms: a line for each token, or one
JSON array.  A line cannot hold a line feed, because the only text that may
contain one is quoted.
-/

namespace Lexis

/-- The form of a listing. -/
inductive Listing where
  /-- A line for each token. -/
  | lines
  /-- A JSON array, over several lines. -/
  | json
deriving DecidableEq, Inhabited

namespace Listing

/-- The text of a list of tokens.  It ends in a line feed, except where there
is no line at all. -/
def write (tokens : List Token) : Listing → String
  | lines => String.join (tokens.map fun t => toString t ++ "\n")
  | json => (Json.array (tokens.map Token.toJson)).pretty ++ "\n"

end Listing

end Lexis
