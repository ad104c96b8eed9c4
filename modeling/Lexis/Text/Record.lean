import Lexis.Text.Quoted

/-!
# Records as text

The printed form of a value with named fields: the name of its kind, and the
fields in braces, each with its name.  It is meant to be read by people.
-/

namespace Lexis

namespace Record

/-- A record with its fields, in the order given. -/
def fields (name : String) (entries : List (String × String)) : String :=
  let written := entries.map fun (key, value) => key ++ ": " ++ value
  name ++ " \x7b " ++ ", ".intercalate written ++ " \x7d"

/-- A kind applied to one value. -/
def apply (name value : String) : String := name ++ "(" ++ value ++ ")"

/-- Values in brackets. -/
def list (values : List String) : String := "[" ++ ", ".intercalate values ++ "]"

/-- A value that may be missing. -/
def option : Option String → String
  | none => "None"
  | some value => apply "Some" value

end Record

end Lexis
