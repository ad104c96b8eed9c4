/-!
# Ink

Text for a terminal is painted piece by piece: a piece is put between a sequence
that turns a style on and the one that turns all styles off.  Pieces do not
nest, so a style never outlasts its piece.
-/

namespace Lexis

/-- A style in which a piece of text is painted. -/
inductive Ink where
  | red
  | green
  | yellow
  | blue
  | magenta
  | dim
  | italic
  /-- A colour of the palette of 256. -/
  | palette (index : Nat)
deriving DecidableEq

namespace Ink

/-- The number of a style, as it stands in the sequence that turns it on. -/
def code : Ink → String
  | red => "31"
  | green => "32"
  | yellow => "33"
  | blue => "34"
  | magenta => "35"
  | dim => "2"
  | italic => "3"
  | palette index => s!"38;5;{index}"

/-- A painted piece of text. -/
def paint (ink : Ink) (text : String) : String := "\x1b[" ++ ink.code ++ "m" ++ text ++ "\x1b[0m"

end Ink

/-- A piece of text, painted or not. -/
structure Stroke where
  text : String
  ink : Option Ink := none
deriving DecidableEq

namespace Stroke

/-- A stroke with its paint. -/
def coloured (s : Stroke) : String :=
  match s.ink with
  | none => s.text
  | some ink => ink.paint s.text

end Stroke

end Lexis
