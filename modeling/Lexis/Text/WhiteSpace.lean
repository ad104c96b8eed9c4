import Lexis.Text.CodeRanges

/-!
# White space

The characters with the Unicode property White_Space, in all scripts.  Lexers
skip a smaller set, `isBlank`; this one decides how a source line is drawn.
-/

namespace Lexis

/-- The code points that are white space. -/
def whiteSpaceRanges : CodeRanges := #[
  (0x09, 0x0d), (0x20, 0x20), (0x85, 0x85), (0xa0, 0xa0), (0x1680, 0x1680), (0x2000, 0x200a),
  (0x2028, 0x2029), (0x202f, 0x202f), (0x205f, 0x205f), (0x3000, 0x3000)]

/-- Whether a character is white space. -/
def isWhiteSpace (c : Char) : Bool := whiteSpaceRanges.has c

end Lexis
