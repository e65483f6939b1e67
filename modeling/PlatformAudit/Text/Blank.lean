import PlatformAudit.Text.CodeRange

/-!
# White space

White space is the Unicode property of that name: besides the space and the
controls from the tab to the carriage return it holds the next-line control, the
no-break spaces and the typographic spaces, but no zero-width character.
-/

namespace PlatformAudit.Text

/-- The code points of white space. -/
def blankRanges : CodeRanges :=
  [(0x9, 0xD), (0x20, 0x20), (0x85, 0x85), (0xA0, 0xA0), (0x1680, 0x1680), (0x2000, 0x200A),
   (0x2028, 0x2029), (0x202F, 0x202F), (0x205F, 0x205F), (0x3000, 0x3000)]

/-- A white-space character. -/
def isBlank (c : Char) : Bool :=
  blankRanges.covers c.toNat

/-- A text without its leading white space. -/
def trimStart (cs : List Char) : List Char :=
  cs.dropWhile isBlank

/-- A text without its trailing white space. -/
def trimEnd (cs : List Char) : List Char :=
  (cs.reverse.dropWhile isBlank).reverse

/-- A text without surrounding white space. -/
def trim (cs : List Char) : List Char :=
  trimEnd (trimStart cs)

end PlatformAudit.Text
