/-!
# Blank characters

A text is blank when each of its characters has the Unicode property White_Space. The property is
a short list of code points; the zero width characters and the byte order mark are not on it.
-/

namespace PushLedger.Text

/-- The code points with the Unicode property White_Space, as inclusive ranges. -/
def blankRanges : List (Nat × Nat) :=
  [(0x09, 0x0D), (0x20, 0x20), (0x85, 0x85), (0xA0, 0xA0), (0x1680, 0x1680), (0x2000, 0x200A),
   (0x2028, 0x2029), (0x202F, 0x202F), (0x205F, 0x205F), (0x3000, 0x3000)]

/-- Membership of a character in the White_Space ranges. -/
def isBlankChar (c : Char) : Bool :=
  blankRanges.any fun range => range.1 ≤ c.toNat && c.toNat ≤ range.2

/-- A text without any character outside White_Space; the empty text is blank. -/
def isBlank (s : String) : Bool := s.toList.all isBlankChar

/-- The text between its leading and its trailing blanks. -/
def trimBlanks (s : String) : String :=
  String.ofList ((s.toList.dropWhile isBlankChar).reverse.dropWhile isBlankChar).reverse

/-- Capital ASCII letters become small ones; every other character stays. -/
def toAsciiLower (s : String) : String := s.map Char.toLower

end PushLedger.Text
