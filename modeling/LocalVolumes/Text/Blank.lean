/-!
# LocalVolumes.Text.Blank — white space and trimming

White space is the Unicode property `White_Space`.  `trim` takes it away on both sides of a text.
-/

namespace LocalVolumes.Text

/-- The characters with the property `White_Space`. -/
def isBlank (c : Char) : Bool :=
  let n := c.toNat
  (0x9 ≤ n && n ≤ 0xD) || n == 0x20 || n == 0x85 || n == 0xA0 || n == 0x1680 ||
    (0x2000 ≤ n && n ≤ 0x200A) || n == 0x2028 || n == 0x2029 || n == 0x202F || n == 0x205F ||
    n == 0x3000

/-- The characters without leading and trailing white space. -/
def trimChars (cs : List Char) : List Char :=
  ((cs.dropWhile isBlank).reverse.dropWhile isBlank).reverse

/-- The text without leading and trailing white space. -/
def trim (s : String) : String := String.ofList (trimChars s.toList)

/-- Whether a text is white space throughout. -/
def isBlankText (s : String) : Bool := s.toList.all isBlank

end LocalVolumes.Text
