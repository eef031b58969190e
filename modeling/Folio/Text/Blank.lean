/-!
# Folio.Text.Blank

Blank characters and trimming.  A character is blank when it has the Unicode
property White_Space; `trim` removes blank characters from both ends of a
text and `isBlankText` tells the texts that consist of nothing else.

Scans work on lists of characters, so that each is a recursion on the text;
the functions on `String` are their images.
-/

namespace Folio.Text

/-! ## Blank characters -/

/-- A blank character: one with the Unicode property White_Space. -/
def isBlank (c : Char) : Bool :=
  let n := c.toNat
  (9 ≤ n && n ≤ 13) || n == 0x20 || n == 0x85 || n == 0xA0 || n == 0x1680 ||
    (0x2000 ≤ n && n ≤ 0x200A) || n == 0x2028 || n == 0x2029 || n == 0x202F ||
    n == 0x205F || n == 0x3000

/-- A blank character of ASCII as markup and labels know it: tab, line feed,
form feed, carriage return or space. -/
def isAsciiBlank (c : Char) : Bool :=
  c == ' ' || c == '\t' || c == '\n' || c == '\x0c' || c == '\r'

/-! ## Trimming -/

/-- The text without the blank characters it begins with. -/
def trimStart (s : List Char) : List Char := s.dropWhile isBlank

/-- The text without the characters of class `p` it ends with. -/
def dropEndWhile (p : Char → Bool) (s : List Char) : List Char :=
  (s.reverse.dropWhile p).reverse

/-- The text without the blank characters it ends with. -/
def trimEnd (s : List Char) : List Char := dropEndWhile isBlank s

/-- The text without the blank characters at either end. -/
def trim (s : List Char) : List Char := trimEnd (trimStart s)

/-- The string without the blank characters at either end. -/
def trimmed (s : String) : String := String.ofList (trim s.toList)

/-- The string holds nothing but blank characters. -/
def isBlankText (s : String) : Bool := s.toList.all isBlank

/-! ## Laws of trimming -/

theorem length_dropEndWhile_le (p : Char → Bool) (s : List Char) :
    (dropEndWhile p s).length ≤ s.length := by
  have h := (List.dropWhile_sublist (l := s.reverse) p).length_le
  simpa [dropEndWhile] using h

theorem length_trim_le (s : List Char) : (trim s).length ≤ s.length :=
  Nat.le_trans (length_dropEndWhile_le _ _) (List.dropWhile_sublist _).length_le

end Folio.Text
