/-!
Blank characters: those that separate words and that trimming removes.
-/

namespace Stepwise.Text

/-- The separators of the Unicode classes for space, line and paragraph, and the control characters
that act as such. -/
def isBlank (c : Char) : Bool :=
  let n := c.toNat
  (0x09 ≤ n && n ≤ 0x0d) || (0x1c ≤ n && n ≤ 0x20) || n == 0x85 || n == 0xa0 || n == 0x1680 ||
    (0x2000 ≤ n && n ≤ 0x200a) || n == 0x2028 || n == 0x2029 || n == 0x202f || n == 0x205f ||
    n == 0x3000

theorem isBlank_of_isWhitespace {c : Char} (h : c.isWhitespace) : isBlank c := by
  simp only [Char.isWhitespace, Bool.or_eq_true, decide_eq_true_eq] at h
  rcases h with ((h | h) | h) | h <;> subst h <;> decide

/-- Drops the characters of a class at the left end. -/
def trimLeftBy (p : Char → Bool) (s : List Char) : List Char := s.dropWhile p

/-- Drops the characters of a class at the right end. -/
def trimRightBy (p : Char → Bool) (s : List Char) : List Char :=
  (s.reverse.dropWhile p).reverse

/-- Drops the characters of a class at both ends. -/
def trimBy (p : Char → Bool) (s : List Char) : List Char := trimRightBy p (trimLeftBy p s)

/-- Drops the blanks at both ends. -/
def trim (s : List Char) : List Char := trimBy isBlank s

/-- Drops the blanks at both ends. -/
def trimString (s : String) : String := String.ofList (trim s.toList)

/-- Does the text hold nothing but blanks? -/
def allBlank (s : String) : Bool := s.toList.all isBlank

/-- Characters after which a line ends. -/
def isLineBreak (c : Char) : Bool :=
  let n := c.toNat
  (0x0a ≤ n && n ≤ 0x0d) || (0x1c ≤ n && n ≤ 0x1e) || n == 0x85 || n == 0x2028 || n == 0x2029

end Stepwise.Text
