/-!
Blank characters and their removal at the ends of a text. A character is blank when it has
the Unicode property White_Space.
-/

namespace ChatServer.Text

/-- The characters with the Unicode property White_Space. -/
def isBlank (c : Char) : Bool :=
  let n := c.toNat
  (0x09 ≤ n && n ≤ 0x0D) || n == 0x20 || n == 0x85 || n == 0xA0 || n == 0x1680
    || (0x2000 ≤ n && n ≤ 0x200A) || n == 0x2028 || n == 0x2029 || n == 0x202F
    || n == 0x205F || n == 0x3000

/-- Every blank of ASCII text is blank here too. -/
theorem isBlank_of_isWhitespace {c : Char} (h : c.isWhitespace = true) : isBlank c = true := by
  simp only [Char.isWhitespace, Bool.or_eq_true, decide_eq_true_eq] at h
  rcases h with ((h | h) | h) | h <;> subst h <;> decide

/-- The text without the blanks it starts with. -/
def trimStart (cs : List Char) : List Char :=
  cs.dropWhile isBlank

/-- The text without the blanks it ends with. -/
def trimEnd (cs : List Char) : List Char :=
  (cs.reverse.dropWhile isBlank).reverse

/-- The text without blanks at either end; blanks inside stay. -/
def trim (cs : List Char) : List Char :=
  trimEnd (trimStart cs)

/-- The string without blanks at either end. -/
def trimmed (s : String) : String :=
  .ofList (trim s.toList)

end ChatServer.Text
