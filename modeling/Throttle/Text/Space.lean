/-!
# White space

The characters with the Unicode White_Space property, and trimming by them. Header values
are trimmed with this class, so a no-break space or an ideographic space around a value
is removed like an ordinary blank. A header value listing several items is cut into its
pieces at each separator before the pieces are trimmed.
-/

namespace Throttle

namespace Text

/-- Whether a character has the Unicode White_Space property. -/
def isSpace (c : Char) : Bool :=
  let n := c.toNat
  (0x09 ≤ n && n ≤ 0x0D) || n == 0x20 || n == 0x85 || n == 0xA0 || n == 0x1680 ||
    (0x2000 ≤ n && n ≤ 0x200A) || n == 0x2028 || n == 0x2029 || n == 0x202F ||
    n == 0x205F || n == 0x3000

/-- The string without white space at either end. -/
def trim (s : String) : String :=
  String.ofList ((s.toList.dropWhile isSpace).reverse.dropWhile isSpace).reverse

/-- The pieces of `s` between the occurrences of `sep`, in order: one more piece than there
are separators, so the empty string is one empty piece. -/
def pieces (sep : Char) (s : String) : List String :=
  (s.toList.splitOn sep).map String.ofList

theorem isSpace_of_isWhitespace (c : Char) (h : c.isWhitespace = true) : isSpace c = true := by
  simp only [Char.isWhitespace, Bool.or_eq_true, decide_eq_true_eq] at h
  rcases h with ((h | h) | h) | h <;> subst h <;> decide

end Text

end Throttle
