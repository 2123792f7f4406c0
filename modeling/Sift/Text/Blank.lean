/-!
# White space

The 25 characters with the Unicode property `White_Space`, and trimming by them.  Zero-width
spaces, the byte-order mark and the information separators are not white space.

`skipBlanks` drops the white space in front of a text and `trim` that at both ends.
-/

namespace Sift.Text

/-- Whether `c` has the Unicode property `White_Space`. -/
def isBlank (c : Char) : Bool :=
  let n := c.toNat
  (0x09 ≤ n && n ≤ 0x0D) || n == 0x20 || n == 0x85 || n == 0xA0 || n == 0x1680 ||
    (0x2000 ≤ n && n ≤ 0x200A) || n == 0x2028 || n == 0x2029 || n == 0x202F || n == 0x205F ||
    n == 0x3000

/-- What is left of `cs` after its leading white space. -/
def skipBlanks (cs : List Char) : List Char :=
  cs.dropWhile isBlank

/-- `cs` without its trailing white space. -/
def dropTrailingBlanks (cs : List Char) : List Char :=
  (cs.reverse.dropWhile isBlank).reverse

/-- `cs` without the white space at either end. -/
def trim (cs : List Char) : List Char :=
  dropTrailingBlanks (skipBlanks cs)

end Sift.Text
