/-!
# Patterns

The patterns of SQL's `LIKE`.  A `%` stands for any run of characters, an `_` for any one
character, and a backslash makes the next character stand for itself.  A backslash at the end of a
pattern, and any other character, stands for itself.
-/

namespace Sift.Pattern

/-- Whether `p` holds of some suffix of a text, the text itself and the empty one included. -/
def anySuffix (p : List Char → Bool) : List Char → Bool
  | [] => p []
  | c :: rest => p (c :: rest) || anySuffix p rest

/-- Whether a text starts with `c` and `p` holds of the rest. -/
def startsWith (c : Char) (p : List Char → Bool) : List Char → Bool
  | [] => false
  | d :: rest => d == c && p rest

/-- Whether the pattern, which comes first, covers all of the text. -/
def accepts : List Char → List Char → Bool
  | [] => fun text => text.isEmpty
  | '%' :: pattern => anySuffix (accepts pattern)
  | '_' :: pattern => fun text =>
    match text with
    | [] => false
    | _ :: rest => accepts pattern rest
  | '\\' :: c :: pattern => startsWith c (accepts pattern)
  | c :: pattern => startsWith c (accepts pattern)

end Sift.Pattern
