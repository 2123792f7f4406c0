/-!
# Cutting texts at a separator

`cut` takes a text apart at the first occurrence of a separator and `cutLast` at the last one.
Both give nothing where the separator does not occur.
-/

namespace Sift.Text

/-- The parts before and after the first `separator`. -/
def cut (separator : Char) : List Char → Option (List Char × List Char)
  | [] => none
  | c :: rest =>
    if c = separator then
      some ([], rest)
    else
      (cut separator rest).map fun parts => (c :: parts.1, parts.2)

/-- The parts before and after the last `separator`. -/
def cutLast (separator : Char) (cs : List Char) : Option (List Char × List Char) :=
  (cut separator cs.reverse).map fun parts => (parts.2.reverse, parts.1.reverse)

/-- The length of a text in the UTF-8 encoding. -/
def byteLength : List Char → Nat
  | [] => 0
  | c :: rest => c.utf8Size + byteLength rest

end Sift.Text
