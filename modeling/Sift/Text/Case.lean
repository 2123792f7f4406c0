import Sift.Text.CaseTable

/-!
# Lower case

The full Unicode lower-case mapping of a text.  All characters but two map on their own, by the
table.  `İ` becomes an `i` and a dot above.  A capital sigma becomes `ς` at the end of a word and
`σ` elsewhere: it ends a word if the nearest character before it that is not case-ignorable is
cased, and the nearest such character after it is not.

`lowercase` is the mapping of a text, `asciiLowercase` the one that changes `A` to `Z` only.
-/

namespace Sift.Text

/-- Whether the search for a cased neighbour passes over `c`. -/
def isCaseIgnorable (c : Char) : Bool :=
  inRanges caseIgnorableRanges c.toNat

/-- Whether `c` is cased and not case-ignorable. -/
def isCased (c : Char) : Bool :=
  inRanges casedRanges c.toNat

/-- The lower case of a character that does not depend on its neighbours. -/
def lowercaseChar (c : Char) : List Char :=
  if c.toNat = 0x130 then
    ['i', Char.ofNat 0x307]
  else
    match caseRuns.findSome? (·.image? c.toNat) with
    | some n => [Char.ofNat n]
    | none => [c]

/-- Whether the first character of `cs` that is not case-ignorable is cased. -/
def startsCased (cs : List Char) : Bool :=
  match cs.dropWhile isCaseIgnorable with
  | [] => false
  | c :: _ => isCased c

/-- The lower case of `cs` in a text where `before`, read backwards, stands in front of it. -/
def lowercaseAfter (before : List Char) : List Char → List Char
  | [] => []
  | c :: rest =>
    (if c = 'Σ' then
      [if startsCased before && !startsCased rest then 'ς' else 'σ']
    else
      lowercaseChar c) ++ lowercaseAfter (c :: before) rest

/-- The lower case of `cs`. -/
def lowercase (cs : List Char) : List Char :=
  lowercaseAfter [] cs

/-- `cs` with the letters `A` to `Z` in lower case. -/
def asciiLowercase (cs : List Char) : List Char :=
  cs.map Char.toLower

/-- Whether `s` spells `word`, which is in lower case, with the letters `A` to `Z` in any case. -/
def spells (s word : String) : Bool :=
  String.ofList (asciiLowercase s.toList) == word

end Sift.Text
