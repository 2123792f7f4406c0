import Sift.Filter.Token

/-!
# Errors in a filter text

What can be wrong with the structure of a filter, with the byte at which the blamed token starts.
`StructureError.message` words the error, and `StructureError.report` adds the text with a caret
below the blamed token.
-/

namespace Sift.Filter

/-- A fault in the structure of a filter. -/
inductive StructureError where
  /-- A closing bracket that nothing opens. -/
  | unmatchedBracket (position : Nat)
  /-- An opening bracket that nothing closes. -/
  | unclosedBracket (position : Nat)
  /-- A connective without something to combine. -/
  | missingOperand (connective : Connective) (position : Nat)
  /-- An operand right after another one. -/
  | missingOperator (position : Nat)
  /-- A tree deeper than the limit. -/
  | nestingTooDeep (limit : Nat)
  deriving DecidableEq, Repr

namespace StructureError

/-- Where the blamed token starts, if a token is to blame. -/
def position? : StructureError → Option Nat
  | .unmatchedBracket position => some position
  | .unclosedBracket position => some position
  | .missingOperand _ position => some position
  | .missingOperator position => some position
  | .nestingTooDeep _ => none

/-- The wording of an error. -/
def message : StructureError → String
  | .unmatchedBracket position => s!"unmatched ')' at position {position}"
  | .unclosedBracket position => s!"unclosed '(' at position {position}"
  | .missingOperand connective position =>
    s!"operator '{connective}' at position {position} is missing an operand"
  | .missingOperator position =>
    s!"expected '&' or '|' before the expression at position {position}"
  | .nestingTooDeep limit => s!"filter nesting exceeds the maximum depth of {limit}"

/-- The number of characters in the first `bytes` bytes of a text, if a character ends there. -/
def charsBefore? (bytes : Nat) : List Char → Option Nat
  | [] => if bytes = 0 then some 0 else none
  | c :: rest =>
    if bytes = 0 then
      some 0
    else if c.utf8Size ≤ bytes then
      (charsBefore? (bytes - c.utf8Size) rest).map (· + 1)
    else
      none

/-- The message, followed by the text and a caret below the blamed token, if the position of that
token lies between two characters of the text. -/
def report (e : StructureError) (text : String) : String :=
  match e.position?.bind fun position => charsBefore? position text.toList with
  | some indent =>
    e.message ++ "\n" ++ text ++ "\n" ++ String.ofList (List.replicate indent ' ') ++ "^"
  | none => e.message

end StructureError

end Sift.Filter
