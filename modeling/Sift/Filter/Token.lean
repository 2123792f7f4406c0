import Sift.Connective
import Sift.Text.Blank
import Sift.Text.Cut

/-!
# Tokens of a filter

A filter text consists of the two connectives `&` and `|`, brackets, and expressions: whatever
stands between those, without the white space around it.  There is no way to quote a structural
character, so it is a token wherever it stands.

`Token.scan` splits a text into its tokens.  Each token carries the bytes of the text that it
covers, counted in the UTF-8 encoding.
-/

namespace Sift.Filter

/-- The bytes from `start` up to `stop`. -/
structure Span where
  start : Nat
  stop : Nat
  deriving DecidableEq, Repr

/-- What a token is. -/
inductive Token.Kind where
  | connective (c : Connective)
  | openBracket
  | closeBracket
  | expression (text : String)
  deriving DecidableEq, Repr

/-- A token and the bytes it covers. -/
structure Token where
  kind : Token.Kind
  span : Span
  deriving DecidableEq, Repr

/-- How tightly a token binds; only a connective does. -/
def Token.Kind.priority : Token.Kind → Nat
  | .connective c => c.priority
  | _ => 0

/-- Whether the token is a connective. -/
def Token.Kind.isConnective : Token.Kind → Bool
  | .connective _ => true
  | _ => false

/-- The characters of a token. -/
def Token.Kind.text : Token.Kind → String
  | .connective c => toString c
  | .openBracket => "("
  | .closeBracket => ")"
  | .expression text => text

namespace Token

/-- The token that `c` is on its own. -/
def structural? (c : Char) : Option Token.Kind :=
  match c with
  | '&' => some (.connective .and)
  | '|' => some (.connective .or)
  | '(' => some .openBracket
  | ')' => some .closeBracket
  | _ => none

/-- Whether `c` belongs to an expression or to the white space around one. -/
def isPlain (c : Char) : Bool :=
  (structural? c).isNone

/-- The expression in a run of plain characters that starts at byte `offset`, if the run holds more
than white space. -/
def ofRun (offset : Nat) (run : List Char) : List Token :=
  let text := Text.trim run
  let start := offset + Text.byteLength (run.takeWhile Text.isBlank)
  if text = [] then
    []
  else
    [⟨.expression (String.ofList text), ⟨start, start + Text.byteLength text⟩⟩]

/-- The tokens of a text that starts at byte `offset`. -/
def scanFrom (offset : Nat) (cs : List Char) : List Token :=
  match cs with
  | [] => []
  | c :: rest =>
    match structural? c with
    | some kind =>
      ⟨kind, ⟨offset, offset + c.utf8Size⟩⟩ :: scanFrom (offset + c.utf8Size) rest
    | none =>
      let run := c :: rest.takeWhile isPlain
      ofRun offset run ++ scanFrom (offset + Text.byteLength run) (rest.dropWhile isPlain)
termination_by cs.length
decreasing_by
  all_goals simp only [List.length_cons]
  · omega
  · have := (List.dropWhile_suffix (p := isPlain) (l := rest)).length_le
    omega

/-- The tokens of a filter text, in order. -/
def scan (text : String) : List Token :=
  scanFrom 0 text.toList

end Token

end Sift.Filter
