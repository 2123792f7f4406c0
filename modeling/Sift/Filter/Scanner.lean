import Sift.Filter.Token

/-!
# Scanning one text after another

A scanner goes through a text once, from left to right, and collects the tokens in a buffer.  It may
be used for any number of texts: the buffer is emptied before a text and handed over after it.

`Scanner.read` is the pass over a text.  The plain characters since the last connective or bracket
are pending; the next one, or the end of the text, makes an expression of them.
-/

namespace Sift.Filter

/-- A scanner with the tokens in its buffer. -/
structure Scanner where
  buffer : List Token
  deriving DecidableEq, Repr

namespace Scanner

/-- A scanner that has not been used yet. -/
def new : Scanner :=
  ⟨[]⟩

/-- Adds a token. -/
def push (s : Scanner) (token : Token) : Scanner :=
  { s with buffer := s.buffer ++ [token] }

/-- Adds the expression in the pending characters, which start at byte `start`, if there is one. -/
def flush (s : Scanner) (start : Nat) (pending : List Char) : Scanner :=
  { s with buffer := s.buffer ++ Token.ofRun start pending }

/-- Adds the tokens of the pending characters, which start at byte `start`, and of what follows
them. -/
def read (s : Scanner) (start : Nat) (pending : List Char) : List Char → Scanner
  | [] => s.flush start pending
  | c :: rest =>
    match Token.structural? c with
    | none => s.read start (pending ++ [c]) rest
    | some kind =>
      let position := start + Text.byteLength pending
      let next := position + c.utf8Size
      ((s.flush start pending).push ⟨kind, ⟨position, next⟩⟩).read next [] rest

/-- The tokens of a text, and the scanner for the next one. -/
def scan (s : Scanner) (text : String) : List Token × Scanner :=
  let filled := { s with buffer := [] }.read 0 [] text.toList
  (filled.buffer, { filled with buffer := [] })

end Scanner

end Sift.Filter
