import Sift.Json.Basic

/-!
# The lexemes of JSON

The first stage of reading JSON: brackets, separators and scalars.  A scalar arrives as its value.

The scanner is an automaton that takes one character at a time.  Between quotes it collects the
raw text, and `unescape?` decodes it at the closing quote; elsewhere it collects runs of
characters that are neither white space nor punctuation, and `wordValue?` says what a run stands
for.
-/

namespace Sift.Json

/-- A bracket, a separator, or a value that holds no others. -/
inductive Lexeme where
  | openArray
  | closeArray
  | openObject
  | closeObject
  | comma
  | colon
  | scalar (value : Json)
  deriving Repr

/-! ## Texts -/

/-- The value of a hexadecimal digit. -/
def hexValue? (c : Char) : Option Nat :=
  if '0' ≤ c && c ≤ '9' then some (c.toNat - 48)
  else if 'a' ≤ c && c ≤ 'f' then some (c.toNat - 87)
  else if 'A' ≤ c && c ≤ 'F' then some (c.toNat - 55)
  else none

/-- The character that a one-letter escape stands for. -/
def escapedChar? (c : Char) : Option Char :=
  match c with
  | '"' => some '"'
  | '\\' => some '\\'
  | '/' => some '/'
  | 'b' => some '\x08'
  | 'f' => some '\x0c'
  | 'n' => some '\n'
  | 'r' => some '\r'
  | 't' => some '\t'
  | _ => none

/-- The code points of a raw text, in which halves of surrogate pairs still stand alone. -/
def codePoints? : List Char → Option (List Nat)
  | [] => some []
  | '\\' :: 'u' :: a :: b :: c :: d :: rest => do
    let a ← hexValue? a
    let b ← hexValue? b
    let c ← hexValue? c
    let d ← hexValue? d
    let points ← codePoints? rest
    some ((((a * 16 + b) * 16 + c) * 16 + d) :: points)
  | '\\' :: c :: rest => do
    let c ← escapedChar? c
    let points ← codePoints? rest
    some (c.toNat :: points)
  | c :: rest => (codePoints? rest).map (c.toNat :: ·)

/-- Whether `n` is the first half of a surrogate pair. -/
def isHighSurrogate (n : Nat) : Bool :=
  0xD800 ≤ n && n ≤ 0xDBFF

/-- Whether `n` is the second half of a surrogate pair. -/
def isLowSurrogate (n : Nat) : Bool :=
  0xDC00 ≤ n && n ≤ 0xDFFF

/-- The characters of a list of code points, if every half of a surrogate pair has its other. -/
def joinPairs? : List Nat → Option (List Char)
  | [] => some []
  | [n] => if isHighSurrogate n || isLowSurrogate n then none else some [Char.ofNat n]
  | n :: m :: rest =>
    if isHighSurrogate n then
      if isLowSurrogate m then
        (joinPairs? rest).map
          (Char.ofNat (0x10000 + (n - 0xD800) * 0x400 + (m - 0xDC00)) :: ·)
      else
        none
    else if isLowSurrogate n then
      none
    else
      (joinPairs? (m :: rest)).map (Char.ofNat n :: ·)

/-- The value of a raw text, if its escapes are well formed. -/
def unescape? (raw : List Char) : Option Json :=
  (codePoints? raw).map fun points =>
    match joinPairs? points with
    | some cs => .text (String.ofList cs)
    | none => .unreadable

/-! ## Words and numbers -/

/-- What follows the digits at the front of `cs`, if there is a digit. -/
def afterDigits? (cs : List Char) : Option (List Char) :=
  match cs with
  | c :: rest => if c.isDigit then some (rest.dropWhile Char.isDigit) else none
  | [] => none

/-- What follows a whole number without leading zeros. -/
def afterWhole? : List Char → Option (List Char)
  | '0' :: rest => some rest
  | cs => afterDigits? cs

/-- What follows a point and digits, or `cs` itself if it starts with no point. -/
def afterFraction? : List Char → Option (List Char)
  | '.' :: rest => afterDigits? rest
  | cs => some cs

/-- What follows the sign of an exponent, if there is one. -/
def afterSign : List Char → List Char
  | '+' :: rest => rest
  | '-' :: rest => rest
  | cs => cs

/-- What follows an exponent, or `cs` itself if it starts with no exponent mark. -/
def afterExponent? : List Char → Option (List Char)
  | 'e' :: rest => afterDigits? (afterSign rest)
  | 'E' :: rest => afterDigits? (afterSign rest)
  | cs => some cs

/-- Whether `cs` is a number: a whole number with an optional minus sign, fraction and
exponent. -/
def isNumber (cs : List Char) : Bool :=
  let unsigned := match cs with
    | '-' :: rest => rest
    | cs => cs
  ((afterWhole? unsigned).bind afterFraction?).bind afterExponent? == some []

/-- The value that a run of characters outside quotes stands for. -/
def wordValue? (run : List Char) : Option Json :=
  match String.ofList run with
  | "null" => some .null
  | "true" => some (.bool true)
  | "false" => some (.bool false)
  | word => if isNumber run then some (.number word) else none

/-! ## The scanner -/

/-- What the scanner has read of the lexeme at hand; runs are kept in reverse. -/
inductive Mode where
  | between
  | word (run : List Char)
  | text (raw : List Char)
  | escape (raw : List Char)

/-- Whether `c` is white space between lexemes. -/
def isSpace (c : Char) : Bool :=
  c == ' ' || c == '\t' || c == '\n' || c == '\r'

/-- The lexeme that `c` is on its own. -/
def punctuation? (c : Char) : Option Lexeme :=
  match c with
  | '[' => some .openArray
  | ']' => some .closeArray
  | '\x7b' => some .openObject
  | '\x7d' => some .closeObject
  | ',' => some .comma
  | ':' => some .colon
  | _ => none

/-- The lexemes that `c` completes where no lexeme is under way, and what is then under way. -/
def start (c : Char) : List Lexeme × Mode :=
  if isSpace c then
    ([], .between)
  else if c = '"' then
    ([], .text [])
  else
    match punctuation? c with
    | some lexeme => ([lexeme], .between)
    | none => ([], .word [c])

/-- The lexemes that `c` completes, and what is then under way. -/
def advance : Mode → Char → Option (List Lexeme × Mode)
  | .between, c => some (start c)
  | .word run, c =>
    if isSpace c || c == '"' || (punctuation? c).isSome then do
      let value ← wordValue? run.reverse
      let (lexemes, mode) := start c
      some (.scalar value :: lexemes, mode)
    else
      some ([], .word (c :: run))
  | .text raw, c =>
    if c = '"' then
      (unescape? raw.reverse).map fun value => ([.scalar value], .between)
    else if c = '\\' then
      some ([], .escape (c :: raw))
    else if c.toNat < 0x20 then
      none
    else
      some ([], .text (c :: raw))
  | .escape raw, c => if c.toNat < 0x20 then none else some ([], .text (c :: raw))

/-- The lexeme that the end of the text completes, if a text may end here. -/
def finish : Mode → Option (List Lexeme)
  | .between => some []
  | .word run => (wordValue? run.reverse).map fun value => [.scalar value]
  | .text _ => none
  | .escape _ => none

/-- The lexemes of `cs`, the scanner being in some mode. -/
def lexemesFrom? (mode : Mode) : List Char → Option (List Lexeme)
  | [] => finish mode
  | c :: rest => do
    let (lexemes, mode) ← advance mode c
    let others ← lexemesFrom? mode rest
    some (lexemes ++ others)

/-- The lexemes of a text. -/
def lexemes? (cs : List Char) : Option (List Lexeme) :=
  lexemesFrom? .between cs

end Sift.Json
