import Sift.Sql.TableQuery

/-!
# Reading names back from a statement

`Dialect.read` reads a text from left to right with the rule for delimited names: a name starts at
a quote, a quote within a name is written twice, and a quote that is not doubled ends the name.  It
knows nothing of how the text was made, and it fails on a name without an end.  The result is a
`Reading`: the names, and the texts around them.

The main lemmas:

* a reading, written again, is the text that was read (`Dialect.text_of_read`);
* the text of a list of pieces reads as its names, with the fixed texts and the placeholders
  between them (`Spaced.read_textFrom`).

The second one holds of every name, but not of every list of pieces.  Two names without a text
between them would run together, and so would a name with a fixed text that starts with a quote.
`Spaced` lists have neither.
-/

namespace Sift.Sql

/-! ## Readings -/

/-- A text with names in it: what comes before the first name, and each name with what comes after
it. -/
structure Reading where
  opening : List Char
  parts : List (List Char × List Char)

namespace Reading

/-- The reading of a text without names. -/
def outside (text : List Char) : Reading :=
  ⟨text, []⟩

/-- The reading with some text put before it. -/
def after (text : List Char) (r : Reading) : Reading :=
  ⟨text ++ r.opening, r.parts⟩

/-- The reading with a name put before it. -/
def afterName (name : List Char) (r : Reading) : Reading :=
  ⟨[], (name, r.opening) :: r.parts⟩

/-- The names from left to right. -/
def names (r : Reading) : List String :=
  r.parts.map fun part => String.ofList part.1

/-- The texts around the names: one before each name, and one after the last. -/
def gaps (r : Reading) : List (List Char) :=
  r.opening :: r.parts.map Prod.snd

/-- The text that a reading is written as. -/
def text (d : Dialect) (r : Reading) : List Char :=
  r.opening ++ r.parts.flatMap fun part => (d.quote (String.ofList part.1)).toList ++ part.2

@[simp] theorem text_outside (d : Dialect) (text : List Char) : (outside text).text d = text := by
  simp [outside, Reading.text]

@[simp] theorem text_after (d : Dialect) (text : List Char) (r : Reading) :
    (r.after text).text d = text ++ r.text d := by
  simp [after, Reading.text]

@[simp] theorem text_afterName (d : Dialect) (name : List Char) (r : Reading) :
    (r.afterName name).text d =
      d.quoteChar :: name.flatMap d.quotedChar ++ d.quoteChar :: r.text d := by
  simp [afterName, Reading.text, Dialect.quote]

end Reading

/-! ## The reader -/

namespace Dialect

mutual

/-- Reads a text that starts outside a name. -/
def readText (d : Dialect) : List Char → Option Reading
  | [] => some (.outside [])
  | c :: rest =>
    if c = d.quoteChar then
      (d.readName rest).map fun (name, r) => r.afterName name
    else
      (d.readText rest).map (·.after [c])

/-- Reads a text that starts within a name: the rest of the name, and what comes after it. -/
def readName (d : Dialect) : List Char → Option (List Char × Reading)
  | [] => none
  | c :: rest =>
    if c = d.quoteChar then
      d.readQuote rest
    else
      (d.readName rest).map fun (name, r) => (c :: name, r)

/-- Reads a text that starts after a quote within a name, which is half of a doubled quote or the
end of the name. -/
def readQuote (d : Dialect) : List Char → Option (List Char × Reading)
  | [] => some ([], .outside [])
  | c :: rest =>
    if c = d.quoteChar then
      (d.readName rest).map fun (name, r) => (c :: name, r)
    else
      (d.readText rest).map fun r => ([], r.after [c])

end

/-- The names in a text and the texts around them, if every name has an end. -/
def read (d : Dialect) (text : String) : Option Reading :=
  d.readText text.toList

variable (d : Dialect)

/-- A quote that is not followed by another one ends the name. -/
theorem readQuote_eq {rest : List Char} (h : rest.head? ≠ some d.quoteChar) :
    d.readQuote rest = (d.readText rest).map fun r => ([], r) := by
  cases rest with
  | nil => rfl
  | cons c rest =>
    have hc : c ≠ d.quoteChar := by simpa using h
    rw [readQuote, readText, if_neg hc, if_neg hc, Option.map_map]
    rfl

/-- A quoted name reads as the name, whatever characters it is made of. -/
theorem readName_quoted (name rest : List Char) :
    d.readName (name.flatMap d.quotedChar ++ d.quoteChar :: rest) =
      (d.readQuote rest).map fun (tail, r) => (name ++ tail, r) := by
  induction name with
  | nil => simp [readName]
  | cons c name ih =>
    -- a quote is doubled, so the reader leaves the name and comes back to it
    by_cases hc : c = d.quoteChar
    · simp [quotedChar, readName, readQuote, hc, ih, Function.comp_def]
    · simp [quotedChar, readName, hc, ih, Function.comp_def]

/-- A quoted name before a text that does not start with a quote. -/
theorem readText_quote (name : String) {rest : List Char} (h : rest.head? ≠ some d.quoteChar) :
    d.readText ((d.quote name).toList ++ rest) =
      (d.readText rest).map (·.afterName name.toList) := by
  simp [quote, readText, readName_quoted, readQuote_eq d h, Function.comp_def]

/-- Text without a quote reads as itself. -/
theorem readText_append {text : List Char} (h : ∀ c ∈ text, c ≠ d.quoteChar) (rest : List Char) :
    d.readText (text ++ rest) = (d.readText rest).map (·.after text) := by
  induction text with
  | nil => simp [Reading.after]
  | cons c text ih =>
    rw [List.cons_append, readText, if_neg (h c (by simp)), ih fun c hc => h c (by simp [hc]),
      Option.map_map]
    rfl

/-- Readings of each of the three kinds give back the text that was read.  The three states call
each other, so the induction on the text is on all of them at once. -/
theorem text_of_readText (text : List Char) :
    (∀ r, d.readText text = some r → r.text d = text) ∧
    (∀ name r, d.readName text = some (name, r) →
      name.flatMap d.quotedChar ++ d.quoteChar :: r.text d = text) ∧
    (∀ name r, d.readQuote text = some (name, r) →
      name.flatMap d.quotedChar ++ d.quoteChar :: r.text d = d.quoteChar :: text) := by
  induction text with
  | nil => simp [readText, readName, readQuote]
  | cons c text ih =>
    obtain ⟨htext, hname, hquote⟩ := ih
    refine ⟨?_, ?_, ?_⟩
    · intro r hr
      rw [readText] at hr
      split at hr
      case isTrue hc =>
        obtain ⟨⟨name, r'⟩, hread, rfl⟩ := Option.map_eq_some_iff.mp hr
        simp [hname name r' hread, hc]
      case isFalse hc =>
        obtain ⟨r', hread, rfl⟩ := Option.map_eq_some_iff.mp hr
        simp [htext r' hread]
    · intro name r hr
      rw [readName] at hr
      split at hr
      case isTrue hc => simp [hquote name r hr, hc]
      case isFalse hc =>
        obtain ⟨⟨name', _⟩, hread, heq⟩ := Option.map_eq_some_iff.mp hr
        cases heq
        simp [quotedChar, hc, hname name' r hread]
    · intro name r hr
      rw [readQuote] at hr
      split at hr
      case isTrue hc =>
        obtain ⟨⟨name', _⟩, hread, heq⟩ := Option.map_eq_some_iff.mp hr
        cases heq
        simp [quotedChar, hc, hname name' r hread]
      case isFalse hc =>
        obtain ⟨r', hread, heq⟩ := Option.map_eq_some_iff.mp hr
        cases heq
        simp [htext r' hread]

/-- A reading, written again, is the text that was read. -/
theorem text_of_read {text : String} {r : Reading} (h : d.read text = some r) :
    r.text d = text.toList :=
  (text_of_readText d text.toList).1 r h

end Dialect

/-! ## Spaced pieces -/

/-- Whether a character can mean nothing but itself: it is neither a quote nor part of a
placeholder, in any dialect. -/
def isPlainChar (c : Char) : Bool :=
  c != '"' && c != '\x60' && c != '$' && c != '?' && !c.isDigit

/-- Whether a fixed text is of plain characters, with one at least. -/
def isPlain (text : String) : Bool :=
  text != "" && text.toList.all isPlainChar

theorem isPlainChar_of_mem {text : String} (h : isPlain text) :
    ∀ c ∈ text.toList, isPlainChar c := by
  simp only [isPlain, Bool.and_eq_true, List.all_eq_true] at h
  exact h.2

/-- What starts with a plain text starts with a plain character. -/
theorem exists_head?_append {text : String} (h : isPlain text) (rest : List Char) :
    ∃ c, (text.toList ++ rest).head? = some c ∧ isPlainChar c := by
  have hne : text.toList ≠ [] := by
    simp only [isPlain, Bool.and_eq_true, bne_iff_ne] at h
    simpa using h.1
  obtain ⟨c, tail, hcons⟩ := List.exists_cons_of_ne_nil hne
  exact ⟨c, by simp [hcons], isPlainChar_of_mem h c (by simp [hcons])⟩

/-- Lists of pieces with plain fixed texts, one of which follows each name but a last one. -/
inductive Spaced : List Piece → Prop
  | nil : Spaced []
  | fixed {text : String} {rest : List Piece} (hplain : isPlain text) (h : Spaced rest) :
    Spaced (.fixed text :: rest)
  | parameter (value : Literal) {rest : List Piece} (h : Spaced rest) :
    Spaced (.parameter value :: rest)
  | last (name : String) : Spaced [.name name]
  | name (name : String) {text : String} {rest : List Piece} (hplain : isPlain text)
    (h : Spaced rest) : Spaced (.name name :: .fixed text :: rest)

namespace Spaced

variable {d : Dialect} {pieces rest : List Piece} {text : String}

/-- A plain text between two spaced lists keeps them apart. -/
theorem join (hpieces : Spaced pieces) (hplain : isPlain text) (hrest : Spaced rest) :
    Spaced (pieces ++ .fixed text :: rest) := by
  induction hpieces with
  | nil => exact .fixed hplain hrest
  | fixed hplain' _ ih => exact .fixed hplain' ih
  | parameter value _ ih => exact .parameter value ih
  -- only here does the text between the lists keep a name apart from what follows
  | last name => exact .name name hplain hrest
  | name name hplain' _ ih => exact .name name hplain' ih

theorem close (hpieces : Spaced pieces) (hplain : isPlain text) :
    Spaced (pieces ++ [.fixed text]) :=
  hpieces.join hplain .nil

end Spaced

/-! ## Reading pieces -/

/-- The reading that a list of pieces is meant to have, if `index` values came before. -/
def Reading.ofPieces (d : Dialect) (index : Nat) : List Piece → Reading
  | [] => .outside []
  | .fixed text :: rest => (ofPieces d index rest).after text.toList
  | .name name :: rest => (ofPieces d index rest).afterName name.toList
  | .parameter _ :: rest => (ofPieces d (index + 1) rest).after (d.placeholder index).toList

/-- The name that a piece is, if it is one. -/
def Piece.name? : Piece → Option String
  | .name text => some text
  | _ => none

/-- The names that are read are those among the pieces. -/
theorem Reading.names_ofPieces (d : Dialect) (index : Nat) (pieces : List Piece) :
    (ofPieces d index pieces).names = pieces.filterMap Piece.name? := by
  induction pieces generalizing index with
  | nil => rfl
  | cons piece rest ih =>
    cases piece with
    | fixed text => exact ih index
    | name name =>
      have hrest := ih index
      simp only [names] at hrest
      simp [ofPieces, names, afterName, Piece.name?, hrest]
    | parameter value => exact ih (index + 1)

theorem ne_quoteChar_of_isPlainChar (d : Dialect) {c : Char} (h : isPlainChar c) :
    c ≠ d.quoteChar := by
  rintro rfl
  cases d <;> exact absurd h (by decide)

theorem ne_quoteChar_of_mem_placeholder (d : Dialect) (index : Nat) :
    ∀ c ∈ (d.placeholder index).toList, c ≠ d.quoteChar := by
  intro c hc
  cases d with
  | mysql =>
    have hmark : c = '?' := by simpa [Dialect.placeholder] using hc
    rw [hmark]
    decide
  | postgres =>
    rcases (by simpa [Dialect.placeholder] using hc : c = '$' ∨ c ∈ (index + 1).repr.toList) with
      rfl | hdigit
    · decide
    · rw [Nat.toList_repr] at hdigit
      rintro rfl
      exact absurd (Nat.isDigit_of_mem_toDigits (by decide) (by decide) hdigit) (by decide)

/-- The text of spaced pieces reads as their names with the rest in between. -/
theorem Spaced.read_textFrom {pieces : List Piece} (h : Spaced pieces) (d : Dialect)
    (index : Nat) :
    d.read (Statement.textFrom d index pieces) = some (.ofPieces d index pieces) := by
  have hquote : ∀ {text : String}, isPlain text → ∀ c ∈ text.toList, c ≠ d.quoteChar :=
    fun hplain c hc => ne_quoteChar_of_isPlainChar d (isPlainChar_of_mem hplain c hc)
  simp only [Dialect.read]
  induction h generalizing index with
  | nil => rfl
  | fixed hplain _ ih =>
    simp only [Statement.textFrom, String.toList_append, Reading.ofPieces]
    rw [d.readText_append (hquote hplain), ih]
    rfl
  | parameter value _ ih =>
    simp only [Statement.textFrom, String.toList_append, Reading.ofPieces]
    rw [d.readText_append (ne_quoteChar_of_mem_placeholder d index), ih]
    rfl
  | last name =>
    simp only [Statement.textFrom, String.toList_append, Reading.ofPieces]
    rw [d.readText_quote name (by simp)]
    rfl
  | name name hplain _ ih =>
    simp only [Statement.textFrom, String.toList_append, Reading.ofPieces]
    -- the fixed text after the name has a first character, and that one is no quote
    obtain ⟨c, hhead, hc⟩ := exists_head?_append hplain _
    have hnoquote := ne_quoteChar_of_isPlainChar d hc
    rw [d.readText_quote name (by rw [hhead]; simpa using hnoquote),
      d.readText_append (hquote hplain), ih]
    rfl

end Sift.Sql
