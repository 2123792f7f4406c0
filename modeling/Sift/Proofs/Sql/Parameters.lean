import Sift.Proofs.Backend.Calls
import Sift.Proofs.Sql.Pieces

/-!
# Parameters and their placeholders

A statement has one placeholder for each of its parameters, numbered from left to right where the
dialect numbers them, and the parameters are the literals of the query in the order in which they
are written.  Placeholders are looked for in the text outside names only: a name may hold
characters that look like one.

`Reading.placeholders` finds them in a text that was read back, without any knowledge of the pieces
that the text was made of.  `Spaced.placeholders_ofPieces` says that it finds those of the pieces.
-/

namespace Sift

/-- The literals of a predicate from left to right.  A pattern is a text. -/
def Predicate.literals : Predicate → List Literal
  | .comparison _ _ value => [value]
  | .like _ pattern _ => [.text pattern]
  | .null _ _ => []
  | .member _ value => [value]
  | .connect _ left right => left.literals ++ right.literals

namespace Sql

/-! ## Looking for placeholders -/

namespace Dialect

/-- The character that a placeholder starts with. -/
def placeholderChar : Dialect → Char
  | .postgres => '$'
  | .mysql => '?'

/-- What belongs to a placeholder after its first character: a number, if the dialect has one. -/
def placeholderTail : Dialect → List Char → List Char
  | .postgres, rest => rest.takeWhile Char.isDigit
  | .mysql, _ => []

/-- The placeholders in a text from left to right. -/
def placeholders (d : Dialect) : List Char → List String
  | [] => []
  | c :: rest =>
    if c = d.placeholderChar then
      String.ofList (c :: d.placeholderTail rest) :: d.placeholders rest
    else
      d.placeholders rest

variable (d : Dialect)

/-- There is no placeholder where its first character does not occur. -/
theorem placeholders_append {text : List Char} (h : ∀ c ∈ text, c ≠ d.placeholderChar)
    (rest : List Char) : d.placeholders (text ++ rest) = d.placeholders rest := by
  induction text with
  | nil => rfl
  | cons c text ih =>
    rw [List.cons_append, placeholders, if_neg (h c (by simp)), ih fun c hc => h c (by simp [hc])]

/-- A placeholder is found whole if no digit follows it. -/
theorem placeholders_placeholder (index : Nat) {rest : List Char}
    (h : ∀ c ∈ rest.head?, ¬c.isDigit) :
    d.placeholders ((d.placeholder index).toList ++ rest) =
      d.placeholder index :: d.placeholders rest := by
  cases d with
  | mysql => simp [placeholder, placeholders, placeholderChar, placeholderTail]
  | postgres =>
    have hdigits : ∀ c ∈ (index + 1).repr.toList, c.isDigit := by
      rw [Nat.toList_repr]
      exact fun c hc => Nat.isDigit_of_mem_toDigits (by decide) (by decide) hc
    have hstop : rest.takeWhile Char.isDigit = [] := by
      cases rest with
      | nil => rfl
      | cons c rest => exact List.takeWhile_cons_of_neg (h c rfl)
    have hnumber : ((index + 1).repr.toList ++ rest).takeWhile Char.isDigit =
        (index + 1).repr.toList := by
      rw [List.takeWhile_append_of_pos hdigits, hstop, List.append_nil]
    have hnone : ∀ c ∈ (index + 1).repr.toList, c ≠ Dialect.postgres.placeholderChar := by
      rintro c hc rfl
      exact absurd (hdigits _ hc) (by decide)
    have htext : (postgres.placeholder index).toList =
        postgres.placeholderChar :: (index + 1).repr.toList := by
      simp [placeholder, placeholderChar]
    rw [htext, List.cons_append, placeholders, if_pos rfl, placeholderTail, hnumber, ← htext,
      String.ofList_toList, placeholders_append _ hnone]

end Dialect

/-- The placeholders in the texts around the names of a reading. -/
def Reading.placeholders (d : Dialect) (r : Reading) : List String :=
  r.gaps.flatMap d.placeholders

/-! ## The placeholders of pieces -/

theorem ne_placeholderChar_of_isPlainChar (d : Dialect) {c : Char} (h : isPlainChar c) :
    c ≠ d.placeholderChar := by
  rintro rfl
  cases d <;> exact absurd h (by decide)

theorem not_isDigit_of_isPlainChar {c : Char} (h : isPlainChar c) : ¬c.isDigit := by
  simp only [isPlainChar, Bool.and_eq_true, Bool.not_eq_true'] at h
  simp [h.2]

theorem Reading.placeholders_after_plain (d : Dialect) {text : String} (hplain : isPlain text)
    (r : Reading) : (r.after text.toList).placeholders d = r.placeholders d := by
  simp only [Reading.placeholders, gaps, after, List.flatMap_cons]
  rw [d.placeholders_append fun c hc =>
    ne_placeholderChar_of_isPlainChar d (isPlainChar_of_mem hplain c hc)]

theorem Reading.placeholders_afterName (d : Dialect) (name : List Char) (r : Reading) :
    (r.afterName name).placeholders d = r.placeholders d := rfl

namespace Spaced

variable {pieces : List Piece}

/-- The reading of spaced pieces does not start with a digit. -/
theorem not_isDigit_opening (h : Spaced pieces) (d : Dialect) (index : Nat) :
    ∀ c ∈ (Reading.ofPieces d index pieces).opening.head?, ¬c.isDigit := by
  intro c hc
  cases h with
  | nil => cases hc
  | @fixed text rest hplain _ =>
    obtain ⟨first, hfirst, hplainfirst⟩ :=
      exists_head?_append hplain (Reading.ofPieces d index rest).opening
    obtain rfl : c = first := Option.some.inj (hc.symm.trans hfirst)
    exact not_isDigit_of_isPlainChar hplainfirst
  | @parameter value rest _ =>
    have hmark : c = d.placeholderChar := by
      cases d <;>
        simpa [Reading.ofPieces, Reading.after, Dialect.placeholder, Dialect.placeholderChar,
          eq_comm] using hc
    rw [hmark]
    cases d <;> decide
  | last name => cases hc
  | name name _ _ => cases hc

/-- The reading of spaced pieces has their placeholders. -/
theorem placeholders_ofPieces (h : Spaced pieces) (d : Dialect) (index : Nat) :
    (Reading.ofPieces d index pieces).placeholders d =
      (List.range' index (pieces.filterMap Statement.parameter?).length).map d.placeholder := by
  induction h generalizing index with
  | nil => rfl
  | fixed hplain _ ih =>
    rw [Reading.ofPieces, Reading.placeholders_after_plain d hplain, ih]
    rfl
  | @parameter value rest hrest ih =>
    -- what follows starts with no digit, so the number of this placeholder ends where it should
    have hrest' := ih (index + 1)
    simp only [Reading.placeholders, Reading.gaps, List.flatMap_cons] at hrest'
    simp only [Reading.ofPieces, Reading.placeholders, Reading.gaps, Reading.after,
      List.flatMap_cons]
    rw [d.placeholders_placeholder index (hrest.not_isDigit_opening d (index + 1)),
      List.cons_append, hrest']
    rfl
  | last name => rfl
  | name name hplain _ ih =>
    rw [Reading.ofPieces, Reading.placeholders_afterName, Reading.ofPieces,
      Reading.placeholders_after_plain d hplain, ih]
    rfl

end Spaced

/-! ## The parameters of a query -/

/-- The values in a predicate are its literals. -/
theorem filterMap_content_predicate (p : Predicate) :
    p.content.filterMap Statement.parameter? = p.literals := by
  induction p with
  | connect c left right ihl ihr =>
    rw [Predicate.content, List.filterMap_append, ihl, ihr, Predicate.literals]
  | _ => simp [Predicate.content, Predicate.literals, List.filterMap_map, Statement.parameter?]

namespace TableQuery

/-- The parameters of a statement for the rows. -/
theorem parameters_statement (q : TableQuery) (d : Dialect) :
    (q.statement d).parameters =
      q.predicates.flatMap Predicate.literals ++
        (q.limit.toList ++ q.offset.toList).map fun n => .number (Decimal.ofInt n.toNat) := by
  have hnames : ∀ names : List String,
      (names.map Piece.name).filterMap Statement.parameter? = [] := by
    intro names
    simp [List.filterMap_map, Statement.parameter?]
  rw [statement, Select.statement, Statement.ofPieces, ← filterMap_content fun _ => rfl,
    content_pieces, content]
  simp only [List.filterMap_append, List.filterMap_flatMap, hnames, filterMap_content_predicate,
    List.nil_append, List.append_nil]
  simp [List.filterMap_map, Function.comp_def, Statement.parameter?]

/-- Whatever is called on a query over a table, in whatever order, and in either dialect, the text
of its statement can be read back.  Around the names it has as many placeholders as the statement
has parameters, numbered from left to right if the dialect numbers them.  The parameters are the
literals of the predicates in the order of the calls, then the last limit and the last offset. -/
theorem placeholders_match_parameters (source : Source) (selection : Selection)
    (calls : List Call) (d : Dialect) :
    let s := (Backend.run calls (ofSource source selection)).statement d
    (∃ r, d.read s.sql = some r ∧ r.text d = s.sql.toList ∧
      r.placeholders d = (List.range s.parameters.length).map fun index =>
        match d with
        | .postgres => "$" ++ toString (index + 1)
        | .mysql => "?") ∧
    s.parameters =
      (calls.filterMap Call.predicate?).flatMap Predicate.literals ++
        ((calls.filterMap Call.limit?).getLast?.toList ++
          (calls.filterMap Call.offset?).getLast?.toList).map fun n =>
            .number (Decimal.ofInt n.toNat) := by
  intro s
  have hrange : (fun index => match d with
        | .postgres => "$" ++ toString (index + 1)
        | .mysql => "?") = d.placeholder := by
    funext index
    cases d <;> rfl
  have hread := (spaced_pieces d (Backend.run calls (ofSource source selection))).read_textFrom d 0
  refine ⟨⟨_, hread, d.text_of_read hread, ?_⟩, ?_⟩
  · rw [(spaced_pieces d _).placeholders_ofPieces, hrange, List.range_eq_range']
    rfl
  · rw [parameters_statement, run_ofSource]

end TableQuery

end Sql

end Sift
