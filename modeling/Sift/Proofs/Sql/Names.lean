import Sift.Proofs.Sql.Pieces

/-!
# Names in a statement

No name of a query can get out of its quotes, whatever characters it is made of.  Read back, the
statement has the names of the query and no others, in the order of the query's parts, and the
text around them is the same for every query with the same outline.

The outline of a query is what is left of it when names and values do not count: which clauses it
has, how its predicates are built, and how many parts each name has.
-/

namespace Sift

namespace Sql

/-! ## Outlines -/

/-- A column whose name has as many parts. -/
def outlineColumn (column : String) : String :=
  match (Identifier.parse column).qualifier with
  | some _ => "t.c"
  | none => "c"

/-- A selection without its names. -/
def Selection.outline : Selection → Selection
  | .all => .all
  | .columns names => .columns (names.map outlineColumn)

/-- A source without its names. -/
def Source.outline (source : Source) : Source :=
  ⟨⟨source.table.schema.map fun _ => "s", "t"⟩, source.asName.map fun _ => "a"⟩

end Sql

/-- A predicate without its names and values. -/
def Predicate.outline : Predicate → Predicate
  | .comparison column op _ => .comparison (Sql.outlineColumn column) op (.text "")
  | .like column _ negated => .like (Sql.outlineColumn column) "" negated
  | .null column negated => .null (Sql.outlineColumn column) negated
  | .member column _ => .member (Sql.outlineColumn column) (.text "")
  | .connect c left right => .connect c left.outline right.outline

/-- A sort key without its name. -/
def OrderEntry.outline (entry : OrderEntry) : OrderEntry :=
  ⟨Sql.outlineColumn entry.column, entry.direction⟩

namespace Sql

/-- A query without its names and values. -/
def TableQuery.outline (q : TableQuery) : TableQuery :=
  ⟨q.source.outline, q.selection.outline, q.predicates.map Predicate.outline,
    q.order.map OrderEntry.outline, q.offset.map fun _ => 0, q.limit.map fun _ => 0⟩

/-- A piece without its name or value. -/
def Piece.outline : Piece → Piece
  | .fixed text => .fixed text
  | .name _ => .name ""
  | .parameter _ => .parameter (.text "")

/-! ## The text around the names -/

/-- The text around the names of a list of pieces depends on the outline of the pieces. -/
theorem Reading.gaps_ofPieces_outline (d : Dialect) (index : Nat) (pieces : List Piece) :
    (ofPieces d index (pieces.map Piece.outline)).gaps = (ofPieces d index pieces).gaps := by
  induction pieces generalizing index with
  | nil => rfl
  | cons piece pieces ih =>
    rw [List.map_cons]
    cases piece with
    | fixed text =>
      have hrest := ih index
      simp only [gaps, List.cons.injEq] at hrest
      simp only [Piece.outline, ofPieces, gaps, after, hrest]
    | name text =>
      have hrest := ih index
      simp only [gaps] at hrest
      simp only [Piece.outline, ofPieces, gaps, afterName, List.map_cons, hrest]
    | parameter value =>
      have hrest := ih (index + 1)
      simp only [gaps, List.cons.injEq] at hrest
      simp only [Piece.outline, ofPieces, gaps, after, hrest]

theorem map_outline_separated (separator : String) (lists : List (List Piece)) :
    (separated separator lists).map Piece.outline =
      separated separator (lists.map (List.map Piece.outline)) := by
  fun_induction separated separator lists with
  | case1 => rfl
  | case2 pieces => rfl
  | case3 pieces rest hrest ih =>
    obtain ⟨next, rest', rfl⟩ := List.exists_cons_of_ne_nil (by simpa using hrest)
    rw [List.map_append, List.map_cons, ih]
    rfl

theorem map_outline_clause (keyword : String) (body : Option (List Piece)) :
    (clause keyword body).map Piece.outline = clause keyword (body.map (List.map Piece.outline)) := by
  cases body <;> rfl

variable (d : Dialect)

/-- The outline of the pieces of an expression. -/
def Expr.shape (e : Expr) : List Piece :=
  (e.pieces d).map Piece.outline

/-- A column has the shape of its outline. -/
theorem Expr.shape_column (column : String) :
    (Expr.column (outlineColumn column)).shape d = (Expr.column column).shape d := by
  have hqualified : Identifier.parse "t.c" = ⟨some "t", "c"⟩ := by decide
  have hplain : Identifier.parse "c" = ⟨none, "c"⟩ := by decide
  simp only [shape, Expr.column, Expr.pieces, outlineColumn]
  cases (Identifier.parse column).qualifier with
  | none => rw [hplain]; rfl
  | some qualifier => rw [hqualified]; rfl

/-- A predicate has the shape of its outline. -/
theorem Expr.shape_ofPredicate (p : Predicate) :
    (Expr.ofPredicate p.outline).shape d = (Expr.ofPredicate p).shape d := by
  have hcolumn : ∀ column, ((Expr.column (outlineColumn column)).pieces d).map Piece.outline =
      ((Expr.column column).pieces d).map Piece.outline := Expr.shape_column d
  induction p with
  | comparison column op value =>
    simp [Predicate.outline, Expr.ofPredicate, shape, Expr.pieces, hcolumn, Piece.outline]
  | like column pattern negated =>
    simp [Predicate.outline, Expr.ofPredicate, shape, Expr.pieces, argumentPieces, separated,
      hcolumn, Piece.outline]
  | null column negated =>
    simp [Predicate.outline, Expr.ofPredicate, shape, Expr.pieces, hcolumn]
  | member column value =>
    simp [Predicate.outline, Expr.ofPredicate, shape, Expr.pieces, hcolumn, Piece.outline]
  | connect c left right ihl ihr =>
    simp only [shape] at ihl ihr
    simp [Predicate.outline, Expr.ofPredicate, shape, Expr.pieces, ihl, ihr]

/-- Conditions of conjuncts with the same shapes have the same shape. -/
theorem shape_foldl_conjoin (predicates : List Predicate) {condition condition' : Option Expr}
    (h : condition'.map (Expr.shape d) = condition.map (Expr.shape d)) :
    (((predicates.map Predicate.outline).map Expr.ofPredicate).foldl conjoin condition').map
        (Expr.shape d) =
      ((predicates.map Expr.ofPredicate).foldl conjoin condition).map (Expr.shape d) := by
  induction predicates generalizing condition condition' with
  | nil => exact h
  | cons p predicates ih =>
    have hp := Expr.shape_ofPredicate d p
    refine ih ?_
    cases condition with
    | none =>
      obtain rfl : condition' = none := by simpa using h
      simpa [conjoin] using hp
    | some earlier =>
      obtain ⟨earlier', rfl, hearlier⟩ : ∃ e, condition' = some e ∧ e.shape d = earlier.shape d := by
        simpa using h
      simp only [Expr.shape] at hp hearlier
      simp [conjoin, Expr.both, Expr.shape, Expr.pieces, hp, hearlier]

/-- A source has the shape of its outline. -/
theorem Source.map_outline_pieces (source : Source) :
    source.outline.pieces.map Piece.outline = source.pieces.map Piece.outline := by
  obtain ⟨⟨schema, table⟩, asName⟩ := source
  cases schema <;> cases asName <;> rfl

/-- A selection has the shape of its outline. -/
theorem Selection.map_shape_outline (selection : Selection) :
    selection.outline.exprs.map (Expr.shape d) = selection.exprs.map (Expr.shape d) := by
  cases selection with
  | all => rfl
  | columns names =>
    simp only [outline, exprs, List.map_map]
    exact List.map_congr_left fun column _ => Expr.shape_column d column

namespace TableQuery

/-- The sort keys of a query have the shape of their outlines. -/
theorem map_outline_orderPieces (q : TableQuery) :
    (q.outline.orderPieces d).map (List.map Piece.outline) =
      (q.orderPieces d).map (List.map Piece.outline) := by
  have hentry : ∀ entry : OrderEntry,
      (SortTerm.pieces d ⟨.column entry.outline.column, some entry.outline.direction⟩).map
          Piece.outline =
        (SortTerm.pieces d ⟨.column entry.column, some entry.direction⟩).map Piece.outline := by
    intro entry
    have hcolumn := Expr.shape_column d entry.column
    simp only [Expr.shape] at hcolumn
    simp [SortTerm.pieces, OrderEntry.outline, hcolumn]
  simp only [orderPieces, outline, List.isEmpty_map]
  cases hempty : q.order.isEmpty with
  | true => rfl
  | false => simp [map_outline_separated, hentry, Function.comp_def]

/-- The pieces of a query's statement have the same shape as those of its outline. -/
theorem map_outline_pieces (q : TableQuery) :
    (q.outline.select.pieces d).map Piece.outline = (q.select.pieces d).map Piece.outline := by
  have hselection : (q.outline.selection.exprs.map (Expr.pieces d)).map (List.map Piece.outline) =
      (q.selection.exprs.map (Expr.pieces d)).map (List.map Piece.outline) := by
    rw [List.map_map, List.map_map]
    exact q.selection.map_shape_outline d
  have hsource : q.outline.source.pieces.map Piece.outline = q.source.pieces.map Piece.outline :=
    q.source.map_outline_pieces
  have hcondition : (q.outline.condition.map (Expr.pieces d)).map (List.map Piece.outline) =
      (q.condition.map (Expr.pieces d)).map (List.map Piece.outline) := by
    rw [Option.map_map, Option.map_map]
    exact shape_foldl_conjoin d q.predicates rfl
  have hnumber : ∀ n : Option UInt64,
      ((n.map fun _ => (0 : UInt64)).map rowNumberPieces).map (List.map Piece.outline) =
        (n.map rowNumberPieces).map (List.map Piece.outline) := by
    intro n
    cases n <;> rfl
  rw [pieces_select, pieces_select]
  simp only [List.map_append, List.map_cons, map_outline_clause, map_outline_separated,
    Option.map_some, hselection, hsource, hcondition, q.map_outline_orderPieces d]
  rw [outline, hnumber, hnumber]

end TableQuery

/-! ## The names -/

theorem filterMap_name?_names (names : List String) :
    (names.map Piece.name).filterMap Piece.name? = names := by
  simp [List.filterMap_map, Function.comp_def, Piece.name?]

/-- The names in a predicate are the parts of its columns. -/
theorem filterMap_name?_predicate (p : Predicate) :
    p.content.filterMap Piece.name? = columnParts p.columns := by
  induction p with
  | comparison column op value | like column pattern negated =>
    rw [Predicate.content, List.filterMap_append, filterMap_name?_names]
    exact List.append_nil _
  | null column negated => exact filterMap_name?_names _
  | member column value => exact filterMap_name?_names _
  | connect c left right ihl ihr =>
    simp [Predicate.content, ihl, ihr, columnParts, Predicate.columns]

namespace TableQuery

/-- The names in a query: those of the columns that it selects, of its source, of the columns of
its predicates and of its sort keys. -/
def names (q : TableQuery) : List String :=
  q.selection.names ++ q.source.names ++
    q.predicates.flatMap (fun p => columnParts p.columns) ++
    columnParts (q.order.map OrderEntry.column)

/-- The names among the pieces of a query's statement are those of the query. -/
theorem filterMap_name?_pieces (q : TableQuery) :
    (q.select.pieces d).filterMap Piece.name? = q.names := by
  rw [← filterMap_content fun _ => rfl, content_pieces, content]
  simp only [List.filterMap_append, List.filterMap_flatMap, filterMap_name?_names,
    filterMap_name?_predicate, names]
  simp [List.filterMap_map, Function.comp_def, Piece.name?]

/-- The statement of a query in either dialect can be read back, whatever its names are.  The
reading takes the whole text apart into the names of the query, in their order, and the texts
around them.  Those texts are the same for every query with the same outline. -/
theorem names_stay_in_quotes (q : TableQuery) :
    ∃ r, d.read (q.statement d).sql = some r ∧ r.text d = (q.statement d).sql.toList ∧
      r.names = q.names ∧
      ∀ q' : TableQuery, q'.outline = q.outline →
        ∃ r', d.read (q'.statement d).sql = some r' ∧ r'.gaps = r.gaps := by
  have hread : ∀ q : TableQuery,
      d.read (q.statement d).sql = some (.ofPieces d 0 (q.select.pieces d)) :=
    fun q => (spaced_pieces d q).read_textFrom d 0
  refine ⟨_, hread q, d.text_of_read (hread q), ?_, ?_⟩
  · rw [Reading.names_ofPieces, filterMap_name?_pieces]
  · intro q' houtline
    refine ⟨_, hread q', ?_⟩
    calc (Reading.ofPieces d 0 (q'.select.pieces d)).gaps
        = (Reading.ofPieces d 0 ((q'.outline.select.pieces d).map Piece.outline)).gaps := by
          rw [map_outline_pieces, Reading.gaps_ofPieces_outline]
      _ = (Reading.ofPieces d 0 ((q.outline.select.pieces d).map Piece.outline)).gaps := by
          rw [houtline]
      _ = (Reading.ofPieces d 0 (q.select.pieces d)).gaps := by
          rw [map_outline_pieces, Reading.gaps_ofPieces_outline]

/-- Names with quotes, dots, placeholders and SQL text in them, next to a query with plain names. -/
theorem names_stay_in_quotes_hostile :
    let hostile : TableQuery :=
      ⟨⟨⟨none, "users\" WHERE $1 = ?; --"⟩, some "\""⟩, .columns ["u.\"\"", "id"],
        [.connect .or (.like "\".\"" "%a%" false) (.comparison "$2" .eq (.text "x"))],
        [⟨"\" DESC, \"", .asc⟩], none, some 5⟩
    let plain : TableQuery :=
      ⟨⟨⟨none, "users"⟩, some "u"⟩, .columns ["u.tags", "id"],
        [.connect .or (.like "u.name" "%b%" false) (.comparison "id" .eq (.text "y"))],
        [⟨"id", .asc⟩], none, some 9⟩
    plain.outline = hostile.outline ∧
      ∃ r, Dialect.postgres.read (hostile.statement .postgres).sql = some r ∧
        r.names = ["u", "\"\"", "id", "users\" WHERE $1 = ?; --", "\"", "\"", "\"", "$2",
          "\" DESC, \""] ∧
        ∃ r', Dialect.postgres.read (plain.statement .postgres).sql = some r' ∧
          r'.gaps = r.gaps := by
  intro hostile plain
  have houtline : plain.outline = hostile.outline := rfl
  obtain ⟨r, hread, -, hnames, hsame⟩ := names_stay_in_quotes .postgres hostile
  exact ⟨houtline, r, hread, hnames.trans (by decide), hsame plain houtline⟩

end TableQuery

end Sql

end Sift
