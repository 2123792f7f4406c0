import Sift.Proofs.Sql.Reading

/-!
# The pieces of a query's statement

What the statement of a `TableQuery` is made of, whatever the query holds.  Its pieces are spaced
(`TableQuery.spaced_pieces`), so its text can be read back.  And its names and values come in the
order of the parts of the query (`TableQuery.content_pieces`): what is selected, the source, the
predicates in the order in which they were applied, the sort keys, the limit and the offset.

The predicates reach the statement through one condition, which grows to the right with each of
them.  `conjoin` is a step of its growth, and statements about the condition are by induction on
these steps.
-/

namespace Sift

namespace Sql

/-! ## The condition of a statement -/

/-- A condition, if there is one, with a further expression. -/
def conjoin (condition : Option Expr) (e : Expr) : Option Expr :=
  some (match condition with
    | some earlier => .both earlier e
    | none => e)

/-- Restricting a statement changes its condition alone. -/
theorem foldl_restrict (exprs : List Expr) (s : Select) :
    exprs.foldl Select.restrict s = { s with condition := exprs.foldl conjoin s.condition } := by
  induction exprs generalizing s with
  | nil => rfl
  | cons e exprs ih => exact ih (s.restrict e)

namespace TableQuery

/-- The condition of a query: the conjunction of its predicates from left to right. -/
def condition (q : TableQuery) : Option Expr :=
  (q.predicates.map Expr.ofPredicate).foldl conjoin none

/-- Apart from what it selects, a statement takes its source and its condition from the query. -/
theorem base_eq (q : TableQuery) (columns : List Expr) :
    q.base columns =
      { Select.ofSource columns q.source with condition := q.condition } :=
  foldl_restrict _ _

/-- The pieces of the sort keys of a query, if there are any. -/
def orderPieces (d : Dialect) (q : TableQuery) : Option (List Piece) :=
  if q.order.isEmpty then none
  else some (separated ", " (q.order.map fun entry =>
    SortTerm.pieces d ⟨.column entry.column, some entry.direction⟩))

/-- The pieces of a row number. -/
def rowNumberPieces (n : UInt64) : List Piece :=
  [.parameter (.number (Decimal.ofInt n.toNat))]

/-- The pieces of the statement for the rows, clause by clause. -/
theorem pieces_select (d : Dialect) (q : TableQuery) :
    q.select.pieces d =
      .fixed "SELECT " :: separated ", " (q.selection.exprs.map (Expr.pieces d)) ++
        clause "FROM" (some q.source.pieces) ++ clause "WHERE" (q.condition.map (Expr.pieces d)) ++
        clause "ORDER BY" (q.orderPieces d) ++
        clause "LIMIT" (q.limit.map rowNumberPieces) ++
        clause "OFFSET" (q.offset.map rowNumberPieces) := by
  have hnumber : Expr.pieces d ∘ rowNumber = rowNumberPieces := by
    funext n
    simp [rowNumber, rowNumberPieces, Expr.pieces]
  simp [select, base_eq, Select.ofSource, Select.pieces, Select.body, Select.tail, orderPieces,
    hnumber, Function.comp_def]

end TableQuery

/-- The parts of an identifier: its qualifier, if it has one, and its name. -/
def Identifier.parts (i : Identifier) : List String :=
  i.qualifier.toList ++ [i.name]

/-- The parts of the names of a list of columns. -/
def columnParts (columns : List String) : List String :=
  columns.flatMap fun column => (Identifier.parse column).parts

/-- The names in a selection. -/
def Selection.names : Selection → List String
  | .all => []
  | .columns names => columnParts names

/-- The names in a source: the schema, the table and the name that it is given, as far as they are
there. -/
def Source.names (source : Source) : List String :=
  source.table.schema.toList ++ source.table.name :: source.asName.toList

/-! ## Spacing -/

/-- The pieces of a name with or without a qualifier are spaced. -/
theorem spaced_qualified (qualifier : Option String) (name : String) :
    Spaced (qualified qualifier name) := by
  cases qualifier with
  | none => exact .last name
  | some qualifier => exact .name qualifier (by decide) (.last name)

theorem isPlain_symbol (op : BinaryOperator) : isPlain (" " ++ op.symbol ++ " ") := by
  cases op with
  | compare op => cases op <;> decide
  | connect c => cases c <;> decide

namespace Spaced

variable {pieces : List Piece}

/-- Spaced lists with a plain separator between them are spaced together. -/
theorem separated {separator : String} (hplain : isPlain separator) {lists : List (List Piece)}
    (h : ∀ pieces ∈ lists, Spaced pieces) : Spaced (separated separator lists) := by
  fun_induction Sql.separated separator lists with
  | case1 => exact .nil
  | case2 pieces => exact h pieces (by simp)
  | case3 pieces rest _ ih =>
    exact (h pieces (by simp)).join hplain (ih fun pieces' hmem => h pieces' (by simp [hmem]))

/-- A clause after spaced pieces. -/
theorem clause (hpieces : Spaced pieces) {keyword : String}
    (hplain : isPlain (" " ++ keyword ++ " ")) {body : Option (List Piece)}
    (h : ∀ pieces ∈ body, Spaced pieces) : Spaced (pieces ++ clause keyword body) := by
  cases body with
  | none => simpa [Sql.clause] using hpieces
  | some body => exact hpieces.join hplain (h body rfl)

/-- Two spaced lists in brackets with a plain text between them. -/
theorem bracketed {left right : List Piece} {sign last : String} (hleft : Spaced left)
    (hsign : isPlain sign) (hright : Spaced right) (hlast : isPlain last) :
    Spaced (.fixed "(" :: left ++ .fixed sign :: right ++ [.fixed last]) :=
  ((Spaced.fixed (by decide) hleft).join hsign hright).close hlast

end Spaced

variable (d : Dialect)

namespace Expr

/-- The pieces of a column are spaced. -/
theorem spaced_column (column : String) : Spaced ((Expr.column column).pieces d) := by
  rw [Expr.column, Expr.pieces]
  exact spaced_qualified _ _

/-- The pieces of a predicate are spaced. -/
theorem spaced_ofPredicate (p : Predicate) : Spaced ((ofPredicate p).pieces d) := by
  induction p with
  | comparison column op value =>
    exact .bracketed (spaced_column d column) (isPlain_symbol _) (.parameter value .nil) (by decide)
  | like column pattern negated =>
    have hlower : Spaced ((call "LOWER" [Expr.column column]).pieces d) :=
      (Spaced.fixed (by decide) (spaced_column d column)).close (by decide)
    exact .bracketed hlower (by cases negated <;> decide) (.parameter (.text pattern) .nil)
      (by decide)
  | null column negated =>
    exact (Spaced.fixed (by decide) (spaced_column d column)).close
      (by cases negated <;> decide)
  | member column value =>
    exact .bracketed (.parameter value .nil) (by cases d <;> decide) (spaced_column d column)
      (by decide)
  | connect c left right ihl ihr => exact .bracketed ihl (isPlain_symbol _) ihr (by decide)

end Expr

/-- The pieces of a condition are spaced if those of its conjuncts are. -/
theorem spaced_foldl_conjoin {exprs : List Expr} (h : ∀ e ∈ exprs, Spaced (e.pieces d))
    {condition : Option Expr} (hcondition : ∀ e ∈ condition, Spaced (e.pieces d)) :
    ∀ e ∈ exprs.foldl conjoin condition, Spaced (e.pieces d) := by
  -- on the conjuncts that are left, for any condition that was made of those before
  induction exprs generalizing condition with
  | nil => exact hcondition
  | cons e exprs ih =>
    refine ih (fun e' hmem => h e' (by simp [hmem])) ?_
    have he := h e (by simp)
    cases condition with
    | none => simpa [conjoin] using he
    | some earlier =>
      have hboth : Spaced ((Expr.both earlier e).pieces d) :=
        .bracketed (hcondition earlier rfl) (isPlain_symbol _) he (by decide)
      simpa [conjoin] using hboth

/-- The pieces of a source are spaced. -/
theorem Source.spaced_pieces (source : Source) : Spaced source.pieces := by
  refine (spaced_qualified _ _).clause (by decide) ?_
  cases source.asName with
  | none => simp
  | some name => simpa using Spaced.last name

/-- The pieces of a sort key are spaced. -/
theorem SortTerm.spaced_pieces (entry : OrderEntry) :
    Spaced (SortTerm.pieces d ⟨.column entry.column, some entry.direction⟩) :=
  (Expr.spaced_column d entry.column).close (by cases entry.direction <;> decide)

namespace TableQuery

/-- The pieces of a selection are spaced. -/
theorem spaced_selection (selection : Selection) :
    Spaced (separated ", " (selection.exprs.map (Expr.pieces d))) := by
  refine Spaced.separated (by decide) ?_
  intro pieces hpieces
  obtain ⟨e, he, rfl⟩ := List.mem_map.mp hpieces
  cases selection with
  | all =>
    obtain rfl : e = .wildcard := by simpa [Selection.exprs] using he
    exact .fixed (by decide) .nil
  | columns names =>
    obtain ⟨name, -, rfl⟩ := List.mem_map.mp he
    exact Expr.spaced_column d name

/-- The pieces of the statement for the rows are spaced. -/
theorem spaced_pieces (q : TableQuery) : Spaced (q.select.pieces d) := by
  have hcondition : ∀ pieces ∈ q.condition.map (Expr.pieces d), Spaced pieces := by
    intro pieces hpieces
    obtain ⟨e, he, rfl⟩ := Option.map_eq_some_iff.mp hpieces
    refine spaced_foldl_conjoin d ?_ (by simp) e he
    intro e he
    obtain ⟨p, -, rfl⟩ := List.mem_map.mp he
    exact Expr.spaced_ofPredicate d p
  have horder : ∀ pieces ∈ q.orderPieces d, Spaced pieces := by
    intro pieces hpieces
    obtain ⟨-, rfl⟩ : q.order ≠ [] ∧ _ = pieces := by simpa [orderPieces] using hpieces
    refine .separated (by decide) ?_
    intro pieces hpieces
    obtain ⟨entry, -, rfl⟩ := List.mem_map.mp hpieces
    exact SortTerm.spaced_pieces d entry
  have hnumber : ∀ (n : Option UInt64), ∀ pieces ∈ n.map rowNumberPieces, Spaced pieces := by
    intro n pieces hpieces
    obtain ⟨n, -, rfl⟩ := Option.map_eq_some_iff.mp hpieces
    exact .parameter _ .nil
  rw [pieces_select]
  refine Spaced.clause ?_ (by decide) (hnumber q.offset)
  refine Spaced.clause ?_ (by decide) (hnumber q.limit)
  refine Spaced.clause ?_ (by decide) horder
  refine Spaced.clause ?_ (by decide) hcondition
  refine Spaced.clause ?_ (by decide) (by simpa using q.source.spaced_pieces)
  exact .fixed (by decide) (spaced_selection d q.selection)

end TableQuery

/-! ## Content -/

/-- Whether a piece is fixed text. -/
def Piece.isFixed : Piece → Bool
  | .fixed _ => true
  | _ => false

/-- The names and the values among the pieces. -/
def content (pieces : List Piece) : List Piece :=
  pieces.filter fun piece => !piece.isFixed

@[simp] theorem content_nil : content [] = [] := rfl

@[simp] theorem content_fixed (text : String) (rest : List Piece) :
    content (.fixed text :: rest) = content rest := rfl

@[simp] theorem content_name (name : String) (rest : List Piece) :
    content (.name name :: rest) = .name name :: content rest := rfl

@[simp] theorem content_parameter (value : Literal) (rest : List Piece) :
    content (.parameter value :: rest) = .parameter value :: content rest := rfl

@[simp] theorem content_append (pieces rest : List Piece) :
    content (pieces ++ rest) = content pieces ++ content rest :=
  List.filter_append ..

/-- What is picked out of the pieces is picked out of their content, if it is no fixed text. -/
theorem filterMap_content {α : Type} {f : Piece → Option α} (hf : ∀ text, f (.fixed text) = none)
    (pieces : List Piece) : (content pieces).filterMap f = pieces.filterMap f := by
  induction pieces with
  | nil => rfl
  | cons piece pieces ih =>
    cases piece with
    | fixed text => rw [content_fixed, ih, List.filterMap_cons_none (hf text)]
    | name name => rw [content_name, List.filterMap_cons, List.filterMap_cons, ih]
    | parameter value => rw [content_parameter, List.filterMap_cons, List.filterMap_cons, ih]

@[simp] theorem content_separated (separator : String) (lists : List (List Piece)) :
    content (separated separator lists) = lists.flatMap content := by
  fun_induction separated separator lists with
  | case1 => rfl
  | case2 pieces => simp
  | case3 pieces rest _ ih => rw [content_append, content_fixed, ih, List.flatMap_cons]

@[simp] theorem content_clause (keyword : String) (body : Option (List Piece)) :
    content (clause keyword body) = body.toList.flatMap content := by
  cases body with
  | none => rfl
  | some body => simp [clause]

@[simp] theorem content_qualified (qualifier : Option String) (name : String) :
    content (qualified qualifier name) = (qualifier.toList ++ [name]).map Piece.name := by
  cases qualifier <;> rfl

/-- The content of a column: the parts of its name. -/
@[simp] theorem content_column (column : String) :
    content ((Expr.column column).pieces d) = (columnParts [column]).map Piece.name := by
  rw [Expr.column, Expr.pieces, content_qualified]
  simp [columnParts, Identifier.parts]

/-- The content of a source: its names. -/
theorem content_source (source : Source) :
    content source.pieces = source.names.map Piece.name := by
  rw [Source.pieces, Source.names, content_append, content_qualified, content_clause]
  cases source.asName <;> simp

end Sql

/-- The names and the values of a predicate from left to right. -/
def Predicate.content : Predicate → List Sql.Piece
  | .comparison column _ value => (Sql.columnParts [column]).map .name ++ [.parameter value]
  | .like column pattern _ =>
    (Sql.columnParts [column]).map .name ++ [.parameter (.text pattern)]
  | .null column _ => (Sql.columnParts [column]).map .name
  | .member column value => .parameter value :: (Sql.columnParts [column]).map .name
  | .connect _ left right => left.content ++ right.content

namespace Sql

variable (d : Dialect)

/-- The content of a predicate as an expression. -/
theorem content_ofPredicate (p : Predicate) :
    content ((Expr.ofPredicate p).pieces d) = p.content := by
  induction p with
  | comparison column op value => simp [Expr.ofPredicate, Expr.pieces, Predicate.content]
  | like column pattern negated =>
    simp [Expr.ofPredicate, Expr.pieces, argumentPieces, Predicate.content]
  | null column negated => simp [Expr.ofPredicate, Expr.pieces, Predicate.content]
  | member column value => simp [Expr.ofPredicate, Expr.pieces, Predicate.content]
  | connect c left right ihl ihr =>
    simp [Expr.ofPredicate, Expr.pieces, Predicate.content, ihl, ihr]

/-- The content of a condition is that of its conjuncts, one after the other. -/
theorem content_foldl_conjoin (exprs : List Expr) (condition : Option Expr) :
    (exprs.foldl conjoin condition).toList.flatMap (fun e => content (e.pieces d)) =
      (condition.toList ++ exprs).flatMap fun e => content (e.pieces d) := by
  induction exprs generalizing condition with
  | nil => simp
  | cons e exprs ih =>
    rw [List.foldl_cons, ih]
    cases condition with
    | none => simp [conjoin]
    | some earlier => simp [conjoin, Expr.both, Expr.pieces]

namespace TableQuery

/-- The names and the values of a query in the order of its parts. -/
def content (q : TableQuery) : List Piece :=
  (q.selection.names ++ q.source.names).map .name ++
    q.predicates.flatMap Predicate.content ++
    (columnParts (q.order.map OrderEntry.column)).map .name ++
    (q.limit.toList ++ q.offset.toList).map fun n => .parameter (.number (Decimal.ofInt n.toNat))

/-- The content of the statement for the rows is that of the query. -/
theorem content_pieces (q : TableQuery) : Sql.content (q.select.pieces d) = q.content := by
  have hselection : (q.selection.exprs.map (Expr.pieces d)).flatMap Sql.content =
      q.selection.names.map Piece.name := by
    cases q.selection with
    | all => rfl
    | columns columns =>
      simp [Selection.exprs, Selection.names, columnParts, List.flatMap_map, List.map_flatMap]
  have hcondition : (q.condition.map (Expr.pieces d)).toList.flatMap Sql.content =
      q.predicates.flatMap Predicate.content := by
    have hconjoin := content_foldl_conjoin d (q.predicates.map Expr.ofPredicate) none
    rw [Option.toList_map, List.flatMap_map]
    simpa [condition, List.flatMap_map, content_ofPredicate] using hconjoin
  have horder : (q.orderPieces d).toList.flatMap Sql.content =
      (columnParts (q.order.map OrderEntry.column)).map Piece.name := by
    rw [orderPieces]
    cases hq : q.order with
    | nil => rfl
    | cons entry order =>
      simp [SortTerm.pieces, columnParts, List.flatMap_map, List.map_flatMap]
  have hnumber : ∀ n : Option UInt64,
      (n.map rowNumberPieces).toList.flatMap Sql.content =
        n.toList.map fun n => Piece.parameter (.number (Decimal.ofInt n.toNat)) := by
    intro n
    cases n <;> rfl
  rw [pieces_select]
  simp only [content_append, content_fixed, content_separated, content_clause, hselection,
    hcondition, horder, hnumber, Option.toList_some, List.flatMap_singleton, content_source,
    content, List.map_append, List.append_assoc]

end TableQuery

end Sql

end Sift
