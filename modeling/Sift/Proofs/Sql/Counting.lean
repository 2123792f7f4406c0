import Sift.Proofs.Backend.Calls
import Sift.Proofs.Sql.Pieces

/-!
# Counting the rows of a query

A query has two statements, one for its rows and one for their number.  They are written apart from
each other, and each numbers its placeholders from the start.  Still the source and the condition
have the same text in both, as nothing that is written before them takes a parameter.

* `WrittenAs` says that pieces hold no value, so that their text is the same wherever they stand.
  This holds of names (`writtenAs_column`), of a source and of a list of columns.
* `textFrom_append` cuts a text in two, and the second part goes on counting where the first one
  ends.
* `TableQuery.sql_statement` and `TableQuery.sql_countStatement` are the texts of both statements,
  clause by clause, with `TableQuery.bodyText` in common.

`TableQuery.count_selects_same_rows` says so of every query that calls can lead to.
-/

namespace Sift

namespace Sql

/-! ## Texts of clauses -/

/-- The parts of a name in quotes, with dots between them. -/
def Dialect.dotted (d : Dialect) (parts : List String) : String :=
  ".".intercalate (parts.map d.quote)

/-- A column in quotes, and its table if the name has one. -/
def Dialect.column (d : Dialect) (name : String) : String :=
  d.dotted (Identifier.parse name).parts

/-- A keyword with what follows it, if there is something. -/
def clauseText (keyword : String) : Option String → String
  | some body => " " ++ keyword ++ " " ++ body
  | none => ""

/-- The list of what is selected. -/
def Selection.text (d : Dialect) : Selection → String
  | .all => "*"
  | .columns names => ", ".intercalate (names.map d.column)

/-- A table, and the name that it is given. -/
def Source.text (d : Dialect) (source : Source) : String :=
  d.dotted (source.table.schema.toList ++ [source.table.name]) ++
    clauseText "AS" (source.asName.map d.quote)

/-- A list of sort keys, if there are any. -/
def orderText (d : Dialect) (order : List OrderEntry) : Option String :=
  if order.isEmpty then none
  else some (", ".intercalate (order.map fun entry =>
    d.column entry.column ++ " " ++ entry.direction.keyword))

/-- The source and the condition of a query.  The condition is written as it is on its own. -/
def TableQuery.bodyText (d : Dialect) (q : TableQuery) : String :=
  clauseText "FROM" (some (q.source.text d)) ++
    clauseText "WHERE" (q.condition.map fun e => (e.statement d).sql)

/-! ## Texts of pieces -/

variable {d : Dialect}

/-- The number of values among the pieces. -/
def parameterCount (pieces : List Piece) : Nat :=
  (pieces.filterMap Statement.parameter?).length

/-- A text goes on counting placeholders where the part before it ends. -/
theorem textFrom_append (index : Nat) (pieces rest : List Piece) :
    Statement.textFrom d index (pieces ++ rest) =
      Statement.textFrom d index pieces ++
        Statement.textFrom d (index + parameterCount pieces) rest := by
  induction pieces generalizing index with
  | nil => simp [Statement.textFrom, parameterCount]
  | cons piece pieces ih =>
    rw [List.cons_append]
    cases piece with
    | fixed text =>
      have hcount : parameterCount (.fixed text :: pieces) = parameterCount pieces := rfl
      rw [Statement.textFrom, ih, hcount, Statement.textFrom, String.append_assoc]
    | name name =>
      have hcount : parameterCount (.name name :: pieces) = parameterCount pieces := rfl
      rw [Statement.textFrom, ih, hcount, Statement.textFrom, String.append_assoc]
    | parameter value =>
      have hcount : parameterCount (.parameter value :: pieces) = 1 + parameterCount pieces :=
        Nat.add_comm _ 1
      rw [Statement.textFrom, ih, hcount, Statement.textFrom, String.append_assoc, Nat.add_assoc]

/-- The pieces hold no value, and this is their text wherever they stand. -/
structure WrittenAs (d : Dialect) (pieces : List Piece) (text : String) : Prop where
  parameters_eq : pieces.filterMap Statement.parameter? = []
  textFrom_eq : ∀ index, Statement.textFrom d index pieces = text

namespace WrittenAs

variable {pieces rest : List Piece} {text more : String}

theorem nil : WrittenAs d [] "" :=
  ⟨rfl, fun _ => rfl⟩

theorem fixed (text : String) : WrittenAs d [.fixed text] text :=
  ⟨rfl, fun _ => String.append_empty⟩

theorem name (name : String) : WrittenAs d [.name name] (d.quote name) :=
  ⟨rfl, fun _ => String.append_empty⟩

theorem append (h : WrittenAs d pieces text) (hrest : WrittenAs d rest more) :
    WrittenAs d (pieces ++ rest) (text ++ more) := by
  refine ⟨by rw [List.filterMap_append, h.parameters_eq, hrest.parameters_eq, List.append_nil], ?_⟩
  intro index
  rw [textFrom_append, h.textFrom_eq, hrest.textFrom_eq]

/-- What follows such pieces is numbered as if they were not there. -/
theorem textFrom_append (h : WrittenAs d pieces text) (index : Nat) (rest : List Piece) :
    Statement.textFrom d index (pieces ++ rest) = text ++ Statement.textFrom d index rest := by
  rw [Sql.textFrom_append, h.textFrom_eq, parameterCount, h.parameters_eq, List.length_nil,
    Nat.add_zero]

theorem clause (keyword : String) {body : Option (List Piece)} {bodyText : Option String}
    (h : Option.Rel (WrittenAs d) body bodyText) :
    WrittenAs d (clause keyword body) (clauseText keyword bodyText) := by
  cases h with
  | none => exact nil
  | some h => exact (fixed _).append h

/-- A list with a separator between its elements. -/
theorem separated {α : Type} (separator : String) {f : α → List Piece} {g : α → String}
    {xs : List α} (h : ∀ x ∈ xs, WrittenAs d (f x) (g x)) :
    WrittenAs d (separated separator (xs.map f)) (separator.intercalate (xs.map g)) := by
  induction xs with
  | nil => exact nil
  | cons x xs ih =>
    obtain ⟨hx, hrest⟩ := List.forall_mem_cons.mp h
    cases xs with
    | nil => simpa [Sql.separated] using hx
    | cons y xs =>
      simp only [List.map_cons, String.intercalate_cons_cons, String.append_assoc]
      exact hx.append ((fixed separator).append (ih hrest))

/-- A name, with its qualifier if it has one. -/
theorem qualified (qualifier : Option String) (name : String) :
    WrittenAs d (qualified qualifier name) (d.dotted (qualifier.toList ++ [name])) := by
  cases qualifier with
  | none => simpa [Sql.qualified, Dialect.dotted] using WrittenAs.name name
  | some qualifier =>
    have hboth := (WrittenAs.name (d := d) qualifier).append ((fixed ".").append (.name name))
    simpa [Sql.qualified, Dialect.dotted, String.append_assoc] using hboth

theorem column (name : String) : WrittenAs d ((Expr.column name).pieces d) (d.column name) := by
  rw [Expr.column, Expr.pieces]
  exact qualified _ _

theorem source (source : Source) : WrittenAs d source.pieces (source.text d) := by
  refine (qualified _ _).append (clause "AS" ?_)
  cases source.asName with
  | none => exact .none
  | some asName => exact .some (name asName)

theorem selection (selection : Selection) :
    WrittenAs d (Sql.separated ", " (selection.exprs.map (Expr.pieces d))) (selection.text d) := by
  cases selection with
  | all => exact fixed "*"
  | columns names =>
    rw [Selection.exprs, List.map_map]
    exact separated ", " fun name _ => column name

theorem order (q : TableQuery) :
    Option.Rel (WrittenAs d) (q.orderPieces d) (orderText d q.order) := by
  rw [TableQuery.orderPieces, orderText]
  split
  · exact .none
  · refine .some (separated ", " fun entry _ => ?_)
    rw [String.append_assoc]
    exact (column entry.column).append (fixed _)

end WrittenAs

/-! ## The two statements -/

namespace TableQuery

/-- The statement for the number of rows: what comes before the condition, and the condition. -/
theorem exists_pieces_countSelect (d : Dialect) (q : TableQuery) :
    ∃ head, WrittenAs d head ("SELECT COUNT(*)" ++ clauseText "FROM" (some (q.source.text d))) ∧
      q.countSelect.pieces d = head ++ clause "WHERE" (q.condition.map (Expr.pieces d)) := by
  refine ⟨[.fixed "SELECT ", .fixed "COUNT(*)"] ++ clause "FROM" (some q.source.pieces), ?_, ?_⟩
  · have hcount : WrittenAs d [.fixed "SELECT ", .fixed "COUNT(*)"] "SELECT COUNT(*)" :=
      (WrittenAs.fixed "SELECT ").append (.fixed "COUNT(*)")
    exact hcount.append (.clause "FROM" (.some (.source q.source)))
  · simp [countSelect, base_eq, Select.ofSource, Select.pieces, Select.body, Select.tail,
      Expr.pieces, separated, clause]

/-- The statement for the rows: what comes before the condition, the condition, and the rest. -/
theorem exists_pieces_select (d : Dialect) (q : TableQuery) :
    ∃ head, WrittenAs d head
        ("SELECT " ++ q.selection.text d ++ clauseText "FROM" (some (q.source.text d))) ∧
      q.select.pieces d = head ++ (clause "WHERE" (q.condition.map (Expr.pieces d)) ++
        (clause "ORDER BY" (q.orderPieces d) ++
          (clause "LIMIT" (q.limit.map rowNumberPieces) ++
            clause "OFFSET" (q.offset.map rowNumberPieces)))) := by
  refine ⟨[.fixed "SELECT "] ++ separated ", " (q.selection.exprs.map (Expr.pieces d)) ++
    clause "FROM" (some q.source.pieces), ?_, ?_⟩
  · exact ((WrittenAs.fixed "SELECT ").append (.selection q.selection)).append
      (.clause "FROM" (.some (.source q.source)))
  · rw [pieces_select]
    simp only [List.append_assoc, List.cons_append, List.nil_append]

/-- The condition is the first part with values, so it is written as it is on its own. -/
theorem textFrom_condition (d : Dialect) (condition : Option Expr) :
    Statement.textFrom d 0 (clause "WHERE" (condition.map (Expr.pieces d))) =
      clauseText "WHERE" (condition.map fun e => (e.statement d).sql) := by
  cases condition <;> rfl

theorem textFrom_rowNumber (d : Dialect) (index : Nat) (keyword : String) (n : Option UInt64) :
    Statement.textFrom d index (clause keyword (n.map rowNumberPieces)) =
      clauseText keyword (n.map fun _ => d.placeholder index) := by
  cases n with
  | none => rfl
  | some n => exact congrArg _ String.append_empty

theorem parameters_rowNumber (keyword : String) (n : Option UInt64) :
    (clause keyword (n.map rowNumberPieces)).filterMap Statement.parameter? =
      n.toList.map fun n => .number (Decimal.ofInt n.toNat) := by
  cases n <;> rfl

/-- The parameters of the statement for the number of rows are those of the condition. -/
theorem parameters_countStatement (d : Dialect) (q : TableQuery) :
    (q.countStatement d).parameters =
      (clause "WHERE" (q.condition.map (Expr.pieces d))).filterMap Statement.parameter? := by
  obtain ⟨head, hhead, hpieces⟩ := q.exists_pieces_countSelect d
  rw [countStatement, Select.statement, Statement.ofPieces, hpieces, List.filterMap_append,
    hhead.parameters_eq]
  rfl

/-- The statement for the rows has these parameters too, and then the limit and the offset. -/
theorem parameters_statement_eq_append (d : Dialect) (q : TableQuery) :
    (q.statement d).parameters = (q.countStatement d).parameters ++
      (q.limit.toList ++ q.offset.toList).map fun n => .number (Decimal.ofInt n.toNat) := by
  obtain ⟨head, hhead, hpieces⟩ := q.exists_pieces_select d
  have horder := WrittenAs.clause "ORDER BY" (WrittenAs.order (d := d) q)
  rw [parameters_countStatement, statement, Select.statement, Statement.ofPieces, hpieces]
  simp only [List.filterMap_append, hhead.parameters_eq, horder.parameters_eq,
    parameters_rowNumber, List.nil_append, List.map_append]

/-- The text of the statement for the number of rows. -/
theorem sql_countStatement (d : Dialect) (q : TableQuery) :
    (q.countStatement d).sql = "SELECT COUNT(*)" ++ q.bodyText d := by
  obtain ⟨head, hhead, hpieces⟩ := q.exists_pieces_countSelect d
  rw [countStatement, Select.statement, Statement.ofPieces, hpieces]
  simp only [hhead.textFrom_append, textFrom_condition, bodyText, String.append_assoc]

/-- The text of the statement for the rows.  Only the condition and the limit hold values, so the
placeholders of the limit and of the offset are numbered after those. -/
theorem sql_statement (d : Dialect) (q : TableQuery) :
    let index := (q.countStatement d).parameters.length
    (q.statement d).sql = "SELECT " ++ q.selection.text d ++ q.bodyText d ++
      clauseText "ORDER BY" (orderText d q.order) ++
      clauseText "LIMIT" (q.limit.map fun _ => d.placeholder index) ++
      clauseText "OFFSET" (q.offset.map fun _ =>
        d.placeholder (index + q.limit.toList.length)) := by
  intro index
  obtain ⟨head, hhead, hpieces⟩ := q.exists_pieces_select d
  have horder := WrittenAs.clause "ORDER BY" (WrittenAs.order (d := d) q)
  have hcondition : parameterCount (clause "WHERE" (q.condition.map (Expr.pieces d))) = index :=
    congrArg List.length (q.parameters_countStatement d).symm
  have hlimit : parameterCount (clause "LIMIT" (q.limit.map rowNumberPieces)) =
      q.limit.toList.length := by
    rw [parameterCount, parameters_rowNumber, List.length_map]
  rw [statement, Select.statement, Statement.ofPieces, hpieces]
  simp only [hhead.textFrom_append, textFrom_append, horder.textFrom_append, hcondition, hlimit,
    textFrom_condition, textFrom_rowNumber, bodyText, Nat.zero_add, String.append_assoc]

/-- The statement for the number of rows depends on the predicates that were called for, and on no
other call. -/
theorem countStatement_run_congr {calls calls' : List Call} (source : Source)
    (selection : Selection) (d : Dialect)
    (h : calls.filterMap Call.predicate? = calls'.filterMap Call.predicate?) :
    (Backend.run calls (ofSource source selection)).countStatement d =
      (Backend.run calls' (ofSource source selection)).countStatement d := by
  simp only [countStatement, countSelect, base, run_ofSource, h]

/-- Whatever is called on a query over a table, in whatever order, and in either dialect, the
statements for its rows and for their number have the source and the condition in common, word for
word.  Besides these, the one has the columns, the sort keys and the paging, and the other counts.
The parameters of the count come first in those of the rows, and after them the limit and the
offset.  A call that adds no predicate may be left out without a change to the count. -/
theorem count_selects_same_rows (source : Source) (selection : Selection) (calls : List Call)
    (d : Dialect) :
    let query := fun calls => Backend.run calls (ofSource source selection)
    let count := (query calls).countStatement d
    let rows := (query calls).statement d
    let body := (query calls).bodyText d
    let index := count.parameters.length
    let limit := (calls.filterMap Call.limit?).getLast?
    let offset := (calls.filterMap Call.offset?).getLast?
    count.sql = "SELECT COUNT(*)" ++ body ∧
    rows.sql = "SELECT " ++ selection.text d ++ body ++
      clauseText "ORDER BY" (orderText d (calls.filterMap Call.sortKey?)) ++
      clauseText "LIMIT" (limit.map fun _ => d.placeholder index) ++
      clauseText "OFFSET" (offset.map fun _ => d.placeholder (index + limit.toList.length)) ∧
    rows.parameters = count.parameters ++
      (limit.toList ++ offset.toList).map (fun n => .number (Decimal.ofInt n.toNat)) ∧
    ∀ before call after, calls = before ++ call :: after → call.predicate? = none →
      (query (before ++ after)).countStatement d = count := by
  intro query count rows body index limit offset
  have hquery : query calls = ⟨source, selection, calls.filterMap Call.predicate?,
      calls.filterMap Call.sortKey?, offset, limit⟩ := run_ofSource calls source selection
  have hselection : (query calls).selection = selection := by rw [hquery]
  have horder : (query calls).order = calls.filterMap Call.sortKey? := by rw [hquery]
  have hlimit : (query calls).limit = limit := by rw [hquery]
  have hoffset : (query calls).offset = offset := by rw [hquery]
  refine ⟨(query calls).sql_countStatement d, ?_, ?_, ?_⟩
  · have hsql := (query calls).sql_statement d
    rwa [hselection, horder, hlimit, hoffset] at hsql
  · have hparameters := (query calls).parameters_statement_eq_append d
    rwa [hlimit, hoffset] at hparameters
  · rintro before call after rfl hcall
    refine countStatement_run_congr source selection d ?_
    rw [List.filterMap_append, List.filterMap_append, List.filterMap_cons_none hcall]

/-- Two predicates with a sort key and the paging called for between them, and a limit that a later
one replaces. -/
theorem count_selects_same_rows_paged :
    let source : Source := ⟨⟨some "app", "users"⟩, some "u"⟩
    let query := fun calls => Backend.run calls (ofSource source (.columns ["u.id", "name"]))
    let before : List Call := [.restrict (.comparison "u.id" .gt (.number ⟨3, 0⟩)), .limit 5]
    let after : List Call := [.skip 10, .restrict (.member "tags" (.text "ops")), .limit 7]
    let calls := before ++ .orderBy ⟨"name", .desc⟩ :: after
    let body := " FROM \"app\".\"users\" AS \"u\"" ++
      " WHERE ((\"u\".\"id\" > $1) AND ($2 = ANY(\"tags\")))"
    (query calls).bodyText .postgres = body ∧
      ((query calls).countStatement .postgres).sql = "SELECT COUNT(*)" ++ body ∧
      ((query calls).statement .postgres).sql = "SELECT \"u\".\"id\", \"name\"" ++ body ++
        " ORDER BY \"name\" DESC LIMIT $3 OFFSET $4" ∧
      ((query calls).statement .postgres).parameters =
        ((query calls).countStatement .postgres).parameters ++
          [.number ⟨7, 0⟩, .number ⟨10, 0⟩] ∧
      (query (before ++ after)).countStatement .postgres =
        (query calls).countStatement .postgres := by
  intro source query before after calls body
  have hbody : (query calls).bodyText .postgres = body := by decide +kernel
  obtain ⟨hcount, -, hparameters, hother⟩ :=
    count_selects_same_rows source (.columns ["u.id", "name"]) calls .postgres
  exact ⟨hbody, hbody ▸ hcount, by decide +kernel, hparameters, hother before _ after rfl rfl⟩

end TableQuery

end Sql

end Sift
