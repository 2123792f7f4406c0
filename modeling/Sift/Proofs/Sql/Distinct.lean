import Mathlib.Data.List.Forall2
import Sift.Proofs.Sql.Parameters
import Sift.Proofs.Text.Cutting

/-!
# Different predicates give different statements

The statement of a query determines its predicate: the text has the shape of the predicate and its
columns, and the parameters have its literals.  Numbers that differ only in their scale count as
the same.

`Agree` compares two lists of pieces as they are read back, so that names of any characters can be
told apart from the text around them.  Pieces that agree are taken apart from left to right
(`Agree.of_fixed`, `Agree.of_parameter`, `Agree.of_sign`, `Agree.of_column`).  The character after
the opening bracket of a predicate tells its kind, unless a name comes first (`Predicate.opener`).
Then the sign after the name tells it: what follows a column or an operand is one of the `signs`,
and none of them starts another.  So the pieces of a predicate determine it, whatever comes behind
them (`Agree.of_predicate`).
-/

namespace Sift

/-! ## Predicates that are the same -/

/-- Literals of one kind that are equal, where the scale of a number does not matter. -/
def Literal.Same : Literal → Literal → Prop
  | .number a, .number b => a.compare b = .eq
  | .text s, .text t => s = t
  | .datetime s, .datetime t => s = t
  | _, _ => False

/-- Predicates of one shape with the same columns and the same literals. -/
def Predicate.Same : Predicate → Predicate → Prop
  | .comparison column op value, .comparison column' op' value' =>
    column = column' ∧ op = op' ∧ value.Same value'
  | .like column pattern negated, .like column' pattern' negated' =>
    column = column' ∧ negated = negated' ∧ pattern = pattern'
  | .null column negated, .null column' negated' => column = column' ∧ negated = negated'
  | .member column value, .member column' value' => value.Same value' ∧ column = column'
  | .connect c left right, .connect c' left' right' =>
    c = c' ∧ left.Same left' ∧ right.Same right'
  | _, _ => False

/-! ## Columns -/

namespace Sql

/-- The text that an identifier was parsed from. -/
def Identifier.text (i : Identifier) : List Char :=
  match i.qualifier with
  | some qualifier => qualifier.toList ++ '.' :: i.name.toList
  | none => i.name.toList

theorem Identifier.text_parse (s : String) : (parse s).text = s.toList := by
  rw [parse]
  split
  case h_1 qualifier name hcut =>
    split
    case isTrue => simp [text, Text.eq_append_of_cutLast hcut]
    case isFalse => rfl
  case h_2 => rfl

theorem Identifier.parse_injective : Function.Injective parse := by
  intro s t h
  have htext := congrArg text h
  rw [text_parse, text_parse] at htext
  exact String.toList_inj.mp htext

/-! ## Readings that are equal -/

namespace Reading

variable {r r' : Reading}

theorem after_inj {text : List Char} : r.after text = r'.after text ↔ r = r' := by
  cases r
  cases r'
  simp [after]

theorem afterName_inj {name name' : List Char} :
    r.afterName name = r'.afterName name' ↔ name = name' ∧ r = r' := by
  cases r
  cases r'
  simp [afterName, and_assoc]

end Reading

/-- Two lists of pieces that read the same and have the same values, if `index` values came
before. -/
def Agree (d : Dialect) (index : Nat) (pieces pieces' : List Piece) : Prop :=
  Reading.ofPieces d index pieces = Reading.ofPieces d index pieces' ∧
    List.Forall₂ Literal.Same (pieces.filterMap Statement.parameter?)
      (pieces'.filterMap Statement.parameter?)

namespace Agree

variable {d : Dialect} {index : Nat} {rest rest' : List Piece}

theorem of_fixed {text : String} (h : Agree d index (.fixed text :: rest) (.fixed text :: rest')) :
    Agree d index rest rest' :=
  ⟨Reading.after_inj.mp h.1, h.2⟩

theorem of_name {name name' : String}
    (h : Agree d index (.name name :: rest) (.name name' :: rest')) :
    name = name' ∧ Agree d index rest rest' := by
  obtain ⟨hname, hrest⟩ := Reading.afterName_inj.mp h.1
  exact ⟨String.toList_inj.mp hname, hrest, h.2⟩

theorem of_parameter {value value' : Literal}
    (h : Agree d index (.parameter value :: rest) (.parameter value' :: rest')) :
    value.Same value' ∧ Agree d (index + 1) rest rest' := by
  obtain ⟨hvalue, hvalues⟩ := List.forall₂_cons.mp h.2
  exact ⟨hvalue, Reading.after_inj.mp h.1, hvalues⟩

theorem of_append (front : List Piece) (h : Agree d index (front ++ rest) (front ++ rest')) :
    ∃ index', Agree d index' rest rest' := by
  induction front generalizing index with
  | nil => exact ⟨index, h⟩
  | cons piece front ih =>
    cases piece with
    | fixed text => exact ih h.of_fixed
    | name name => exact ih h.of_name.2
    | parameter value => exact ih h.of_parameter.2

end Agree

/-! ## Signs -/

/-- The fixed texts that follow a column or an operand of a predicate. -/
def signs : List String :=
  [" = ", " <> ", " < ", " <= ", " > ", " >= ", " AND ", " OR ", " LIKE ", " NOT LIKE ",
    " IS NULL)", " IS NOT NULL)"]

/-- No sign starts another one. -/
theorem eq_of_mem_signs {sign sign' : String} (hsign : sign ∈ signs) (hsign' : sign' ∈ signs)
    {cs cs' : List Char} (h : sign.toList ++ cs = sign'.toList ++ cs') : sign = sign' := by
  have hfree : ∀ s ∈ signs, ∀ t ∈ signs, s.toList <+: t.toList → s = t := by decide
  have hstart : sign'.toList <+: sign.toList ++ cs := by
    rw [h]
    exact List.prefix_append _ _
  rcases List.prefix_or_prefix_of_prefix (List.prefix_append _ cs) hstart with hle | hge
  · exact hfree sign hsign sign' hsign' hle
  · exact (hfree sign' hsign' sign hsign hge).symm

theorem symbol_mem_signs (op : BinaryOperator) : " " ++ op.symbol ++ " " ∈ signs := by
  cases op with
  | compare op => cases op <;> decide
  | connect c => cases c <;> decide

theorem like_mem_signs (negated : Bool) :
    (if negated then " NOT LIKE " else " LIKE ") ∈ signs := by
  cases negated <;> decide

theorem null_mem_signs (negated : Bool) :
    (if negated then " IS NOT NULL)" else " IS NULL)") ∈ signs := by
  cases negated <;> decide

/-- Two different signs tell whether a predicate is negated. -/
theorem eq_of_ite_eq {sign sign' : String} (hne : sign ≠ sign') {negated negated' : Bool}
    (h : (if negated then sign else sign') = if negated' then sign else sign') :
    negated = negated' := by
  cases negated with
  | false =>
    cases negated' with
    | false => rfl
    | true => exact absurd h.symm hne
  | true =>
    cases negated' with
    | false => exact absurd h hne
    | true => rfl

theorem eq_of_compare_symbol {op op' : Comparison}
    (h : " " ++ (BinaryOperator.compare op).symbol ++ " " =
      " " ++ (BinaryOperator.compare op').symbol ++ " ") : op = op' := by
  revert h
  cases op <;> cases op' <;> decide

theorem compare_symbol_ne_null (op : Comparison) (negated : Bool) :
    " " ++ (BinaryOperator.compare op).symbol ++ " " ≠
      if negated then " IS NOT NULL)" else " IS NULL)" := by
  cases op <;> cases negated <;> decide

theorem eq_of_connect_symbol {c c' : Connective}
    (h : " " ++ (BinaryOperator.connect c).symbol ++ " " =
      " " ++ (BinaryOperator.connect c').symbol ++ " ") : c = c' := by
  revert h
  cases c <;> cases c' <;> decide

namespace Agree

variable {d : Dialect} {index : Nat} {rest rest' : List Piece}

theorem of_sign {sign sign' : String}
    (h : Agree d index (.fixed sign :: rest) (.fixed sign' :: rest'))
    (hsign : sign ∈ signs) (hsign' : sign' ∈ signs) :
    sign = sign' ∧ Agree d index rest rest' := by
  have hopening := congrArg Reading.opening h.1
  obtain rfl := eq_of_mem_signs hsign hsign' hopening
  exact ⟨rfl, h.of_fixed⟩

theorem head?_opening_ne_dot {text : String} (htext : text.toList.head?.any (· ≠ '.')) :
    (Reading.ofPieces d index (.fixed text :: rest)).opening.head? ≠ some '.' := by
  simp only [Reading.ofPieces, Reading.after, List.head?_append]
  cases hhead : text.toList.head? with
  | none => simp [hhead] at htext
  | some c =>
    rw [hhead] at htext
    simpa using htext

/-- Names with and without a qualifier are told apart by the dot. -/
theorem of_qualified {qualifier qualifier' : Option String} {name name' text text' : String}
    (h : Agree d index (qualified qualifier name ++ .fixed text :: rest)
      (qualified qualifier' name' ++ .fixed text' :: rest'))
    (htext : text.toList.head?.any (· ≠ '.')) (htext' : text'.toList.head?.any (· ≠ '.')) :
    qualifier = qualifier' ∧ name = name' ∧
      Agree d index (.fixed text :: rest) (.fixed text' :: rest') := by
  cases qualifier with
  | none =>
    cases qualifier' with
    | none => exact ⟨rfl, h.of_name⟩
    | some qualifier' =>
      have hopening := congrArg (·.opening.head?) h.of_name.2.1
      exact absurd hopening (head?_opening_ne_dot htext)
  | some qualifier =>
    cases qualifier' with
    | none =>
      have hopening := congrArg (·.opening.head?) h.of_name.2.1
      exact absurd hopening.symm (head?_opening_ne_dot htext')
    | some qualifier' =>
      obtain ⟨hqualifier, hrest⟩ := h.of_name
      exact ⟨congrArg some hqualifier, hrest.of_fixed.of_name⟩

theorem of_column {column column' text text' : String}
    (h : Agree d index ((Expr.column column).pieces d ++ .fixed text :: rest)
      ((Expr.column column').pieces d ++ .fixed text' :: rest'))
    (htext : text.toList.head?.any (· ≠ '.')) (htext' : text'.toList.head?.any (· ≠ '.')) :
    column = column' ∧ Agree d index (.fixed text :: rest) (.fixed text' :: rest') := by
  rw [Expr.column, Expr.column, Expr.pieces, Expr.pieces] at h
  obtain ⟨hqualifier, hname, h⟩ := h.of_qualified htext htext'
  have hparse : Identifier.parse column = Identifier.parse column' := by
    cases hi : Identifier.parse column
    cases hi' : Identifier.parse column'
    simp_all
  exact ⟨Identifier.parse_injective hparse, h⟩

theorem of_column_sign {column column' sign sign' : String}
    (h : Agree d index ((Expr.column column).pieces d ++ .fixed sign :: rest)
      ((Expr.column column').pieces d ++ .fixed sign' :: rest'))
    (hsign : sign ∈ signs) (hsign' : sign' ∈ signs) :
    column = column' ∧ sign = sign' ∧ Agree d index rest rest' := by
  have hends : ∀ sign ∈ signs, sign.toList.head?.any (· ≠ '.') := by decide
  obtain ⟨hcolumn, hrest⟩ := h.of_column (hends sign hsign) (hends sign' hsign')
  exact ⟨hcolumn, hrest.of_sign hsign hsign'⟩

end Agree

end Sql

/-! ## Predicates -/

namespace Predicate

variable (d : Sql.Dialect)

/-- The pieces of a predicate after its opening bracket, with more pieces behind them. -/
def inside (rest : List Sql.Piece) : Predicate → List Sql.Piece
  | .comparison column op value =>
    (Sql.Expr.column column).pieces d ++
      .fixed (" " ++ (Sql.BinaryOperator.compare op).symbol ++ " ") :: .parameter value ::
        .fixed ")" :: rest
  | .like column pattern negated =>
    .fixed "LOWER(" :: (Sql.Expr.column column).pieces d ++
      .fixed ")" :: .fixed (if negated then " NOT LIKE " else " LIKE ") ::
        .parameter (.text pattern) :: .fixed ")" :: rest
  | .null column negated =>
    (Sql.Expr.column column).pieces d ++
      .fixed (if negated then " IS NOT NULL)" else " IS NULL)") :: rest
  | .member column value =>
    .parameter value ::
      .fixed (match d.membership with | .anyArray => " = ANY(" | .operator => " MEMBER OF (") ::
        ((Sql.Expr.column column).pieces d ++ .fixed "))" :: rest)
  | .connect c left right =>
    (Sql.Expr.ofPredicate left).pieces d ++
      .fixed (" " ++ (Sql.BinaryOperator.connect c).symbol ++ " ") ::
        ((Sql.Expr.ofPredicate right).pieces d ++ .fixed ")" :: rest)

theorem pieces_append (p : Predicate) (rest : List Sql.Piece) :
    (Sql.Expr.ofPredicate p).pieces d ++ rest = .fixed "(" :: p.inside d rest := by
  cases p with
  | member column value =>
    cases d <;> simp [Sql.Expr.ofPredicate, Sql.Expr.pieces, Sql.Dialect.membership, inside]
  | _ => simp [Sql.Expr.ofPredicate, Sql.Expr.pieces, Sql.argumentPieces, Sql.separated, inside]

/-- The first character within the brackets of a predicate, unless that is the quote of a name. -/
def opener : Predicate → Option Char
  | .comparison _ _ _ => none
  | .like _ _ _ => some 'L'
  | .null _ _ => none
  | .member _ _ => some d.placeholderChar
  | .connect _ _ _ => some '('

theorem opener_eq (index : Nat) (p : Predicate) (rest : List Sql.Piece) :
    (Sql.Reading.ofPieces d index (p.inside d rest)).opening.head? = p.opener d := by
  have hcolumn : ∀ column rest,
      (Sql.Reading.ofPieces d index ((Sql.Expr.column column).pieces d ++ rest)).opening = [] := by
    intro column rest
    rw [Sql.Expr.column, Sql.Expr.pieces]
    cases (Sql.Identifier.parse column).qualifier <;> rfl
  cases p with
  | comparison column op value => rw [inside, hcolumn]; rfl
  | like column pattern negated => rfl
  | null column negated => rw [inside, hcolumn]; rfl
  | member column value =>
    cases d <;> simp [inside, Sql.Reading.ofPieces, Sql.Reading.after, Sql.Dialect.placeholder,
      opener, Sql.Dialect.placeholderChar]
  | connect c left right => rw [inside, pieces_append]; rfl

end Predicate

namespace Sql

variable {d : Dialect} {index : Nat} {p p' : Predicate} {rest rest' : List Piece}

theorem Agree.inside (h : Agree d index ((Expr.ofPredicate p).pieces d ++ rest)
    ((Expr.ofPredicate p').pieces d ++ rest')) :
    Agree d index (p.inside d rest) (p'.inside d rest') ∧ p.opener d = p'.opener d := by
  rw [p.pieces_append, p'.pieces_append] at h
  refine ⟨h.of_fixed, ?_⟩
  rw [← p.opener_eq d index rest, ← p'.opener_eq d index rest', h.of_fixed.1]

/-- A predicate is determined by its pieces and their values, whatever comes behind them. -/
theorem Agree.of_predicate (h : Agree d index ((Expr.ofPredicate p).pieces d ++ rest)
    ((Expr.ofPredicate p').pieces d ++ rest')) :
    p.Same p' ∧ ∃ index', Agree d index' rest rest' := by
  induction p generalizing p' index rest rest' with
  | comparison column op value =>
    obtain ⟨hinside, hopener⟩ := h.inside
    have hop := symbol_mem_signs (.compare op)
    cases p' with
    | comparison column' op' value' =>
      obtain ⟨hcolumn, hsame, hparameter⟩ :=
        hinside.of_column_sign hop (symbol_mem_signs (.compare op'))
      obtain ⟨hvalue, hclose⟩ := hparameter.of_parameter
      exact ⟨⟨hcolumn, eq_of_compare_symbol hsame, hvalue⟩, _, hclose.of_fixed⟩
    | null column' negated' =>
      obtain ⟨-, hsame, -⟩ := hinside.of_column_sign hop (null_mem_signs negated')
      exact absurd hsame (compare_symbol_ne_null op negated')
    | _ => cases d <;> simp [Predicate.opener, Dialect.placeholderChar] at hopener
  | like column pattern negated =>
    obtain ⟨hinside, hopener⟩ := h.inside
    cases p' with
    | like column' pattern' negated' =>
      obtain ⟨hcolumn, hclose⟩ := hinside.of_fixed.of_column (by decide) (by decide)
      obtain ⟨hsame, hparameter⟩ :=
        hclose.of_fixed.of_sign (like_mem_signs negated) (like_mem_signs negated')
      obtain ⟨hpattern, hlast⟩ := hparameter.of_parameter
      exact ⟨⟨hcolumn, eq_of_ite_eq (by decide) hsame, hpattern⟩, _, hlast.of_fixed⟩
    | _ => cases d <;> simp [Predicate.opener, Dialect.placeholderChar] at hopener
  | null column negated =>
    obtain ⟨hinside, hopener⟩ := h.inside
    have hnull := null_mem_signs negated
    cases p' with
    | comparison column' op' value' =>
      obtain ⟨-, hsame, -⟩ := hinside.of_column_sign hnull (symbol_mem_signs (.compare op'))
      exact absurd hsame.symm (compare_symbol_ne_null op' negated)
    | null column' negated' =>
      obtain ⟨hcolumn, hsame, hlast⟩ := hinside.of_column_sign hnull (null_mem_signs negated')
      exact ⟨⟨hcolumn, eq_of_ite_eq (by decide) hsame⟩, _, hlast⟩
    | _ => cases d <;> simp [Predicate.opener, Dialect.placeholderChar] at hopener
  | member column value =>
    obtain ⟨hinside, hopener⟩ := h.inside
    cases p' with
    | member column' value' =>
      obtain ⟨hvalue, hsign⟩ := hinside.of_parameter
      obtain ⟨hcolumn, hlast⟩ := hsign.of_fixed.of_column (by decide) (by decide)
      exact ⟨⟨hvalue, hcolumn⟩, _, hlast.of_fixed⟩
    | _ => cases d <;> simp [Predicate.opener, Dialect.placeholderChar] at hopener
  | connect c left right ihl ihr =>
    obtain ⟨hinside, hopener⟩ := h.inside
    cases p' with
    | connect c' left' right' =>
      obtain ⟨hleft, _, hsign⟩ := ihl hinside
      obtain ⟨hsame, hright⟩ :=
        hsign.of_sign (symbol_mem_signs (.connect c)) (symbol_mem_signs (.connect c'))
      obtain ⟨hright, _, hlast⟩ := ihr hright
      exact ⟨⟨eq_of_connect_symbol hsame, hleft, hright⟩, _, hlast.of_fixed⟩
    | _ => cases d <;> simp [Predicate.opener, Dialect.placeholderChar] at hopener

/-! ## Statements -/

namespace TableQuery

variable {q : TableQuery}

/-- What comes before the condition of a statement. -/
def front (q : TableQuery) (d : Dialect) : List Piece :=
  .fixed "SELECT " :: separated ", " (q.selection.exprs.map (Expr.pieces d)) ++
    clause "FROM" (some q.source.pieces) ++ [.fixed " WHERE "]

theorem exists_pieces_eq (d : Dialect) (hp : q.predicates = [p]) :
    ∃ rest, q.select.pieces d = q.front d ++ ((Expr.ofPredicate p).pieces d ++ rest) := by
  refine ⟨clause "ORDER BY" (q.orderPieces d) ++
    clause "LIMIT" (q.limit.map rowNumberPieces) ++
    clause "OFFSET" (q.offset.map rowNumberPieces), ?_⟩
  have hcondition : q.condition = some (Expr.ofPredicate p) := by
    rw [condition, hp]
    rfl
  rw [pieces_select, hcondition, front]
  simp [clause]

/-- Two queries that select the same from one source, with a single predicate each, have different
statements unless the predicates are the same, whatever else they ask for. -/
theorem statement_determines_predicate (q q' : TableQuery) (p p' : Predicate) (d : Dialect)
    (hsource : q.source = q'.source) (hselection : q.selection = q'.selection)
    (hp : q.predicates = [p]) (hp' : q'.predicates = [p'])
    (hsql : (q.statement d).sql = (q'.statement d).sql)
    (hparameters :
      List.Forall₂ Literal.Same (q.statement d).parameters (q'.statement d).parameters) :
    p.Same p' := by
  have hread := (spaced_pieces d q).read_textFrom d 0
  have hread' := (spaced_pieces d q').read_textFrom d 0
  have hagree : Agree d 0 (q.select.pieces d) (q'.select.pieces d) := by
    refine ⟨?_, hparameters⟩
    apply Option.some.inj
    rw [← hread, ← hread']
    exact congrArg d.read hsql
  obtain ⟨rest, hpieces⟩ := exists_pieces_eq d hp
  obtain ⟨rest', hpieces'⟩ := exists_pieces_eq d hp'
  have hfront : q.front d = q'.front d := by rw [front, front, hsource, hselection]
  rw [hpieces, hpieces', hfront] at hagree
  obtain ⟨_, hpredicate⟩ := hagree.of_append
  exact hpredicate.of_predicate.1

/-- A number with two scales, next to a column whose name holds a quote and a dot. -/
theorem statement_determines_predicate_scales :
    let predicate : Decimal → Predicate := fun number =>
      .connect .or (.comparison "u.age" .ge (.number number)) (.null "a\"." true)
    let query : Decimal → TableQuery := fun number =>
      ⟨⟨⟨none, "users"⟩, some "u"⟩, .all, [predicate number], [], none, some 5⟩
    let s := (query ⟨10, 1⟩).statement .postgres
    let s' := (query ⟨100, 2⟩).statement .postgres
    s.sql = s'.sql ∧ s ≠ s' ∧ List.Forall₂ Literal.Same s.parameters s'.parameters ∧
      (predicate ⟨10, 1⟩).Same (predicate ⟨100, 2⟩) := by
  intro predicate query s s'
  have hsql : s.sql = s'.sql := rfl
  have hparameters : List.Forall₂ Literal.Same s.parameters s'.parameters :=
    .cons rfl (.cons rfl .nil)
  have hsame := statement_determines_predicate (query ⟨10, 1⟩) (query ⟨100, 2⟩)
    (predicate ⟨10, 1⟩) (predicate ⟨100, 2⟩) .postgres rfl rfl rfl rfl hsql hparameters
  exact ⟨hsql, by decide, hparameters, hsame⟩

end TableQuery

end Sql

end Sift
