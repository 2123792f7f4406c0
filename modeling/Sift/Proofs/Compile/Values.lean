import Mathlib.Data.Bool.AllAny
import Sift.Proofs.Compile.Joined
import Sift.Proofs.Filter.Places
import Sift.Proofs.Pattern.Verbatim

/-!
# Values in a filter

A filter of a single expression compiles to the condition that the operation makes of the field and
the value as it was written (`Registry.filter_text`).  The value may hold anything but connectives
and brackets, and it may not end with white space.  Each stage leaves it alone for a reason of its
own.

* The scanner finds one token and trims nothing off it: the name of an operation stands in front,
  and the value, or the colon before an empty one, at the end (`Expression.isExpression_text`).
* The first colon ends the operator, which holds none, and the second one the key, so all others
  stay in the value (`Registry.expression_text`).

A value in quotes ends with a quote, so what is quoted may end with white space as well
(`Registry.filter_keeps_value`).
-/

namespace Sift

/-! ## Operations -/

/-- The name of an operation holds no separator and no white space. -/
theorem Operation.name_plain (operation : Operation) : ∀ c ∈ operation.name.toList,
    c ∉ [':', '(', ')', '&', '|'] ∧ Text.isBlank c = false := by
  -- as a fold, since a quantifier over characters may be decided by trying all that there are
  rw [← List.all_iff_forall_prop]
  cases operation with
  | compare op => cases op <;> decide
  | like negated => cases negated <;> decide
  | null negated => cases negated <;> decide
  | member => decide

/-! ## Expressions on their own -/

namespace Filter

theorem Token.scan_of_isExpression {text : String} (h : IsExpression text) :
    Token.scan text = [⟨.expression text, ⟨0, Text.byteLength text.toList⟩⟩] := by
  have hnone : ∀ c ∈ ([] : List Char), Text.isBlank c := by simp
  have hscan := Token.scanFrom_of_isExpression 0 h hnone hnone
  simpa [Token.scan, Text.byteLength] using hscan

/-- An expression alone is a tree. -/
theorem Tree.parse_of_isExpression {text : String} (h : IsExpression text) (limit : DepthLimit) :
    Tree.parse limit text = .ok (some (.leaf text ⟨0, Text.byteLength text.toList⟩)) := by
  rw [Tree.parse, Token.scan_of_isExpression h]
  rfl

end Filter

/-- The parts of an expression make one token if none of them holds a connective or a bracket, and
there is no white space in front of the operator or behind the value. -/
theorem Expression.isExpression_text {e : Expression}
    (hoperator : ∀ c ∈ e.operator.toList, c ∉ ['(', ')', '&', '|'])
    (hkey : ∀ c ∈ e.key.toList, c ∉ ['(', ')', '&', '|'])
    (hvalue : ∀ c ∈ e.value.toList, c ∉ ['(', ')', '&', '|'])
    (hfirst : ∀ c ∈ e.operator.toList.head?, Text.isBlank c = false)
    (hlast : ∀ c ∈ e.value.toList.getLast?, Text.isBlank c = false) :
    Filter.IsExpression e.text := by
  -- A colon stands at either end if there is nothing else.
  have hcolon : Text.isBlank ':' = false := by decide
  have hhead : e.text.toList.head? = some (e.operator.toList.head?.getD ':') := by
    rw [toList_text, List.head?_append]
    cases e.operator.toList.head? <;> rfl
  have hend : e.text.toList.getLast? = some (e.value.toList.getLast?.getD ':') := by
    rw [toList_text, List.getLast?_append, List.getLast?_cons, List.getLast?_append]
    simp [List.getLast?_cons]
  refine ⟨?_, ?_, ?_, ?_⟩
  · intro hnone
    rw [hnone] at hhead
    cases hhead
  · rw [hhead]
    rintro _ ⟨⟩
    cases hfront : e.operator.toList.head? with
    | none => exact hcolon
    | some c => exact hfirst c hfront
  · rw [hend]
    rintro _ ⟨⟩
    cases hback : e.value.toList.getLast? with
    | none => exact hcolon
    | some c => exact hlast c hback
  · rw [toList_text]
    simp only [List.forall_mem_append, List.forall_mem_cons]
    exact ⟨hoperator, by decide, hkey, by decide, hvalue⟩

/-! ## Conditions -/

namespace Field

variable {field : Field}

/-- A text that is compared for equality stands for itself in quotes. -/
theorem condition_quoted (htype : field.type = .text) {op : Comparison}
    (hop : op = .eq ∨ op = .ne) (s : String) :
    field.condition (.compare op) ("\"" ++ s ++ "\"") =
      .ok (.comparison field.column op (.text s)) := by
  have hadmits : field.type.admits (.compare op) := by
    rw [htype]
    rcases hop with rfl | rfl <;> rfl
  have hliteral : field.literal ("\"" ++ s ++ "\"") = .ok (.text s) := by
    rw [literal, htype]
    simp only [unquote_quoted]
  rw [condition_compare hadmits, hliteral]
  rfl

/-- A membership test looks for a value as it stands. -/
theorem condition_member (field : Field) (s : String) :
    field.condition .member s = .ok (.member field.column (.text s)) := by
  have hadmits : field.type.admits .member := by cases field.type <;> rfl
  rw [condition, if_pos hadmits]

end Field

namespace Registry

variable {r : Registry} {field : Field}

/-- The predicate of an expression is the condition on its field. -/
theorem expression_text (hfield : r.get? field.key = some field) (hkey : ':' ∉ field.key.toList)
    (operation : Operation) (value : String) :
    r.expression (Expression.text ⟨operation.name, field.key, value⟩) =
      field.condition operation value := by
  have hoperator : ':' ∉ operation.name.toList := fun hc =>
    (operation.name_plain ':' hc).1 (by simp)
  let e : Expression := ⟨operation.name, field.key, value⟩
  have hparts : e.IsIn e.text := ⟨rfl, hoperator, hkey⟩
  have hname : operation.name = e.operator := rfl
  rw [expression_of_parts hparts hfield hname]

/-- A filter of a single expression is the condition on its field, with the value as it was
written. -/
theorem filter_text (hfield : r.get? field.key = some field)
    (hkey : ∀ c ∈ field.key.toList, c ∉ [':', '(', ')', '&', '|']) (operation : Operation)
    {value : String} (hvalue : ∀ c ∈ value.toList, c ∉ ['(', ')', '&', '|'])
    (hlast : ∀ c ∈ value.toList.getLast?, Text.isBlank c = false) (limit : Filter.DepthLimit) :
    r.filter limit (Expression.text ⟨operation.name, field.key, value⟩) =
      (field.condition operation value).map some := by
  have hplain : ∀ c : Char, c ∉ [':', '(', ')', '&', '|'] → c ∉ ['(', ')', '&', '|'] :=
    fun c hc hmem => hc (List.mem_cons_of_mem _ hmem)
  have hexpression : Filter.IsExpression (Expression.text ⟨operation.name, field.key, value⟩) :=
    Expression.isExpression_text (fun c hc => hplain c (operation.name_plain c hc).1)
      (fun c hc => hplain c (hkey c hc)) hvalue
      (fun c hc => (operation.name_plain c (List.mem_of_mem_head? hc)).2) hlast
  have hcolon : ':' ∉ field.key.toList := fun hc => hkey ':' hc (by simp)
  rw [filter_of_parse (Filter.Tree.parse_of_isExpression hexpression limit)]
  exact congrArg _ (expression_text hfield hcolon operation value)

/-- A text field is compared with exactly the text that stands in quotes, whatever colons and quotes
are in it and whatever white space is at its ends.  A membership test looks for exactly the text that
stands there without quotes, if that does not end with white space. -/
theorem filter_keeps_value (r : Registry) (limit : Filter.DepthLimit) (field : Field)
    (hfield : r.get? field.key = some field) (htype : field.type = .text)
    (hkey : ∀ c ∈ field.key.toList, c ∉ [':', '(', ')', '&', '|'])
    (s : String) (hs : ∀ c ∈ s.toList, c ∉ ['(', ')', '&', '|']) :
    r.filter limit ("eq:" ++ field.key ++ ":\"" ++ s ++ "\"") =
        .ok (some (.comparison field.column .eq (.text s))) ∧
      r.filter limit ("neq:" ++ field.key ++ ":\"" ++ s ++ "\"") =
        .ok (some (.comparison field.column .ne (.text s))) ∧
      ((∀ c ∈ s.toList.getLast?, Text.isBlank c = false) →
        r.filter limit ("is-member-of:" ++ field.key ++ ":" ++ s) =
          .ok (some (.member field.column (.text s)))) := by
  have hquoted : ∀ c ∈ ("\"" ++ s ++ "\"").toList, c ∉ ['(', ')', '&', '|'] := by
    have hquote : ∀ c ∈ "\"".toList, c ∉ ['(', ')', '&', '|'] :=
      List.all_iff_forall_prop.mp (by decide)
    simp only [String.toList_append, List.forall_mem_append]
    exact ⟨⟨hquote, hs⟩, hquote⟩
  have hend : ∀ c ∈ ("\"" ++ s ++ "\"").toList.getLast?, Text.isBlank c = false := by
    intro c hc
    rw [String.toList_append, List.getLast?_append] at hc
    cases hc
    decide
  have hcompare : ∀ op, op = Comparison.eq ∨ op = .ne →
      r.filter limit (op.name ++ ":" ++ field.key ++ ":\"" ++ s ++ "\"") =
        .ok (some (.comparison field.column op (.text s))) := by
    intro op hop
    have htext : op.name ++ ":" ++ field.key ++ ":\"" ++ s ++ "\"" =
        Expression.text ⟨op.name, field.key, "\"" ++ s ++ "\""⟩ := by
      rw [← String.toList_inj, Expression.toList_text]
      simp
    have hfilter := filter_text hfield hkey (.compare op) hquoted hend limit
    rw [Field.condition_quoted htype hop] at hfilter
    rw [htext]
    exact hfilter
  refine ⟨hcompare .eq (Or.inl rfl), hcompare .ne (Or.inr rfl), ?_⟩
  intro hlast
  have hfilter := filter_text hfield hkey .member hs hlast limit
  rw [Field.condition_member] at hfilter
  exact hfilter

/-- A key with a space, and a value with a space in front, colons, quotes and a character of two
bytes. -/
theorem filter_keeps_value_name :
    let field : Field := ⟨"full name", "u.name", .text⟩
    let users : Registry := ⟨[⟨"id", "u.id", .number⟩, field], []⟩
    let s := " a::\"é\""
    users.get? field.key = some field ∧ field.type = .text ∧
      (∀ c ∈ field.key.toList, c ∉ [':', '(', ')', '&', '|']) ∧
      (∀ c ∈ s.toList, c ∉ ['(', ')', '&', '|']) ∧
      (∀ c ∈ s.toList.getLast?, Text.isBlank c = false) ∧
      users.filter .standard "eq:full name:\" a::\"é\"\"" =
        .ok (some (.comparison "u.name" .eq (.text s))) ∧
      users.filter .standard "is-member-of:full name: a::\"é\"" =
        .ok (some (.member "u.name" (.text s))) := by
  intro field users s
  have hfield : users.get? field.key = some field := by decide
  have hkey : ∀ c ∈ field.key.toList, c ∉ [':', '(', ')', '&', '|'] :=
    List.all_iff_forall_prop.mp (by decide)
  have hs : ∀ c ∈ s.toList, c ∉ ['(', ')', '&', '|'] := List.all_iff_forall_prop.mp (by decide)
  have hlast : ∀ c ∈ s.toList.getLast?, Text.isBlank c = false := by
    have hquote : s.toList.getLast? = some '"' := by decide
    rw [hquote]
    rintro _ ⟨⟩
    decide
  obtain ⟨heq, -, hmember⟩ := filter_keeps_value users .standard field hfield rfl hkey s hs
  exact ⟨hfield, rfl, hkey, hs, hlast, heq, hmember hlast⟩

end Registry

end Sift
