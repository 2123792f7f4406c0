import Sift.Compile
import Sift.Proofs.Text.Cutting

/-!
# The parts of an expression

Each part of an expression is read on its own, and each of the readers is exact in both directions:
what it gives is characterised, and so is when it fails and with which error.

* The parts end at the first two colons (`Expression.parse_eq_ok_iff`).  Without two colons there
  are none (`Expression.parse_eq_error_iff`).
* The operator is one of eleven names (`Operation.parse_eq_ok_iff`, `Operation.parse_eq_error_iff`).
* The key is that of a field (`Registry.lookup_eq_ok_iff`, `Registry.lookup_eq_error_iff`).  A
  failed lookup blames whichever part of the query it is made for.

An expression whose parts are known compiles to the condition on its field
(`Registry.expression_of_parts`).
-/

namespace Sift

/-! ## Three parts -/

/-- The text of an expression. -/
def Expression.text (e : Expression) : String :=
  e.operator ++ ":" ++ e.key ++ ":" ++ e.value

variable {text : String} {error : QueryError}

/-- The expression is what the text says.  The operator and the key end at the first two colons, so
all further ones are in the value. -/
structure Expression.IsIn (e : Expression) (text : String) : Prop where
  text_eq : text = e.text
  operator_plain : ':' ∉ e.operator.toList
  key_plain : ':' ∉ e.key.toList

namespace Expression

variable {e : Expression}

theorem toList_text (e : Expression) :
    e.text.toList = e.operator.toList ++ ':' :: (e.key.toList ++ ':' :: e.value.toList) := by
  simp [text]

theorem IsIn.two_le_count (h : e.IsIn text) : 2 ≤ text.toList.count ':' := by
  rw [h.text_eq, toList_text, List.count_append, List.count_cons_self, List.count_append,
    List.count_cons_self]
  omega

theorem parse?_eq_some_iff : parse? text = some e ↔ e.IsIn text := by
  constructor
  · intro h
    obtain ⟨⟨operator, rest⟩, hfirst, h⟩ := Option.bind_eq_some_iff.mp h
    obtain ⟨⟨key, value⟩, hsecond, h⟩ := Option.bind_eq_some_iff.mp h
    cases h
    obtain ⟨htext, hoperator⟩ := Text.cut_eq_some_iff.mp hfirst
    obtain ⟨rfl, hkey⟩ := Text.cut_eq_some_iff.mp hsecond
    refine ⟨?_, by simpa using hoperator, by simpa using hkey⟩
    rw [← String.toList_inj, toList_text, htext]
    simp only [String.toList_ofList]
  · rintro ⟨rfl, hoperator, hkey⟩
    rw [parse?, toList_text, Text.cut_append hoperator]
    simp [Text.cut_append hkey]

/-- A text has the three parts exactly if it has two colons. -/
theorem exists_isIn_iff : (∃ e : Expression, e.IsIn text) ↔ 2 ≤ text.toList.count ':' := by
  constructor
  · rintro ⟨e, he⟩
    exact he.two_le_count
  · intro h
    have hcolon : 0 < text.toList.count ':' := by omega
    obtain ⟨operator, rest, hfirst, hcount⟩ := Text.exists_cut_of_count hcolon
    have hcolon' : 0 < rest.count ':' := by omega
    obtain ⟨key, value, hsecond, -⟩ := Text.exists_cut_of_count hcolon'
    have hparse : parse? text =
        some ⟨String.ofList operator, String.ofList key, String.ofList value⟩ := by
      simp [parse?, hfirst, hsecond]
    exact ⟨_, parse?_eq_some_iff.mp hparse⟩

theorem parse_eq_ok_iff : parse text = .ok e ↔ e.IsIn text := by
  rw [← parse?_eq_some_iff, parse]
  cases parse? text <;> simp

theorem parse_eq_error_iff :
    parse text = .error error ↔
      text.toList.count ':' < 2 ∧ error = .malformedExpression text := by
  rw [← Nat.not_le, ← exists_isIn_iff]
  simp only [← parse?_eq_some_iff, parse]
  cases parse? text <;> simp [eq_comm]

end Expression

/-! ## Operators -/

namespace Operation

variable {name : String} {operation : Operation}

/-- The names that an operator can have. -/
def names : List String :=
  ["eq", "neq", "like", "not-like", "lt", "lte", "gt", "gte", "is-null", "is-not-null",
    "is-member-of"]

theorem mem_all (operation : Operation) : operation ∈ all := by
  cases operation with
  | compare op => cases op <;> decide
  | like negated => cases negated <;> decide
  | null negated => cases negated <;> decide
  | member => decide

theorem mem_names_iff : name ∈ names ↔ ∃ operation : Operation, operation.name = name := by
  have hnames : names = all.map Operation.name := rfl
  simp [hnames, mem_all]

theorem ofName?_name (operation : Operation) : ofName? operation.name = some operation := by
  cases operation with
  | compare op => cases op <;> rfl
  | like negated => cases negated <;> rfl
  | null negated => cases negated <;> rfl
  | member => rfl

theorem ofName?_eq_some_iff : ofName? name = some operation ↔ operation.name = name := by
  constructor
  · intro h
    simpa using List.find?_some h
  · rintro rfl
    exact ofName?_name operation

theorem parse_eq_ok_iff : parse name = .ok operation ↔ operation.name = name := by
  rw [← ofName?_eq_some_iff, parse]
  cases ofName? name <;> simp

theorem parse_eq_error_iff :
    parse name = .error error ↔ name ∉ names ∧ error = .unknownOperation name := by
  rw [mem_names_iff]
  simp only [← ofName?_eq_some_iff, parse]
  cases ofName? name <;> simp [eq_comm]

end Operation

namespace Registry

variable {r : Registry} {clause : Clause} {key : String} {field : Field}

/-! ## Keys -/

/-- A key is registered if a field has it. -/
theorem get?_eq_none_iff_forall : r.get? key = none ↔ ∀ field ∈ r.fields, field.key ≠ key := by
  simp [get?]

theorem key_of_get? (h : r.get? key = some field) : field.key = key := by
  simpa using List.find?_some h

theorem lookup_eq_ok_iff : r.lookup clause key = .ok field ↔ r.get? key = some field := by
  rw [lookup]
  cases r.get? key <;> simp

theorem lookup_eq_error_iff :
    r.lookup clause key = .error error ↔
      r.get? key = none ∧ error = .unknownField clause key := by
  rw [lookup]
  cases r.get? key <;> simp [eq_comm]

/-- A field that is looked up successfully is registered. -/
theorem mem_of_lookup (h : r.lookup clause key = .ok field) : field ∈ r.fields :=
  List.mem_of_find?_eq_some (lookup_eq_ok_iff.mp h)

/-! ## Expressions in parts -/

theorem expression_of_isIn {e : Expression} (h : e.IsIn text) :
    r.expression text = (do
      let field ← r.lookup .filter e.key
      let operation ← Operation.parse e.operator
      field.condition operation e.value) := by
  rw [expression, Expression.parse_eq_ok_iff.mpr h]
  rfl

/-- What an expression compiles to once its parts are known. -/
theorem expression_of_parts {e : Expression} {operation : Operation} (hparts : e.IsIn text)
    (hkey : r.get? e.key = some field) (hoperator : operation.name = e.operator) :
    r.expression text = field.condition operation e.value := by
  rw [expression_of_isIn hparts, lookup_eq_ok_iff.mpr hkey]
  show (Operation.parse e.operator >>= _) = _
  rw [Operation.parse_eq_ok_iff.mpr hoperator]
  rfl

end Registry

end Sift
