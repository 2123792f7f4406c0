import Sift.Proofs.Compile.Parts
import Sift.Proofs.Failure

/-!
# Why an expression is refused

An expression goes through four checks, and the first that it fails is the reason that is given
(`Registry.Refuses`).

* It has three parts, the first two of which hold no colon (`Expression.parse_eq_ok_iff`).
* Its key is registered.
* Its operator is one of eleven names (`Operation.parse_eq_ok_iff`).
* The type of the field has the operation (`FieldType.Offers`), and in a comparison with a number or
  a datetime the value is one (`Field.condition_eq_error_iff`).

What passes all four is accepted (`Registry.Accepts`), and nothing is both
(`Registry.expression_outcome`).
-/

namespace Sift

variable {text : String} {error : QueryError}

/-! ## Types -/

/-- The operations that the fields of a type have. -/
inductive FieldType.Offers : FieldType → Operation → Prop where
  | equality (type : FieldType) {op : Comparison} (hop : op = .eq ∨ op = .ne) :
    Offers type (.compare op)
  | order {type : FieldType} (htype : type = .number ∨ type = .datetime) (op : Comparison) :
    Offers type (.compare op)
  | pattern (negated : Bool) : Offers .text (.like negated)
  | null (type : FieldType) (negated : Bool) : Offers type (.null negated)
  | member (type : FieldType) : Offers type .member

theorem FieldType.admits_iff {type : FieldType} {operation : Operation} :
    type.admits operation ↔ type.Offers operation := by
  constructor
  · intro h
    cases operation with
    | compare op =>
      cases op with
      | eq => exact .equality type (.inl rfl)
      | ne => exact .equality type (.inr rfl)
      | lt | le | gt | ge => exact .order (by simpa [admits] using h) _
    | like negated =>
      have htype : type = .text := by simpa [admits] using h
      rw [htype]
      exact .pattern negated
    | null negated => exact .null type negated
    | member => exact .member type
  · intro h
    cases h with
    | equality type hop => rcases hop with rfl | rfl <;> rfl
    | order htype op => rcases htype with rfl | rfl <;> cases op <;> rfl
    | pattern | null | member => rfl

/-! ## Values -/

/-- The value is one of the type.  A text or a boolean can have any. -/
def FieldType.Reads (type : FieldType) (value : String) : Prop :=
  (type = .number → Decimal.parseTrimmed? value ≠ none) ∧
    (type = .datetime → Instant.parse? (unquote value) ≠ none)

namespace Field

variable {field : Field} {operation : Operation} {raw : String}

theorem literal_eq_error_iff : field.literal raw = .error error ↔
    (field.type = .number ∧ Decimal.parseTrimmed? raw = none ∧
      error = .notNumber field.key raw) ∨
    (field.type = .datetime ∧ Instant.parse? (unquote raw) = none ∧
      error = .notDatetime field.key (unquote raw)) := by
  unfold literal
  cases field.type with
  | number => cases Decimal.parseTrimmed? raw <;> simp [eq_comm]
  | text | boolean => simp
  | datetime => cases Instant.parse? (unquote raw) <;> simp [eq_comm]

theorem exists_literal_iff : (∃ v, field.literal raw = .ok v) ↔ field.type.Reads raw := by
  unfold literal FieldType.Reads
  cases field.type with
  | number => cases Decimal.parseTrimmed? raw <;> simp
  | text | boolean => simp
  | datetime => cases Instant.parse? (unquote raw) <;> simp

/-- An operation that the type does not have goes before a value that is none. -/
theorem condition_eq_error_iff : field.condition operation raw = .error error ↔
    (¬field.type.Offers operation ∧ error = .unsupportedOperation operation field) ∨
    (field.type.Offers operation ∧ ∃ op, operation = .compare op ∧
      field.literal raw = .error error) := by
  rw [← FieldType.admits_iff]
  unfold condition
  by_cases hadmits : field.type.admits operation
  · rw [if_pos hadmits]
    cases operation with
    | compare op =>
      cases field.literal raw <;> simp [hadmits, bind, Except.bind]
    | like negated | null negated | member => simp [hadmits]
  · rw [if_neg hadmits]
    simp [hadmits, eq_comm]

/-- There is a condition exactly if the type has the operation and, in a comparison, the value is
one of the type. -/
theorem exists_condition_iff : (∃ p, field.condition operation raw = .ok p) ↔
    field.type.Offers operation ∧ ∀ op, operation = .compare op → field.type.Reads raw := by
  rw [exists_eq_ok_iff]
  constructor
  · intro h
    have hoffers : field.type.Offers operation := by
      by_contra hnone
      exact h _ (condition_eq_error_iff.mpr (.inl ⟨hnone, rfl⟩))
    refine ⟨hoffers, fun op hop => exists_literal_iff.mp (exists_eq_ok_iff.mpr fun e he => ?_)⟩
    exact h e (condition_eq_error_iff.mpr (.inr ⟨hoffers, op, hop, he⟩))
  · rintro ⟨hoffers, hvalue⟩ e he
    rcases condition_eq_error_iff.mp he with ⟨hnone, -⟩ | ⟨-, op, hop, hliteral⟩
    · exact hnone hoffers
    · exact exists_eq_ok_iff.mp (exists_literal_iff.mpr (hvalue op hop)) e hliteral

end Field

/-! ## Expressions -/

namespace Registry

variable {r : Registry}

/-- Why an expression is refused. -/
inductive Refuses (r : Registry) (text : String) : QueryError → Prop where
  | malformed (hcount : text.toList.count ':' < 2) : Refuses r text (.malformedExpression text)
  | unknownField {e : Expression} (hparts : e.IsIn text)
    (hkey : ∀ field ∈ r.fields, field.key ≠ e.key) :
    Refuses r text (.unknownField .filter e.key)
  | unknownOperation {e : Expression} {field : Field} (hparts : e.IsIn text)
    (hkey : r.get? e.key = some field) (hoperator : e.operator ∉ Operation.names) :
    Refuses r text (.unknownOperation e.operator)
  | unsupported {e : Expression} {field : Field} {operation : Operation} (hparts : e.IsIn text)
    (hkey : r.get? e.key = some field) (hoperator : operation.name = e.operator)
    (htype : ¬field.type.Offers operation) :
    Refuses r text (.unsupportedOperation operation field)
  | notNumber {e : Expression} {field : Field} {op : Comparison} (hparts : e.IsIn text)
    (hkey : r.get? e.key = some field) (hoperator : op.name = e.operator)
    (htype : field.type = .number) (hvalue : Decimal.parseTrimmed? e.value = none) :
    Refuses r text (.notNumber e.key e.value)
  | notDatetime {e : Expression} {field : Field} {op : Comparison} (hparts : e.IsIn text)
    (hkey : r.get? e.key = some field) (hoperator : op.name = e.operator)
    (htype : field.type = .datetime) (hvalue : Instant.parse? (unquote e.value) = none) :
    Refuses r text (.notDatetime e.key (unquote e.value))

/-- The expression can be compiled: it names a field and an operation of its type, and a comparison
has a value of that type. -/
def Accepts (r : Registry) (text : String) : Prop :=
  ∃ e : Expression, e.IsIn text ∧ ∃ field, r.get? e.key = some field ∧
    ∃ operation : Operation, operation.name = e.operator ∧ field.type.Offers operation ∧
      ∀ op, operation = .compare op → field.type.Reads e.value

theorem expression_eq_error_of_refuses (h : r.Refuses text error) :
    r.expression text = .error error := by
  cases h with
  | malformed hcount =>
    rw [expression, Expression.parse_eq_error_iff.mpr ⟨hcount, rfl⟩]
    rfl
  | unknownField hparts hkey =>
    rw [expression_of_isIn hparts,
      lookup_eq_error_iff.mpr ⟨get?_eq_none_iff_forall.mpr hkey, rfl⟩]
    rfl
  | unknownOperation hparts hkey hoperator =>
    rw [expression_of_isIn hparts, lookup_eq_ok_iff.mpr hkey]
    show (Operation.parse _ >>= _) = _
    rw [Operation.parse_eq_error_iff.mpr ⟨hoperator, rfl⟩]
    rfl
  | unsupported hparts hkey hoperator htype =>
    rw [expression_of_parts hparts hkey hoperator]
    exact Field.condition_eq_error_iff.mpr (.inl ⟨htype, rfl⟩)
  | @notNumber e field op hparts hkey hoperator htype hvalue =>
    have hoffers : field.type.Offers (.compare op) := .order (.inl htype) op
    have hcompare : (Operation.compare op).name = e.operator := hoperator
    rw [expression_of_parts hparts hkey hcompare, ← key_of_get? hkey]
    exact Field.condition_eq_error_iff.mpr (.inr ⟨hoffers, op, rfl,
      Field.literal_eq_error_iff.mpr (.inl ⟨htype, hvalue, rfl⟩)⟩)
  | @notDatetime e field op hparts hkey hoperator htype hvalue =>
    have hoffers : field.type.Offers (.compare op) := .order (.inr htype) op
    have hcompare : (Operation.compare op).name = e.operator := hoperator
    rw [expression_of_parts hparts hkey hcompare, ← key_of_get? hkey]
    exact Field.condition_eq_error_iff.mpr (.inr ⟨hoffers, op, rfl,
      Field.literal_eq_error_iff.mpr (.inr ⟨htype, hvalue, rfl⟩)⟩)

theorem refuses_of_expression_eq_error (h : r.expression text = .error error) :
    r.Refuses text error := by
  rcases of_bind_eq_error h with hparse | ⟨e, hparse, h⟩
  · obtain ⟨hcount, rfl⟩ := Expression.parse_eq_error_iff.mp hparse
    exact .malformed hcount
  have hparts : e.IsIn text := Expression.parse_eq_ok_iff.mp hparse
  rcases of_bind_eq_error h with hlookup | ⟨field, hlookup, h⟩
  · obtain ⟨hnone, rfl⟩ := lookup_eq_error_iff.mp hlookup
    exact .unknownField hparts (get?_eq_none_iff_forall.mp hnone)
  have hkey : r.get? e.key = some field := lookup_eq_ok_iff.mp hlookup
  rcases of_bind_eq_error h with hoperator | ⟨operation, hoperator, hcondition⟩
  · obtain ⟨hnone, rfl⟩ := Operation.parse_eq_error_iff.mp hoperator
    exact .unknownOperation hparts hkey hnone
  have hname : operation.name = e.operator := Operation.parse_eq_ok_iff.mp hoperator
  rcases Field.condition_eq_error_iff.mp hcondition with ⟨htype, rfl⟩ | ⟨-, op, rfl, hliteral⟩
  · exact .unsupported hparts hkey hname htype
  rw [Field.literal_eq_error_iff, key_of_get? hkey] at hliteral
  rcases hliteral with ⟨htype, hvalue, rfl⟩ | ⟨htype, hvalue, rfl⟩
  · exact .notNumber hparts hkey hname htype hvalue
  · exact .notDatetime hparts hkey hname htype hvalue

/-- An expression is refused with the first reason that there is. -/
theorem expression_eq_error_iff : r.expression text = .error error ↔ r.Refuses text error :=
  ⟨refuses_of_expression_eq_error, expression_eq_error_of_refuses⟩

/-- An expression compiles exactly if it is accepted. -/
theorem exists_expression_iff : (∃ p, r.expression text = .ok p) ↔ r.Accepts text := by
  constructor
  · rintro ⟨p, h⟩
    obtain ⟨e, hparse, h⟩ := exists_of_bind_eq_ok h
    obtain ⟨field, hlookup, h⟩ := exists_of_bind_eq_ok h
    obtain ⟨operation, hoperator, h⟩ := exists_of_bind_eq_ok h
    exact ⟨e, Expression.parse_eq_ok_iff.mp hparse, field, lookup_eq_ok_iff.mp hlookup, operation,
      Operation.parse_eq_ok_iff.mp hoperator, Field.exists_condition_iff.mp ⟨p, h⟩⟩
  · rintro ⟨e, hparts, field, hkey, operation, hoperator, hcondition⟩
    rw [expression_of_parts hparts hkey hoperator]
    exact Field.exists_condition_iff.mpr hcondition

/-- How an expression is answered.

* It is refused with the one reason that `Refuses` lists for it: it has fewer than two colons; or
  its key is not registered; or its operator is none of the eleven names; or the type of the field
  does not have the operation; or it is a comparison of a number or a datetime with a value that is
  none.
* It compiles in every other case, and these are the cases that `Accepts` describes. -/
theorem expression_outcome (r : Registry) (text : String) :
    (∀ error, r.expression text = .error error ↔ r.Refuses text error) ∧
    ((∃ p, r.expression text = .ok p) ↔ ∀ error, ¬r.Refuses text error) ∧
    ((∃ p, r.expression text = .ok p) ↔ r.Accepts text) := by
  refine ⟨fun error => expression_eq_error_iff, ?_, exists_expression_iff⟩
  simp only [exists_eq_ok_iff, ne_eq, expression_eq_error_iff]

/-- An expression with every fault there can be but one too few colons is refused for its key. -/
example : (Registry.mk [⟨"id", "u.id", .number⟩] []).expression "bogus:age:five" =
    .error (.unknownField .filter "age") := by decide +kernel

end Registry

end Sift
