import Mathlib.Tactic.NormNum
import Sift.Field.Condition
import Sift.Proofs.Binary64.Exact
import Sift.Proofs.Compile.TypedRecords
import Sift.Proofs.Decimal.Numerals

/-!
# Comparisons of numbers are exact

`Value.Denotes` says which number a value stands for, without a word on how it is computed: a float
stands for its exact binary value and a text for what it denotes as a numeral.  A condition on a
field of numbers, made from any numeral, compares these numbers as rational numbers
(`Field.number_comparison`).  So it makes no difference by what kind of value or by which numeral
the same number is given.
-/

namespace Sift

/-! ## Comparisons of rational numbers -/

namespace Comparison

/-- The relation between two numbers that a comparison asks for. -/
def Holds : Comparison → ℚ → ℚ → Prop
  | .eq, a, b => a = b
  | .ne, a, b => a ≠ b
  | .lt, a, b => a < b
  | .le, a, b => a ≤ b
  | .gt, a, b => a > b
  | .ge, a, b => a ≥ b

instance (op : Comparison) (a b : ℚ) : Decidable (op.Holds a b) :=
  match op with
  | .eq => inferInstanceAs (Decidable (a = b))
  | .ne => inferInstanceAs (Decidable (a ≠ b))
  | .lt => inferInstanceAs (Decidable (a < b))
  | .le => inferInstanceAs (Decidable (a ≤ b))
  | .gt => inferInstanceAs (Decidable (a > b))
  | .ge => inferInstanceAs (Decidable (a ≥ b))

theorem holds_iff (op : Comparison) (a b : ℚ) :
    op.holds (Ord.compare a b) ↔ op.Holds a b := by
  cases op with
  | eq => simp [holds, Holds]
  | ne => simp [holds, Holds]
  | lt => simp [holds, Holds, compare_lt_iff_lt]
  | le => simp [holds, Holds, compare_gt_iff_gt]
  | gt => simp [holds, Holds, compare_gt_iff_gt]
  | ge => simp [holds, Holds, compare_lt_iff_lt]

end Comparison

/-! ## Numbers of values -/

theorem Decimal.toRat_ofInt (n : ℤ) : (ofInt n).toRat = n := by
  simp [ofInt, toRat]

namespace Value

/-- The number that a value stands for. -/
def Denotes : Value → ℚ → Prop
  | .int n, x => x = n
  | .float f, x => (Binary64.ofFloat f).toRat? = some x
  | .decimal d, x => x = d.toRat
  | .text s, x => Decimal.Denotes (Text.trim s.toList) x
  | .boolean b, x => x = if b then 1 else 0
  | .null, _ => False
  | .timestamp _, _ => False
  | .list _, _ => False

theorem denotes_iff {v : Value} {x : ℚ} :
    v.Denotes x ↔ ∃ d, v.decimal? = some d ∧ d.toRat = x := by
  cases v with
  | int n => simp [Denotes, decimal?, Decimal.toRat_ofInt, eq_comm]
  | float f => simp [Denotes, decimal?, ← Binary64.toRat_toDecimal?]
  | decimal d => simp [Denotes, decimal?, eq_comm]
  | text s => exact Decimal.denotes_iff
  | boolean b => cases b <;> simp [Denotes, decimal?, Decimal.toRat_ofInt, eq_comm]
  | null | timestamp t | list items => simp [Denotes, decimal?]

theorem exists_denotes_iff {v : Value} : (∃ x, v.Denotes x) ↔ v.decimal?.isSome := by
  simp [denotes_iff, Option.isSome_iff_exists]

end Value

/-! ## Conditions -/

namespace Field

variable {field : Field}

theorem condition_number (htype : field.type = .number) (op : Comparison) (raw : String) :
    field.condition (.compare op) raw =
      match Decimal.parseTrimmed? raw with
      | some n => .ok (.comparison field.column op (.number n))
      | none => .error (.notNumber field.key raw) := by
  rw [condition_compare (FieldType.admits_compare (.inl htype) op)]
  simp only [literal, htype]
  cases Decimal.parseTrimmed? raw <;> rfl

/-- A condition on a field of numbers compares as rational numbers the number in the column and the
number that the raw value denotes.  Where the column stands for no number, as a null, a float that
is not finite and a text that is no numeral do, it is unknown.  A raw value that denotes no number
is refused. -/
theorem number_comparison (htype : field.type = .number) (op : Comparison) (raw : String) :
    ((¬∃ x, Decimal.Denotes (Text.trim raw.toList) x) →
      field.condition (.compare op) raw = .error (.notNumber field.key raw)) ∧
    ∀ x, Decimal.Denotes (Text.trim raw.toList) x →
      ∃ p, field.condition (.compare op) raw = .ok p ∧
        ∀ record : Record,
          (∀ v, (record.get field.column).Denotes v →
            p.truth record = some (decide (op.Holds v x))) ∧
          ((¬∃ v, (record.get field.column).Denotes v) → p.truth record = none) := by
  rw [condition_number htype]
  refine ⟨fun hnone => ?_, fun x hx => ?_⟩
  · have hparse : Decimal.parseTrimmed? raw = none := by
      refine Option.eq_none_iff_forall_ne_some.mpr fun d hd => ?_
      exact hnone ⟨_, Decimal.denotes_iff.mpr ⟨d, hd, rfl⟩⟩
    rw [hparse]
  · obtain ⟨n, hparse, rfl⟩ := Decimal.denotes_iff.mp hx
    have hparse : Decimal.parseTrimmed? raw = some n := hparse
    rw [hparse]
    refine ⟨_, rfl, fun record => ⟨fun v hv => ?_, fun hnone => ?_⟩⟩
    · obtain ⟨d, hd, rfl⟩ := Value.denotes_iff.mp hv
      have hholds : op.holds (d.compare n) = decide (op.Holds d.toRat n.toRat) := by
        rw [Decimal.compare_eq, Bool.eq_iff_iff, Comparison.holds_iff, decide_eq_true_iff]
      simp [Predicate.truth, Value.compareLiteral?_number, hd, hholds]
    · have hdecimal : (record.get field.column).decimal? = none := by
        simpa [Value.exists_denotes_iff] using hnone
      simp [Predicate.truth, Value.compareLiteral?_number, hdecimal]

/-- Two and a half in four spellings, a larger number, and a text that is no numeral. -/
theorem number_comparison_spellings :
    let field : Field := ⟨"price", "amount", .number⟩
    let record (v : Value) : Record := ⟨[("amount", v)]⟩
    ∃ p, field.condition (.compare .le) " 25e-1" = .ok p ∧
      p.truth (record (.text "+2.5_0 ")) = some true ∧
      p.truth (record (.decimal ⟨250, 2⟩)) = some true ∧
      p.truth (record (.float (.ofBits 0x4004000000000000))) = some true ∧
      p.truth (record (.int 3)) = some false ∧
      p.truth (record (.text "2.5.0")) = none := by
  intro field record
  have hraw : Decimal.Denotes (Text.trim " 25e-1".toList) (5 / 2) :=
    Decimal.denotes_iff.mpr ⟨⟨25, 1⟩, by decide +kernel, by norm_num [Decimal.toRat]⟩
  have hget (v : Value) : (record v).get field.column = v := by
    simp only [record, field, Record.get, List.find?_cons_of_pos, beq_self_eq_true]
  have htype : field.type = .number := rfl
  obtain ⟨p, hp, htruth⟩ := (number_comparison htype .le " 25e-1").2 _ hraw
  have htrue (v : Value) (hv : v.Denotes (5 / 2)) : p.truth (record v) = some true := by
    rw [(htruth (record v)).1 (5 / 2) (by rw [hget]; exact hv)]
    exact congrArg some (decide_eq_true (le_refl (5 / 2 : ℚ)))
  refine ⟨p, hp, htrue _ ?_, htrue _ ?_, htrue _ ?_, ?_, ?_⟩
  · exact Decimal.denotes_iff.mpr ⟨⟨250, 2⟩, by decide +kernel, by norm_num [Decimal.toRat]⟩
  · norm_num [Value.Denotes, Decimal.toRat]
  · have hbits : (Binary64.ofFloat (.ofBits 0x4004000000000000)) =
        .finite false 0x14000000000000 (-51) := by decide +kernel
    norm_num [Value.Denotes, hbits, Binary64.toRat?]
  · rw [(htruth _).1 3 (by rw [hget]; norm_num [Value.Denotes])]
    exact congrArg some (decide_eq_false (by norm_num [Comparison.Holds]))
  · refine (htruth _).2 ?_
    rw [hget, Value.exists_denotes_iff]
    decide +kernel

end Field

end Sift
