import Sift.Proofs.Compile.Leaves
import Sift.Proofs.Value.Order
import Sift.Truth

/-!
# Records that fit their fields

A condition is unknown where a column has no value or one that cannot be compared with the literal.
`FieldType.fits` says which values belong in a column of a type.  On a record with such a value in
the column of every field, the conditions that a filter can put on the fields are known, with one
exception: a boolean is compared with a text, and that text may spell no boolean
(`Field.Allows.isSome_truth`).

A connective of known conditions is known (`Predicate.isSome_truth`), and so is a compiled filter
(`Registry.truth_known_of_fits`).
-/

namespace Sift

/-! ## Values of a type -/

/-- Whether a value belongs in a column of the type.  A null does not, nor does a float that is no
finite number. -/
def FieldType.fits : FieldType → Value → Bool
  | .number, .int _ => true
  | .number, .decimal _ => true
  | .number, .float x => (Binary64.ofFloat x).isFinite
  | .text, .text _ => true
  | .boolean, .boolean _ => true
  | .datetime, .timestamp _ => true
  | _, _ => false

namespace FieldType

variable {type : FieldType} {v : Value}

/-- Every float in a value of a type is finite. -/
theorem isFinite_of_fits (h : type.fits v) : v.isFinite := by
  cases v with
  | float x =>
    cases type with
    | number => exact h
    | _ => cases h
  | list items => cases type <;> cases h
  | _ => rfl

theorem rank_of_fits (h : number.fits v) : v.rank = 2 := by
  cases v <;> first | rfl | cases h

theorem exists_decimal?_of_fits (h : number.fits v) : ∃ d, v.decimal? = some d :=
  Value.exists_decimal? (rank_of_fits h) (isFinite_of_fits h)

theorem exists_text_of_fits (h : text.fits v) : ∃ s, v = .text s := by
  cases v with
  | text s => exact ⟨s, rfl⟩
  | _ => cases h

theorem exists_boolean_of_fits (h : boolean.fits v) : ∃ b, v = .boolean b := by
  cases v with
  | boolean b => exact ⟨b, rfl⟩
  | _ => cases h

theorem exists_timestamp_of_fits (h : datetime.fits v) : ∃ t, v = .timestamp t := by
  cases v with
  | timestamp t => exact ⟨t, rfl⟩
  | _ => cases h

theorem ne_null_of_fits (h : type.fits v) : v ≠ .null := by
  rintro rfl
  cases type <;> cases h

end FieldType

/-! ## Known conditions -/

/-- A number compares with every value that stands for one. -/
theorem Value.compareLiteral?_number (v : Value) (n : Decimal) :
    v.compareLiteral? (.number n) = v.decimal?.map fun d => d.compare n := by
  cases v <;> rfl

theorem Value.isSome_hasMember {v : Value} (hv : v ≠ .null) (literal : Literal) :
    (v.hasMember literal).isSome := by
  cases v with
  | null => exact absurd rfl hv
  | _ => rfl

/-- A condition on a field is known on a record with a fitting value in the column, unless it
compares a boolean with a text that spells none. -/
theorem Field.Allows.isSome_truth {field : Field} {leaf : Predicate} {record : Record}
    (h : field.Allows leaf) (hfits : field.type.fits (record.get field.column))
    (hboolean : field.type = .boolean → ∀ op s,
      leaf = .comparison field.column op (.text s) → (boolean? s).isSome) :
    (leaf.truth record).isSome := by
  cases h with
  | number htype op n =>
    rw [htype] at hfits
    obtain ⟨d, hd⟩ := FieldType.exists_decimal?_of_fits hfits
    simp [Predicate.truth, Value.compareLiteral?_number, hd]
  | datetime htype op t =>
    rw [htype] at hfits
    obtain ⟨u, hu⟩ := FieldType.exists_timestamp_of_fits hfits
    simp [Predicate.truth, hu, Value.compareLiteral?]
  | text htype op hop s =>
    rcases htype with htype | htype
    · rw [htype] at hfits
      obtain ⟨v, hv⟩ := FieldType.exists_text_of_fits hfits
      simp [Predicate.truth, hv, Value.compareLiteral?]
    · rw [htype] at hfits
      obtain ⟨b, hb⟩ := FieldType.exists_boolean_of_fits hfits
      have hspelled : (boolean? s).isSome := hboolean htype op s rfl
      simpa [Predicate.truth, hb, Value.compareLiteral?] using hspelled
  | like htype body hbody negated =>
    rw [htype] at hfits
    obtain ⟨v, hv⟩ := FieldType.exists_text_of_fits hfits
    simp [Predicate.truth, hv, Value.like, Value.text?]
  | null negated => rfl
  | member s => exact Value.isSome_hasMember (FieldType.ne_null_of_fits hfits) _

/-! ## Known predicates -/

theorem Connective.isSome_truth (c : Connective) {a b : Truth} (ha : a.isSome) (hb : b.isSome) :
    (c.truth a b).isSome := by
  obtain ⟨x, rfl⟩ := Option.isSome_iff_exists.mp ha
  obtain ⟨y, rfl⟩ := Option.isSome_iff_exists.mp hb
  cases c <;> cases x <;> cases y <;> rfl

/-- A predicate is known where all its leaves are. -/
theorem Predicate.isSome_truth {p : Predicate} {record : Record}
    (h : ∀ leaf ∈ p.leaves, (leaf.truth record).isSome) : (p.truth record).isSome := by
  induction p with
  | connect c left right ihl ihr =>
    obtain ⟨hleft, hright⟩ := List.forall_mem_append.mp h
    exact c.isSome_truth (ihl hleft) (ihr hright)
  | _ => exact h _ (List.mem_singleton.mpr rfl)

namespace Registry

/-- A compiled filter is known, to hold or not to hold, on every record that has a fitting value in
the column of each registered field, provided that every text that it compares with a boolean
column spells a boolean. -/
theorem truth_known_of_fits {r : Registry} {limit : Filter.DepthLimit} {text : String}
    {p : Predicate} {record : Record} (h : r.filter limit text = .ok (some p))
    (hfits : ∀ field ∈ r.fields, field.type.fits (record.get field.column))
    (hboolean : ∀ field ∈ r.fields, field.type = .boolean → ∀ op s,
      .comparison field.column op (.text s) ∈ p.leaves → (boolean? s).isSome) :
    ∃ b, p.truth record = some b := by
  obtain ⟨tree, -, hevaluate⟩ := filter_eq_ok_some_iff.mp h
  rw [← Option.isSome_iff_exists]
  apply Predicate.isSome_truth
  intro leaf hleaf
  obtain ⟨field, hfield, hallows⟩ := leaves_allowed hevaluate leaf hleaf
  refine hallows.isSome_truth (hfits field hfield) ?_
  rintro htype op s rfl
  exact hboolean field hfield htype op s hleaf

/-- A float, a boolean that is compared with a capital `YES`, and a timestamp. -/
theorem truth_known_of_fits_users :
    let users : Registry :=
      ⟨[⟨"id", "u.id", .number⟩, ⟨"active", "u.active", .boolean⟩, ⟨"seen", "u.seen", .datetime⟩], []⟩
    let day : Date := ⟨2020, 1, 2, by decide, by decide⟩
    let half : Float := .ofBits 0x3FE0000000000000
    let record : Record :=
      .ofList [("u.id", .float half), ("u.active", .boolean false),
        ("u.seen", .timestamp ⟨day, .midnight⟩)]
    let p : Predicate :=
      .connect .or
        (.connect .and (.comparison "u.active" .ne (.text "YES"))
          (.comparison "u.id" .gt (.number ⟨5, 1⟩)))
        (.comparison "u.seen" .le (.datetime ⟨day, .midnight⟩))
    users.filter (.ofNat 3) "neq:active:YES & gt:id:0.5 | lte:seen:2020-01-02" = .ok (some p) ∧
      (∀ field ∈ users.fields, field.type.fits (record.get field.column)) ∧
      (∀ field ∈ users.fields, field.type = .boolean → ∀ op s,
        .comparison field.column op (.text s) ∈ p.leaves → (boolean? s).isSome) ∧
      ∃ b, p.truth record = some b := by
  intro users day half record p
  have h : users.filter (.ofNat 3) "neq:active:YES & gt:id:0.5 | lte:seen:2020-01-02" =
      .ok (some p) := by
    decide +kernel
  have hfits : ∀ field ∈ users.fields, field.type.fits (record.get field.column) := by
    decide +kernel
  have hboolean : ∀ field ∈ users.fields, field.type = .boolean → ∀ op s,
      .comparison field.column op (.text s) ∈ p.leaves → (boolean? s).isSome := by
    intro field _ _ op s hmem
    obtain rfl : s = "YES" := by
      simp only [p, Predicate.leaves, List.cons_append, List.nil_append, List.mem_cons,
        Predicate.comparison.injEq, reduceCtorEq, Literal.text.injEq, List.not_mem_nil, and_false,
        or_false] at hmem
      exact hmem.2.2
    decide +kernel
  exact ⟨h, hfits, hboolean, truth_known_of_fits h hfits hboolean⟩

end Registry

end Sift
