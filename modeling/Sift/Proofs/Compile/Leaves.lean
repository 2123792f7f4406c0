import Mathlib.Data.List.Forall2
import Sift.Proofs.Compile.Parts
import Sift.Proofs.Filter.Stacks

/-!
# What a filter compiles to

The leaves of a compiled predicate are the conditions of the expressions in the filter, in their
order (`Registry.leaves_of_evaluate`).  The connectives are those of the tree, so everything else
that a filter can say is in the leaves.

`Field.Allows` lists the conditions that there can be on a field, by its type.  Compiling an
expression gives one of them on a registered field, and nothing else
(`Registry.expression_allowed`); therefore every leaf of a compiled filter is one of them
(`Registry.leaves_allowed`).  Every later fact on compiled predicates is a case analysis over that
list.
-/

namespace Sift

/-! ## Patterns without wildcards -/

/-- A text in which every character that is special in a pattern has a backslash in front of it. -/
inductive Pattern.Escaped : List Char → Prop where
  | nil : Escaped []
  | plain {c : Char} {rest : List Char} (hc : c ∉ ['%', '_', '\\']) (hrest : Escaped rest) :
    Escaped (c :: rest)
  | special {c : Char} {rest : List Char} (hc : c ∈ ['%', '_', '\\']) (hrest : Escaped rest) :
    Escaped ('\\' :: c :: rest)

theorem Pattern.escaped_flatMap (cs : List Char) : Escaped (cs.flatMap escapePatternChar) := by
  induction cs with
  | nil => exact .nil
  | cons c rest ih =>
    rw [List.flatMap_cons, escapePatternChar]
    by_cases hc : c = '%' ∨ c = '_' ∨ c = '\\'
    · rw [if_pos hc]
      exact .special (by simpa using hc) ih
    · rw [if_neg hc]
      exact .plain (by simpa using hc) ih

/-! ## Leaves -/

/-- The conditions in a predicate, from left to right. -/
def Predicate.leaves : Predicate → List Predicate
  | .connect _ left right => left.leaves ++ right.leaves
  | p => [p]

/-- The conditions that a filter can put on a field. -/
inductive Field.Allows (field : Field) : Predicate → Prop where
  | number (htype : field.type = .number) (op : Comparison) (n : Decimal) :
    Allows field (.comparison field.column op (.number n))
  | datetime (htype : field.type = .datetime) (op : Comparison) (t : Instant) :
    Allows field (.comparison field.column op (.datetime t))
  /-- Texts and booleans are compared with a text, and for equality only. -/
  | text (htype : field.type = .text ∨ field.type = .boolean) (op : Comparison)
    (hop : op = .eq ∨ op = .ne) (s : String) :
    Allows field (.comparison field.column op (.text s))
  /-- A pattern looks for a text anywhere in the column. -/
  | like (htype : field.type = .text) (body : List Char) (hbody : Pattern.Escaped body)
    (negated : Bool) :
    Allows field (.like field.column (String.ofList ('%' :: body ++ ['%'])) negated)
  | null (negated : Bool) : Allows field (.null field.column negated)
  | member (s : String) : Allows field (.member field.column (.text s))

/-- A condition on a field has no parts. -/
theorem Field.Allows.leaves_eq {field : Field} {p : Predicate} (h : field.Allows p) :
    p.leaves = [p] := by
  cases h <;> rfl

/-! ## Conditions -/

/-- Numbers and datetimes have every comparison. -/
theorem FieldType.admits_compare {type : FieldType} (htype : type = .number ∨ type = .datetime)
    (op : Comparison) : type.admits (.compare op) := by
  rcases htype with rfl | rfl <;> cases op <;> rfl

/-- A comparison is with the literal that the raw value stands for. -/
theorem Field.condition_compare {field : Field} {op : Comparison}
    (hadmits : field.type.admits (.compare op)) (raw : String) :
    field.condition (.compare op) raw =
      (field.literal raw).map fun value => .comparison field.column op value := by
  rw [condition, if_pos hadmits]
  rfl

/-- The literal of a comparison that the type of the field admits. -/
theorem Field.allows_comparison {field : Field} {op : Comparison} {raw : String} {value : Literal}
    (hadmits : field.type.admits (.compare op)) (h : field.literal raw = .ok value) :
    field.Allows (.comparison field.column op value) := by
  have hequality : field.type = .text ∨ field.type = .boolean → op = .eq ∨ op = .ne := by
    rintro (htype | htype) <;> rw [htype] at hadmits <;> cases op <;>
      simp [FieldType.admits] at hadmits ⊢
  unfold literal at h
  cases htype : field.type with
  | number =>
    simp only [htype] at h
    split at h
    · cases h
      exact .number htype op _
    · cases h
  | text =>
    simp only [htype] at h
    cases h
    exact .text (Or.inl htype) op (hequality (Or.inl htype)) _
  | boolean =>
    simp only [htype] at h
    cases h
    exact .text (Or.inr htype) op (hequality (Or.inr htype)) _
  | datetime =>
    simp only [htype] at h
    split at h
    · cases h
      exact .datetime htype op _
    · cases h

/-- What an operation makes of a field is allowed. -/
theorem Field.allows_condition {field : Field} {operation : Operation} {raw : String}
    {p : Predicate} (h : field.condition operation raw = .ok p) : field.Allows p := by
  unfold condition at h
  by_cases hadmits : field.type.admits operation
  · rw [if_pos hadmits] at h
    cases operation with
    | compare op =>
      obtain ⟨value, hvalue, hp⟩ := exists_of_bind_eq_ok h
      cases hp
      exact allows_comparison hadmits hvalue
    | like negated =>
      have htype : field.type = .text := by simpa [FieldType.admits] using hadmits
      cases h
      exact .like htype _ (Pattern.escaped_flatMap _) negated
    | null negated =>
      cases h
      exact .null negated
    | member =>
      cases h
      exact .member raw
  · rw [if_neg hadmits] at h
    cases h

/-! ## Filters -/

namespace Registry

variable {r : Registry} {limit : Filter.DepthLimit} {text : String} {p : Predicate}

/-- An expression compiles to a condition on a registered field. -/
theorem expression_allowed (h : r.expression text = .ok p) :
    ∃ field ∈ r.fields, field.Allows p := by
  obtain ⟨e, -, h⟩ := exists_of_bind_eq_ok h
  obtain ⟨field, hfield, h⟩ := exists_of_bind_eq_ok h
  obtain ⟨operation, -, h⟩ := exists_of_bind_eq_ok h
  exact ⟨field, mem_of_lookup hfield, Field.allows_condition h⟩

/-- The leaves of the predicate of a tree are the conditions of its expressions. -/
theorem leaves_of_evaluate {tree : Filter.Tree} (h : r.evaluate tree = .ok p) :
    List.Forall₂ (fun leaf expression => r.expression expression.1 = .ok leaf)
      p.leaves tree.leaves := by
  induction tree generalizing p with
  | leaf text span =>
    obtain ⟨field, -, hallows⟩ := expression_allowed h
    rw [hallows.leaves_eq]
    exact .cons h .nil
  | branch c left right ihl ihr =>
    obtain ⟨lp, hleft, h⟩ := exists_of_bind_eq_ok h
    obtain ⟨rp, hright, h⟩ := exists_of_bind_eq_ok h
    cases h
    exact List.rel_append (ihl hleft) (ihr hright)

/-- Every leaf of the predicate of a tree is a condition on a registered field. -/
theorem leaves_allowed {tree : Filter.Tree} (h : r.evaluate tree = .ok p) :
    ∀ leaf ∈ p.leaves, ∃ field ∈ r.fields, field.Allows leaf := by
  have hleaves := (leaves_of_evaluate h).imp fun leaf _ hexpression =>
    And.intro (expression_allowed hexpression) hexpression
  exact ((List.forall₂_and_left _ _).mp hleaves).1

/-- A filter compiles to nothing exactly if there is no tree. -/
theorem filter_eq_ok_none_iff :
    r.filter limit text = .ok none ↔ Filter.Tree.parse limit text = .ok none := by
  unfold filter
  cases Filter.Tree.parse limit text with
  | error fault => simp
  | ok found =>
    cases found with
    | none => simp
    | some tree => cases hevaluate : r.evaluate tree <;> simp [hevaluate, Except.map]

/-- A filter compiles to the predicate of its tree. -/
theorem filter_eq_ok_some_iff : r.filter limit text = .ok (some p) ↔
    ∃ tree, Filter.Tree.parse limit text = .ok (some tree) ∧ r.evaluate tree = .ok p := by
  unfold filter
  cases hparse : Filter.Tree.parse limit text with
  | error e => simp
  | ok found =>
    cases found with
    | none => simp
    | some tree =>
      cases hevaluate : r.evaluate tree <;> simp [hevaluate, Except.map]

/-- The leaves of a compiled filter are conditions on registered fields: a comparison of a number
with a number, of a datetime with a datetime, or of a text or a boolean with a text for equality; a
pattern for a text in which nothing but its two ends is a wildcard; a null test; or a membership
test of a text. -/
theorem leaves_of_filter (h : r.filter limit text = .ok (some p)) :
    ∀ leaf ∈ p.leaves, ∃ field ∈ r.fields, field.Allows leaf := by
  obtain ⟨tree, -, hevaluate⟩ := filter_eq_ok_some_iff.mp h
  exact leaves_allowed hevaluate

/-- Fields of all types, one of which was registered as a text before. -/
theorem leaves_of_filter_users :
    let users : Registry :=
      [⟨"id", "uuid", .text⟩, ⟨"name", "u.name", .text⟩, ⟨"active", "u.active", .boolean⟩,
        ⟨"seen", "u.seen", .datetime⟩, ⟨"id", "u.id", .number⟩].foldl register empty
    let text := "not-like:name:\"50%\" & neq:active:yes | (gt:id:1.50 | is-member-of:id:7) & " ++
      "lte:seen:2020-01-02"
    let day : Date := ⟨2020, 1, 2, by decide, by decide⟩
    let p : Predicate :=
      .connect .or
        (.connect .and (.like "u.name" "%50\\%%" true) (.comparison "u.active" .ne (.text "yes")))
        (.connect .and
          (.connect .or (.comparison "u.id" .gt (.number ⟨150, 2⟩)) (.member "u.id" (.text "7")))
          (.comparison "u.seen" .le (.datetime ⟨day, .midnight⟩)))
    users.filter (.ofNat 4) text = .ok (some p) ∧
      ∀ leaf ∈ p.leaves, ∃ field ∈ users.fields, field.Allows leaf := by
  intro users text day p
  have h : users.filter (.ofNat 4) text = .ok (some p) := by decide +kernel
  exact ⟨h, leaves_of_filter h⟩

end Registry

end Sift
