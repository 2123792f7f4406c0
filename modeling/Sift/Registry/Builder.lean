import Sift.Registry.Basic

/-!
# Registries under construction

A builder collects the fields and default sort keys of a registry.  Next to the fields it keeps an
index from each key to the position of its field, so that registering a key again, or asking for a
field, does not search the list.  Every builder carries the proof that its index says where the
keys are (`Registry.Builder.index_iff`), and so no position read from the index is out of range.

A `Registry.Builder.Call` is one of the calls that a client makes.  All calls that register a field
succeed; `Registry.Builder.sortByDefault` needs a registered key and a spelling of a direction.
-/

namespace Sift.Registry

/-- A registry under construction. -/
structure Builder where
  fields : List Field
  /-- The position of the field with each key. -/
  index : List (String × Nat)
  defaultSort : List SortKey
  /-- The index holds a position for a key exactly if the field there has the key. -/
  index_iff (key : String) (position : Nat) :
    index.lookup key = some position ↔ (fields.map Field.key)[position]? = some key

namespace Builder

variable {b : Builder} {key : String} {position : Nat}

/-- The builder without fields. -/
def empty : Builder where
  fields := []
  index := []
  defaultSort := []
  index_iff := by simp

/-! ## The index -/

/-- The index holds positions of fields only. -/
theorem position_lt (h : b.index.lookup key = some position) : position < b.fields.length := by
  have hkey := (b.index_iff key position).mp h
  have hlt := (List.getElem?_eq_some_iff.mp hkey).1
  rwa [List.length_map] at hlt

/-- Another field with the same key, in the same place, leaves the keys as they are. -/
theorem keys_set {field : Field} (h : b.index.lookup field.key = some position) :
    (b.fields.set position field).map Field.key = b.fields.map Field.key := by
  obtain ⟨hlt, hkey⟩ := List.getElem?_eq_some_iff.mp ((b.index_iff _ _).mp h)
  rw [List.map_set, ← hkey, List.set_getElem_self]

/-- A new key goes to the end of the fields. -/
theorem index_append {field : Field} (h : b.index.lookup field.key = none) (key : String)
    (position : Nat) :
    ((field.key, b.fields.length) :: b.index).lookup key = some position ↔
      ((b.fields ++ [field]).map Field.key)[position]? = some key := by
  have hnew (position : Nat) : (b.fields.map Field.key)[position]? ≠ some field.key := by
    rw [Ne, ← b.index_iff, h]
    exact nofun
  have hlength : (b.fields.map Field.key).length = b.fields.length := List.length_map ..
  rw [List.lookup_cons, List.map_append, List.map_singleton, List.getElem?_append, hlength]
  by_cases hkey : key = field.key
  · subst hkey
    simp only [beq_self_eq_true, List.getElem?_singleton]
    grind
  · simp only [beq_false_of_ne hkey, b.index_iff, List.getElem?_singleton]
    grind

/-! ## Fields -/

/-- The field with this key, found by the index. -/
def get? (b : Builder) (key : String) : Option Field :=
  match h : b.index.lookup key with
  | some position =>
    have := position_lt h
    some b.fields[position]
  | none => none

/-- The field with this key, or an error that blames the filter. -/
def lookup (b : Builder) (key : String) : Except QueryError Field :=
  match b.get? key with
  | some field => .ok field
  | none => .error (.unknownField .filter key)

/-- The builder with a field added, or replaced in its place. -/
def register (b : Builder) (field : Field) : Builder :=
  match h : b.index.lookup field.key with
  | some position =>
    { b with
      fields := b.fields.set position field
      index_iff := by rw [keys_set h]; exact b.index_iff }
  | none =>
    { b with
      fields := b.fields ++ [field]
      index := (field.key, b.fields.length) :: b.index
      index_iff := index_append h }

/-- The builder with a field of numbers. -/
def number (b : Builder) (key column : String) : Builder :=
  b.register ⟨key, column, .number⟩

/-- The builder with a field of texts. -/
def text (b : Builder) (key column : String) : Builder :=
  b.register ⟨key, column, .text⟩

/-- The builder with a field of booleans. -/
def boolean (b : Builder) (key column : String) : Builder :=
  b.register ⟨key, column, .boolean⟩

/-- The builder with a field of datetimes. -/
def datetime (b : Builder) (key column : String) : Builder :=
  b.register ⟨key, column, .datetime⟩

/-! ## Default sort keys -/

/-- The builder with a default sort key added or changed. -/
def sortByDefault (b : Builder) (key spelling : String) : Except QueryError Builder :=
  match b.index.lookup key with
  | none => .error (.unknownField .sort key)
  | some _ => do
    let d ← direction spelling
    .ok { b with defaultSort := upsert SortKey.key ⟨key, d⟩ b.defaultSort }

/-! ## Calls -/

/-- The finished registry. -/
def build (b : Builder) : Registry :=
  ⟨b.fields, b.defaultSort⟩

/-- A call on a builder. -/
inductive Call where
  | field (key column : String) (type : FieldType)
  | number (key column : String)
  | text (key column : String)
  | boolean (key column : String)
  | datetime (key column : String)
  | sortByDefault (key spelling : String)
  deriving DecidableEq, Repr

/-- The builder after a call. -/
def Call.apply (b : Builder) : Call → Except QueryError Builder
  | .field key column type => .ok (b.register ⟨key, column, type⟩)
  | .number key column => .ok (b.number key column)
  | .text key column => .ok (b.text key column)
  | .boolean key column => .ok (b.boolean key column)
  | .datetime key column => .ok (b.datetime key column)
  | .sortByDefault key spelling => b.sortByDefault key spelling

end Builder

end Sift.Registry
