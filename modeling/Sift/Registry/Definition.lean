import Sift.Filter.Assembly
import Sift.Json.Members
import Sift.Registry.Builder

/-!
# Registry definitions

A registry as it is written down in JSON: a list of fields, a list of default sort keys, and
settings for the compiler of filters.  Each of the three may be missing, and so may the direction
of a sort key, which is then ascending.

`RegistryDefinition.ofJson?` reads a definition and `RegistryDefinition.build` makes the registry
of it, with the same checks as step-by-step registration.
-/

namespace Sift

/-- A default sort key as it is written, with the direction not yet read. -/
structure SortDefinition where
  key : String
  direction : String
  deriving DecidableEq, Repr

/-- Settings for compiling filters. -/
structure FilterSettings where
  /-- The greatest depth of a filter tree. -/
  maxDepth : UInt64
  deriving DecidableEq, Repr

/-- A registry as it is written. -/
structure RegistryDefinition where
  fields : List Field
  defaultSort : List SortDefinition
  settings : FilterSettings
  deriving DecidableEq, Repr

/-! ## Types and fields -/

/-- A type of fields from JSON. -/
def FieldType.ofJson? (j : Json) : Option FieldType := do
  FieldType.ofName? (← j.choice?)

/-- A type of fields as JSON. -/
def FieldType.toJson (type : FieldType) : Json :=
  .text type.name

/-- An operation from JSON. -/
def Operation.ofJson? (j : Json) : Option Operation := do
  Operation.ofName? (← j.choice?)

/-- An operation as JSON. -/
def Operation.toJson (operation : Operation) : Json :=
  .text operation.name

/-- A direction from JSON, where it has to be in lower case. -/
def Direction.ofJson? (j : Json) : Option Direction := do
  let name ← j.choice?
  [Direction.asc, Direction.desc].find? (·.name == name)

/-- A direction as JSON. -/
def Direction.toJson (d : Direction) : Json :=
  .text d.name

/-- A field from a JSON structure. -/
def Field.ofJson? (j : Json) : Option Field := do
  match ← j.members? ["key", "column", "type"] with
  | [key, column, type] =>
    some ⟨← (← key).text?, ← (← column).text?, ← FieldType.ofJson? (← type)⟩
  | _ => none

/-- A field as a JSON object. -/
def Field.toJson (field : Field) : Json :=
  .object [("key", .text field.key), ("column", .text field.column), ("type", field.type.toJson)]

/-! ## Sort keys and settings -/

namespace SortDefinition

/-- A sort key from a JSON structure; a missing direction is ascending. -/
def ofJson? (j : Json) : Option SortDefinition := do
  match ← j.members? ["key", "direction"] with
  | [key, some direction] => some ⟨← (← key).text?, ← direction.text?⟩
  | [key, none] => some ⟨← (← key).text?, Direction.asc.name⟩
  | _ => none

/-- A sort key as a JSON object. -/
def toJson (c : SortDefinition) : Json :=
  .object [("key", .text c.key), ("direction", .text c.direction)]

end SortDefinition

namespace FilterSettings

/-- The settings where none are given. -/
def standard : FilterSettings :=
  ⟨UInt64.ofNat Filter.DepthLimit.standard.levels⟩

/-- The depth limit of the settings. -/
def depthLimit (s : FilterSettings) : Filter.DepthLimit :=
  Filter.DepthLimit.ofNat s.maxDepth.toNat

/-- Settings from a JSON structure. -/
def ofJson? (j : Json) : Option FilterSettings := do
  match ← j.members? ["max_depth"] with
  | [some maxDepth] => some ⟨← maxDepth.word?⟩
  | [none] => some standard
  | _ => none

/-- Settings as a JSON object. -/
def toJson (s : FilterSettings) : Json :=
  .object [("max_depth", .ofNat s.maxDepth.toNat)]

end FilterSettings

/-! ## Definitions -/

namespace RegistryDefinition

/-- The items of a list from JSON; a missing list is empty. -/
def listOf? {α : Type} (item? : Json → Option α) : Option Json → Option (List α)
  | none => some []
  | some j => do (← j.items?).mapM item?

/-- A definition from a JSON structure. -/
def ofJson? (j : Json) : Option RegistryDefinition := do
  match ← j.members? ["fields", "default_sort", "settings"] with
  | [fields, defaultSort, settings] =>
    let settings ← match settings with
      | some settings => FilterSettings.ofJson? settings
      | none => some FilterSettings.standard
    some ⟨← listOf? Field.ofJson? fields, ← listOf? SortDefinition.ofJson? defaultSort, settings⟩
  | _ => none

/-- A definition as a JSON object. -/
def toJson (c : RegistryDefinition) : Json :=
  .object [("fields", .array (c.fields.map Field.toJson)),
    ("default_sort", .array (c.defaultSort.map SortDefinition.toJson)),
    ("settings", c.settings.toJson)]

/-- The registry of a definition. -/
def build (c : RegistryDefinition) : Except QueryError Registry := do
  let fields := c.fields.foldl Registry.Builder.register Registry.Builder.empty
  let b ← c.defaultSort.foldlM (fun b sort => b.sortByDefault sort.key sort.direction) fields
  .ok b.build

end RegistryDefinition

end Sift
