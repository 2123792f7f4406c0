import Mathlib.Data.List.Induction
import Mathlib.Data.List.Nodup
import Sift.Registry.Definition

/-!
# What a series of calls builds

A builder keeps three structures in step: the list of fields, the index of their keys, and the
default sort keys.  This module says what they hold after any series of calls, in terms of the
calls alone.

* The index finds what a search of the fields finds (`Registry.Builder.get?_build`), and so each
  operation on a builder is the same operation on the plain registry
  (`Registry.Builder.build_register`, `Registry.Builder.build_sortByDefault`).
* `Registry.Builder.Holds` relates a builder to the calls made so far.  A successful call keeps it
  (`Registry.Builder.Holds.apply`), because `upsert` changes the element with a key in its place or
  goes to the end (`map_upsert`, `find?_upsert`); so a run leads from the empty builder to a builder
  that holds what the calls ask for (`Registry.Builder.holds_of_run`).
* From it follow the lists of the finished registry, the answers to all lookups, and which further
  sort keys are accepted (`Registry.Builder.registry_of_run`).
* A written definition is built by such a run (`RegistryDefinition.build_eq_run`).
-/

namespace Sift

/-! ## The first and the last element with a key -/

section Keys

variable {α : Type} {key : α → String}

/-- The last element with the key `k`. -/
def latest? (key : α → String) (k : String) (as : List α) : Option α :=
  as.reverse.find? (key · == k)

/-- An element at the end is the last one with its key, and changes nothing for other keys. -/
theorem latest?_append_singleton (as : List α) (a : α) (k : String) :
    latest? key k (as ++ [a]) = if key a = k then some a else latest? key k as := by
  simp only [latest?, List.reverse_append, List.reverse_singleton, List.singleton_append,
    List.find?_cons]
  grind

/-- The last element with a key has the key. -/
theorem key_of_latest? {as : List α} {a : α} {k : String} (h : latest? key k as = some a) :
    key a = k := by
  simpa using List.find?_some h

/-- An element at the end is kept exactly if it is new. -/
theorem eraseDups_append_singleton (ks : List String) (k : String) :
    (ks ++ [k]).eraseDups = if k ∈ ks then ks.eraseDups else ks.eraseDups ++ [k] := by
  rw [List.eraseDups_append]
  split <;> simp [List.removeAll, List.eraseDups_cons, *]

/-- What is left after erasing duplicates has no duplicates. -/
theorem nodup_eraseDups (ks : List String) : ks.eraseDups.Nodup := by
  induction ks using List.reverseRecOn with
  | nil => simp
  | append_singleton ks k ih =>
    rw [eraseDups_append_singleton]
    split
    · exact ih
    · rename_i hk
      exact List.nodup_append.mpr ⟨ih, List.nodup_singleton k, by grind [List.mem_eraseDups]⟩

/-- An element of a list without duplicate keys is the first with its key. -/
theorem find?_key_of_mem {as : List α} (h : (as.map key).Nodup) {a : α} (ha : a ∈ as) :
    as.find? (key · == key a) = some a := by
  induction as with
  | nil => cases ha
  | cons b rest ih =>
    rw [List.map_cons, List.nodup_cons] at h
    rcases List.mem_cons.mp ha with rfl | hrest
    · simp
    · have hne : key b ≠ key a := fun heq => h.1 (heq ▸ List.mem_map_of_mem hrest)
      rw [List.find?_cons_of_neg (by simpa using hne), ih h.2 hrest]

/-! ## Changing an element in its place -/

/-- The keys after an element is added or changed. -/
theorem map_upsert (a : α) (as : List α) :
    (upsert key a as).map key =
      if key a ∈ as.map key then as.map key else as.map key ++ [key a] := by
  fun_induction upsert key a as with
  | case1 => simp
  | case2 b rest hkey => simp [hkey]
  | case3 b rest hkey ih =>
    have hne : key a ≠ key b := fun heq => hkey heq.symm
    simp only [List.map_cons, List.mem_cons, hne, false_or, ih]
    split <;> rfl

/-- After an element is added or changed, it is the first with its key, and other keys have the
element that they had. -/
theorem find?_upsert (a : α) (as : List α) (k : String) :
    (upsert key a as).find? (key · == k) =
      if key a = k then some a else as.find? (key · == k) := by
  fun_induction upsert key a as with
  | case1 => grind
  | case2 b rest hkey => grind
  | case3 b rest hkey ih => grind

/-- Where the keys are those of a series of elements without duplicates, they stay so for the series
with one more element. -/
theorem map_upsert_of_eraseDups {as : List α} {ks : List String} (h : as.map key = ks.eraseDups)
    (a : α) : (upsert key a as).map key = (ks ++ [key a]).eraseDups := by
  rw [map_upsert, h, eraseDups_append_singleton]
  simp only [List.mem_eraseDups]

/-- Where the keys have no duplicates, changing an element is writing at its position. -/
theorem upsert_eq_set {a : α} {as : List α} (h : (as.map key).Nodup) {position : Nat}
    (hkey : (as.map key)[position]? = some (key a)) : upsert key a as = as.set position a := by
  induction as generalizing position with
  | nil => simp at hkey
  | cons b rest ih =>
    rw [List.map_cons, List.nodup_cons] at h
    cases position with
    | zero =>
      have hb : key b = key a := by simpa using hkey
      simp [upsert, hb]
    | succ position =>
      rw [List.map_cons, List.getElem?_cons_succ] at hkey
      have hne : key b ≠ key a := fun heq => h.1 (heq ▸ List.mem_of_getElem? hkey)
      rw [upsert, if_neg hne, ih h.2 hkey, List.set_cons_succ]

/-- A new element goes to the end. -/
theorem upsert_eq_append {a : α} {as : List α} (h : key a ∉ as.map key) :
    upsert key a as = as ++ [a] := by
  induction as with
  | nil => rfl
  | cons b rest ih =>
    rw [List.map_cons, List.mem_cons, not_or] at h
    rw [upsert, if_neg (Ne.symm h.1), ih h.2, List.cons_append]

end Keys

/-! ## Directions -/

/-- The text is the name of the direction, but for the case of the letters `A` to `Z`. -/
def Direction.SpelledBy (d : Direction) (spelling : String) : Prop :=
  spelling.toList.map Char.toLower = d.name.toList

instance (d : Direction) (spelling : String) : Decidable (d.SpelledBy spelling) :=
  inferInstanceAs (Decidable (_ = _))

/-- A direction is read from its spellings, and from no other text. -/
theorem Direction.parse?_eq_some_iff {spelling : String} {d : Direction} :
    Direction.parse? spelling = some d ↔ d.SpelledBy spelling := by
  have hspells (word : String) :
      Text.spells spelling word = true ↔ spelling.toList.map Char.toLower = word.toList := by
    rw [Text.spells, beq_iff_eq, Text.asciiLowercase, ← String.toList_inj, String.toList_ofList]
  simp only [Direction.parse?, hspells, SpelledBy]
  cases d <;> simp only [Direction.name] <;> grind

namespace Registry.Builder

variable {b b' : Builder} {key spelling : String} {calls : List Call}

/-! ## The index -/

/-- A key is indexed exactly if it is the key of a field. -/
theorem lookup_index_eq_none_iff :
    b.index.lookup key = none ↔ key ∉ b.fields.map Field.key := by
  simp only [Option.eq_none_iff_forall_ne_some, ne_eq, b.index_iff, List.mem_iff_getElem?,
    not_exists]

/-- No two fields of a builder have the same key. -/
theorem nodup_keys (b : Builder) : (b.fields.map Field.key).Nodup := by
  rw [List.nodup_iff_getElem?_ne_getElem?]
  intro i j hij hj heq
  -- the index would have to hold both positions for the one key
  have hkey := List.getElem?_eq_getElem hj
  have hi := (b.index_iff _ i).mpr (heq.trans hkey)
  have hj := (b.index_iff _ j).mpr hkey
  rw [hi, Option.some.injEq] at hj
  omega

/-- A search finds nothing exactly for the keys of no field. -/
theorem get?_build_eq_none_iff : b.build.get? key = none ↔ key ∉ b.fields.map Field.key := by
  simp [Registry.get?, build]

/-- The index finds the field that a search finds. -/
theorem get?_build (b : Builder) (key : String) : b.build.get? key = b.get? key := by
  unfold get?
  split
  · rename_i position h
    have hlt := position_lt h
    have hkey : b.fields[position].key = key := by
      have := (b.index_iff key position).mp h
      rw [List.getElem?_map, List.getElem?_eq_getElem hlt] at this
      simpa using this
    have hfind := find?_key_of_mem b.nodup_keys (List.getElem_mem hlt)
    rwa [hkey] at hfind
  · rename_i h
    exact get?_build_eq_none_iff.mpr (lookup_index_eq_none_iff.mp h)

/-- The builder answers lookups as the finished registry does. -/
theorem lookup_build (b : Builder) (key : String) :
    b.build.lookup .filter key = b.lookup key := by
  have hsearch := b.get?_build key
  cases h : b.get? key with
  | none => simp only [Registry.lookup, lookup, hsearch, h]
  | some f => simp only [Registry.lookup, lookup, hsearch, h]

/-! ## One call -/

/-- The field that a call registers. -/
def Call.field? : Call → Option Field
  | .field key column type => some ⟨key, column, type⟩
  | .number key column => some ⟨key, column, .number⟩
  | .text key column => some ⟨key, column, .text⟩
  | .boolean key column => some ⟨key, column, .boolean⟩
  | .datetime key column => some ⟨key, column, .datetime⟩
  | .sortByDefault _ _ => none

/-- The key that a call asks to sort by, and the direction as it is written. -/
def Call.sort? : Call → Option (String × String)
  | .sortByDefault key spelling => some (key, spelling)
  | _ => none

/-- Registration by the index is registration in the list of fields. -/
theorem build_register (b : Builder) (field : Field) :
    (b.register field).build = b.build.register field := by
  unfold register
  split
  · rename_i position h
    simp only [build, Registry.register, upsert_eq_set b.nodup_keys ((b.index_iff _ _).mp h)]
  · rename_i h
    simp only [build, Registry.register, upsert_eq_append (lookup_index_eq_none_iff.mp h)]

/-- Registration adds or changes a field. -/
theorem fields_register (b : Builder) (field : Field) :
    (b.register field).fields = upsert Field.key field b.fields :=
  congrArg Registry.fields (b.build_register field)

/-- Registration leaves the default sort keys as they are. -/
theorem defaultSort_register (b : Builder) (field : Field) :
    (b.register field).defaultSort = b.defaultSort :=
  congrArg Registry.defaultSort (b.build_register field)

/-- A key that is not registered is refused whatever the direction is. -/
theorem sortByDefault_of_not_mem (h : key ∉ b.fields.map Field.key) (spelling : String) :
    b.sortByDefault key spelling = .error (.unknownField .sort key) := by
  rw [sortByDefault, lookup_index_eq_none_iff.mpr h]

/-- For a registered key it depends on the direction. -/
theorem sortByDefault_of_mem (h : key ∈ b.fields.map Field.key) (spelling : String) :
    b.sortByDefault key spelling =
      match Direction.parse? spelling with
      | some d => .ok { b with defaultSort := upsert SortKey.key ⟨key, d⟩ b.defaultSort }
      | none => .error (.unknownDirection spelling) := by
  obtain ⟨position, hposition⟩ := Option.ne_none_iff_exists'.mp
    (mt lookup_index_eq_none_iff.mp (not_not_intro h))
  rw [sortByDefault, hposition, direction]
  cases Direction.parse? spelling <;> rfl

/-- Adding or changing a default sort key by the index is adding or changing it in the plain
registry, with the same errors. -/
theorem build_sortByDefault (b : Builder) (key spelling : String) :
    (b.sortByDefault key spelling).map build = b.build.sortByDefault key spelling := by
  rw [Registry.sortByDefault, Registry.lookup]
  by_cases hkey : key ∈ b.fields.map Field.key
  · obtain ⟨f, hf⟩ := Option.ne_none_iff_exists'.mp
      (mt get?_build_eq_none_iff.mp (not_not_intro hkey))
    rw [sortByDefault_of_mem hkey, hf, direction]
    cases Direction.parse? spelling <;> rfl
  · rw [sortByDefault_of_not_mem hkey, get?_build_eq_none_iff.mpr hkey]
    rfl

/-- What a successful call does: it registers a field, or it adds or changes a default sort key
that is registered. -/
theorem Call.apply_cases {c : Call} (h : c.apply b = .ok b') :
    (∃ f, c.field? = some f ∧ c.sort? = none ∧ b' = b.register f) ∨
      ∃ key spelling d, c.field? = none ∧ c.sort? = some (key, spelling) ∧
        key ∈ b.fields.map Field.key ∧ Direction.parse? spelling = some d ∧
        b' = { b with defaultSort := upsert SortKey.key ⟨key, d⟩ b.defaultSort } := by
  cases c with
  | field | number | text | boolean | datetime =>
    cases h
    exact .inl ⟨_, rfl, rfl, rfl⟩
  | sortByDefault key spelling =>
    rw [Call.apply] at h
    by_cases hkey : key ∈ b.fields.map Field.key
    · rw [sortByDefault_of_mem hkey] at h
      cases hd : Direction.parse? spelling with
      | none => rw [hd] at h; cases h
      | some d => rw [hd] at h; cases h; exact .inr ⟨key, spelling, d, rfl, rfl, hkey, hd, rfl⟩
    · rw [sortByDefault_of_not_mem hkey] at h
      cases h

/-- A call that registers a field succeeds. -/
theorem Call.exists_apply_eq_ok {c : Call} (hc : c.field?.isSome) (b : Builder) :
    ∃ b', c.apply b = .ok b' := by
  cases c with
  | field | number | text | boolean | datetime => exact ⟨_, rfl⟩
  | sortByDefault => cases hc

/-! ## A run of calls -/

/-- The builder after a series of calls on the empty builder, or the error of the first call that
fails. -/
def run (calls : List Call) : Except QueryError Builder :=
  calls.foldlM Call.apply empty

/-- The fields that a series of calls registers. -/
def registered (calls : List Call) : List Field :=
  calls.filterMap Call.field?

/-- The keys that a series of calls registers. -/
def registeredKeys (calls : List Call) : List String :=
  (registered calls).map Field.key

/-- The keys by which a series of calls asks to sort, and the directions as they are written. -/
def sorts (calls : List Call) : List (String × String) :=
  calls.filterMap Call.sort?

/-- The builder holds what the calls ask for. -/
structure Holds (b : Builder) (calls : List Call) : Prop where
  /-- The keys stand in the order of their first registration. -/
  keys : b.fields.map Field.key = (registeredKeys calls).eraseDups
  /-- Each field is the last one with its key. -/
  field (key : String) : b.build.get? key = latest? Field.key key (registered calls)
  /-- The default sort keys stand in the order in which they were first asked for. -/
  sortKeys : b.defaultSort.map SortKey.key = ((sorts calls).map Prod.fst).eraseDups
  /-- Each direction is the last one for its key. -/
  direction (key : String) :
    (b.defaultSort.find? (·.key == key)).map SortKey.direction =
      (latest? Prod.fst key (sorts calls)).bind fun sort => Direction.parse? sort.2
  /-- The default sort keys are registered. -/
  known : ∀ s ∈ b.defaultSort, s.key ∈ b.fields.map Field.key

namespace Holds

/-- The empty builder holds what no calls ask for. -/
theorem empty : Holds empty [] where
  keys := rfl
  field _ := rfl
  sortKeys := rfl
  direction _ := rfl
  known := nofun

/-- A builder goes on to hold what the calls ask for when a field is registered. -/
theorem register (hb : b.Holds calls) {c : Call} {f : Field} (hf : c.field? = some f)
    (hs : c.sort? = none) : (b.register f).Holds (calls ++ [c]) := by
  have hregistered : registered (calls ++ [c]) = registered calls ++ [f] := by
    simp [registered, hf]
  have hsorts : sorts (calls ++ [c]) = sorts calls := by
    simp [sorts, hs]
  constructor
  case keys =>
    rw [fields_register, map_upsert_of_eraseDups hb.keys, registeredKeys, registeredKeys,
      hregistered, List.map_append, List.map_singleton]
  case field =>
    intro key
    rw [build_register, hregistered, latest?_append_singleton, ← hb.field key]
    exact find?_upsert f b.fields key
  case sortKeys =>
    rw [defaultSort_register, hsorts, hb.sortKeys]
  case direction =>
    intro key
    rw [defaultSort_register, hsorts, hb.direction]
  case known =>
    intro s hs
    rw [defaultSort_register] at hs
    rw [fields_register, map_upsert]
    have := hb.known s hs
    split
    · exact this
    · exact List.mem_append_left _ this

/-- A builder goes on to hold what the calls ask for when a default sort key is added or
changed. -/
theorem sort (hb : b.Holds calls) {c : Call} {d : Direction} (hf : c.field? = none)
    (hs : c.sort? = some (key, spelling)) (hkey : key ∈ b.fields.map Field.key)
    (hd : Direction.parse? spelling = some d) :
    Holds { b with defaultSort := upsert SortKey.key ⟨key, d⟩ b.defaultSort } (calls ++ [c]) := by
  have hregistered : registered (calls ++ [c]) = registered calls := by
    simp [registered, hf]
  have hsorts : sorts (calls ++ [c]) = sorts calls ++ [(key, spelling)] := by
    simp [sorts, hs]
  constructor
  case keys =>
    rw [registeredKeys, hregistered, ← registeredKeys, ← hb.keys]
  case field =>
    intro key
    rw [hregistered, ← hb.field key]
    rfl
  case sortKeys =>
    rw [hsorts, List.map_append, List.map_singleton]
    exact map_upsert_of_eraseDups hb.sortKeys _
  case direction =>
    intro k
    rw [hsorts, latest?_append_singleton, find?_upsert]
    dsimp only
    split
    · exact hd.symm
    · exact hb.direction k
  case known =>
    intro s hs
    have hmem := List.mem_map_of_mem (f := SortKey.key) hs
    rw [map_upsert] at hmem
    grind [hb.known]

/-- A builder goes on to hold what the calls ask for after another call that succeeds. -/
theorem apply (hb : b.Holds calls) {c : Call} (h : c.apply b = .ok b') :
    b'.Holds (calls ++ [c]) := by
  rcases c.apply_cases h with ⟨f, hf, hs, rfl⟩ | ⟨key, spelling, d, hf, hs, hkey, hd, rfl⟩
  · exact hb.register hf hs
  · exact hb.sort hf hs hkey hd

end Holds

/-- A builder that holds what earlier calls ask for holds what all calls ask for after the later
ones, if they succeed. -/
theorem Holds.foldlM (hb : b.Holds calls) {later : List Call}
    (h : later.foldlM Call.apply b = .ok b') : b'.Holds (calls ++ later) := by
  -- the induction goes from the front, and so the calls already made change with the builder
  induction later generalizing b calls with
  | nil =>
    cases h
    rwa [List.append_nil]
  | cons c later ih =>
    rw [List.foldlM_cons] at h
    cases happly : c.apply b with
    | error e => rw [happly] at h; cases h
    | ok middle =>
      rw [happly] at h
      rw [List.append_cons]
      exact ih (hb.apply happly) h

/-- One call more is made on the builder that the calls before it have left. -/
theorem run_append_singleton (h : run calls = .ok b) (c : Call) :
    run (calls ++ [c]) = c.apply b := by
  rw [run, List.foldlM_append, ← run, h]
  change [c].foldlM Call.apply b = c.apply b
  rw [List.foldlM_cons]
  exact bind_pure (c.apply b)

/-- A builder holds what the calls that led to it ask for. -/
theorem holds_of_run (h : run calls = .ok b) : b.Holds calls :=
  Holds.empty.foldlM h

/-! ## The finished registry -/

namespace Holds

/-- The keys of the fields are those that were registered. -/
theorem mem_keys (hb : b.Holds calls) :
    key ∈ b.fields.map Field.key ↔ key ∈ registeredKeys calls := by
  rw [hb.keys, List.mem_eraseDups]

/-- A field is the last one that was registered with its key. -/
theorem latest?_of_mem (hb : b.Holds calls) {f : Field} (hf : f ∈ b.fields) :
    latest? Field.key f.key (registered calls) = some f := by
  rw [← hb.field]
  exact find?_key_of_mem b.nodup_keys hf

/-- The direction of a default sort key is what was asked for last. -/
theorem spelledBy_of_mem (hb : b.Holds calls) {s : SortKey} (hs : s ∈ b.defaultSort) :
    ∃ spelling, latest? Prod.fst s.key (sorts calls) = some (s.key, spelling) ∧
      s.direction.SpelledBy spelling := by
  have hnodup : (b.defaultSort.map SortKey.key).Nodup := hb.sortKeys ▸ nodup_eraseDups _
  have hdirection := hb.direction s.key
  -- keys occur once, and so the first element with the key of `s` is `s`
  rw [find?_key_of_mem hnodup hs, Option.map_some] at hdirection
  obtain ⟨⟨key, spelling⟩, hlatest, hparse⟩ := Option.bind_eq_some_iff.mp hdirection.symm
  obtain rfl : key = s.key := key_of_latest? hlatest
  exact ⟨spelling, hlatest, Direction.parse?_eq_some_iff.mp hparse⟩

/-- A key has a field exactly if it was registered. -/
theorem get?_eq_none_iff (hb : b.Holds calls) : b.get? key = none ↔ key ∉ registeredKeys calls := by
  rw [← get?_build, get?_build_eq_none_iff, hb.mem_keys]

/-- A lookup finds the last field that was registered with the key. -/
theorem lookup_eq_ok_iff (hb : b.Holds calls) {f : Field} :
    b.lookup key = .ok f ↔ latest? Field.key key (registered calls) = some f := by
  rw [← hb.field, get?_build, lookup]
  cases b.get? key <;> simp

/-- A lookup fails exactly if the key was not registered, and blames the filter. -/
theorem lookup_eq_error_iff (hb : b.Holds calls) :
    b.lookup key = .error (.unknownField .filter key) ↔ key ∉ registeredKeys calls := by
  rw [← hb.get?_eq_none_iff, lookup]
  cases b.get? key <;> simp

end Holds

/-- A default sort key is refused for its key exactly if that is not registered. -/
theorem sortByDefault_eq_unknownField_iff :
    b.sortByDefault key spelling = .error (.unknownField .sort key) ↔
      key ∉ b.fields.map Field.key := by
  by_cases hkey : key ∈ b.fields.map Field.key
  · rw [sortByDefault_of_mem hkey]
    cases Direction.parse? spelling <;> simp [hkey]
  · simp only [sortByDefault_of_not_mem hkey, hkey, not_false_eq_true]

/-- It is refused for its direction exactly if the key is registered and the text spells no
direction. -/
theorem sortByDefault_eq_unknownDirection_iff :
    b.sortByDefault key spelling = .error (.unknownDirection spelling) ↔
      key ∈ b.fields.map Field.key ∧ ∀ d : Direction, ¬ d.SpelledBy spelling := by
  simp only [← Direction.parse?_eq_some_iff, ← ne_eq, ← Option.eq_none_iff_forall_ne_some]
  by_cases hkey : key ∈ b.fields.map Field.key
  · rw [sortByDefault_of_mem hkey]
    cases Direction.parse? spelling <;> simp [hkey]
  · simp [sortByDefault_of_not_mem hkey, hkey]

/-- It is accepted exactly if the key is registered and the text spells a direction. -/
theorem exists_sortByDefault_eq_ok_iff :
    (∃ b', b.sortByDefault key spelling = .ok b') ↔
      key ∈ b.fields.map Field.key ∧ ∃ d : Direction, d.SpelledBy spelling := by
  simp only [← Direction.parse?_eq_some_iff]
  by_cases hkey : key ∈ b.fields.map Field.key
  · rw [sortByDefault_of_mem hkey]
    cases Direction.parse? spelling <;> simp [hkey]
  · simp [sortByDefault_of_not_mem hkey, hkey]

/-- What a series of successful calls, in any order and with any keys, builds.

* The fields of the registry have each registered key once, in the order of first registration, and
  each field is the last one that was registered with its key.
* For every key the registry and the index of the builder find that field, or no field and an error
  that blames the filter where the key was not registered.
* The default sort keys have each key once, in the order in which they were first asked for; all
  are registered, and each has the direction that was written last for its key.
* A further call for a default sort key is refused for its key exactly if that is not registered so
  far, and otherwise for its direction exactly if the text does not spell one; all other calls
  succeed. -/
theorem registry_of_run (h : run calls = .ok b) :
    (b.build.fields.map Field.key = (registeredKeys calls).eraseDups ∧
      ∀ f ∈ b.build.fields, latest? Field.key f.key (registered calls) = some f) ∧
    (∀ key,
      b.get? key = latest? Field.key key (registered calls) ∧
      (b.get? key = none ↔ key ∉ registeredKeys calls) ∧
      (∀ f, b.lookup key = .ok f ↔ latest? Field.key key (registered calls) = some f) ∧
      (b.lookup key = .error (.unknownField .filter key) ↔ key ∉ registeredKeys calls) ∧
      b.build.get? key = b.get? key ∧ b.build.lookup .filter key = b.lookup key) ∧
    (b.build.defaultSort.map SortKey.key = ((sorts calls).map Prod.fst).eraseDups ∧
      ∀ s ∈ b.build.defaultSort, s.key ∈ registeredKeys calls ∧
        ∃ spelling, latest? Prod.fst s.key (sorts calls) = some (s.key, spelling) ∧
          s.direction.SpelledBy spelling) ∧
    (∀ key spelling,
      let further := run (calls ++ [.sortByDefault key spelling])
      (further = .error (.unknownField .sort key) ↔ key ∉ registeredKeys calls) ∧
      (further = .error (.unknownDirection spelling) ↔
        key ∈ registeredKeys calls ∧ ∀ d : Direction, ¬ d.SpelledBy spelling) ∧
      ((∃ b', further = .ok b') ↔
        key ∈ registeredKeys calls ∧ ∃ d : Direction, d.SpelledBy spelling)) ∧
    ∀ c : Call, c.field?.isSome → ∃ b', run (calls ++ [c]) = .ok b' := by
  have hb := holds_of_run h
  refine ⟨⟨hb.keys, fun f hf => hb.latest?_of_mem hf⟩, fun key => ?lookups,
    ⟨hb.sortKeys, fun s hs => ⟨?known, hb.spelledBy_of_mem hs⟩⟩, fun key spelling => ?sorting,
    fun c hc => ?registering⟩
  case lookups =>
    exact ⟨get?_build b key ▸ hb.field key, hb.get?_eq_none_iff, fun f => hb.lookup_eq_ok_iff,
      hb.lookup_eq_error_iff, get?_build b key, lookup_build b key⟩
  case known =>
    exact hb.mem_keys.mp (hb.known s hs)
  case sorting =>
    rw [run_append_singleton h]
    simp only [← hb.mem_keys]
    exact ⟨sortByDefault_eq_unknownField_iff, sortByDefault_eq_unknownDirection_iff,
      exists_sortByDefault_eq_ok_iff⟩
  case registering =>
    rw [run_append_singleton h]
    exact Call.exists_apply_eq_ok hc b

/-- A key registered twice, and a default sort key asked for twice. -/
def changedCalls : List Call :=
  [.number "id" "u.id", .text "name" "u.name", .sortByDefault "name" "DESC",
    .sortByDefault "id" "asc", .datetime "name" "u.seen", .sortByDefault "name" "aSc"]

/-- The fields and default sort keys keep their places, the later field and direction count, and a
further default sort key needs a registered key and a direction. -/
theorem registry_of_run_changed :
    ∃ b, run changedCalls = .ok b ∧
      b.build.fields.map Field.key = ["id", "name"] ∧
      b.lookup "name" = .ok ⟨"name", "u.seen", .datetime⟩ ∧
      b.lookup "seen" = .error (.unknownField .filter "seen") ∧
      b.build.defaultSort.map SortKey.key = ["name", "id"] ∧
      run (changedCalls ++ [.sortByDefault "seen" "asc"]) = .error (.unknownField .sort "seen") ∧
      run (changedCalls ++ [.sortByDefault "id" "up"]) = .error (.unknownDirection "up") := by
  obtain ⟨b, hrun⟩ : ∃ b, run changedCalls = .ok b := ⟨_, rfl⟩
  obtain ⟨⟨hkeys, -⟩, hlookups, ⟨hsorts, -⟩, hsorting, -⟩ := registry_of_run hrun
  obtain ⟨-, -, hname, -⟩ := hlookups "name"
  obtain ⟨-, -, -, hseen, -⟩ := hlookups "seen"
  refine ⟨b, hrun, hkeys.trans ?_, (hname _).mpr ?_, hseen.mpr ?_, hsorts.trans ?_,
    (hsorting "seen" "asc").1.mpr ?_, (hsorting "id" "up").2.1.mpr ⟨?_, fun d => ?_⟩⟩
  · decide
  · decide
  · decide
  · decide
  · decide
  · decide
  · cases d <;> decide

end Registry.Builder

/-! ## Definitions -/

namespace RegistryDefinition

open Registry (Builder)

/-- The calls that a definition stands for: first those for its fields, then those for its default
sort keys. -/
def calls (c : RegistryDefinition) : List Builder.Call :=
  c.fields.map (fun f => .field f.key f.column f.type) ++
    c.defaultSort.map fun sort => .sortByDefault sort.key sort.direction

/-- The calls of a definition register its fields, which cannot fail, and then ask for its default
sort keys. -/
theorem run_calls (c : RegistryDefinition) :
    Builder.run c.calls =
      c.defaultSort.foldlM (fun b sort => b.sortByDefault sort.key sort.direction)
        (c.fields.foldl Builder.register Builder.empty) := by
  have hfields : (c.fields.map fun f => Builder.Call.field f.key f.column f.type).foldlM
      Builder.Call.apply Builder.empty = .ok (c.fields.foldl Builder.register Builder.empty) := by
    rw [List.foldlM_map]
    exact List.foldlM_pure
  rw [Builder.run, calls, List.foldlM_append, hfields]
  exact List.foldlM_map ..

/-- A definition is built by its calls. -/
theorem build_eq_run (c : RegistryDefinition) :
    c.build = (Builder.run c.calls).map Builder.build := by
  rw [run_calls, build]
  cases c.defaultSort.foldlM (fun b sort => b.sortByDefault sort.key sort.direction)
    (c.fields.foldl Builder.register Builder.empty) <;> rfl

end RegistryDefinition

end Sift
