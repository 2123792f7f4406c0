import Sift.Proofs.Failure
import Sift.Proofs.Registry.Building
import Sift.Proofs.Text.Cutting
import Sift.Sort

/-!
# What a sort text asks for

The order that a query asks for, in terms of the calls that built the registry.

* Without a sort text the default sort keys apply.  A builder accepts only registered keys for them,
  and a key that is registered stays so, whatever calls come later; so every one of them has a
  column, and this never fails (`Registry.Builder.Holds.exists_sort_none`).
* A sort text has one of four answers, which `Registry.Builder.SortAnswer` lists: it has not exactly
  one colon, or its key is not registered, or its direction is none, or it asks for one column.  The
  answers exclude each other, and the earlier ones go first.

`Registry.Builder.sort_of_run` has both.
-/

namespace Sift

/-! ## The parts of a sort text -/

/-- The text has exactly one colon, with a key before it and a spelling of a direction after it. -/
structure SortText (text key spelling : String) : Prop where
  count_eq : text.toList.count ':' = 1
  toList_eq : text.toList = key.toList ++ ':' :: spelling.toList

namespace SortText

variable {text key spelling : String}

/-- The only colon is not in the parts. -/
theorem not_mem (h : SortText text key spelling) :
    ':' ∉ key.toList ∧ ':' ∉ spelling.toList := by
  have hcount := h.count_eq
  rw [h.toList_eq, List.count_append, List.count_cons_self] at hcount
  exact ⟨List.count_eq_zero.mp (by omega), List.count_eq_zero.mp (by omega)⟩

/-- The text is cut at its colon. -/
theorem cut_eq (h : SortText text key spelling) :
    Text.cut ':' text.toList = some (key.toList, spelling.toList) := by
  rw [h.toList_eq, Text.cut_append h.not_mem.1]

/-- A text with one colon has the two parts. -/
theorem exists_of_count (h : text.toList.count ':' = 1) :
    ∃ key spelling, SortText text key spelling := by
  obtain ⟨key, spelling, hcut, -⟩ := Text.exists_cut_of_count (h ▸ Nat.zero_lt_one)
  refine ⟨String.ofList key, String.ofList spelling, h, ?_⟩
  rw [String.toList_ofList, String.toList_ofList]
  exact (Text.cut_eq_some_iff.mp hcut).1

end SortText

namespace SortKey

variable {r : Registry} {text key spelling : String}

/-- A text that has not exactly one colon is refused. -/
theorem parse_of_count (h : text.toList.count ':' ≠ 1) :
    parse r text = .error (.malformedSort text) := by
  rw [parse]
  split
  case h_1 => rfl
  case h_2 before after hcut =>
    obtain ⟨hparts, hbefore⟩ := Text.cut_eq_some_iff.mp hcut
    rw [hparts, List.count_append, List.count_cons_self, List.count_eq_zero.mpr hbefore] at h
    exact if_pos (List.count_pos_iff.mp (by omega))

/-- A text of two parts is read part by part. -/
theorem parse_of_parts (h : SortText text key spelling) :
    parse r text = (do
      let _ ← r.lookup .sort key
      let d ← Registry.direction spelling
      .ok ⟨key, d⟩) := by
  rw [parse, h.cut_eq]
  simp only [if_neg h.not_mem.2, String.ofList_toList]

end SortKey

namespace Registry

variable {r : Registry} {text key spelling : String}

/-- A text that is not empty is read as a sort key, whose column is looked up. -/
theorem sort_of_ne (h : text ≠ "") :
    r.sort (some text) = (do
      let sortKey ← SortKey.parse r text
      let entry ← sortKey.locate r
      .ok [entry]) := by
  rw [sort, Option.filter_some, if_pos (by simpa using h)]

/-- Without a text, or with an empty one, the default sort keys are looked up. -/
theorem sort_of_eq {text : Option String} (h : text = none ∨ text = some "") :
    r.sort text = r.defaultSort.mapM (SortKey.locate r) := by
  rcases h with rfl | rfl <;> rfl

/-- A spelling is read as the direction that it spells. -/
theorem direction_of_spelledBy {d : Direction} (h : d.SpelledBy spelling) :
    direction spelling = .ok d := by
  rw [direction, Direction.parse?_eq_some_iff.mpr h]

/-- What spells no direction is refused. -/
theorem direction_eq_error_iff {e : QueryError} : direction spelling = .error e ↔
    (∀ d : Direction, ¬d.SpelledBy spelling) ∧ e = .unknownDirection spelling := by
  simp only [← Direction.parse?_eq_some_iff, direction]
  cases Direction.parse? spelling <;> simp [eq_comm]

namespace Builder

variable {b : Builder} {calls : List Call}

/-! ## Answers -/

/-- The entry of a default sort key: the column of the field that was registered last with the key,
and the direction that was written last for it. -/
def IsDefaultEntry (calls : List Call) (key : String) (entry : OrderEntry) : Prop :=
  ∃ f spelling, latest? Field.key key (registered calls) = some f ∧ entry.column = f.column ∧
    latest? Prod.fst key (sorts calls) = some (key, spelling) ∧
      entry.direction.SpelledBy spelling

/-- What a sort text is answered with, after a series of calls. -/
inductive SortAnswer (calls : List Call) (text : String) :
    Except QueryError (List OrderEntry) → Prop where
  | malformed (hcount : text.toList.count ':' ≠ 1) :
    SortAnswer calls text (.error (.malformedSort text))
  | unknownField {key spelling : String} (hparts : SortText text key spelling)
    (hkey : key ∉ registeredKeys calls) :
    SortAnswer calls text (.error (.unknownField .sort key))
  | unknownDirection {key spelling : String} (hparts : SortText text key spelling)
    (hkey : key ∈ registeredKeys calls)
    (hdirection : ∀ d : Direction, ¬d.SpelledBy spelling) :
    SortAnswer calls text (.error (.unknownDirection spelling))
  | entry {key spelling : String} {f : Field} {d : Direction}
    (hparts : SortText text key spelling)
    (hkey : latest? Field.key key (registered calls) = some f)
    (hdirection : d.SpelledBy spelling) :
    SortAnswer calls text (.ok [⟨f.column, d⟩])

namespace Holds

variable {text key spelling : String}

/-- The registry finds the field that was registered last with a key. -/
theorem lookup_build_of_latest? (hb : b.Holds calls) (clause : Clause) {f : Field}
    (h : latest? Field.key key (registered calls) = some f) :
    b.build.lookup clause key = .ok f := by
  rw [Registry.lookup, hb.field, h]

/-- A key that is registered has a field that was registered last. -/
theorem exists_latest? (hb : b.Holds calls) (h : key ∈ registeredKeys calls) :
    ∃ f, latest? Field.key key (registered calls) = some f := by
  rw [← hb.mem_keys, ← not_not (a := key ∈ _), ← get?_build_eq_none_iff, hb.field] at h
  exact Option.ne_none_iff_exists'.mp h

/-- A key that is not registered is not found. -/
theorem lookup_build_of_not_mem (hb : b.Holds calls) (clause : Clause)
    (h : key ∉ registeredKeys calls) :
    b.build.lookup clause key = .error (.unknownField clause key) := by
  rw [← hb.mem_keys, ← get?_build_eq_none_iff] at h
  rw [Registry.lookup, h]

/-! ## Default sort keys -/

/-- A default sort key has a column, which its entry shows with its direction. -/
theorem exists_locate (hb : b.Holds calls) {s : SortKey} (hs : s ∈ b.build.defaultSort) :
    ∃ entry, s.locate b.build = .ok entry ∧ IsDefaultEntry calls s.key entry := by
  obtain ⟨f, hf⟩ := hb.exists_latest? (hb.mem_keys.mp (hb.known s hs))
  obtain ⟨spelling, hlatest, hspelled⟩ := hb.spelledBy_of_mem hs
  refine ⟨⟨f.column, s.direction⟩, ?_, f, spelling, hf, rfl, hlatest, hspelled⟩
  rw [SortKey.locate, hb.lookup_build_of_latest? .sort hf]
  rfl

/-- Where there is no sort text, there is an entry for each default sort key. -/
theorem exists_sort_none (hb : b.Holds calls) {text : Option String}
    (h : text = none ∨ text = some "") :
    ∃ entries, b.build.sort text = .ok entries ∧
      List.Forall₂ (IsDefaultEntry calls) ((sorts calls).map Prod.fst).eraseDups entries := by
  have : Nonempty OrderEntry := ⟨⟨"", .asc⟩⟩
  choose! entry hlocate hentry using fun s hs => hb.exists_locate (s := s) hs
  refine ⟨b.build.defaultSort.map entry, ?_, ?_⟩
  · rw [sort_of_eq h, mapM_eq_ok_iff, List.forall₂_map_right_iff, List.forall₂_same]
    exact hlocate
  · rw [← hb.sortKeys, List.forall₂_map_left_iff, List.forall₂_map_right_iff]
    exact List.forall₂_same.mpr hentry

/-! ## Sort texts -/

/-- A text is answered as `SortAnswer` says. -/
theorem sort_of_answer (hb : b.Holds calls) (htext : text ≠ "")
    {answer : Except QueryError (List OrderEntry)} (h : SortAnswer calls text answer) :
    b.build.sort (some text) = answer := by
  rw [sort_of_ne htext]
  cases h with
  | malformed hcount =>
    rw [SortKey.parse_of_count hcount]
    rfl
  | unknownField hparts hkey =>
    rw [SortKey.parse_of_parts hparts, hb.lookup_build_of_not_mem .sort hkey]
    rfl
  | unknownDirection hparts hkey hdirection =>
    obtain ⟨f, hf⟩ := hb.exists_latest? hkey
    rw [SortKey.parse_of_parts hparts, hb.lookup_build_of_latest? .sort hf,
      direction_eq_error_iff.mpr ⟨hdirection, rfl⟩]
    rfl
  | entry hparts hkey hdirection =>
    have hlookup := hb.lookup_build_of_latest? .sort hkey
    rw [SortKey.parse_of_parts hparts, hlookup, direction_of_spelledBy hdirection]
    show (SortKey.locate b.build _ >>= _) = _
    rw [SortKey.locate, hlookup]
    rfl

/-- One of the answers fits. -/
theorem exists_answer (hb : b.Holds calls) (text : String) :
    ∃ answer, SortAnswer calls text answer := by
  by_cases hcount : text.toList.count ':' = 1
  · obtain ⟨key, spelling, hparts⟩ := SortText.exists_of_count hcount
    by_cases hkey : key ∈ registeredKeys calls
    · by_cases hdirection : ∃ d : Direction, d.SpelledBy spelling
      · obtain ⟨f, hf⟩ := hb.exists_latest? hkey
        obtain ⟨d, hd⟩ := hdirection
        exact ⟨_, .entry hparts hf hd⟩
      · exact ⟨_, .unknownDirection hparts hkey (not_exists.mp hdirection)⟩
    · exact ⟨_, .unknownField hparts hkey⟩
  · exact ⟨_, .malformed hcount⟩

end Holds

/-- What a registry that any series of successful calls has built orders a query by.

* Without a sort text, or with an empty one, it never fails.  It gives one entry for each default
  sort key, in the order in which they were first asked for, with the column of the field registered
  last with the key and the direction written last for it.
* To any other text it gives the one answer that `SortAnswer` lists for it. -/
theorem sort_of_run (h : run calls = .ok b) :
    (∀ text, text = none ∨ text = some "" →
      ∃ entries, b.build.sort text = .ok entries ∧
        List.Forall₂ (IsDefaultEntry calls) ((sorts calls).map Prod.fst).eraseDups entries) ∧
    ∀ text, text ≠ "" → ∀ answer,
      b.build.sort (some text) = answer ↔ SortAnswer calls text answer := by
  have hb := holds_of_run h
  refine ⟨fun text htext => hb.exists_sort_none htext, fun text htext answer => ⟨?_, ?_⟩⟩
  · rintro rfl
    obtain ⟨answer, hanswer⟩ := hb.exists_answer text
    rwa [hb.sort_of_answer htext hanswer]
  · exact hb.sort_of_answer htext

/-- A default sort key whose field and direction were changed later, a direction in capital letters,
and a text with an unknown key and no direction, of which the key is blamed. -/
theorem sort_of_run_changed :
    ∃ b, run changedCalls = .ok b ∧
      (∃ entries, b.build.sort (some "") = .ok entries ∧
        List.Forall₂ (IsDefaultEntry changedCalls) ["name", "id"] entries) ∧
      b.build.sort (some "name:DESC") = .ok [⟨"u.seen", .desc⟩] ∧
      b.build.sort (some "seen:up") = .error (.unknownField .sort "seen") ∧
      b.build.sort (some "id:up") = .error (.unknownDirection "up") ∧
      b.build.sort (some "id:asc:") = .error (.malformedSort "id:asc:") := by
  obtain ⟨b, hrun⟩ : ∃ b, run changedCalls = .ok b := ⟨_, rfl⟩
  obtain ⟨hdefault, hsort⟩ := sort_of_run hrun
  have hkeys : ((sorts changedCalls).map Prod.fst).eraseDups = ["name", "id"] := by decide
  have hname : SortText "name:DESC" "name" "DESC" := ⟨by decide, by decide⟩
  have hseen : SortText "seen:up" "seen" "up" := ⟨by decide, by decide⟩
  have hid : SortText "id:up" "id" "up" := ⟨by decide, by decide⟩
  have hfield : latest? Field.key "name" (registered changedCalls) =
      some ⟨"name", "u.seen", .datetime⟩ := by decide
  have hdirection : ∀ d : Direction, ¬d.SpelledBy "up" := by
    intro d
    cases d <;> decide
  exact ⟨b, hrun, hkeys ▸ hdefault (some "") (Or.inr rfl),
    (hsort _ (by decide) _).mpr (.entry hname hfield (by decide)),
    (hsort _ (by decide) _).mpr (.unknownField hseen (by decide)),
    (hsort _ (by decide) _).mpr (.unknownDirection hid (by decide) hdirection),
    (hsort _ (by decide) _).mpr (.malformed (by decide))⟩

end Builder

end Registry

end Sift
