import Sift.Proofs.Compile.Outcomes
import Sift.Proofs.Compile.Refusals
import Sift.Proofs.Registry.SortTexts

/-!
# What part of a query is to blame

A query fails with an error of its filter or, if the filter compiles, with one of its sort text.
Either error says which of the two it comes from.

* Whatever stage of the filter fails, its error blames the filter: the structure, or the leftmost
  expression that is refused (`Registry.clause_of_filter`).
* Whatever is wrong with a sort text, or with a default sort key, blames the sort text
  (`Registry.clause_of_sort`).  An unknown key is found by the same lookup on both sides, which is
  told whom to blame.
* An error is one of form exactly if the tokens of the filter make no tree or the leftmost
  expression that is refused has fewer than two colons (`Registry.isIllFormed_iff_of_filter`).
-/

namespace Sift

open Sift.Filter (DepthLimit Tree expressions expressions_eq_nil_of_parse leaves_of_parse)

namespace Registry

variable {r : Registry} {limit : DepthLimit} {text : String} {e : QueryError}

/-! ## Errors of a filter -/

/-- A reason to refuse an expression blames the filter. -/
theorem Refuses.clause_eq (h : r.Refuses text e) : e.clause = .filter := by
  cases h <;> rfl

/-- Whatever is wrong with a filter, the filter is to blame. -/
theorem clause_of_filter (h : r.filter limit text = .error e) : e.clause = .filter := by
  rcases filter_eq_error_iff.mp h with ⟨fault, -, rfl⟩ | ⟨-, words, span, -, herror, -⟩
  · rfl
  · exact (expression_eq_error_iff.mp herror).clause_eq

/-- A filter that compiles has a tree or is empty, and all its expressions compile. -/
theorem exists_of_filter_eq_ok {found : Option Predicate} (h : r.filter limit text = .ok found) :
    (∃ tree, Tree.parse limit text = .ok tree) ∧
      ∀ leaf ∈ expressions text, ∃ p, r.expression leaf.1 = .ok p := by
  cases found with
  | none =>
    have hparse := filter_eq_ok_none_iff.mp h
    refine ⟨⟨none, hparse⟩, ?_⟩
    rw [expressions_eq_nil_of_parse hparse]
    exact nofun
  | some p =>
    obtain ⟨tree, hparse, hevaluate⟩ := filter_eq_ok_some_iff.mp h
    rw [← leaves_of_parse hparse]
    exact ⟨⟨some tree, hparse⟩, exists_of_evaluate hevaluate⟩

/-! ## Form -/

/-- The words are those of the leftmost expression in the text that does not compile. -/
def FailsFirst (r : Registry) (text words : String) : Prop :=
  ∃ span, (words, span) ∈ expressions text ∧ (∃ e, r.expression words = .error e) ∧
    ∀ earlier ∈ expressions text, earlier.2.start < span.start →
      ∃ q, r.expression earlier.1 = .ok q

/-- The form of the filter is wrong: its tokens make no tree, or the leftmost expression that does
not compile has fewer than two colons. -/
def IllFormed (r : Registry) (limit : DepthLimit) (text : String) : Prop :=
  (∃ fault, Tree.parse limit text = .error fault) ∨
    ∃ words, r.FailsFirst text words ∧ words.toList.count ':' < 2

/-- The error of a filter is one of form exactly if the form of the filter is wrong. -/
theorem isIllFormed_iff_of_filter (h : r.filter limit text = .error e) :
    e.isIllFormed ↔ r.IllFormed limit text := by
  rcases filter_eq_error_iff.mp h with ⟨fault, hparse, rfl⟩ | ⟨⟨tree, hparse⟩, hleftmost⟩
  · exact ⟨fun _ => .inl ⟨fault, hparse⟩, fun _ => rfl⟩
  constructor
  · intro hform
    obtain ⟨words, span, hmem, herror, hearlier⟩ := hleftmost
    refine .inr ⟨words, ⟨span, hmem, ⟨e, herror⟩, hearlier⟩, ?_⟩
    cases expression_eq_error_iff.mp herror with
    | malformed hcount => exact hcount
    | unknownField | unknownOperation | unsupported | notNumber | notDatetime => cases hform
  · rintro (⟨fault, hfault⟩ | ⟨words, ⟨span, hmem, -, hearlier⟩, hcount⟩)
    · cases hfault.symm.trans hparse
    · have herror : r.expression words = .error (.malformedExpression words) :=
        expression_eq_error_iff.mpr (.malformed hcount)
      rw [hleftmost.unique ⟨words, span, hmem, herror, hearlier⟩]
      rfl

/-- Nothing is wrong with the form of a filter that compiles. -/
theorem not_illFormed_of_filter {found : Option Predicate} (h : r.filter limit text = .ok found) :
    ¬r.IllFormed limit text := by
  obtain ⟨⟨tree, hparse⟩, hcompile⟩ := exists_of_filter_eq_ok h
  rintro (⟨fault, hfault⟩ | ⟨words, ⟨span, hmem, ⟨e, herror⟩, -⟩, -⟩)
  · cases hfault.symm.trans hparse
  · obtain ⟨p, hp⟩ := hcompile _ hmem
    cases herror.symm.trans hp

/-! ## Errors of a sort text -/

theorem clause_of_parse (h : SortKey.parse r text = .error e) : e.clause = .sort := by
  by_cases hcount : text.toList.count ':' = 1
  · obtain ⟨key, spelling, hparts⟩ := SortText.exists_of_count hcount
    rw [SortKey.parse_of_parts hparts] at h
    rcases of_bind_eq_error h with hlookup | ⟨field, -, h⟩
    · rw [(lookup_eq_error_iff.mp hlookup).2]
      rfl
    rcases of_bind_eq_error h with hdirection | ⟨d, -, h⟩
    · rw [(direction_eq_error_iff.mp hdirection).2]
      rfl
    · cases h
  · cases (SortKey.parse_of_count hcount).symm.trans h
    rfl

theorem clause_of_locate {sortKey : SortKey} (h : sortKey.locate r = .error e) :
    e.clause = .sort := by
  rcases of_bind_eq_error h with hlookup | ⟨field, -, h⟩
  · rw [(lookup_eq_error_iff.mp hlookup).2]
    rfl
  · cases h

/-- Whatever is wrong with a sort text or with a default sort key, the sort text is to blame. -/
theorem clause_of_sort {sort : Option String} (h : r.sort sort = .error e) : e.clause = .sort := by
  by_cases hdefault : sort = none ∨ sort = some ""
  · rw [sort_of_eq hdefault] at h
    obtain ⟨sortKey, -, hlocate⟩ := exists_of_mapM_eq_error h
    exact clause_of_locate hlocate
  · obtain ⟨hne, hempty⟩ := not_or.mp hdefault
    obtain ⟨text, rfl⟩ := Option.ne_none_iff_exists'.mp hne
    rw [sort_of_ne fun htext => hempty (congrArg some htext)] at h
    rcases of_bind_eq_error h with hparse | ⟨sortKey, -, h⟩
    · exact clause_of_parse hparse
    rcases of_bind_eq_error h with hlocate | ⟨entry, -, h⟩
    · exact clause_of_locate hlocate
    · cases h

end Registry

/-- An error of form blames the filter. -/
theorem QueryError.clause_of_isIllFormed {e : QueryError} (h : e.isIllFormed) :
    e.clause = .filter := by
  cases e with
  | malformedExpression | malformedFilter => rfl
  | unknownField | unknownOperation | unsupportedOperation | notNumber | notDatetime
    | malformedSort | unknownDirection => cases h

namespace Registry

variable {r : Registry} {limit : DepthLimit} {text : String} {e : QueryError}
  {filter sort : Option String}

/-! ## Queries -/

/-- A query whose filter fails has the error of the filter, whatever the sort text is. -/
theorem compile_of_filter_eq_error (h : r.filter limit text = .error e) (sort : Option String) :
    r.compile limit (some text) sort = .error e := by
  simp only [compile, h]
  rfl

/-- A query whose filter does not fail has the error of the sort text. -/
theorem compile_eq_error_iff (h : ∀ text, filter = some text → ∃ p, r.filter limit text = .ok p)
    (sort : Option String) (e : QueryError) :
    r.compile limit filter sort = .error e ↔ r.sort sort = .error e := by
  have hcompile : ∃ p, r.compile limit filter sort = Query.mk p <$> r.sort sort := by
    cases filter with
    | none => exact ⟨none, rfl⟩
    | some text =>
      obtain ⟨p, hp⟩ := h text rfl
      refine ⟨p, ?_⟩
      simp only [compile, hp]
      rfl
  obtain ⟨p, hp⟩ := hcompile
  rw [hp, map_eq_error_iff]

/-- What an error of a query blames.

* If the filter fails, the query fails with the same error, whatever the sort text is, and that
  error blames the filter.
* If it does not fail, the errors of the query are those of the sort text, and they blame the sort
  text.
* The error is one of form exactly if the form of the filter is wrong. -/
theorem compile_blames (r : Registry) (limit : DepthLimit) (filter sort : Option String) :
    (∀ text e, filter = some text → r.filter limit text = .error e →
      r.compile limit filter sort = .error e ∧ e.clause = .filter) ∧
    ((∀ text, filter = some text → ∃ p, r.filter limit text = .ok p) →
      ∀ e, (r.compile limit filter sort = .error e ↔ r.sort sort = .error e) ∧
        (r.compile limit filter sort = .error e → e.clause = .sort)) ∧
    (∀ e, r.compile limit filter sort = .error e →
      (e.isIllFormed ↔ ∃ text, filter = some text ∧ r.IllFormed limit text)) := by
  refine ⟨?_, fun hfilter e => ?_, fun e h => ?_⟩
  · rintro text e rfl hfail
    exact ⟨compile_of_filter_eq_error hfail sort, clause_of_filter hfail⟩
  · have hiff := compile_eq_error_iff hfilter sort e
    exact ⟨hiff, fun h => clause_of_sort (hiff.mp h)⟩
  by_cases hfilter : ∀ text, filter = some text → ∃ p, r.filter limit text = .ok p
  · have hsort : e.clause = .sort :=
      clause_of_sort ((compile_eq_error_iff hfilter sort e).mp h)
    constructor
    · intro hform
      cases hsort.symm.trans (QueryError.clause_of_isIllFormed hform)
    · rintro ⟨text, htext, hform⟩
      obtain ⟨p, hp⟩ := hfilter text htext
      exact absurd hform (not_illFormed_of_filter hp)
  · simp only [not_forall] at hfilter
    obtain ⟨text, rfl, hfail⟩ := hfilter
    cases hresult : r.filter limit text with
    | ok p => exact absurd ⟨p, hresult⟩ hfail
    | error cause =>
      cases h.symm.trans (compile_of_filter_eq_error hresult sort)
      simp [isIllFormed_iff_of_filter hresult]

/-- A bad sort text beside a filter whose left expression lacks a colon, and beside a filter that
compiles. -/
theorem compile_blames_users :
    let users : Registry := ⟨[⟨"id", "u.id", .number⟩, ⟨"name", "u.name", .text⟩], []⟩
    let text := "eq:id & lt:name:b"
    let malformed : QueryError := .malformedExpression "eq:id"
    let unknown : QueryError := .unknownField .sort "age"
    users.filter .standard text = .error malformed ∧
      users.compile .standard (some text) (some "age:up") = .error malformed ∧
      users.IllFormed .standard text ∧
      (∃ p, users.filter .standard "eq:id:1" = .ok p) ∧
      users.compile .standard (some "eq:id:1") (some "age:up") = .error unknown ∧
      ¬users.IllFormed .standard "eq:id:1" := by
  intro users text malformed unknown
  have hfail : users.filter .standard text = .error malformed := by decide +kernel
  have hfilter : ∃ p, users.filter .standard "eq:id:1" = .ok p :=
    ⟨some (.comparison "u.id" .eq (.number ⟨1, 0⟩)), by decide +kernel⟩
  obtain ⟨hblame, -, hform⟩ := compile_blames users .standard (some text) (some "age:up")
  obtain ⟨hcompile, -⟩ := hblame text malformed rfl hfail
  obtain ⟨_, htext, hill⟩ := (hform malformed hcompile).mp rfl
  cases htext
  obtain ⟨-, hblame', hform'⟩ := compile_blames users .standard (some "eq:id:1") (some "age:up")
  have hall : ∀ text, some "eq:id:1" = some text → ∃ p, users.filter .standard text = .ok p := by
    rintro _ ⟨⟩
    exact hfilter
  have hcompile' : users.compile .standard (some "eq:id:1") (some "age:up") = .error unknown :=
    (hblame' hall unknown).1.mpr (by decide +kernel)
  refine ⟨hfail, hcompile, hill, hfilter, hcompile', fun hill' => ?_⟩
  cases (hform' unknown hcompile').mpr ⟨_, rfl, hill'⟩

end Registry

end Sift
