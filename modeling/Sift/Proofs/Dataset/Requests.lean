import Sift.Proofs.Dataset.Sorting

/-!
# Pages served one after another

Serving a page adds the predicate and the sort keys of the compiled query once more, and sets
another offset and another limit.  None of it shows in the pages that follow
(`DatasetQuery.pages_independent_of_earlier`):

* a predicate that is asked for again admits the same records,
* sort keys that come again decide nothing, for they are reached only by records that tie on all of
  them (`compareBy_replicate`), and
* the offset and the limit of a page replace those of the page before.

`HasServed` is what holds of the query after some requests, and `HasServed.next` that it goes on to
hold after one more.
-/

namespace Sift

/-! ## Sort keys that come again -/

theorem compareBy_append (order order' : List OrderEntry) (a b : Record) :
    compareBy (order ++ order') a b = (compareBy order a b).then (compareBy order' a b) := by
  induction order with
  | nil => rfl
  | cons entry order ih =>
    rw [List.cons_append, compareBy_cons, compareBy_cons, ih, Ordering.then_assoc]

/-- Sort keys that come again decide nothing. -/
theorem compareBy_replicate (order : List OrderEntry) (count : Nat) (a b : Record) :
    compareBy (List.replicate (count + 1) order).flatten a b = compareBy order a b := by
  induction count with
  | zero => rw [List.replicate_one, List.flatten_singleton]
  | succ count ih =>
    rw [List.replicate_succ, List.flatten_cons, compareBy_append, ih, Ordering.then_self]

namespace DatasetQuery

variable {q q' : DatasetQuery} {query : Query} {records : List Record} {count : Nat}

/-- The sorted records depend on the sort keys through how they order records. -/
theorem sorted_congr (hmatching : q.matching = q'.matching)
    (hcompare : ∀ a b, compareBy q.order a b = compareBy q'.order a b) :
    q.sorted = q'.sorted := by
  simp only [sorted, hmatching, hcompare]

/-! ## A query between two requests -/

/-- The query has served a number of pages of a compiled query over the records: copies of the
predicate and of the sort keys were added to it, and nothing else. -/
structure HasServed (query : Query) (records : List Record) (count : Nat) (q : DatasetQuery) :
    Prop where
  records_eq : q.records = records
  predicates_eq : q.predicates = (List.replicate count query.predicate.toList).flatten
  order_eq : q.order = (List.replicate count query.order).flatten

namespace HasServed

/-- A new query has served nothing. -/
theorem ofRecords (query : Query) (records : List Record) :
    HasServed query records 0 (ofRecords records) :=
  ⟨rfl, rfl, rfl⟩

/-- Adding the compiled query adds one copy. -/
theorem addTo (h : HasServed query records count q) :
    HasServed query records (count + 1) (query.addTo q) := by
  have hcopy : ∀ {α : Type} (l : List α),
      (List.replicate count l).flatten ++ l = (List.replicate (count + 1) l).flatten := by
    intro α l
    rw [List.replicate_succ', List.flatten_append, List.flatten_singleton]
  rw [addTo_eq]
  refine ⟨h.records_eq, ?_, ?_⟩
  · show q.predicates ++ query.predicate.toList = _
    rw [h.predicates_eq, hcopy]
  · show q.order ++ query.order = _
    rw [h.order_eq, hcopy]

/-- Serving a page adds one copy. -/
theorem next (h : HasServed query records count q) (request : Paging) :
    HasServed query records (count + 1) (q.page query request).2 :=
  ⟨h.addTo.records_eq, h.addTo.predicates_eq, h.addTo.order_eq⟩

/-- One copy or more of the predicate admit the same records. -/
theorem admits_eq (h : HasServed query records (count + 1) q) (record : Record) :
    q.admits record = query.predicate.toList.all (·.admits record) := by
  rw [admits, h.predicates_eq, List.all_flatten, List.all_replicate, if_neg (Nat.succ_ne_zero _)]

/-- One copy or more of the compiled query select and sort the same records. -/
theorem sorted_eq {count' : Nat} (h : HasServed query records (count + 1) q)
    (h' : HasServed query records (count' + 1) q') : q.sorted = q'.sorted := by
  apply sorted_congr
  · apply matching_congr (h.records_eq.trans h'.records_eq.symm)
    intro record _
    rw [h.admits_eq, h'.admits_eq]
  · intro a b
    rw [h.order_eq, h'.order_eq, compareBy_replicate, compareBy_replicate]

/-- The next page is the one that a new query serves. -/
theorem page_eq (h : HasServed query records count q) (request : Paging) :
    (q.page query request).1 = ((DatasetQuery.ofRecords records).page query request).1 := by
  have hsorted : (query.addTo q).sorted =
      (query.addTo (DatasetQuery.ofRecords records)).sorted :=
    h.addTo.sorted_eq (ofRecords query records).addTo
  simp only [page, rows_limit_skip, ← length_sorted, hsorted]

end HasServed

/-! ## Sequences of requests -/

/-- The pages for a sequence of requests.  Each request adds the compiled query to what the requests
before it have left. -/
def serve (query : Query) (q : DatasetQuery) : List Paging → List (Page Record)
  | [] => []
  | request :: rest =>
    let (served, left) := q.page query request
    served :: serve query left rest

theorem HasServed.serve_eq (h : HasServed query records count q) (requests : List Paging) :
    q.serve query requests =
      requests.map fun request =>
        ((DatasetQuery.ofRecords records).page query request).1 := by
  induction requests generalizing q count with
  | nil => rfl
  | cons request rest ih =>
    rw [serve, List.map_cons, ← h.page_eq request, ← ih (h.next request)]

/-- However many pages of a compiled query are served one after another on one query, each is the
page that a new query over the records would serve, with the same items and the same total. -/
theorem pages_independent_of_earlier (records : List Record) (query : Query)
    (requests : List Paging) :
    (ofRecords records).serve query requests =
      requests.map fun request => ((ofRecords records).page query request).1 :=
  (HasServed.ofRecords query records).serve_eq requests

/-- The last page and then the first one, under a condition and a descending key. -/
theorem pages_independent_of_earlier_backwards :
    let row : Int → Record := fun n => ⟨[("id", .int n)]⟩
    let records := [row 1, row 2, row 3, row 4]
    let query : Query := ⟨some (.comparison "id" .gt (.number ⟨1, 0⟩)), [⟨"id", .desc⟩]⟩
    ((ofRecords records).serve query [⟨2, 2⟩, ⟨1, 2⟩]).map
        (fun page => (page.info.total, page.items)) =
      [(3, [row 2]), (3, [row 4, row 3])] := by
  intro row records query
  have horder : (query.addTo (ofRecords records)).order = query.order := rfl
  have hmatching : (query.addTo (ofRecords records)).matching = [row 2, row 3, row 4] := rfl
  have hcompare : compareBy query.order (row 2) (row 3) = .gt ∧
      compareBy query.order (row 2) (row 4) = .gt ∧
      compareBy query.order (row 3) (row 4) = .gt := by
    decide +kernel
  have hsorted : (query.addTo (ofRecords records)).sorted = [row 4, row 3, row 2] := by
    rw [sorted_of_matching horder hmatching]
    simp [List.mergeSort, hcompare]
  rw [pages_independent_of_earlier]
  simp only [List.map_cons, List.map_nil, page, rows_limit_skip, ← length_sorted, hsorted]
  rfl

end DatasetQuery

end Sift
