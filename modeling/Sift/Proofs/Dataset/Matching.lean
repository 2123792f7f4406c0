import Sift.Dataset

/-!
# Matching records

A record matches a predicate if the predicate is known to hold of it, so an unknown condition
counts as one that does not hold.  Therefore connectives act on what matches as on plain truth
values (`admits_and`, `admits_or`).

A query on a dataset depends on its conditions only through the records that they admit:
`matching_congr` says so for the records that match, and the count and the rows follow.
-/

namespace Sift

namespace Predicate

/-- A conjunction matches where both operands match. -/
theorem admits_and (p q : Predicate) (record : Record) :
    (connect .and p q).admits record = (p.admits record && q.admits record) := by
  simp only [admits, truth, Connective.truth]
  rcases p.truth record with _ | _ | _ <;> rcases q.truth record with _ | _ | _ <;> rfl

/-- A disjunction matches where one of the operands matches. -/
theorem admits_or (p q : Predicate) (record : Record) :
    (connect .or p q).admits record = (p.admits record || q.admits record) := by
  simp only [admits, truth, Connective.truth]
  rcases p.truth record with _ | _ | _ <;> rcases q.truth record with _ | _ | _ <;> rfl

/-- The operands of a connective may change places. -/
theorem admits_connect_comm (c : Connective) (p q : Predicate) (record : Record) :
    (connect c p q).admits record = (connect c q p).admits record := by
  cases c with
  | and => rw [admits_and, admits_and, Bool.and_comm]
  | or => rw [admits_or, admits_or, Bool.or_comm]

end Predicate

namespace DatasetQuery

variable {q q' : DatasetQuery}

/-- A compiled query adds its predicate to the conditions and its order to the sort keys. -/
theorem addTo_eq (query : Query) (q : DatasetQuery) :
    query.addTo q = { q with
      predicates := q.predicates ++ query.predicate.toList
      order := q.order ++ query.order } := by
  have horder : ∀ (order : List OrderEntry) (q : DatasetQuery),
      order.foldl Backend.orderBy q = { q with order := q.order ++ order } := by
    intro order
    induction order with
    | nil => intro q; simp
    | cons entry order ih =>
      intro q
      rw [List.foldl_cons, ih]
      simp [Backend.orderBy]
  obtain ⟨_ | p, order⟩ := query
  · simp [Query.addTo, horder]
  · simp [Query.addTo, horder, Backend.restrict]

/-- The records that match depend on the conditions through what they admit. -/
theorem matching_congr (hrecords : q.records = q'.records)
    (hadmits : ∀ record ∈ q.records, q.admits record = q'.admits record) :
    q.matching = q'.matching := by
  rw [matching, matching, ← hrecords]
  exact List.filter_congr hadmits

/-- A restriction picks out the records that match its predicate. -/
theorem matching_restrict (q : DatasetQuery) (p : Predicate) :
    (Backend.restrict q p).matching = q.matching.filter p.admits := by
  rw [matching, matching, List.filter_filter]
  apply List.filter_congr
  intro record _
  simp [admits, Backend.restrict, Bool.and_comm]

/-- The number of records depends on the conditions through the records that match. -/
theorem count_congr (h : q.matching = q'.matching) : q.count = q'.count := by
  rw [count, count, h]

/-- So do the rows, under the same order and the same part of them. -/
theorem rows_congr (h : q.matching = q'.matching) (horder : q.order = q'.order)
    (hoffset : q.offset = q'.offset) (hlimit : q.limit = q'.limit) : q.rows = q'.rows := by
  have hsorted : q.sorted = q'.sorted := by rw [sorted, sorted, h, horder]
  rw [rows, rows, hsorted, hoffset, hlimit]

/-- The sorted records, where the sort keys and the records that match are known. -/
theorem sorted_of_matching {order : List OrderEntry} {records : List Record}
    (horder : q.order = order) (hmatching : q.matching = records) :
    q.sorted = records.mergeSort fun a b => compareBy order a b != .gt := by
  rw [sorted, horder, hmatching]

/-- Predicates that match the same records give a query the same rows. -/
theorem addTo_congr {p p' : Predicate} (h : ∀ record, p.admits record = p'.admits record)
    (order : List OrderEntry) (q : DatasetQuery) :
    (Query.addTo ⟨some p, order⟩ q).count = (Query.addTo ⟨some p', order⟩ q).count ∧
      (Query.addTo ⟨some p, order⟩ q).rows = (Query.addTo ⟨some p', order⟩ q).rows := by
  rw [addTo_eq, addTo_eq]
  have hmatching : ({ q with
        predicates := q.predicates ++ [p], order := q.order ++ order } : DatasetQuery).matching =
      ({ q with
        predicates := q.predicates ++ [p'], order := q.order ++ order } : DatasetQuery).matching :=
    matching_congr rfl fun record _ => by simp [admits, h record]
  exact ⟨count_congr hmatching, rows_congr hmatching rfl rfl rfl⟩

end DatasetQuery

end Sift
