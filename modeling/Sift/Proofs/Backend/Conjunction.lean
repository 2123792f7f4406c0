import Sift.Proofs.Backend.Calls
import Sift.Proofs.Dataset.Matching
import Sift.Proofs.Sql.Pieces

/-!
# Restricting more than once

A backend that receives several predicates gives the same as one that receives their conjunction in
one call (`Backend.restrictions_combine`).  The two backends get there by different ways.

* A statement has one condition, which grows to the right with every predicate.  So it becomes the
  expression of the conjunction that is nested to the left, and the text and the parameters are the
  same (`TableQuery.statement_congr`).
* A dataset asks of a record that every predicate is known to hold.  A conjunction is known to hold
  where both of its operands are, and nowhere else; whether it is false or unknown there does not
  matter (`Predicate.admits_conjunction`).
-/

namespace Sift

/-! ## Conjunctions -/

namespace Predicate

/-- The conjunction of a predicate and those after it, nested to the left. -/
def conjunction (p : Predicate) (rest : List Predicate) : Predicate :=
  rest.foldl (.connect .and) p

/-- A conjunction matches where every predicate matches. -/
theorem admits_conjunction (p : Predicate) (rest : List Predicate) (record : Record) :
    (conjunction p rest).admits record = (p :: rest).all (·.admits record) := by
  induction rest generalizing p with
  | nil => rw [conjunction, List.foldl_nil, List.all_cons, List.all_nil, Bool.and_true]
  | cons q rest ih =>
    rw [conjunction, List.foldl_cons, ← conjunction, ih, List.all_cons, List.all_cons,
      List.all_cons, admits_and, Bool.and_assoc]

end Predicate

namespace Sql

/-- The condition that grows with every predicate is the expression of their conjunction. -/
theorem foldl_conjoin_conjunction (p : Predicate) (rest : List Predicate) :
    (rest.map Expr.ofPredicate).foldl conjoin (some (Expr.ofPredicate p)) =
      some (Expr.ofPredicate (p.conjunction rest)) := by
  induction rest generalizing p with
  | nil => rfl
  | cons q rest ih => exact ih (.connect .and p q)

namespace TableQuery

variable {q q' : TableQuery}

theorem condition_of_predicates {p : Predicate} {rest : List Predicate}
    (h : q.predicates = p :: rest) :
    q.condition = some (Expr.ofPredicate (p.conjunction rest)) := by
  rw [condition, h, List.map_cons, List.foldl_cons]
  exact foldl_conjoin_conjunction p rest

/-- The statement for the number of rows depends on the source and the condition. -/
theorem countStatement_congr (hsource : q.source = q'.source)
    (hcondition : q.condition = q'.condition) (d : Dialect) :
    q.countStatement d = q'.countStatement d := by
  rw [countStatement, countStatement, countSelect, countSelect, base_eq, base_eq, hsource,
    hcondition]

/-- The statement for the rows also depends on what is selected, the sort keys and the paging. -/
theorem statement_congr (hsource : q.source = q'.source)
    (hcondition : q.condition = q'.condition) (hselection : q.selection = q'.selection)
    (horder : q.order = q'.order) (hoffset : q.offset = q'.offset) (hlimit : q.limit = q'.limit)
    (d : Dialect) : q.statement d = q'.statement d := by
  rw [statement, statement, select, select, base_eq, base_eq, hsource, hcondition, hselection,
    horder, hoffset, hlimit]

end TableQuery

end Sql

/-! ## Calls beside the predicates -/

namespace Call

/-- The calls that add no predicate. -/
def others (calls : List Call) : List Call :=
  calls.filter (·.predicate?.isNone)

/-- What a call that adds a predicate leaves alone can be read off the other calls. -/
theorem filterMap_others {α : Type} {f : Call → Option α} (hf : ∀ p, f (.restrict p) = none)
    (calls : List Call) : (others calls).filterMap f = calls.filterMap f := by
  rw [others, List.filterMap_filter]
  congr 1
  funext call
  cases call with
  | restrict p => exact (hf p).symm
  | _ => rfl

end Call

namespace Backend

/-- Calls that add some predicates one by one, at whatever points between other calls, give the same
as calls that add the conjunction of these predicates at once, if the other calls are the same: the
same statements with the same parameters, for the rows and for their number, over a table in either
dialect, and the same number of rows and the same rows from a dataset. -/
theorem restrictions_combine {p : Predicate} {rest : List Predicate} {calls once : List Call}
    (hcalls : calls.filterMap Call.predicate? = p :: rest)
    (honce : once.filterMap Call.predicate? = [p.conjunction rest])
    (hothers : Call.others calls = Call.others once) :
    (∀ (source : Sql.Source) (selection : Sql.Selection) (d : Sql.Dialect),
      let query := fun calls => run calls (Sql.TableQuery.ofSource source selection)
      (query calls).statement d = (query once).statement d ∧
        (query calls).countStatement d = (query once).countStatement d) ∧
    ∀ records : List Record,
      let query := fun calls => run calls (DatasetQuery.ofRecords records)
      (query calls).count = (query once).count ∧ (query calls).rows = (query once).rows := by
  have hsame : ∀ {α : Type} {f : Call → Option α}, (∀ p, f (.restrict p) = none) →
      calls.filterMap f = once.filterMap f := by
    intro α f hf
    rw [← Call.filterMap_others hf calls, ← Call.filterMap_others hf once, hothers]
  have horder := @hsame _ Call.sortKey? fun _ => rfl
  have hoffset := @hsame _ Call.offset? fun _ => rfl
  have hlimit := @hsame _ Call.limit? fun _ => rfl
  refine ⟨?_, ?_⟩
  · intro source selection d query
    have hcondition : (query calls).condition = (query once).condition := by
      simp only [query, Sql.TableQuery.run_ofSource]
      rw [Sql.TableQuery.condition_of_predicates hcalls,
        Sql.TableQuery.condition_of_predicates honce]
      rfl
    refine ⟨Sql.TableQuery.statement_congr ?_ hcondition ?_ ?_ ?_ ?_ d,
      Sql.TableQuery.countStatement_congr ?_ hcondition d⟩ <;>
      simp only [query, Sql.TableQuery.run_ofSource, horder, hoffset, hlimit]
  · intro records query
    have hmatching : (query calls).matching = (query once).matching := by
      simp only [query, DatasetQuery.run_ofRecords]
      refine DatasetQuery.matching_congr rfl fun record _ => ?_
      simp only [DatasetQuery.admits, hcalls, honce]
      have hone : [p.conjunction rest].all (·.admits record) = (p.conjunction rest).admits record :=
        Bool.and_true _
      rw [hone, Predicate.admits_conjunction]
    refine ⟨DatasetQuery.count_congr hmatching, DatasetQuery.rows_congr hmatching ?_ ?_ ?_⟩ <;>
      simp only [query, DatasetQuery.run_ofRecords, horder, hoffset, hlimit]

/-- Three predicates between other calls, one of them unknown on a record without a key. -/
theorem restrictions_combine_keys :
    let p : Predicate := .comparison "key" .gt (.number ⟨4, 0⟩)
    let q : Predicate := .connect .or (.null "key" false) (.comparison "id" .ne (.text "1"))
    let r : Predicate := .like "name" "%a%" true
    let whole : Predicate := .connect .and (.connect .and p q) r
    let calls : List Call :=
      [.skip 1, .restrict p, .orderBy ⟨"key", .desc⟩, .restrict q, .limit 5, .skip 0, .restrict r]
    let once : List Call :=
      [.restrict whole, .skip 1, .orderBy ⟨"key", .desc⟩, .limit 5, .skip 0]
    let source : Sql.Source := ⟨⟨none, "items"⟩, none⟩
    let statement : Sql.Statement :=
      ⟨"SELECT * FROM \"items\" WHERE (((\"key\" > $1) AND " ++
          "((\"key\" IS NULL) OR (\"id\" <> $2))) AND (LOWER(\"name\") NOT LIKE $3)) " ++
          "ORDER BY \"key\" DESC LIMIT $4 OFFSET $5",
        [.number ⟨4, 0⟩, .text "1", .text "%a%", .number ⟨5, 0⟩, .number ⟨0, 0⟩]⟩
    let row : Int → Value → Record := fun id key =>
      ⟨[("id", .int id), ("key", key), ("name", .text "BOB")]⟩
    let records := [row 1 (.int 5), row 2 .null, row 3 (.int 6), row 4 (.int 7)]
    calls.filterMap Call.predicate? = [p, q, r] ∧ once.filterMap Call.predicate? = [whole] ∧
      Call.others calls = Call.others once ∧
      (run calls (Sql.TableQuery.ofSource source .all)).statement .postgres = statement ∧
      (run once (Sql.TableQuery.ofSource source .all)).statement .postgres = statement ∧
      (run calls (DatasetQuery.ofRecords records)).rows = [row 4 (.int 7), row 3 (.int 6)] ∧
      (run once (DatasetQuery.ofRecords records)).rows = [row 4 (.int 7), row 3 (.int 6)] := by
  intro p q r whole calls once source statement row records
  have hcalls : calls.filterMap Call.predicate? = [p, q, r] := rfl
  have honce : once.filterMap Call.predicate? = [whole] := rfl
  have hothers : Call.others calls = Call.others once := rfl
  have hstatement :
      (run calls (Sql.TableQuery.ofSource source .all)).statement .postgres = statement := by
    decide +kernel
  have hrows : (run calls (DatasetQuery.ofRecords records)).rows =
      [row 4 (.int 7), row 3 (.int 6)] := by
    have hadmits : records.map (run calls (DatasetQuery.ofRecords records)).admits =
        [false, false, true, true] := by
      decide +kernel
    simp only [records, List.map_cons, List.map_nil, List.cons.injEq, and_true] at hadmits
    have hmatching : (run calls (DatasetQuery.ofRecords records)).matching =
        [row 3 (.int 6), row 4 (.int 7)] := by
      show records.filter (run calls (DatasetQuery.ofRecords records)).admits = _
      simp [records, hadmits]
    have horder : (run calls (DatasetQuery.ofRecords records)).order = [⟨"key", .desc⟩] := rfl
    have hcompare : compareBy [⟨"key", .desc⟩] (row 3 (.int 6)) (row 4 (.int 7)) = .gt := rfl
    have hsorted : (run calls (DatasetQuery.ofRecords records)).sorted =
        [row 4 (.int 7), row 3 (.int 6)] := by
      rw [DatasetQuery.sorted_of_matching horder hmatching]
      simp [List.mergeSort, hcompare]
    show ((run calls (DatasetQuery.ofRecords records)).sorted.drop 0).take 5 = _
    rw [hsorted]
    rfl
  obtain ⟨hstatements, hdatasets⟩ := restrictions_combine hcalls honce hothers
  refine ⟨hcalls, honce, hothers, hstatement, ?_, hrows, ?_⟩
  · rw [← (hstatements source .all .postgres).1, hstatement]
  · rw [← (hdatasets records).2, hrows]

end Backend

end Sift
