import Sift.Dataset
import Sift.Sql.TableQuery

/-!
# Calls on a query under construction

A backend takes any number of calls in any order.  What is left of them is every predicate and every
sort key in the order of the calls, the last offset and the last limit.  `Gathers.run_eq` says so of
any query that keeps these four things, from what one call does to them.  Queries on a table
(`TableQuery.run_ofSource`) and on a dataset (`DatasetQuery.run_ofRecords`) are such backends.
-/

namespace Sift

/-- A call on a query under construction. -/
inductive Call where
  | restrict (p : Predicate)
  | orderBy (entry : OrderEntry)
  | skip (n : UInt64)
  | limit (n : UInt64)
  deriving DecidableEq

namespace Call

/-- The query after a call. -/
def apply {β : Type} [Backend β] (target : β) : Call → β
  | .restrict p => Backend.restrict target p
  | .orderBy entry => Backend.orderBy target entry
  | .skip n => Backend.skip target n
  | .limit n => Backend.limit target n

/-- The predicate that a call adds. -/
def predicate? : Call → Option Predicate
  | .restrict p => some p
  | _ => none

/-- The sort key that a call adds. -/
def sortKey? : Call → Option OrderEntry
  | .orderBy entry => some entry
  | _ => none

/-- The offset that a call sets. -/
def offset? : Call → Option UInt64
  | .skip n => some n
  | _ => none

/-- The limit that a call sets. -/
def limit? : Call → Option UInt64
  | .limit n => some n
  | _ => none

end Call

namespace Backend

variable {β : Type} [Backend β]

/-- The query after a sequence of calls. -/
def run (calls : List Call) (target : β) : β :=
  calls.foldl Call.apply target

/-- What a query is made of is predicates, sort keys, an offset and a limit, and a call adds to the
first two and replaces the last two. -/
def Gathers (make : List Predicate → List OrderEntry → Option UInt64 → Option UInt64 → β) : Prop :=
  ∀ call predicates order offset limit,
    Call.apply (make predicates order offset limit) call =
      make (predicates ++ call.predicate?.toList) (order ++ call.sortKey?.toList)
        (call.offset?.or offset) (call.limit?.or limit)

/-- Such a query after a sequence of calls.  An offset or a limit that was there before counts where
no call sets one. -/
theorem Gathers.run_eq
    {make : List Predicate → List OrderEntry → Option UInt64 → Option UInt64 → β}
    (hmake : Gathers make)
    (calls : List Call) (predicates : List Predicate) (order : List OrderEntry)
    (offset limit : Option UInt64) :
    run calls (make predicates order offset limit) =
      make (predicates ++ calls.filterMap Call.predicate?)
        (order ++ calls.filterMap Call.sortKey?)
        ((calls.filterMap Call.offset?).getLast?.or offset)
        ((calls.filterMap Call.limit?).getLast?.or limit) := by
  induction calls generalizing predicates order offset limit with
  | nil => simp [run]
  | cons call calls ih =>
    have hadded : ∀ {α : Type} (f : Call → Option α) (earlier : List α),
        (earlier ++ (f call).toList) ++ calls.filterMap f =
          earlier ++ (call :: calls).filterMap f := by
      intro α f earlier
      cases hcall : f call with
      | none => simp [List.filterMap_cons_none hcall]
      | some a => simp [List.filterMap_cons_some hcall]
    have hset : ∀ (f : Call → Option UInt64) (earlier : Option UInt64),
        (calls.filterMap f).getLast?.or ((f call).or earlier) =
          ((call :: calls).filterMap f).getLast?.or earlier := by
      intro f earlier
      cases hcall : f call with
      | none => rw [List.filterMap_cons_none hcall, Option.none_or]
      | some n =>
        rw [List.filterMap_cons_some hcall, List.getLast?_cons, Option.some_or, Option.some_or]
        cases (calls.filterMap f).getLast? <;> rfl
    rw [run, List.foldl_cons, ← run, hmake, ih]
    simp only [hadded, hset]

end Backend

namespace Sql.TableQuery

theorem gathers (source : Source) (selection : Selection) :
    Backend.Gathers (TableQuery.mk source selection) := by
  intro call predicates order offset limit
  cases call <;> simp [Call.apply, Call.predicate?, Call.sortKey?, Call.offset?, Call.limit?,
    Backend.restrict, Backend.orderBy, Backend.skip, Backend.limit]

/-- A new query on a table after a sequence of calls. -/
theorem run_ofSource (calls : List Call) (source : Source) (selection : Selection) :
    Backend.run calls (ofSource source selection) =
      ⟨source, selection, calls.filterMap Call.predicate?, calls.filterMap Call.sortKey?,
        (calls.filterMap Call.offset?).getLast?, (calls.filterMap Call.limit?).getLast?⟩ := by
  simp [ofSource, (gathers source selection).run_eq]

end Sql.TableQuery

namespace DatasetQuery

theorem gathers (records : List Record) : Backend.Gathers (DatasetQuery.mk records) := by
  intro call predicates order offset limit
  cases call <;> simp [Call.apply, Call.predicate?, Call.sortKey?, Call.offset?, Call.limit?,
    Backend.restrict, Backend.orderBy, Backend.skip, Backend.limit]

/-- A new query on a dataset after a sequence of calls. -/
theorem run_ofRecords (calls : List Call) (records : List Record) :
    Backend.run calls (ofRecords records) =
      ⟨records, calls.filterMap Call.predicate?, calls.filterMap Call.sortKey?,
        (calls.filterMap Call.offset?).getLast?, (calls.filterMap Call.limit?).getLast?⟩ := by
  simp [ofRecords, (gathers records).run_eq]

end DatasetQuery

end Sift
