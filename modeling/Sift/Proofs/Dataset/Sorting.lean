import Sift.Proofs.Dataset.Pages
import Sift.Proofs.Value.Order

/-!
# Rows are sorted and keep their order on ties

The records that match are sorted by the sort keys, and records that tie on every key stay in the
order of the dataset, under descending keys as well: a descending key reverses the comparison and
not the list.

A float that is no finite number breaks the order, so `compareBy` is a preorder only on records
whose values under the sort keys are finite (`chains_compareBy`).  The facts on sorting are
therefore stated for relations that are in order on the members of a list
(`pairwise_mergeSort_of_mem`, `filter_mergeSort_of_mem`).
-/

namespace Sift

/-! ## Sorting a list -/

section Sorting

variable {α : Type} {le : α → α → Bool} {l : List α}

/-- The head of a list is sorted in right before the members that it is in order with. -/
theorem mergeSort_cons_eq (trans : ∀ a b c, le a b → le b c → le a c)
    (total : ∀ a b, le a b || le b a) (a : α) (l : List α) :
    (a :: l).mergeSort le =
      (l.mergeSort le).filter (!le a ·) ++ a :: (l.mergeSort le).filter (le a ·) := by
  obtain ⟨before, after, hcons, hl, hbefore⟩ := List.mergeSort_cons trans total a l
  have hafter : ∀ b ∈ after, le a b := by
    have hsorted := List.pairwise_mergeSort trans total (a :: l)
    rw [hcons, List.pairwise_append, List.pairwise_cons] at hsorted
    exact hsorted.2.1.1
  rw [hcons, hl, List.filter_append, List.filter_append, List.filter_eq_self.mpr hbefore,
    List.filter_eq_self.mpr hafter, List.filter_eq_nil_iff.mpr (by simpa using hafter),
    List.filter_eq_nil_iff.mpr (by simpa using hbefore), List.append_nil, List.nil_append]

/-- Leaving members out before sorting or after it is the same. -/
theorem filter_mergeSort (trans : ∀ a b c, le a b → le b c → le a c)
    (total : ∀ a b, le a b || le b a) (p : α → Bool) (l : List α) :
    (l.mergeSort le).filter p = (l.filter p).mergeSort le := by
  induction l with
  | nil => simp
  | cons a l ih =>
    cases hp : p a with
    | false =>
      obtain ⟨before, after, hcons, hl, -⟩ := List.mergeSort_cons trans total a l
      have hnot : ¬p a := by simp [hp]
      rw [List.filter_cons_of_neg hnot, ← ih, hcons, hl, List.filter_append, List.filter_append,
        List.filter_cons_of_neg hnot]
    | true =>
      have hcomm : ∀ r : α → Bool,
          ((l.mergeSort le).filter r).filter p = ((l.mergeSort le).filter p).filter r := by
        intro r
        simp only [List.filter_filter, Bool.and_comm]
      rw [List.filter_cons_of_pos hp, mergeSort_cons_eq trans total a l,
        mergeSort_cons_eq trans total a (l.filter p), List.filter_append,
        List.filter_cons_of_pos hp, hcomm, hcomm, ih]

/-- A list is sorted as the list of its members with the proofs that they are members. -/
theorem mergeSort_eq_attach (le : α → α → Bool) (l : List α) :
    l.mergeSort le = (l.attach.mergeSort fun a b => le a.1 b.1).map Subtype.val := by
  have hmap := List.map_mergeSort (l := l.attach) (f := Subtype.val) (s := le)
    (r := fun a b => le a.1 b.1) fun _ _ _ _ => rfl
  rw [hmap, List.attach_map_subtype_val]

variable (trans : ∀ a ∈ l, ∀ b ∈ l, ∀ c ∈ l, le a b → le b c → le a c)
  (total : ∀ a ∈ l, ∀ b ∈ l, le a b || le b a)

include trans total

theorem pairwise_mergeSort_of_mem : (l.mergeSort le).Pairwise (le · ·) := by
  rw [mergeSort_eq_attach, List.pairwise_map]
  exact List.pairwise_mergeSort (fun a b c => trans a.1 a.2 b.1 b.2 c.1 c.2)
    (fun a b => total a.1 a.2 b.1 b.2) l.attach

theorem filter_mergeSort_of_mem (p : α → Bool) :
    (l.mergeSort le).filter p = (l.filter p).mergeSort le := by
  have hattach : l.filter p = (l.attach.filter (p ∘ Subtype.val)).map Subtype.val := by
    rw [← List.filter_map, List.attach_map_subtype_val]
  have hmap := List.map_mergeSort (l := l.attach.filter (p ∘ Subtype.val)) (f := Subtype.val)
    (s := le) (r := fun a b => le a.1 b.1) fun _ _ _ _ => rfl
  rw [mergeSort_eq_attach, List.filter_map, hattach, ← hmap]
  apply congrArg
  exact filter_mergeSort (fun a b c => trans a.1 a.2 b.1 b.2 c.1 c.2)
    (fun a b => total a.1 a.2 b.1 b.2) _ _

end Sorting

/-! ## Sort keys -/

theorem OrderEntry.compare_swap (entry : OrderEntry) (a b : Record) :
    entry.compare b a = (entry.compare a b).swap := by
  rw [compare, compare, Value.compare_swap (a.get entry.column)]
  cases entry.direction <;> rfl

theorem OrderEntry.chains_compare {entry : OrderEntry} {a b c : Record}
    (ha : (a.get entry.column).isFinite) (hb : (b.get entry.column).isFinite)
    (hc : (c.get entry.column).isFinite) :
    Chains (entry.compare a b) (entry.compare b c) (entry.compare a c) := by
  obtain ⟨column, direction⟩ := entry
  cases direction with
  | asc => exact Value.chains_compare _ _ _ ha hb hc
  | desc =>
    simp only [OrderEntry.compare, Direction.apply, ← Value.compare_swap]
    exact (Value.chains_compare _ _ _ hc hb ha).symm

theorem compareBy_cons (entry : OrderEntry) (order : List OrderEntry) (a b : Record) :
    compareBy (entry :: order) a b = (entry.compare a b).then (compareBy order a b) :=
  rfl

theorem compareBy_swap (order : List OrderEntry) (a b : Record) :
    compareBy order b a = (compareBy order a b).swap := by
  induction order with
  | nil => rfl
  | cons entry order ih =>
    rw [compareBy_cons, compareBy_cons, entry.compare_swap, ih, Ordering.swap_then]

theorem compareBy_total (order : List OrderEntry) (a b : Record) :
    (compareBy order a b).isLE || (compareBy order b a).isLE := by
  rw [compareBy_swap order a b]
  cases compareBy order a b <;> rfl

/-- Records whose values under the sort keys are finite are in order up to ties. -/
theorem chains_compareBy {order : List OrderEntry} {a b c : Record}
    (ha : ∀ entry ∈ order, (a.get entry.column).isFinite)
    (hb : ∀ entry ∈ order, (b.get entry.column).isFinite)
    (hc : ∀ entry ∈ order, (c.get entry.column).isFinite) :
    Chains (compareBy order a b) (compareBy order b c) (compareBy order a c) := by
  induction order with
  | nil => exact fun _ _ => rfl
  | cons entry order ih =>
    rw [List.forall_mem_cons] at ha hb hc
    rw [compareBy_cons, compareBy_cons, compareBy_cons]
    exact (OrderEntry.chains_compare ha.1 hb.1 hc.1).lex fun _ _ => ih ha.2 hb.2 hc.2

/-- Records tie if their values under every sort key tie, whatever the directions are. -/
theorem compareBy_eq_eq {order : List OrderEntry} {a b : Record} :
    compareBy order a b = .eq ↔
      ∀ entry ∈ order, (a.get entry.column).compare (b.get entry.column) = .eq := by
  induction order with
  | nil => simp [compareBy]
  | cons entry order ih =>
    have hentry : entry.compare a b = .eq ↔
        (a.get entry.column).compare (b.get entry.column) = .eq := by
      rw [OrderEntry.compare]
      cases entry.direction with
      | asc => exact Iff.rfl
      | desc => exact Ordering.swap_eq_eq
    rw [compareBy_cons, Ordering.then_eq_eq, List.forall_mem_cons, hentry, ih]

/-! ## The rows of a query -/

namespace DatasetQuery

variable (q : DatasetQuery)

theorem rows_eq :
    q.rows = (q.sorted.drop (q.offset.elim 0 UInt64.toNat)).take
      (q.limit.elim q.sorted.length UInt64.toNat) := by
  have hall : ∀ n, (q.sorted.drop n).take q.sorted.length = q.sorted.drop n := by
    intro n
    apply List.take_of_length_le
    rw [List.length_drop]
    omega
  rw [rows]
  cases q.offset <;> cases q.limit <;> simp [hall]

theorem sorted_eq :
    q.sorted = q.matching.mergeSort fun a b => (compareBy q.order a b).isLE := by
  have hle : ∀ o : Ordering, (o != .gt) = o.isLE := by decide
  simp only [sorted, hle]

theorem mem_records_of_mem_sorted {q : DatasetQuery} {record : Record} (h : record ∈ q.sorted) :
    record ∈ q.records :=
  List.mem_of_mem_filter (List.mem_mergeSort.mp h)

/-- Every value under a sort key is finite. -/
def FiniteKeys : Prop :=
  ∀ record ∈ q.records, ∀ entry ∈ q.order, (record.get entry.column).isFinite

namespace FiniteKeys

variable {q} (hfinite : q.FiniteKeys)

include hfinite

theorem chains {a b c : Record} (ha : a ∈ q.records) (hb : b ∈ q.records)
    (hc : c ∈ q.records) :
    Chains (compareBy q.order a b) (compareBy q.order b c) (compareBy q.order a c) :=
  chains_compareBy (hfinite a ha) (hfinite b hb) (hfinite c hc)

theorem trans : ∀ a ∈ q.matching, ∀ b ∈ q.matching, ∀ c ∈ q.matching,
    (compareBy q.order a b).isLE → (compareBy q.order b c).isLE →
      (compareBy q.order a c).isLE := by
  intro a ha b hb c hc
  exact (hfinite.chains (List.mem_of_mem_filter ha) (List.mem_of_mem_filter hb)
    (List.mem_of_mem_filter hc)).isLE

theorem pairwise_sorted : q.sorted.Pairwise fun a b => compareBy q.order a b ≠ .gt := by
  rw [sorted_eq]
  have hsorted := pairwise_mergeSort_of_mem hfinite.trans
    fun a _ b _ => compareBy_total q.order a b
  exact hsorted.imp fun hle => Ordering.isLE_iff_ne_gt.mp hle

/-- Leaving records out before sorting or after it is the same. -/
theorem filter_sorted (p : Record → Bool) :
    q.sorted.filter p =
      (q.matching.filter p).mergeSort fun a b => (compareBy q.order a b).isLE := by
  rw [sorted_eq]
  exact filter_mergeSort_of_mem hfinite.trans (fun a _ b _ => compareBy_total q.order a b) p

/-- A restriction leaves the rows that match in the order in which they were. -/
theorem sorted_restrict (p : Predicate) :
    (Backend.restrict q p).sorted = q.sorted.filter p.admits := by
  rw [hfinite.filter_sorted, sorted_eq, matching_restrict]
  rfl

/-- Records that tie with a record of the dataset keep their order. -/
theorem filter_ties_sorted {record : Record} (hrecord : record ∈ q.records) :
    q.sorted.filter (compareBy q.order record · == .eq) =
      q.matching.filter (compareBy q.order record · == .eq) := by
  rw [hfinite.filter_sorted, List.mergeSort_of_pairwise]
  apply List.pairwise_of_forall_mem_list
  intro a ha b hb
  obtain ⟨hmem, htie⟩ := List.mem_filter.mp ha
  obtain ⟨hmem', htie'⟩ := List.mem_filter.mp hb
  have hback : compareBy q.order a record = .eq := by
    rw [compareBy_swap q.order record, beq_iff_eq.mp htie]
    rfl
  -- the two records are compared through the one with which both tie
  apply (hfinite.chains (List.mem_of_mem_filter hmem) hrecord (List.mem_of_mem_filter hmem')).isLE
  · rw [hback]
    rfl
  · rw [beq_iff_eq.mp htie']
    rfl

end FiniteKeys

/-- The rows are the part that the offset and the limit leave of all records that match, sorted by
the sort keys, where records that tie on every key keep the order they have in the dataset.  The
count is the number of all of these, whatever the sort keys, the offset and the limit are. -/
theorem rows_sorted_stably (q : DatasetQuery)
    (hfinite : ∀ record ∈ q.records, ∀ entry ∈ q.order, (record.get entry.column).isFinite) :
    let admitted := q.records.filter fun record => q.predicates.all (·.admits record)
    let ties := fun record other : Record => q.order.all fun entry =>
      (record.get entry.column).compare (other.get entry.column) == .eq
    ∃ sorted : List Record,
      q.rows = (sorted.drop (q.offset.elim 0 UInt64.toNat)).take
          (q.limit.elim sorted.length UInt64.toNat) ∧
        sorted.Perm admitted ∧
        sorted.Pairwise (fun a b => compareBy q.order a b ≠ .gt) ∧
        (∀ record ∈ q.records, sorted.filter (ties record) = admitted.filter (ties record)) ∧
        ∀ order offset limit,
          ({ q with order := order, offset := offset, limit := limit } : DatasetQuery).count =
            sorted.length := by
  intro admitted ties
  have hties : ∀ record, ties record = (compareBy q.order record · == .eq) := by
    intro record
    funext other
    rw [Bool.eq_iff_iff, beq_iff_eq, compareBy_eq_eq, List.all_eq_true]
    simp only [beq_iff_eq]
  refine ⟨q.sorted, q.rows_eq, List.mergeSort_perm _ _, FiniteKeys.pairwise_sorted hfinite, ?_,
    fun _ _ _ => q.length_sorted.symm⟩
  intro record hrecord
  rw [hties]
  exact FiniteKeys.filter_ties_sorted hfinite hrecord

/-- An integer and a decimal that tie, a text, a list with a float, and a record without a value,
sorted in descending order. -/
theorem rows_sorted_stably_mixed :
    let row : Int → Value → Record := fun n value => ⟨[("key", value), ("n", .int n)]⟩
    let half : Float := .ofBits 0x3FE0000000000000
    let q : DatasetQuery :=
      ⟨[row 1 (.int 2), row 2 .null, row 3 (.decimal ⟨20, 1⟩), row 4 (.text "a"),
        row 5 (.list [.float half])], [.null "key" true], [⟨"key", .desc⟩], some 1, none⟩
    let ties := fun record other : Record => q.order.all fun entry =>
      (record.get entry.column).compare (other.get entry.column) == .eq
    (∀ record ∈ q.records, ∀ entry ∈ q.order, (record.get entry.column).isFinite) ∧
      q.rows = [row 4 (.text "a"), row 1 (.int 2), row 3 (.decimal ⟨20, 1⟩)] ∧
      ∃ sorted : List Record, q.rows = sorted.tail ∧
        sorted.Pairwise (fun a b => compareBy q.order a b ≠ .gt) ∧
        sorted.filter (ties (row 1 (.int 2))) = [row 1 (.int 2), row 3 (.decimal ⟨20, 1⟩)] ∧
        q.count = sorted.length := by
  intro row half q ties
  have hfinite : ∀ record ∈ q.records, ∀ entry ∈ q.order,
      (record.get entry.column).isFinite := by
    decide +kernel
  have hmatching : q.matching = [row 1 (.int 2), row 3 (.decimal ⟨20, 1⟩), row 4 (.text "a"),
      row 5 (.list [.float half])] := rfl
  have hcompare : compareBy q.order (row 1 (.int 2)) (row 3 (.decimal ⟨20, 1⟩)) = .eq ∧
      compareBy q.order (row 1 (.int 2)) (row 4 (.text "a")) = .gt ∧
      compareBy q.order (row 1 (.int 2)) (row 5 (.list [.float half])) = .gt ∧
      compareBy q.order (row 3 (.decimal ⟨20, 1⟩)) (row 4 (.text "a")) = .gt ∧
      compareBy q.order (row 3 (.decimal ⟨20, 1⟩)) (row 5 (.list [.float half])) = .gt ∧
      compareBy q.order (row 4 (.text "a")) (row 5 (.list [.float half])) = .gt := by
    decide +kernel
  have hsorts : q.sorted = [row 5 (.list [.float half]), row 4 (.text "a"), row 1 (.int 2),
      row 3 (.decimal ⟨20, 1⟩)] := by
    rw [sorted_of_matching rfl hmatching]
    simp [List.mergeSort, hcompare]
  obtain ⟨sorted, hrows, -, hsorted, hties, hcount⟩ := rows_sorted_stably q hfinite
  refine ⟨hfinite, ?_, sorted, ?_, hsorted, ?_, hcount q.order q.offset q.limit⟩
  · rw [q.rows_eq, hsorts]
    rfl
  · rw [hrows]
    show (sorted.drop 1).take sorted.length = sorted.tail
    rw [List.drop_one, List.take_of_length_le (by rw [List.length_tail]; omega)]
  · exact (hties (row 1 (.int 2)) List.mem_cons_self).trans rfl

end DatasetQuery

end Sift
