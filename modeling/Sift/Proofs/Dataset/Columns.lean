import Sift.Proofs.Compile.Leaves
import Sift.Proofs.Dataset.Sorting

/-!
# The columns that a query reads

A query on a dataset looks at a record through the columns that its conditions and its sort keys
name (`DatasetQuery.columns`), and at nothing else.

* `DatasetQuery.positions` sorts the positions in a dataset as the query sorts the records there.
  `DatasetQuery.rows_ofFn` says that the rows of the query are the records at a part of them.
* The positions are the same in two datasets that hold the same values in the columns that the query
  reads (`DatasetQuery.positions_congr`).
* A compiled query reads columns of registered fields only (`Registry.columns_of_compile`), whatever
  its filter is and wherever its order comes from.

So a query shows nothing of a column that is not registered
(`Registry.unregistered_columns_hidden`).
-/

namespace Sift

/-! ## What a condition and a sort key read -/

/-- A predicate depends on a record through the columns that it names. -/
theorem Predicate.truth_congr {p : Predicate} {a b : Record}
    (h : ∀ column ∈ p.columns, a.get column = b.get column) : p.truth a = p.truth b := by
  induction p with
  | connect c left right ihl ihr =>
    obtain ⟨hleft, hright⟩ := List.forall_mem_append.mp h
    rw [truth, truth, ihl hleft, ihr hright]
  | comparison column | like column | null column | member column =>
    have hcolumn : a.get column = b.get column := h column (List.mem_singleton.mpr rfl)
    rw [truth, truth, hcolumn]

/-- So does the order of two records by sort keys. -/
theorem compareBy_congr {order : List OrderEntry} {a a' b b' : Record}
    (ha : ∀ entry ∈ order, a.get entry.column = a'.get entry.column)
    (hb : ∀ entry ∈ order, b.get entry.column = b'.get entry.column) :
    compareBy order a b = compareBy order a' b' := by
  induction order with
  | nil => rfl
  | cons entry order ih =>
    obtain ⟨ha, ha'⟩ := List.forall_mem_cons.mp ha
    obtain ⟨hb, hb'⟩ := List.forall_mem_cons.mp hb
    rw [compareBy_cons, compareBy_cons, OrderEntry.compare, OrderEntry.compare, ha, hb, ih ha' hb']

/-! ## Positions -/

namespace DatasetQuery

/-- The columns that the query reads. -/
def columns (q : DatasetQuery) : List String :=
  q.predicates.flatMap Predicate.columns ++ q.order.map OrderEntry.column

variable {n : Nat}

/-- The positions of the records that match, sorted as the query sorts the records. -/
def positions (q : DatasetQuery) (row : Fin n → Record) : List (Fin n) :=
  ((List.finRange n).filter fun i => q.admits (row i)).mergeSort
    fun i j => compareBy q.order (row i) (row j) != .gt

theorem nodup_positions (q : DatasetQuery) (row : Fin n → Record) : (q.positions row).Nodup := by
  rw [positions, (List.mergeSort_perm _ _).nodup_iff]
  exact (List.nodup_finRange n).filter _

/-- The records that match, sorted, are those at the sorted positions. -/
theorem sorted_ofFn (q : DatasetQuery) (row : Fin n → Record) :
    ({ q with records := List.ofFn row } : DatasetQuery).sorted = (q.positions row).map row := by
  have hmatching : ({ q with records := List.ofFn row } : DatasetQuery).matching =
      ((List.finRange n).filter fun i => q.admits (row i)).map row := by
    rw [matching, List.ofFn_eq_map, List.filter_map]
    rfl
  have hsort := List.map_mergeSort (l := (List.finRange n).filter fun i => q.admits (row i))
    (f := row) (r := fun i j => compareBy q.order (row i) (row j) != .gt)
    (s := fun a b => compareBy q.order a b != .gt) fun _ _ _ _ => rfl
  rw [sorted, hmatching, positions, hsort]

/-- The rows of a query are the records at a part of the sorted positions. -/
theorem rows_ofFn (q : DatasetQuery) (row : Fin n → Record) :
    ({ q with records := List.ofFn row } : DatasetQuery).rows =
      (((q.positions row).drop (q.offset.elim 0 UInt64.toNat)).take
        (q.limit.elim (q.positions row).length UInt64.toNat)).map row := by
  rw [rows_eq, sorted_ofFn, List.length_map, List.map_take, List.map_drop]

theorem count_ofFn (q : DatasetQuery) (row : Fin n → Record) :
    ({ q with records := List.ofFn row } : DatasetQuery).count = (q.positions row).length := by
  rw [← length_sorted, sorted_ofFn, List.length_map]

/-- Datasets that agree on the columns that the query reads have the same positions. -/
theorem positions_congr {q : DatasetQuery} {row row' : Fin n → Record}
    (h : ∀ i, ∀ column ∈ q.columns, (row i).get column = (row' i).get column) :
    q.positions row = q.positions row' := by
  have hadmits : ∀ i, q.admits (row i) = q.admits (row' i) := by
    intro i
    have htruth : ∀ p ∈ q.predicates, p.truth (row i) = p.truth (row' i) := by
      intro p hp
      apply Predicate.truth_congr
      intro column hcolumn
      exact h i column (List.mem_append_left _ (List.mem_flatMap.mpr ⟨p, hp, hcolumn⟩))
    rw [admits, admits, Bool.eq_iff_iff, List.all_eq_true, List.all_eq_true]
    apply forall₂_congr
    intro p hp
    rw [Predicate.admits, Predicate.admits, htruth p hp]
  have hkeys : ∀ i, ∀ entry ∈ q.order,
      (row i).get entry.column = (row' i).get entry.column := by
    intro i entry hentry
    exact h i entry.column (List.mem_append_right _ (List.mem_map_of_mem hentry))
  have hcompare : ∀ i j,
      compareBy q.order (row i) (row j) = compareBy q.order (row' i) (row' j) :=
    fun i j => compareBy_congr (hkeys i) (hkeys j)
  simp only [positions, hadmits, hcompare]

/-- A dataset that is related to another one is a family over the positions of that one. -/
theorem exists_ofFn_of_forall₂ {R : Record → Record → Prop} {records others : List Record}
    (h : List.Forall₂ R records others) :
    ∃ row : Fin records.length → Record, others = List.ofFn row ∧
      ∀ i, R (records.get i) (row i) := by
  have hlength := h.length_eq
  refine ⟨fun i => others.get (i.cast hlength), ?_, fun i => h.get _ _⟩
  rw [← List.ofFn_congr hlength.symm, List.ofFn_get]

end DatasetQuery

/-! ## The columns of a compiled query -/

namespace Registry

variable {r : Registry}

/-- A condition on a field reads its column. -/
theorem columns_of_allows {field : Field} {p : Predicate} (h : field.Allows p) :
    p.columns = [field.column] := by
  cases h <;> rfl

theorem columns_eq_flatMap_leaves (p : Predicate) :
    p.columns = p.leaves.flatMap Predicate.columns := by
  induction p with
  | connect c left right ihl ihr =>
    rw [Predicate.columns, Predicate.leaves, List.flatMap_append, ihl, ihr]
  | _ => rfl

/-- The predicate of a filter reads registered columns. -/
theorem mem_columns_of_filter {limit : Filter.DepthLimit} {text : String} {p : Predicate}
    (h : r.filter limit text = .ok (some p)) :
    ∀ column ∈ p.columns, ∃ field ∈ r.fields, field.column = column := by
  obtain ⟨tree, -, hevaluate⟩ := filter_eq_ok_some_iff.mp h
  intro column hcolumn
  rw [columns_eq_flatMap_leaves] at hcolumn
  obtain ⟨leaf, hleaf, hcolumn⟩ := List.mem_flatMap.mp hcolumn
  obtain ⟨field, hfield, hallows⟩ := leaves_allowed hevaluate leaf hleaf
  rw [columns_of_allows hallows] at hcolumn
  exact ⟨field, hfield, (List.mem_singleton.mp hcolumn).symm⟩

/-- A sort key is located at the column of a registered field. -/
theorem column_of_locate {key : SortKey} {entry : OrderEntry} (h : key.locate r = .ok entry) :
    ∃ field ∈ r.fields, field.column = entry.column := by
  obtain ⟨field, hfield, h⟩ := exists_of_bind_eq_ok h
  cases h
  exact ⟨field, mem_of_lookup hfield, rfl⟩

/-- The order of a query reads registered columns. -/
theorem column_of_sort {text : Option String} {order : List OrderEntry}
    (h : r.sort text = .ok order) :
    ∀ entry ∈ order, ∃ field ∈ r.fields, field.column = entry.column := by
  unfold sort at h
  split at h
  · obtain ⟨key, -, h⟩ := exists_of_bind_eq_ok h
    obtain ⟨found, hfound, h⟩ := exists_of_bind_eq_ok h
    cases h
    intro entry hentry
    rw [List.mem_singleton.mp hentry]
    exact column_of_locate hfound
  · have hentries := (mapM_eq_ok_iff.mp h).flip.imp fun entry key hlocate =>
      And.intro (column_of_locate hlocate) hlocate
    exact ((List.forall₂_and_left _ _).mp hentries).1

/-- The steps of compiling a query: first the filter, then the order. -/
theorem compile_eq (limit : Filter.DepthLimit) (filter sort : Option String) :
    r.compile limit filter sort = (do
      let predicate ← filter.elim (.ok none) (r.filter limit)
      let order ← r.sort sort
      .ok ⟨predicate, order⟩) := by
  cases filter <;> rfl

/-- A compiled query reads registered columns. -/
theorem columns_of_compile {limit : Filter.DepthLimit} {filter sort : Option String}
    {query : Query} (h : r.compile limit filter sort = .ok query) (records : List Record) :
    ∀ column ∈ (query.addTo (DatasetQuery.ofRecords records)).columns,
      ∃ field ∈ r.fields, field.column = column := by
  rw [compile_eq] at h
  obtain ⟨predicate, hpredicate, h⟩ := exists_of_bind_eq_ok h
  obtain ⟨order, horder, h⟩ := exists_of_bind_eq_ok h
  cases h
  rw [DatasetQuery.addTo_eq]
  refine List.forall_mem_append.mpr ⟨?_, ?_⟩
  · intro column hcolumn
    obtain ⟨p, hp, hread⟩ := List.mem_flatMap.mp hcolumn
    obtain rfl : predicate = some p := by simpa [DatasetQuery.ofRecords] using hp
    cases filter with
    | none => cases hpredicate
    | some text => exact mem_columns_of_filter hpredicate column hread
  · intro column hcolumn
    obtain ⟨entry, hentry, rfl⟩ := List.mem_map.mp hcolumn
    exact column_of_sort horder entry hentry

/-! ## What a query shows -/

/-- Two records hold the same values in the columns of all registered fields. -/
def Agree (r : Registry) (a b : Record) : Prop :=
  ∀ field ∈ r.fields, a.get field.column = b.get field.column

/-- What a compiled query shows of a dataset is fixed by the columns of the registered fields: there
are a number and a list of positions such that, in every dataset that agrees with the given one on
those columns, the count is that number and the rows are the records at those positions. -/
theorem unregistered_columns_hidden {limit : Filter.DepthLimit} {filter sort : Option String}
    {query : Query} (h : r.compile limit filter sort = .ok query) (records : List Record)
    (offset most : Option UInt64) :
    let ask := fun dataset : List Record =>
      ({ query.addTo (DatasetQuery.ofRecords dataset) with offset := offset, limit := most } :
        DatasetQuery)
    ∃ (count : Nat) (positions : List Nat), positions.Nodup ∧
      ∀ others, List.Forall₂ r.Agree records others →
        (ask others).count = count ∧ (ask others).rows.map some = positions.map (others[·]?) := by
  intro ask
  have hask : ∀ others, ask others = { ask records with records := others } := by
    intro others
    simp only [ask, DatasetQuery.addTo_eq, DatasetQuery.ofRecords]
  have hcolumns : ∀ column ∈ (ask records).columns, ∃ field ∈ r.fields, field.column = column :=
    columns_of_compile h records
  let found := (ask records).positions records.get
  let shown := (found.drop (offset.elim 0 UInt64.toNat)).take (most.elim found.length UInt64.toNat)
  have hnodup : shown.Nodup :=
    ((ask records).nodup_positions records.get).sublist
      ((List.take_sublist _ _).trans (List.drop_sublist _ _))
  refine ⟨found.length, shown.map Fin.val, hnodup.map Fin.val_injective, ?_⟩
  intro others hagree
  obtain ⟨row, rfl, hrow⟩ := DatasetQuery.exists_ofFn_of_forall₂ hagree
  have hfound : (ask records).positions row = found := by
    apply DatasetQuery.positions_congr
    intro i column hcolumn
    obtain ⟨field, hfield, rfl⟩ := hcolumns column hcolumn
    exact (hrow i field hfield).symm
  rw [hask, DatasetQuery.count_ofFn, DatasetQuery.rows_ofFn, hfound]
  refine ⟨rfl, ?_⟩
  rw [List.map_map, List.map_map]
  apply List.map_congr_left
  intro i _
  simp

/-- Two datasets with other texts in a column that is not registered, in the default order and
without the first row. -/
theorem unregistered_columns_hidden_secrets :
    let users : Registry := ⟨[⟨"id", "id", .number⟩, ⟨"name", "name", .text⟩], [⟨"name", .desc⟩]⟩
    let query : Query := ⟨some (.comparison "id" .gt (.number ⟨1, 0⟩)), [⟨"name", .desc⟩]⟩
    let row : Int → String → String → Record := fun id name secret =>
      ⟨[("id", .int id), ("name", .text name), ("secret", .text secret)]⟩
    let records := [row 2 "ann" "s", row 1 "bob" "t", row 3 "cid" "u"]
    let others := [row 2 "ann" "z", row 1 "bob" "y", row 3 "cid" "x"]
    let ask := fun dataset : List Record =>
      ({ query.addTo (DatasetQuery.ofRecords dataset) with offset := some 1, limit := none } :
        DatasetQuery)
    users.compile (.ofNat 1) (some "gt:id:1") none = .ok query ∧
      List.Forall₂ users.Agree records others ∧
      (ask records).rows = [row 2 "ann" "s"] ∧ (ask others).rows = [row 2 "ann" "z"] ∧
      ∃ (count : Nat) (positions : List Nat),
        (ask records).count = count ∧ (ask others).count = count ∧
        (ask records).rows.map some = positions.map (records[·]?) ∧
        (ask others).rows.map some = positions.map (others[·]?) := by
  intro users query row records others ask
  have h : users.compile (.ofNat 1) (some "gt:id:1") none = .ok query := by decide +kernel
  have hsame : ∀ id name secret secret', users.Agree (row id name secret) (row id name secret') := by
    intro id name secret secret' field hfield
    simp only [users, List.mem_cons, List.not_mem_nil, or_false] at hfield
    rcases hfield with rfl | rfl <;> rfl
  have hagree : List.Forall₂ users.Agree records others :=
    .cons (hsame _ _ _ _) (.cons (hsame _ _ _ _) (.cons (hsame _ _ _ _) .nil))
  have hself : List.Forall₂ users.Agree records records :=
    List.forall₂_same.mpr fun _ _ _ _ => rfl
  obtain ⟨count, positions, -, hshown⟩ := unregistered_columns_hidden h records (some 1) none
  -- only the condition and the sort key decide on the rows, so the other column may hold anything
  have hrows : ∀ s t u, (ask [row 2 "ann" s, row 1 "bob" t, row 3 "cid" u]).rows =
      [row 2 "ann" s] := by
    intro s t u
    have horder : (ask [row 2 "ann" s, row 1 "bob" t, row 3 "cid" u]).order = query.order := rfl
    have hmatching : (ask [row 2 "ann" s, row 1 "bob" t, row 3 "cid" u]).matching =
        [row 2 "ann" s, row 3 "cid" u] := rfl
    have hcompare : compareBy query.order (row 2 "ann" s) (row 3 "cid" u) = .gt := rfl
    have hsorted : (ask [row 2 "ann" s, row 1 "bob" t, row 3 "cid" u]).sorted =
        [row 3 "cid" u, row 2 "ann" s] := by
      rw [DatasetQuery.sorted_of_matching horder hmatching]
      simp [List.mergeSort, hcompare]
    rw [DatasetQuery.rows_eq, hsorted]
    rfl
  refine ⟨h, hagree, hrows _ _ _, hrows _ _ _, count, positions, ?_⟩
  exact ⟨(hshown records hself).1, (hshown others hagree).1, (hshown records hself).2,
    (hshown others hagree).2⟩

end Registry

end Sift
