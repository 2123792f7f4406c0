import Mathlib.Algebra.Group.Nat.Defs
import Sift.Page
import Sift.Proofs.Dataset.Matching

/-!
# Pages cover the rows

The pages of a query are consecutive slices of its rows.  The offset of a page is a product that
stops at the greatest 64-bit number, but a dataset has fewer records than that, so a page that lies
beyond that number is as empty as one whose offset is exact (`items_page`).

From the slice of each page it follows that the pages from the first to the last, put together,
are all rows once and in order (`flatMap_extract`), that every page but the last is full, and that
the pages after the last are empty.
-/

namespace Sift

/-! ## Slices of a list -/

section Slices

variable {α : Type} {rows : List α} {size count : Nat}

/-- Consecutive slices of one size make up the front of a list. -/
theorem flatMap_extract (rows : List α) (size count : Nat) :
    (List.range' 1 count).flatMap (fun page => rows.extract ((page - 1) * size) (page * size)) =
      rows.take (count * size) := by
  induction count with
  | zero => simp
  | succ count ih =>
    have hlast : rows.extract (count * size) ((count + 1) * size) =
        (rows.drop (count * size)).take size := by
      rw [List.extract_eq_take_drop, Nat.succ_mul, Nat.add_sub_cancel_left]
    rw [List.range'_1_concat, List.flatMap_append, ih, List.flatMap_singleton, Nat.add_comm 1 count,
      Nat.add_sub_cancel, hlast, Nat.succ_mul, List.take_add]

theorem length_extract_of_le {start stop : Nat} (hstop : stop ≤ rows.length) :
    (rows.extract start stop).length = stop - start := by
  rw [List.extract_eq_take_drop, List.length_take, List.length_drop]
  omega

theorem extract_eq_nil_of_le {start : Nat} (hstart : rows.length ≤ start) (stop : Nat) :
    rows.extract start stop = [] := by
  rw [List.extract_eq_take_drop, List.drop_of_length_le hstart, List.take_nil]

/-- A start beyond 64 bits may be replaced by the greatest start there is. -/
theorem drop_min_size {n : Nat} (hsize : rows.length < UInt64.size) :
    rows.drop (min n (UInt64.size - 1)) = rows.drop n := by
  rcases Nat.le_total n (UInt64.size - 1) with hn | hn
  · rw [Nat.min_eq_left hn]
  · rw [Nat.min_eq_right hn, List.drop_of_length_le (by omega), List.drop_of_length_le (by omega)]

end Slices

/-! ## The numbers of a page -/

theorem toNat_max (a b : UInt64) : (max a b).toNat = max a.toNat b.toNat := by
  show (if a ≤ b then b else a).toNat = _
  rw [Nat.max_def]
  simp only [UInt64.le_iff_toNat_le]
  split <;> rfl

namespace Paging

variable (request : Paging)

theorem toNat_limit : request.limit.toNat = max request.perPage.toNat 1 :=
  toNat_max _ _

theorem toNat_offset :
    request.offset.toNat =
      min ((max request.page.toNat 1 - 1) * max request.perPage.toNat 1) (UInt64.size - 1) := by
  have hfits : ∀ n, min n (UInt64.size - 1) < 2 ^ 64 := by
    intro n
    have := Nat.min_le_right n (UInt64.size - 1)
    simp only [UInt64.size] at *
    omega
  rw [offset, toNat_limit, toNat_max, UInt64.toNat_ofNat', Nat.mod_eq_of_lt (hfits _)]
  rfl

end Paging

/-- The number of pages is the least number of pages that hold all rows. -/
theorem PageSummary.pageCount_le_iff (info : PageSummary) (count : Nat) :
    info.pageCount ≤ count ↔ info.total.toNat ≤ count * max info.perPage.toNat 1 := by
  have hpos : 0 < max info.perPage.toNat 1 := by omega
  rw [pageCount, toNat_max]
  show (info.total.toNat + max info.perPage.toNat 1 - 1) / max info.perPage.toNat 1 ≤ count ↔ _
  rw [← Nat.lt_succ_iff, Nat.div_lt_iff_lt_mul hpos, Nat.succ_mul]
  omega

/-! ## The pages of a query -/

namespace DatasetQuery

variable {q : DatasetQuery}

/-- Without an offset and a limit the rows are all records that match, sorted. -/
theorem rows_of_whole (hoffset : q.offset = none) (hlimit : q.limit = none) :
    q.rows = q.sorted := by
  rw [rows, hoffset, hlimit]

theorem length_sorted (q : DatasetQuery) : q.sorted.length = q.count :=
  List.length_mergeSort _

theorem count_le_length (q : DatasetQuery) : q.count ≤ q.records.length :=
  List.length_filter_le _ _

/-- The part of the rows that an offset and a limit leave. -/
theorem rows_limit_skip (q : DatasetQuery) (offset limit : UInt64) :
    (Backend.limit (Backend.skip q offset) limit).rows =
      (q.sorted.drop offset.toNat).take limit.toNat :=
  rfl

/-- The records of a query stay the same when a compiled query is added. -/
theorem length_records_addTo (query : Query) (q : DatasetQuery) :
    (query.addTo q).records.length = q.records.length := by
  rw [addTo_eq]

/-- The items of a page are its slice of the rows, with exact numbers. -/
theorem items_page (query : Query) (request : Paging) (hsize : q.records.length < UInt64.size) :
    let number := max request.page.toNat 1
    let size := max request.perPage.toNat 1
    (q.page query request).1.items =
      (query.addTo q).sorted.extract ((number - 1) * size) (number * size) := by
  intro number size
  have hlength : (query.addTo q).sorted.length < UInt64.size := by
    rw [length_sorted]
    have := (query.addTo q).count_le_length
    rw [length_records_addTo] at this
    omega
  have hwidth : number * size - (number - 1) * size = size := by
    rw [← Nat.sub_mul, show number - (number - 1) = 1 by omega, Nat.one_mul]
  rw [page]
  show (Backend.limit (Backend.skip (query.addTo q) request.offset) request.limit).rows = _
  rw [rows_limit_skip, Paging.toNat_offset, Paging.toNat_limit, drop_min_size hlength,
    List.extract_eq_take_drop, hwidth]

/-- The total of a page is the number of all rows. -/
theorem total_page (query : Query) (request : Paging) (hsize : q.records.length < UInt64.size) :
    (q.page query request).1.info.total.toNat = (query.addTo q).sorted.length := by
  have hcount : (query.addTo q).count < 2 ^ 64 := by
    have := (query.addTo q).count_le_length
    rw [length_records_addTo] at this
    simp only [UInt64.size] at hsize
    omega
  show (UInt64.ofNat (query.addTo q).count).toNat = _
  rw [UInt64.toNat_ofNat', Nat.mod_eq_of_lt hcount, length_sorted]

/-- A page of a new query is the slice of all rows that its number and its size say, and it counts
all rows.  For every size, the pages from the first to the last are all rows, once and in order.
Every page before the last has its full size, and there is nothing on the pages after the last. -/
theorem pages_cover_rows (records : List Record) (query : Query)
    (hsize : records.length < 2 ^ 64) :
    let full := (query.addTo (ofRecords records)).rows
    let served := fun page perPage => ((ofRecords records).page query ⟨page, perPage⟩).1
    (∀ page perPage : UInt64,
      let number := max page.toNat 1
      let size := max perPage.toNat 1
      (served page perPage).items = full.extract ((number - 1) * size) (number * size) ∧
        (served page perPage).info.total.toNat = full.length) ∧
    (∀ anyPage perPage : UInt64,
      let size := max perPage.toNat 1
      let last := (served anyPage perPage).info.pageCount
      (List.range' 1 last).flatMap (fun n => (served (UInt64.ofNat n) perPage).items) = full ∧
        (∀ page : UInt64, 1 ≤ page.toNat → page.toNat < last →
          (served page perPage).items.length = size) ∧
        ∀ page : UInt64, last < page.toNat → (served page perPage).items = []) := by
  intro full served
  have hwhole : full = (query.addTo (ofRecords records)).sorted := by
    apply rows_of_whole <;> rw [addTo_eq] <;> rfl
  have hitems : ∀ page perPage : UInt64,
      (served page perPage).items =
        full.extract ((max page.toNat 1 - 1) * max perPage.toNat 1)
          (max page.toNat 1 * max perPage.toNat 1) := by
    intro page perPage
    rw [hwhole]
    exact items_page query ⟨page, perPage⟩ hsize
  have htotal : ∀ page perPage : UInt64,
      (served page perPage).info.total.toNat = full.length := by
    intro page perPage
    rw [hwhole]
    exact total_page query ⟨page, perPage⟩ hsize
  have hfull : full.length < 2 ^ 64 := by
    rw [← htotal 1 1]
    exact UInt64.toNat_lt _
  refine ⟨fun page perPage => ⟨hitems page perPage, htotal page perPage⟩, ?_⟩
  intro anyPage perPage size last
  have hpos : 0 < size := by omega
  have hperPage : (served anyPage perPage).info.perPage.toNat = size := Paging.toNat_limit _
  have hlast : ∀ count, last ≤ count ↔ full.length ≤ count * size := by
    intro count
    rw [PageSummary.pageCount_le_iff, htotal, hperPage, Nat.max_eq_left hpos]
  have hcovers : full.length ≤ last * size := (hlast last).mp (Nat.le_refl last)
  have hnumbers : last < 2 ^ 64 := by
    have hle := (hlast full.length).mpr (Nat.le_mul_of_pos_right _ hpos)
    omega
  refine ⟨?_, ?_, ?_⟩
  · calc (List.range' 1 last).flatMap (fun n => (served (UInt64.ofNat n) perPage).items)
        = (List.range' 1 last).flatMap
            (fun n => full.extract ((n - 1) * size) (n * size)) := by
          rw [List.flatMap_def, List.flatMap_def]
          apply congrArg
          apply List.map_congr_left
          intro n hn
          have hmem := List.mem_range'_1.mp hn
          rw [hitems, UInt64.toNat_ofNat', Nat.mod_eq_of_lt (by omega),
            Nat.max_eq_left (by omega)]
      _ = full.take (last * size) := flatMap_extract full size last
      _ = full := List.take_of_length_le hcovers
  · intro page hfirst hbefore
    have hinside : page.toNat * size ≤ full.length := by
      have hnotLast : ¬full.length ≤ page.toNat * size := fun h => by
        have := (hlast page.toNat).mpr h
        omega
      omega
    rw [hitems, Nat.max_eq_left hfirst, length_extract_of_le hinside, ← Nat.sub_mul,
      Nat.sub_sub_self hfirst, Nat.one_mul]
  · intro page hafter
    have hbeyond : full.length ≤ (page.toNat - 1) * size := (hlast _).mp (by omega)
    rw [hitems, Nat.max_eq_left (by omega), extract_eq_nil_of_le hbeyond]

/-- Three rows on pages of two, and a page whose exact offset has more than 64 bits. -/
theorem pages_cover_rows_three :
    let row : Int → Record := fun n => ⟨[("id", .int n)]⟩
    let records := [row 1, row 2, row 3]
    let query : Query := ⟨none, [⟨"id", .desc⟩]⟩
    let served := fun page perPage => ((ofRecords records).page query ⟨page, perPage⟩).1
    records.length < 2 ^ 64 ∧ (query.addTo (ofRecords records)).rows = [row 3, row 2, row 1] ∧
      (served 0 2).items = [row 3, row 2] ∧ (served 2 2).items = [row 1] ∧
      (served 0xFFFFFFFFFFFFFFFF 0xFFFFFFFFFFFFFFFF).items = [] := by
  intro row records query served
  have hsize : records.length < 2 ^ 64 := by decide
  have horder : (query.addTo (ofRecords records)).order = query.order := rfl
  have hmatching : (query.addTo (ofRecords records)).matching = records := rfl
  have hcompare : compareBy query.order (row 1) (row 2) = .gt ∧
      compareBy query.order (row 1) (row 3) = .gt ∧
      compareBy query.order (row 2) (row 3) = .gt := by
    decide +kernel
  have hfull : (query.addTo (ofRecords records)).rows = [row 3, row 2, row 1] := by
    rw [rows_of_whole rfl rfl, sorted_of_matching horder hmatching]
    simp [records, List.mergeSort, hcompare]
  obtain ⟨hserved, -⟩ := pages_cover_rows records query hsize
  refine ⟨hsize, hfull, ?_, ?_, ?_⟩
  · exact (hserved 0 2).1.trans (by rw [hfull]; rfl)
  · exact (hserved 2 2).1.trans (by rw [hfull]; rfl)
  · refine (hserved 0xFFFFFFFFFFFFFFFF 0xFFFFFFFFFFFFFFFF).1.trans ?_
    rw [hfull]
    exact extract_eq_nil_of_le (by decide) _

end DatasetQuery

end Sift
