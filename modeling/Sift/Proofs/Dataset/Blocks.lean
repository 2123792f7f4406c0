import Sift.Proofs.Compile.TypedRecords
import Sift.Proofs.Dataset.Sorting

/-!
# Sorting and comparing agree

A literal cuts the sorted rows in four blocks: the rows without a value in the sort column, those
below the literal, those at it and those above it (`DatasetQuery.rows_in_blocks`).  So conditions
that compare a column with a literal pick out parts of the rows that lie side by side.

The order of sorting is one between values, and comparisons are between a value and a literal.  The
two meet in `Literal.value`: to compare a value with a literal is to compare it with the value that
the literal spells (`Value.compareLiteral?_of_fits`).  Therefore the side of the literal on which a
value lies never falls along the rows (`Value.side_le_side`), and a list that is sorted by a number
is made up of its blocks (`filter_lt_eq_flatMap`).
-/

namespace Sift

/-! ## Lists sorted by a number -/

section Keys

variable {α : Type} {key : α → Nat} {l : List α}

/-- The members with one of two properties, if those with the first one are all in front. -/
theorem filter_or_of_pairwise {p r : α → Bool} (hdisjoint : ∀ a ∈ l, p a → ¬r a)
    (h : l.Pairwise fun a b => r a → ¬p b) :
    l.filter (fun a => p a || r a) = l.filter p ++ l.filter r := by
  induction l with
  | nil => rfl
  | cons a l ih =>
    obtain ⟨hfront, hrest⟩ := List.pairwise_cons.mp h
    have hl := ih (fun b hb => hdisjoint b (List.mem_cons_of_mem a hb)) hrest
    cases hp : p a with
    | true =>
      have hr : ¬r a := hdisjoint a List.mem_cons_self hp
      simp [hp, hr, hl]
    | false =>
      cases hr : r a with
      | false => simp [hp, hr, hl]
      | true =>
        have hnone : l.filter p = [] := List.filter_eq_nil_iff.mpr fun b hb => hfront b hb hr
        simp [hp, hr, hl, hnone]

/-- A list that is sorted by a number is made up of the blocks with the same number. -/
theorem filter_lt_eq_flatMap (h : l.Pairwise fun a b => key a ≤ key b) (bound : Nat) :
    l.filter (key · < bound) = (List.range bound).flatMap fun n => l.filter (key · == n) := by
  induction bound with
  | zero => simp
  | succ bound ih =>
    have hsucc : ∀ a, decide (key a < bound + 1) = (decide (key a < bound) || key a == bound) := by
      intro a
      rw [Bool.eq_iff_iff, Bool.or_eq_true, decide_eq_true_eq, decide_eq_true_eq, beq_iff_eq]
      omega
    rw [List.range_succ, List.flatMap_append, List.flatMap_singleton, ← ih]
    simp only [hsucc]
    apply filter_or_of_pairwise
    · intro a _ hlt
      have := of_decide_eq_true hlt
      rw [beq_iff_eq]
      omega
    · refine h.imp fun hle heq => ?_
      have := beq_iff_eq.mp heq
      rw [decide_eq_true_eq]
      omega

end Keys

/-! ## Literals as values -/

namespace Literal

/-- The type of field whose values are of the kind of the literal. -/
def type : Literal → FieldType
  | .number _ => .number
  | .text _ => .text
  | .datetime _ => .datetime

/-- The value that a literal spells. -/
def value : Literal → Value
  | .number d => .decimal d
  | .text s => .text s
  | .datetime t => .timestamp t

theorem isFinite_value (x : Literal) : x.value.isFinite := by
  cases x <;> rfl

end Literal

namespace Value

variable {x : Literal} {v w : Value}

/-- To compare a value with a literal of its kind is to compare it with the value of the literal. -/
theorem compareLiteral?_of_fits (h : x.type.fits v) :
    v.compareLiteral? x = some (v.compare x.value) := by
  cases x with
  | number n =>
    obtain ⟨d, hd⟩ := FieldType.exists_decimal?_of_fits h
    have hranks : v.compare (.decimal n) = compareNumbers v.decimal? (some n) :=
      compare_numbers (FieldType.rank_of_fits h) rfl
    rw [compareLiteral?_number, Literal.value, hranks, hd]
    rfl
  | text s =>
    obtain ⟨t, rfl⟩ := FieldType.exists_text_of_fits h
    rfl
  | datetime u =>
    obtain ⟨t, rfl⟩ := FieldType.exists_timestamp_of_fits h
    rfl

/-- The side of a literal on which a value lies: no side, below, at, or above. -/
def side (x : Literal) (v : Value) : Nat :=
  match v.compareLiteral? x with
  | none => 0
  | some .lt => 1
  | some .eq => 2
  | some .gt => 3

theorem side_of_fits (h : x.type.fits v) :
    side x v = match v.compare x.value with | .lt => 1 | .eq => 2 | .gt => 3 := by
  rw [side, compareLiteral?_of_fits h]
  cases v.compare x.value <;> rfl

theorem side_lt (x : Literal) (v : Value) : side x v < 4 := by
  rw [side]
  split <;> decide

theorem eq_null_of_isNull (h : v.isNull) : v = null := by
  cases v with
  | null => rfl
  | _ => cases h

/-- Only a null comes before a null or ties with it. -/
theorem compare_null (hv : v ≠ null) : v.compare null = .gt := by
  cases v with
  | null => exact absurd rfl hv
  | _ => rfl

/-- The side of a literal on which a value lies follows the order of values. -/
theorem side_le_side (hv : v.isNull ∨ x.type.fits v) (hw : w.isNull ∨ x.type.fits w)
    (h : v.compare w ≠ .gt) : side x v ≤ side x w := by
  rcases hv with hv | hv
  · rw [eq_null_of_isNull hv]
    exact Nat.zero_le _
  rcases hw with hw | hw
  · rw [eq_null_of_isNull hw] at h
    exact absurd (compare_null (FieldType.ne_null_of_fits hv)) h
  have hvw : (v.compare w).isLE := Ordering.isLE_iff_ne_gt.mpr h
  have hchain := chains_compare v w x.value (FieldType.isFinite_of_fits hv)
    (FieldType.isFinite_of_fits hw) x.isFinite_value hvw
  -- below the literal or at it, the side of the first value follows from the other two comparisons
  cases hwx : w.compare x.value with
  | gt =>
    rw [side_of_fits hw, hwx]
    exact Nat.le_of_lt_succ (side_lt x v)
  | lt | eq =>
    rw [hwx] at hchain
    rw [side_of_fits hv, side_of_fits hw, hwx, hchain rfl]
    cases hcompare : v.compare w with
    | lt | eq => decide
    | gt => exact absurd hcompare h

theorem side_pos_of_fits (h : x.type.fits v) : 0 < side x v := by
  rw [side_of_fits h]
  cases v.compare x.value <;> decide

theorem compare_of_side_eq_two (h : x.type.fits v) (hside : side x v = 2) :
    v.compare x.value = .eq := by
  rw [side_of_fits h] at hside
  cases hcompare : v.compare x.value with
  | eq => rfl
  | _ => simp [hcompare] at hside

/-- Values that are both null, or both at the literal, tie. -/
theorem compare_of_side (hv : v.isNull ∨ x.type.fits v) (hw : w.isNull ∨ x.type.fits w)
    (hsame : side x v = side x w) (hends : side x v = 0 ∨ side x v = 2) :
    v.compare w = .eq := by
  rcases hv with hv | hv
  · rcases hw with hw | hw
    · rw [eq_null_of_isNull hv, eq_null_of_isNull hw]
      rfl
    · have hpos := side_pos_of_fits hw
      rw [← hsame, eq_null_of_isNull hv] at hpos
      exact absurd hpos (Nat.lt_irrefl 0)
  · have hpos := side_pos_of_fits hv
    rcases hw with hw | hw
    · rw [hsame, eq_null_of_isNull hw] at hpos
      exact absurd hpos (Nat.lt_irrefl 0)
    · have hvx := compare_of_side_eq_two hv (by omega)
      have hxw : x.value.compare w = .eq := by
        rw [compare_swap w, compare_of_side_eq_two hw (by omega)]
        rfl
      have hchain := chains_compare v x.value w (FieldType.isFinite_of_fits hv) x.isFinite_value
        (FieldType.isFinite_of_fits hw)
      rw [hvx, hxw] at hchain
      exact hchain rfl rfl

end Value

/-! ## Blocks of rows -/

/-- The condition that a column lies on a side of a literal. -/
def Literal.condition (x : Literal) (column : String) : Nat → Predicate
  | 0 => .null column false
  | 1 => .comparison column .lt x
  | 2 => .comparison column .eq x
  | _ => .comparison column .gt x

namespace Predicate

variable {x : Literal} {column : String} {record : Record}

theorem admits_null (column : String) (record : Record) :
    (null column false).admits record = (record.get column).isNull := by
  simp [admits, truth]

/-- A record meets the condition on the side of its value and on no other side. -/
theorem admits_condition (h : (record.get column).isNull ∨ x.type.fits (record.get column))
    {n : Nat} (hn : n < 4) :
    (x.condition column n).admits record = ((record.get column).side x == n) := by
  obtain rfl | hpos := Nat.eq_zero_or_pos n
  · rw [Literal.condition, admits_null]
    rcases h with h | h
    · rw [h, Value.eq_null_of_isNull h]
      rfl
    · have hnot : (record.get column).isNull = false := Bool.eq_false_iff.mpr fun hnull =>
        FieldType.ne_null_of_fits h (Value.eq_null_of_isNull hnull)
      rw [hnot, Value.side_of_fits h]
      cases (record.get column).compare x.value <;> rfl
  · have hcases : n = 1 ∨ n = 2 ∨ n = 3 := by omega
    rcases hcases with rfl | rfl | rfl <;>
    · simp only [Literal.condition, admits, truth, Value.side]
      rcases (record.get column).compareLiteral? x with _ | _ | _ | _ <;> rfl

end Predicate

/-- The place of a side of a literal among all sides in this direction. -/
def Direction.place : Direction → Nat → Nat
  | .asc, side => side
  | .desc, side => 3 - side

namespace DatasetQuery

variable {q : DatasetQuery} {column : String} {x : Literal} {records : List Record}

/-- All records, sorted by one column. -/
def orderedBy (records : List Record) (column : String) (direction : Direction) : DatasetQuery :=
  Backend.orderBy (ofRecords records) ⟨column, direction⟩

theorem compareBy_orderedBy (direction : Direction) (a b : Record) :
    compareBy (orderedBy records column direction).order a b =
      direction.apply ((a.get column).compare (b.get column)) := by
  show (OrderEntry.compare ⟨column, direction⟩ a b).then .eq = _
  rw [Ordering.then_eq, OrderEntry.compare]

theorem matching_restrict_orderedBy (direction : Direction) (p : Predicate) :
    (Backend.restrict (orderedBy records column direction) p).matching =
      records.filter p.admits := by
  have hall : (orderedBy records column direction).matching = records :=
    List.filter_eq_self.mpr fun _ _ => rfl
  rw [matching_restrict, hall]

section Blocks

variable
  (hcolumn : ∀ record ∈ records, (record.get column).isNull ∨ x.type.fits (record.get column))

include hcolumn

variable (direction : Direction)

theorem finiteKeys_orderedBy : (orderedBy records column direction).FiniteKeys := by
  intro record hrecord entry hentry
  obtain rfl : entry = ⟨column, direction⟩ := List.mem_singleton.mp hentry
  rcases hcolumn record hrecord with h | h
  · rw [Value.eq_null_of_isNull h]
    rfl
  · exact FieldType.isFinite_of_fits h

/-- The places of the sides do not fall along the rows. -/
theorem pairwise_place :
    (orderedBy records column direction).sorted.Pairwise fun a b =>
      direction.place ((a.get column).side x) ≤ direction.place ((b.get column).side x) := by
  refine (finiteKeys_orderedBy hcolumn direction).pairwise_sorted.imp_of_mem
    fun {a b} hmem hmem' hle => ?_
  have ha := hcolumn a (mem_records_of_mem_sorted hmem)
  have hb := hcolumn b (mem_records_of_mem_sorted hmem')
  rw [compareBy_orderedBy] at hle
  cases direction with
  | asc => exact Value.side_le_side ha hb hle
  | desc =>
    rw [Direction.apply, ← Value.compare_swap] at hle
    exact Nat.sub_le_sub_left (Value.side_le_side hb ha hle) 3

/-- The rows with a place of their own are those that meet the condition of that side. -/
theorem filter_place {n : Nat} (hn : n < 4) :
    (orderedBy records column direction).sorted.filter
        (fun record => direction.place ((record.get column).side x) == n) =
      (Backend.restrict (orderedBy records column direction)
        (x.condition column (direction.place n))).rows := by
  have hplace : direction.place n < 4 := by
    cases direction with
    | asc => exact hn
    | desc => exact Nat.lt_succ_of_le (Nat.sub_le 3 n)
  show _ = (Backend.restrict (orderedBy records column direction) _).sorted
  rw [(finiteKeys_orderedBy hcolumn direction).sorted_restrict]
  apply List.filter_congr
  intro record hrecord
  rw [Predicate.admits_condition (hcolumn record (mem_records_of_mem_sorted hrecord)) hplace,
    Bool.eq_iff_iff, beq_iff_eq, beq_iff_eq]
  have hside := Value.side_lt x (record.get column)
  cases direction with
  | asc => exact Iff.rfl
  | desc =>
    show 3 - _ = n ↔ _ = 3 - n
    omega

/-- The rows are made up of those on each side of the literal. -/
theorem rows_eq_append :
    let block := fun n => (Backend.restrict (orderedBy records column direction)
      (x.condition column (direction.place n))).rows
    (orderedBy records column direction).rows = block 0 ++ block 1 ++ block 2 ++ block 3 := by
  intro block
  have hall : ∀ record ∈ (orderedBy records column direction).sorted,
      decide (direction.place ((record.get column).side x) < 4) := by
    intro record _
    have hside := Value.side_lt x (record.get column)
    cases direction with
    | asc => exact decide_eq_true hside
    | desc => exact decide_eq_true (Nat.lt_succ_of_le (Nat.sub_le 3 _))
  have hblocks := filter_lt_eq_flatMap (pairwise_place hcolumn direction) 4
  have hfour : ∀ f : Nat → List Record,
      (List.range 4).flatMap f = f 0 ++ f 1 ++ f 2 ++ f 3 := by
    intro f
    simp [List.range_succ]
  rw [List.filter_eq_self.mpr hall, hfour, filter_place hcolumn direction (by decide),
    filter_place hcolumn direction (by decide), filter_place hcolumn direction (by decide),
    filter_place hcolumn direction (by decide)] at hblocks
  exact hblocks

/-- The records without a value, and those at the literal, stay in the order of the dataset. -/
theorem rows_condition_of_side {side : Nat} (hside : side = 0 ∨ side = 2) :
    (Backend.restrict (orderedBy records column direction) (x.condition column side)).rows =
      records.filter (x.condition column side).admits := by
  show (Backend.restrict (orderedBy records column direction) _).sorted = _
  rw [sorted_eq, matching_restrict_orderedBy]
  apply List.mergeSort_of_pairwise
  apply List.pairwise_of_forall_mem_list
  intro a hmema b hmemb
  obtain ⟨hmema, ha⟩ := List.mem_filter.mp hmema
  obtain ⟨hmemb, hb⟩ := List.mem_filter.mp hmemb
  have hbound : side < 4 := by omega
  rw [Predicate.admits_condition (hcolumn a hmema) hbound, beq_iff_eq] at ha
  rw [Predicate.admits_condition (hcolumn b hmemb) hbound, beq_iff_eq] at hb
  have htie := Value.compare_of_side (hcolumn a hmema) (hcolumn b hmemb) (ha.trans hb.symm)
    (by omega)
  show (compareBy (orderedBy records column direction).order a b).isLE
  rw [compareBy_orderedBy, htie]
  cases direction <;> rfl

end Blocks

/-- In a column that holds nothing but nulls and values of the kind of a literal, which are finite
numbers of all kinds for a number, the literal cuts the sorted rows in four.  In ascending order
there come the rows without a value, then those for which the column compares as less than the
literal, then those for which it compares as equal, and then those for which it compares as greater;
in descending order they come the other way round.  Each of the four is what the query gives when
it is restricted to the condition, so all records that meet the condition, and in the order of the
dataset where the column has no value or equals the literal. -/
theorem rows_in_blocks (records : List Record) (column : String) (x : Literal)
    (hcolumn : ∀ record ∈ records,
      (record.get column).isNull ∨ x.type.fits (record.get column)) :
    let ordered := fun direction => Backend.orderBy (ofRecords records) ⟨column, direction⟩
    let block := fun direction p => (Backend.restrict (ordered direction) p).rows
    let empty := Predicate.null column false
    let below := Predicate.comparison column .lt x
    let level := Predicate.comparison column .eq x
    let above := Predicate.comparison column .gt x
    (ordered .asc).rows = block .asc empty ++ block .asc below ++ block .asc level ++
        block .asc above ∧
      (ordered .desc).rows = block .desc above ++ block .desc level ++ block .desc below ++
        block .desc empty ∧
      (∀ direction p, (block direction p).Perm (records.filter p.admits)) ∧
      ∀ direction, block direction empty = records.filter empty.admits ∧
        block direction level = records.filter level.admits := by
  intro ordered block empty below level above
  refine ⟨?_, ?_, ?_, ?_⟩
  · exact rows_eq_append hcolumn .asc
  · exact rows_eq_append hcolumn .desc
  · intro direction p
    rw [← matching_restrict_orderedBy direction p]
    exact List.mergeSort_perm _ _
  · intro direction
    exact ⟨rows_condition_of_side hcolumn direction (Or.inl rfl),
      rows_condition_of_side hcolumn direction (Or.inr rfl)⟩

/-- Numbers of all three kinds and nulls, where a float and a decimal hold the literal. -/
theorem rows_in_blocks_mixed :
    let row : Int → Value → Record := fun id key => ⟨[("id", .int id), ("key", key)]⟩
    let half : Float := .ofBits 0x3FE0000000000000
    let records := [row 1 (.int 1), row 2 (.float half), row 3 .null, row 4 (.decimal ⟨50, 2⟩),
      row 5 (.int (-3)), row 6 .null]
    let x : Literal := .number ⟨5, 1⟩
    let ordered := fun direction => Backend.orderBy (ofRecords records) ⟨"key", direction⟩
    (∀ record ∈ records, (record.get "key").isNull ∨ x.type.fits (record.get "key")) ∧
      (ordered .asc).rows = [row 3 .null, row 6 .null] ++ [row 5 (.int (-3))] ++
        [row 2 (.float half), row 4 (.decimal ⟨50, 2⟩)] ++ [row 1 (.int 1)] ∧
      (ordered .desc).rows = [row 1 (.int 1)] ++ [row 2 (.float half), row 4 (.decimal ⟨50, 2⟩)] ++
        [row 5 (.int (-3))] ++ [row 3 .null, row 6 .null] := by
  intro row half records x ordered
  have hcolumn : ∀ record ∈ records,
      (record.get "key").isNull ∨ x.type.fits (record.get "key") := by
    decide +kernel
  have hflags : [Predicate.null "key" false, .comparison "key" .lt x, .comparison "key" .eq x,
        .comparison "key" .gt x].map (fun p => records.map p.admits) =
      [[false, false, true, false, false, true], [false, false, false, false, true, false],
        [false, true, false, true, false, false], [true, false, false, false, false, false]] := by
    decide +kernel
  simp only [records, List.map_cons, List.map_nil, List.cons.injEq, and_true] at hflags
  have hfilters : records.filter (Predicate.null "key" false).admits = [row 3 .null, row 6 .null] ∧
      records.filter (Predicate.comparison "key" .lt x).admits = [row 5 (.int (-3))] ∧
      records.filter (Predicate.comparison "key" .eq x).admits =
        [row 2 (.float half), row 4 (.decimal ⟨50, 2⟩)] ∧
      records.filter (Predicate.comparison "key" .gt x).admits = [row 1 (.int 1)] := by
    simp [records, hflags]
  obtain ⟨hnull, hbelow, hlevel, habove⟩ := hfilters
  obtain ⟨hasc, hdesc, hperm, hdataset⟩ := rows_in_blocks records "key" x hcolumn
  beta_reduce at hasc hdesc hperm hdataset
  have hsingle : ∀ direction p record, records.filter p.admits = [record] →
      (Backend.restrict (Backend.orderBy (ofRecords records) ⟨"key", direction⟩) p).rows =
        [record] := by
    intro direction p record h
    exact List.perm_singleton.mp (h ▸ hperm direction p)
  refine ⟨hcolumn, hasc.trans ?_, hdesc.trans ?_⟩
  · rw [(hdataset .asc).1, (hdataset .asc).2, hnull, hlevel, hsingle .asc _ _ hbelow,
      hsingle .asc _ _ habove]
  · rw [(hdataset .desc).1, (hdataset .desc).2, hnull, hlevel, hsingle .desc _ _ hbelow,
      hsingle .desc _ _ habove]

end DatasetQuery

end Sift
