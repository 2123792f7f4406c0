import Mathlib.Order.Compare
import Sift.Proofs.Decimal.Order
import Sift.Value.Basic

/-!
# The order of values is a preorder

`Value.compare` puts values in an order up to ties, provided that every float in them is finite.  A
float that is no finite number ties with every number, so `1`, the float and `2` would be in order
one way and not the other.

* `Chains` is transitivity for the outcomes of three comparisons.  It covers ties as well, so that
  chains of comparisons can be put one behind the other (`Chains.lex`), as the order of lists does
  with items and the order of records does with sort keys.
* `Value.compare_swap`: exchanging two values reverses their comparison.
* `Value.chains_compare`: comparisons of finite values chain.  Values of different kinds are ordered
  by their kinds, numbers of all kinds by the numbers they stand for, and lists by their items.
* `Value.not_isFinite_of_compare`: where the order breaks, and the value in the middle is no list,
  it is a number that is not finite.
-/

namespace Sift

/-! ## Chains of comparisons -/

/-- Three comparisons, of a first thing with a second, of the second with a third and of the first
with the third, fit together: if neither of the first two finds the greater thing in front, then
the last one follows from them. -/
def Chains (ab bc ac : Ordering) : Prop :=
  ab.isLE → bc.isLE → ac = ab.then bc

namespace Chains

variable {ab bc ac ab' bc' ac' : Ordering}

theorem of_transCmp {α : Type} {cmp : α → α → Ordering} [Std.TransCmp cmp] (a b c : α) :
    Chains (cmp a b) (cmp b c) (cmp a c) := by
  intro hab hbc
  cases h : cmp a b with
  | lt => exact Std.TransCmp.lt_of_lt_of_isLE h hbc
  | eq => exact Std.TransCmp.congr_left h
  | gt => simp [h] at hab

theorem isLE (h : Chains ab bc ac) (hab : ab.isLE) (hbc : bc.isLE) : ac.isLE := by
  rw [h hab hbc, Ordering.isLE_then_iff_and]
  exact ⟨hab, Or.inr hbc⟩

/-- A second comparison needs to chain only where the first ties throughout. -/
theorem lex (h : Chains ab bc ac) (h' : ab = .eq → bc = .eq → Chains ab' bc' ac') :
    Chains (ab.then ab') (bc.then bc') (ac.then ac') := by
  intro hab hbc
  obtain ⟨hle, hle'⟩ := Ordering.isLE_then_iff_and.mp hab
  obtain ⟨hge, -⟩ := Ordering.isLE_then_iff_and.mp hbc
  rw [h hle hge]
  cases ab with
  | lt => rfl
  | gt => cases hle
  | eq =>
    cases bc with
    | lt =>
      cases ab' with
      | gt => simp at hle'
      | _ => rfl
    | gt => cases hge
    | eq => exact h' rfl rfl hab hbc

/-- The first two comparisons may change places, as they do under a descending order. -/
theorem symm (h : Chains ab bc ac) : Chains bc ab ac := by
  intro hbc hab
  have hcomm : ∀ o p : Ordering, o.isLE → p.isLE → o.then p = p.then o := by decide
  rw [h hab hbc, hcomm ab bc hab hbc]

end Chains

/-! ## Instants and decimals -/

instance : Std.TransCmp Date.compare :=
  inferInstanceAs (Std.TransCmp (compareLex (compareOn Date.year)
    (compareLex (compareOn Date.month) (compareOn Date.day))))

instance : Std.TransCmp TimeOfDay.compare :=
  inferInstanceAs (Std.TransCmp (compareLex (compareOn TimeOfDay.hour)
    (compareLex (compareOn TimeOfDay.minute)
      (compareLex (compareOn TimeOfDay.second) (compareOn TimeOfDay.nanosecond)))))

instance : Std.TransCmp Instant.compare where
  eq_swap {a b} := by
    rw [Instant.compare, Instant.compare, Ordering.swap_then, ← Std.OrientedCmp.eq_swap,
      ← Std.OrientedCmp.eq_swap]
  isLE_trans {a b c} :=
    Chains.isLE <| (Chains.of_transCmp a.date b.date c.date).lex fun _ _ =>
      .of_transCmp a.time b.time c.time

instance : Std.TransCmp Decimal.compare := by
  have h : Decimal.compare = compareOn Decimal.toRat := by
    funext a b
    exact Decimal.compare_eq a b
  rw [h]
  infer_instance

/-! ## Finite values -/

/-- Whether this is a number and no infinity. -/
def Binary64.isFinite : Binary64 → Bool
  | .finite _ _ _ => true
  | _ => false

namespace Value

mutual

/-- Whether every float in a value is finite, at every depth of its lists. -/
def isFinite : Value → Bool
  | .float x => (Binary64.ofFloat x).isFinite
  | .list items => areFinite items
  | _ => true

/-- Whether every float in the items of a list is finite. -/
def areFinite : List Value → Bool
  | [] => true
  | item :: rest => item.isFinite && areFinite rest

end

theorem areFinite_iff {items : List Value} :
    areFinite items ↔ ∀ item ∈ items, item.isFinite := by
  induction items with
  | nil => simp [areFinite]
  | cons item rest ih => simp [areFinite, ih]

/-- A finite value of the kind of numbers stands for a number. -/
theorem exists_decimal? {a : Value} (hrank : a.rank = 2) (ha : a.isFinite) :
    ∃ x, a.decimal? = some x := by
  cases a with
  | int n => exact ⟨_, rfl⟩
  | decimal d => exact ⟨_, rfl⟩
  | float x =>
    rw [isFinite] at ha
    rw [decimal?]
    cases hx : Binary64.ofFloat x with
    | finite => exact ⟨_, rfl⟩
    | _ => rw [hx] at ha; cases ha
  | _ => cases hrank

/-! ## Kinds -/

/-- Two values of one kind, where all numbers are of one kind. -/
inductive Alike : Value → Value → Prop
  | null : Alike .null .null
  | boolean (x y : Bool) : Alike (.boolean x) (.boolean y)
  | number {a b : Value} (ha : a.rank = 2) (hb : b.rank = 2) : Alike a b
  | text (s t : String) : Alike (.text s) (.text t)
  | timestamp (s t : Instant) : Alike (.timestamp s) (.timestamp t)
  | list (as bs : List Value) : Alike (.list as) (.list bs)

theorem alike_of_rank_eq {a b : Value} (h : a.rank = b.rank) : Alike a b := by
  cases a <;> cases b <;> first
    | exact .null
    | exact .boolean _ _
    | exact .number rfl rfl
    | exact .text _ _
    | exact .timestamp _ _
    | exact .list _ _
    | cases h

/-- Values of different kinds are ordered by their kinds. -/
theorem compare_then (a b : Value) :
    (Ord.compare a.rank b.rank).then (a.compare b) = a.compare b := by
  cases hranks : Ord.compare a.rank b.rank with
  | eq => rfl
  | _ => cases a <;> cases b <;> first | rfl | cases hranks

theorem compare_numbers {a b : Value} (ha : a.rank = 2) (hb : b.rank = 2) :
    a.compare b = compareNumbers a.decimal? b.decimal? := by
  cases a <;> cases b <;> first | (cases ha; done) | (cases hb; done) | rfl

/-! ## Exchanging two values -/

theorem compareNumbers_swap (a b : Option Decimal) :
    compareNumbers b a = (compareNumbers a b).swap := by
  cases a with
  | none => cases b <;> rfl
  | some x =>
    cases b with
    | none => rfl
    | some y =>
      show y.compare x = (x.compare y).swap
      exact Std.OrientedCmp.eq_swap

theorem compareItems_swap {as bs : List Value}
    (h : ∀ a ∈ as, ∀ b ∈ bs, b.compare a = (a.compare b).swap) :
    compareItems bs as = (compareItems as bs).swap := by
  induction as generalizing bs with
  | nil => cases bs <;> rfl
  | cons a as ih =>
    cases bs with
    | nil => rfl
    | cons b bs =>
      simp only [List.forall_mem_cons] at h
      rw [compareItems, compareItems, Ordering.swap_then, h.1.1,
        ih fun a ha b hb => (h.2 a ha).2 b hb]

/-- Exchanging two values reverses their comparison. -/
theorem compare_swap (a b : Value) : b.compare a = (a.compare b).swap := by
  rw [← compare_then a b, ← compare_then b a, Ordering.swap_then, Nat.compare_swap]
  cases hranks : Ord.compare b.rank a.rank with
  | lt => rfl
  | gt => rfl
  | eq =>
    show b.compare a = (a.compare b).swap
    cases alike_of_rank_eq (Nat.compare_eq_eq.mp hranks).symm with
    | null => rfl
    | boolean x y =>
      rw [compare, compare]
      exact Std.OrientedCmp.eq_swap
    | number ha hb => rw [compare_numbers ha hb, compare_numbers hb ha, compareNumbers_swap]
    | text s t =>
      rw [compare, compare]
      exact Std.OrientedCmp.eq_swap
    | timestamp s t =>
      rw [compare, compare]
      exact Std.OrientedCmp.eq_swap
    | list as bs =>
      rw [compare, compare]
      exact compareItems_swap fun a _ b _ => compare_swap a b

/-! ## Chains of values -/

/-- Finite numbers are ordered as decimals. -/
theorem chains_compare_numbers {a b c : Value} (har : a.rank = 2) (hbr : b.rank = 2)
    (hcr : c.rank = 2) (ha : a.isFinite) (hb : b.isFinite) (hc : c.isFinite) :
    Chains (a.compare b) (b.compare c) (a.compare c) := by
  obtain ⟨x, hx⟩ := exists_decimal? har ha
  obtain ⟨y, hy⟩ := exists_decimal? hbr hb
  obtain ⟨z, hz⟩ := exists_decimal? hcr hc
  rw [compare_numbers har hbr, compare_numbers hbr hcr, compare_numbers har hcr, hx, hy, hz]
  show Chains (x.compare y) (y.compare z) (x.compare z)
  exact .of_transCmp x y z

/-- Lists chain if their items do. -/
theorem chains_compareItems {as bs cs : List Value}
    (h : ∀ a ∈ as, ∀ b ∈ bs, ∀ c ∈ cs, Chains (a.compare b) (b.compare c) (a.compare c)) :
    Chains (compareItems as bs) (compareItems bs cs) (compareItems as cs) := by
  induction as generalizing bs cs with
  | nil =>
    cases bs with
    | nil => cases cs <;> exact fun _ _ => rfl
    | cons b bs =>
      cases cs with
      | nil => exact fun _ hge => nomatch hge
      | cons c cs => exact fun _ _ => rfl
  | cons a as ih =>
    cases bs with
    | nil => exact fun hle _ => nomatch hle
    | cons b bs =>
      cases cs with
      | nil => exact fun _ hge => nomatch hge
      | cons c cs =>
        simp only [List.forall_mem_cons] at h
        rw [compareItems, compareItems, compareItems]
        exact h.1.1.1.lex fun _ _ => ih fun a ha b hb c hc => ((h.2 a ha).2 b hb).2 c hc

/-- Comparisons of finite values chain. -/
theorem chains_compare (a b c : Value) (ha : a.isFinite) (hb : b.isFinite) (hc : c.isFinite) :
    Chains (a.compare b) (b.compare c) (a.compare c) := by
  rw [← compare_then a b, ← compare_then b c, ← compare_then a c]
  refine (Chains.of_transCmp a.rank b.rank c.rank).lex fun hab hbc => ?_
  have hbc' := Nat.compare_eq_eq.mp hbc
  have halike := alike_of_rank_eq hbc'
  -- The kind of the first two values leaves one case for the last two, or none.
  cases alike_of_rank_eq (Nat.compare_eq_eq.mp hab) with
  | number har hbr => exact chains_compare_numbers har hbr (hbc'.symm.trans hbr) ha hb hc
  | null =>
    cases halike with
    | null => exact fun _ _ => rfl
    | number h => cases h
  | boolean x y =>
    cases halike with
    | boolean _ z =>
      rw [compare, compare, compare]
      exact .of_transCmp x y z
    | number h => cases h
  | text s t =>
    cases halike with
    | text _ u =>
      rw [compare, compare, compare]
      exact .of_transCmp s t u
    | number h => cases h
  | timestamp s t =>
    cases halike with
    | timestamp _ u =>
      rw [compare, compare, compare]
      exact .of_transCmp s t u
    | number h => cases h
  | list as bs =>
    cases halike with
    | list _ cs =>
      rw [isFinite, areFinite_iff] at ha hb hc
      rw [compare, compare, compare]
      exact chains_compareItems fun a hma b hmb c hmc =>
        chains_compare a b c (ha a hma) (hb b hmb) (hc c hmc)
    | number h => cases h

/-! ## Floats that are no finite numbers -/

/-- A number that is not finite stands for no decimal. -/
theorem decimal?_eq_none {x : Value} (hrank : x.rank = 2) (hx : ¬x.isFinite) :
    x.decimal? = none := by
  cases x with
  | float x =>
    rw [isFinite] at hx
    rw [decimal?]
    cases hfloat : Binary64.ofFloat x with
    | finite => rw [hfloat] at hx; exact absurd rfl hx
    | _ => rfl
  | int n => exact absurd rfl hx
  | decimal d => exact absurd rfl hx
  | _ => cases hrank

/-- A number that is not finite ties with every number. -/
theorem compare_eq_of_not_isFinite {x : Value} (hrank : x.rank = 2) (hx : ¬x.isFinite) {a : Value}
    (ha : a.rank = 2) : x.compare a = .eq := by
  rw [compare_numbers hrank ha, decimal?_eq_none hrank hx]
  rfl

/-- A value that is not finite is a number, or a list that holds one. -/
theorem rank_of_not_isFinite {v : Value} (hv : ¬v.isFinite) (hlist : v.rank ≠ 5) : v.rank = 2 := by
  cases v with
  | float x => rfl
  | list items => exact absurd rfl hlist
  | _ => exact absurd rfl hv

/-- Values in order are of kinds in order. -/
theorem rank_le_of_compare {a b : Value} (h : a.compare b ≠ .gt) : a.rank ≤ b.rank := by
  rw [← compare_then a b] at h
  by_contra hlt
  rw [Nat.compare_eq_gt.mpr (by omega)] at h
  exact h rfl

/-- Finite values are in order up to ties. -/
theorem compare_ne_gt_of_isFinite {a b c : Value} (ha : a.isFinite) (hb : b.isFinite)
    (hc : c.isFinite) (hab : a.compare b ≠ .gt) (hbc : b.compare c ≠ .gt) :
    a.compare c ≠ .gt := by
  have hchains := chains_compare a b c ha hb hc
  exact Ordering.isLE_iff_ne_gt.mp <|
    hchains.isLE (Ordering.isLE_iff_ne_gt.mpr hab) (Ordering.isLE_iff_ne_gt.mpr hbc)

/-- Where the order of three values breaks and the middle one is no list, it is a number that is not
finite. -/
theorem not_isFinite_of_compare {a b c : Value} (hlist : b.rank ≠ 5) (hab : a.compare b ≠ .gt)
    (hbc : b.compare c ≠ .gt) (hac : a.compare c = .gt) :
    ¬b.isFinite ∧ a.rank = 2 ∧ c.rank = 2 := by
  have hca : c.compare a = .lt := by
    rw [compare_swap a c, hac]
    rfl
  have hrankab := rank_le_of_compare hab
  have hrankbc := rank_le_of_compare hbc
  have hrankca : c.rank ≤ a.rank := rank_le_of_compare (by simp [hca])
  -- A value that ties with all numbers cannot be above one.
  have ha : a.isFinite := by
    by_contra ha
    have hnumber := rank_of_not_isFinite ha (by omega)
    rw [compare_eq_of_not_isFinite hnumber ha (by omega)] at hac
    cases hac
  have hc : c.isFinite := by
    by_contra hc
    have hnumber := rank_of_not_isFinite hc (by omega)
    rw [compare_eq_of_not_isFinite hnumber hc (by omega)] at hca
    cases hca
  have hb : ¬b.isFinite := fun hb => compare_ne_gt_of_isFinite ha hb hc hab hbc hac
  have hnumber := rank_of_not_isFinite hb hlist
  exact ⟨hb, by omega, by omega⟩

/-- Exchanging any two values reverses their comparison, and values are in order up to ties if all
floats in them are finite.  Around a value that is no list they are in order unless it is a number
that is not finite: it ties with all numbers, also with a greater one before it and a smaller one
after it. -/
theorem compare_order_of_finite (a b c : Value) :
    b.compare a = (a.compare b).swap ∧
    (a.isFinite → b.isFinite → c.isFinite →
      a.compare b ≠ .gt → b.compare c ≠ .gt → a.compare c ≠ .gt) ∧
    (b.rank ≠ 5 →
      ((a.compare b ≠ .gt → b.compare c ≠ .gt → a.compare c ≠ .gt) ↔
        ¬(¬b.isFinite ∧ a.rank = 2 ∧ c.rank = 2 ∧ a.compare c = .gt))) := by
  refine ⟨compare_swap a b, compare_ne_gt_of_isFinite, ?_⟩
  intro hlist
  constructor
  · rintro horder ⟨hb, ha, hc, hac⟩
    have hnumber := rank_of_not_isFinite hb hlist
    have hba : b.compare a = .eq := compare_eq_of_not_isFinite hnumber hb ha
    have hab : a.compare b = .eq := by
      rw [compare_swap b a, hba]
      rfl
    have hbc : b.compare c = .eq := compare_eq_of_not_isFinite hnumber hb hc
    exact horder (by simp [hab]) (by simp [hbc]) hac
  · intro hnot hab hbc hac
    obtain ⟨hb, ha, hc⟩ := not_isFinite_of_compare hlist hab hbc hac
    exact hnot ⟨hb, ha, hc, hac⟩

/-- Two is not above infinity, and infinity is not above one, but two is above one. -/
theorem compare_infinite_out_of_order :
    let infinite : Value := .float (.ofBits 0x7FF0000000000000)
    (Value.int 2).compare infinite ≠ .gt ∧ infinite.compare (.int 1) ≠ .gt ∧
      (Value.int 2).compare (.int 1) = .gt := by
  decide +kernel

end Value

end Sift
