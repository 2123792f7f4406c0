import Sift.Proofs.Filter.Grammar
import Sift.Proofs.Filter.Layout

/-!
# Brackets in pairs

`Balanced` says of a list that every bracket in it has its partner there.  It is about characters
and about tokens alike, as it depends on the brackets of the list alone
(`Balanced.of_filterMap_eq`), and scanning keeps all of these (`Token.filterMap_scanFrom`).

* `excess` counts what a list opens and does not close.  It is zero if all brackets are in pairs,
  and at no place in such a list is it negative.
* `IsOpened` and `IsClosed` say whether a single bracket of a text has its partner.  By the count,
  a bracket beside a balanced part has none in that part, and every bracket within the part has one.
* What the grammar derives is balanced (`Derives.balanced`).
-/

namespace Sift.Filter

/-! ## Brackets in pairs -/

/-- A bracket. -/
inductive Bracket where
  | opening
  | closing
  deriving DecidableEq, Repr

namespace Bracket

/-- The bracket that a character is. -/
def ofChar? : Char → Option Bracket
  | '(' => some .opening
  | ')' => some .closing
  | _ => none

/-- The bracket that a token is. -/
def ofToken? (token : Token) : Option Bracket :=
  match token.kind with
  | .openBracket => some .opening
  | .closeBracket => some .closing
  | _ => none

/-- What an element adds to the number of open brackets. -/
def change : Option Bracket → Int
  | some .opening => 1
  | some .closing => -1
  | none => 0

theorem eq_of_ofChar?_opening {c : Char} (h : ofChar? c = some .opening) : c = '(' := by
  unfold ofChar? at h
  split at h <;> simp_all

theorem eq_of_ofChar?_closing {c : Char} (h : ofChar? c = some .closing) : c = ')' := by
  unfold ofChar? at h
  split at h <;> simp_all

end Bracket

/-- Every bracket in the list has its partner there. -/
inductive Balanced {α : Type} (bracket? : α → Option Bracket) : List α → Prop where
  | nil : Balanced bracket? []
  | other {a : α} {rest : List α} (ha : bracket? a = none) (hrest : Balanced bracket? rest) :
    Balanced bracket? (a :: rest)
  | pair {a b : α} {inner rest : List α} (ha : bracket? a = some .opening)
    (hinner : Balanced bracket? inner) (hb : bracket? b = some .closing)
    (hrest : Balanced bracket? rest) : Balanced bracket? (a :: inner ++ b :: rest)

/-- How many more brackets a list opens than it closes. -/
def excess {α : Type} (bracket? : α → Option Bracket) : List α → Int
  | [] => 0
  | a :: rest => Bracket.change (bracket? a) + excess bracket? rest

theorem excess_append {α : Type} (bracket? : α → Option Bracket) (xs ys : List α) :
    excess bracket? (xs ++ ys) = excess bracket? xs + excess bracket? ys := by
  induction xs with
  | nil => simp [excess]
  | cons a rest ih => simp only [List.cons_append, excess, ih, Int.add_assoc]

namespace Balanced

variable {α β : Type} {bracket? : α → Option Bracket} {other? : β → Option Bracket}
  {xs ys : List α} {zs : List β}

theorem append (hxs : Balanced bracket? xs) (hys : Balanced bracket? ys) :
    Balanced bracket? (xs ++ ys) := by
  induction hxs with
  | nil => exact hys
  | other ha _ ih => exact .other ha ih
  | pair ha hinner hb _ _ ih =>
    rw [List.append_assoc, List.cons_append]
    exact .pair ha hinner hb ih

theorem of_forall_none (h : ∀ a ∈ xs, bracket? a = none) : Balanced bracket? xs := by
  induction xs with
  | nil => exact .nil
  | cons a rest ih =>
    obtain ⟨ha, hrest⟩ := List.forall_mem_cons.mp h
    exact .other ha (ih hrest)

/-- Whether brackets are in pairs depends on the brackets alone. -/
theorem of_filterMap_eq (h : Balanced other? zs)
    (heq : xs.filterMap bracket? = zs.filterMap other?) : Balanced bracket? xs := by
  induction h generalizing xs with
  | nil => exact of_forall_none (by simpa using heq)
  | other hb _ ih => exact ih (by simpa [List.filterMap_cons, hb] using heq)
  | pair ha _ hb _ ihinner ihrest =>
    simp only [List.cons_append, List.filterMap_cons, List.filterMap_append, ha, hb] at heq
    obtain ⟨before, a, tail, rfl, hbefore, ha', htail⟩ := List.filterMap_eq_cons_iff.mp heq
    obtain ⟨middle, last, rfl, hmiddle, hlast⟩ := List.filterMap_eq_append_iff.mp htail
    obtain ⟨gap, b, rest, rfl, hgap, hb', hrest⟩ := List.filterMap_eq_cons_iff.mp hlast
    have hmiddle' : Balanced bracket? (middle ++ gap) :=
      (ihinner hmiddle).append (of_forall_none hgap)
    have hpair := Balanced.pair ha' hmiddle' hb' (ihrest hrest)
    simpa using (of_forall_none hbefore).append hpair

theorem excess_eq_zero (h : Balanced bracket? xs) : excess bracket? xs = 0 := by
  induction h with
  | nil => rfl
  | other ha _ ih => simp [excess, Bracket.change, ha, ih]
  | pair ha _ hb _ ihinner ihrest =>
    simp [excess_append, excess, Bracket.change, ha, hb, ihinner, ihrest]

/-- No part in front closes more brackets than it opens. -/
theorem excess_nonneg (h : Balanced bracket? xs) {front back : List α}
    (hxs : xs = front ++ back) : 0 ≤ excess bracket? front := by
  induction h generalizing front back with
  | nil =>
    obtain ⟨rfl, -⟩ := List.append_eq_nil_iff.mp hxs.symm
    exact Int.le_refl 0
  | other ha _ ih =>
    cases front with
    | nil => exact Int.le_refl 0
    | cons c front =>
      obtain ⟨rfl, hrest⟩ := List.cons.inj hxs
      have := ih hrest
      simp only [excess, Bracket.change, ha]
      omega
  | pair ha hinner hb _ ihinner ihrest =>
    cases front with
    | nil => exact Int.le_refl 0
    | cons c front =>
      obtain ⟨rfl, hrest⟩ := List.cons.inj hxs
      simp only [excess, Bracket.change, ha]
      rcases List.append_eq_append_iff.mp hrest with ⟨more, rfl, hmore⟩ | ⟨more, hfront, -⟩
      · have hzero := hinner.excess_eq_zero
        rw [excess_append]
        cases more with
        | nil =>
          simp only [excess]
          omega
        | cons d more =>
          obtain ⟨rfl, hlast⟩ := List.cons.inj hmore
          have := ihrest hlast
          simp only [excess, Bracket.change, hb]
          omega
      · have := ihinner hfront
        omega

end Balanced

/-! ## Partners in a text -/

/-- Whether a closing bracket that stands behind `before` has a partner there. -/
def IsOpened (before : List Char) : Prop :=
  ∃ front inner, before = front ++ '(' :: inner ∧ Balanced Bracket.ofChar? inner

/-- Whether an opening bracket that stands in front of `after` has a partner there. -/
def IsClosed (after : List Char) : Prop :=
  ∃ inner back, after = inner ++ ')' :: back ∧ Balanced Bracket.ofChar? inner

namespace Balanced

variable {cs front back : List Char}

theorem not_isOpened (h : Balanced Bracket.ofChar? cs) : ¬IsOpened cs := by
  rintro ⟨front, inner, rfl, hinner⟩
  have hall := h.excess_eq_zero
  have hfront := h.excess_nonneg rfl
  have hzero := hinner.excess_eq_zero
  simp only [excess_append, excess, Bracket.change, Bracket.ofChar?] at hall
  omega

theorem not_isClosed (h : Balanced Bracket.ofChar? cs) : ¬IsClosed cs := by
  rintro ⟨inner, back, rfl, hinner⟩
  have hsplit : inner ++ ')' :: back = (inner ++ [')']) ++ back := by simp
  have hfront := h.excess_nonneg hsplit
  have hzero := hinner.excess_eq_zero
  simp only [excess_append, excess, Bracket.change, Bracket.ofChar?] at hfront
  omega

/-- A closing bracket has its partner in front of it. -/
theorem isOpened (h : Balanced Bracket.ofChar? cs) (hcs : cs = front ++ ')' :: back) :
    IsOpened front := by
  induction h generalizing front back with
  | nil => simp at hcs
  | @other c rest hc _ ih =>
    cases front with
    | nil =>
      obtain ⟨rfl, -⟩ := List.cons.inj hcs
      cases hc
    | cons d front =>
      obtain ⟨rfl, htail⟩ := List.cons.inj hcs
      obtain ⟨before, inner, rfl, hinner⟩ := ih htail
      exact ⟨c :: before, inner, rfl, hinner⟩
  | @pair a b inner rest ha hinner hb _ ihinner ihrest =>
    obtain rfl := Bracket.eq_of_ofChar?_opening ha
    obtain rfl := Bracket.eq_of_ofChar?_closing hb
    cases front with
    | nil => cases hcs
    | cons d front =>
      obtain ⟨rfl, htail⟩ := List.cons.inj hcs
      rcases split_of_append_eq htail with ⟨more, hmore⟩ | ⟨more, rfl, hmore⟩
      · obtain ⟨before, middle, rfl, hmiddle⟩ := ihinner hmore
        exact ⟨'(' :: before, middle, rfl, hmiddle⟩
      · cases more with
        | nil => exact ⟨[], inner, by simp, hinner⟩
        | cons e more =>
          obtain ⟨rfl, hlast⟩ := List.cons.inj hmore
          obtain ⟨before, middle, rfl, hmiddle⟩ := ihrest hlast
          exact ⟨'(' :: inner ++ ')' :: before, middle, by simp, hmiddle⟩

/-- An opening bracket has its partner behind it. -/
theorem isClosed (h : Balanced Bracket.ofChar? cs) (hcs : cs = front ++ '(' :: back) :
    IsClosed back := by
  induction h generalizing front back with
  | nil => simp at hcs
  | @other c rest hc _ ih =>
    cases front with
    | nil =>
      obtain ⟨rfl, -⟩ := List.cons.inj hcs
      cases hc
    | cons d front =>
      obtain ⟨-, htail⟩ := List.cons.inj hcs
      exact ih htail
  | @pair a b inner rest ha hinner hb _ ihinner ihrest =>
    obtain rfl := Bracket.eq_of_ofChar?_closing hb
    cases front with
    | nil =>
      obtain ⟨-, rfl⟩ := List.cons.inj hcs
      exact ⟨inner, rest, rfl, hinner⟩
    | cons d front =>
      obtain ⟨-, htail⟩ := List.cons.inj hcs
      rcases split_of_append_eq htail with ⟨more, rfl⟩ | ⟨more, rfl, hmore⟩
      · obtain rfl : more ++ ')' :: rest = back := by simpa using htail
        obtain ⟨middle, after, rfl, hmiddle⟩ := ihinner rfl
        exact ⟨middle, after ++ ')' :: rest, by simp, hmiddle⟩
      · cases more with
        | nil => cases hmore
        | cons e more =>
          obtain ⟨-, hlast⟩ := List.cons.inj hmore
          exact ihrest hlast

end Balanced

/-! ## The brackets of a grammar -/

theorem Derives.balanced {level : Level} {tokens : List Token} {tree : Tree}
    (h : Derives level tokens tree) : Balanced Bracket.ofToken? tokens := by
  induction h with
  | expression text span => exact .other rfl .nil
  | group opening closing _ ih => exact .pair rfl ih rfl .nil
  | term _ ih => exact ih
  | and span _ _ ihl ihr => exact ihl.append (.other rfl ihr)
  | conjunction _ ih => exact ih
  | or span _ _ ihl ihr => exact ihl.append (.other rfl ihr)

theorem IsEmptyGroup.balanced {group : List Token} (h : IsEmptyGroup group) :
    Balanced Bracket.ofToken? group := by
  obtain ⟨n, -, hkinds⟩ := h
  induction n generalizing group with
  | zero =>
    rw [List.map_eq_nil_iff.mp hkinds]
    exact .nil
  | succ n ih =>
    obtain ⟨opening, middle, closing, rfl, hmiddle⟩ := exists_surround hkinds
    exact .pair rfl (ih hmiddle) rfl .nil

/-! ## The brackets of a text -/

namespace Token

/-- A structural character and its token are the same bracket, if they are one. -/
theorem ofToken?_eq_ofChar? {c : Char} {kind : Kind} (h : structural? c = some kind)
    (span : Span) : Bracket.ofToken? ⟨kind, span⟩ = Bracket.ofChar? c := by
  unfold structural? at h
  split at h <;> cases h <;> rfl

/-- A plain character is no bracket. -/
theorem ofChar?_of_isPlain {c : Char} (h : isPlain c) : Bracket.ofChar? c = none := by
  unfold Bracket.ofChar?
  split
  · cases h
  · cases h
  · rfl

/-- The token of a run is no bracket. -/
theorem ofToken?_of_mem_ofRun {offset : Nat} {run : List Char} {token : Token}
    (h : token ∈ ofRun offset run) : Bracket.ofToken? token = none := by
  obtain ⟨-, hkind, -⟩ := mem_ofRun h
  rw [Bracket.ofToken?, hkind]

/-- The brackets of a text are tokens. -/
theorem filterMap_scanFrom (offset : Nat) (cs : List Char) :
    (scanFrom offset cs).filterMap Bracket.ofToken? = cs.filterMap Bracket.ofChar? := by
  fun_induction scanFrom offset cs with
  | case1 => rfl
  | case2 offset c rest kind hc ih =>
    rw [List.filterMap_cons, List.filterMap_cons, ofToken?_eq_ofChar? hc, ih]
  | case3 offset c rest hc run ih =>
    have hcs : c :: rest = run ++ rest.dropWhile isPlain := by
      simp [run, List.takeWhile_append_dropWhile]
    have hrun : run.filterMap Bracket.ofChar? = [] :=
      List.filterMap_eq_nil_iff.mpr fun d hd => ofChar?_of_isPlain (isPlain_of_mem_run hc hd)
    have htoken : (ofRun offset run).filterMap Bracket.ofToken? = [] :=
      List.filterMap_eq_nil_iff.mpr fun token h => ofToken?_of_mem_ofRun h
    rw [hcs, List.filterMap_append, List.filterMap_append, hrun, htoken, ih]

theorem balanced_of_scanFrom {offset : Nat} {cs : List Char}
    (h : Balanced Bracket.ofToken? (scanFrom offset cs)) : Balanced Bracket.ofChar? cs :=
  h.of_filterMap_eq (filterMap_scanFrom offset cs).symm

end Token

end Sift.Filter
