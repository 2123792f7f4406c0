import Mathlib.Tactic.Ring
import Sift.Text.Digits

/-!
# Digits and signed integers

Digits are positional (`digitsValue_append`), and the number of digits bounds a number between two
powers of ten.  What `paddedDigits` writes is read back, and it has the width that was asked for
if the number fits in.  `integer?` reads the texts of a sign, which may be missing, and digits
(`integer?_eq_some_iff`).

Integers are not the only numbers with a sign in front, so `Sign` and `readSigned` are general in
what is read behind it.
-/

namespace Sift.Text

/-! ## Numbers of digits -/

theorem digitCount_pos (n : ℕ) : 0 < digitCount n :=
  Nat.length_toDigits_pos

theorem lt_pow_digitCount (n : ℕ) : n < 10 ^ digitCount n :=
  (Nat.length_toDigits_le_iff (by decide) (digitCount_pos n)).mp (Nat.le_refl _)

theorem pow_digitCount_le {n : ℕ} (hn : 0 < n) : 10 ^ (digitCount n - 1) ≤ n := by
  have hpos := digitCount_pos n
  by_cases hone : digitCount n = 1
  · rw [hone]
    omega
  · by_contra hlt
    have hle : digitCount n ≤ digitCount n - 1 :=
      (Nat.length_toDigits_le_iff (by decide) (by omega)).mpr (by omega)
    omega

/-! ## Values of digits -/

theorem foldl_digitsValue (value : ℕ) (cs : List Char) :
    cs.foldl (fun value c => 10 * value + digitValue c) value =
      value * 10 ^ cs.length + digitsValue cs := by
  induction cs generalizing value with
  | nil => simp [digitsValue]
  | cons c cs ih =>
    rw [digitsValue, List.foldl_cons, List.foldl_cons, ih, ih (10 * 0 + digitValue c),
      List.length_cons]
    ring

/-- Digits are positional. -/
theorem digitsValue_append (cs ds : List Char) :
    digitsValue (cs ++ ds) = digitsValue cs * 10 ^ ds.length + digitsValue ds := by
  rw [digitsValue, List.foldl_append, foldl_digitsValue]
  rfl

/-! ## Written digits -/

theorem isDigit_of_mem_digits {n : ℕ} {c : Char} (hc : c ∈ digits n) : isDigit c :=
  Nat.isDigit_of_mem_toDigits (by decide) (by decide) hc

/-- Digits are read back. -/
theorem digitsValue_digits (n : ℕ) : digitsValue (digits n) = n :=
  Nat.ofDigitChars_toDigits (by decide) (by decide)

theorem paddedDigits_ne_nil (width n : ℕ) : paddedDigits width n ≠ [] :=
  List.append_ne_nil_of_right_ne_nil _ Nat.toDigits_ne_nil

theorem isDigit_of_mem_paddedDigits {width n : ℕ} {c : Char} (hc : c ∈ paddedDigits width n) :
    isDigit c := by
  rcases List.mem_append.mp hc with hzero | hdigit
  · rw [List.eq_of_mem_replicate hzero]
    rfl
  · exact isDigit_of_mem_digits hdigit

/-- Zeros in front do not count. -/
theorem digitsValue_paddedDigits (width n : ℕ) : digitsValue (paddedDigits width n) = n := by
  have hzeros : digitsValue (List.replicate (width - digitCount n) '0') = 0 :=
    Nat.ofDigitChars_replicate_zero
  rw [paddedDigits, digitsValue_append, hzeros, digitsValue_digits, Nat.zero_mul, Nat.zero_add]

theorem length_paddedDigits {width n : ℕ} (hwidth : 0 < width) (hn : n < 10 ^ width) :
    (paddedDigits width n).length = width := by
  have hcount : digitCount n ≤ width := (Nat.length_toDigits_le_iff (by decide) hwidth).mpr hn
  rw [paddedDigits, List.length_append, List.length_replicate]
  exact Nat.sub_add_cancel hcount

/-! ## Signs -/

/-- The signs of a number, with the factor that each stands for. -/
inductive Sign : List Char → ℤ → Prop
  | absent : Sign [] 1
  | plus : Sign ['+'] 1
  | minus : Sign ['-'] (-1)

theorem Sign.length_le_one {cs : List Char} {factor : ℤ} (h : Sign cs factor) : cs.length ≤ 1 := by
  cases h <;> decide

/-- A number read after at most one sign. -/
def readSigned (read : List Char → Option ℕ) : List Char → Option ℤ
  | '-' :: cs => (read cs).map fun n => -(n : ℤ)
  | '+' :: cs => (read cs).map fun n => (n : ℤ)
  | cs => (read cs).map fun n => (n : ℤ)

/-- What a reader that takes no sign itself reads after at most one. -/
theorem readSigned_eq_some_iff {read : List Char → Option ℕ} (hplus : ∀ cs, read ('+' :: cs) = none)
    (hminus : ∀ cs, read ('-' :: cs) = none) {cs : List Char} {n : ℤ} :
    readSigned read cs = some n ↔
      ∃ sign factor ds m,
        Sign sign factor ∧ cs = sign ++ ds ∧ read ds = some m ∧ n = factor * m := by
  constructor
  · intro h
    rw [readSigned.eq_def] at h
    split at h <;> obtain ⟨_, hread, rfl⟩ := Option.map_eq_some_iff.mp h <;>
      obtain ⟨m, hm, heq⟩ := Option.bind_eq_some_iff.mp hread <;> cases heq
    · exact ⟨_, _, _, m, .minus, rfl, hm, by ring⟩
    · exact ⟨_, _, _, m, .plus, rfl, hm, by ring⟩
    · exact ⟨_, _, _, m, .absent, rfl, hm, by ring⟩
  · rintro ⟨sign, factor, ds, m, hsign, rfl, hm, rfl⟩
    cases hsign with
    | absent =>
      rw [List.nil_append, readSigned.eq_3 read ds, hm]
      · simp
      · rintro cs rfl
        simp [hminus] at hm
      · rintro cs rfl
        simp [hplus] at hm
    | plus => simp [readSigned, hm]
    | minus => simp [readSigned, hm]

theorem natural?_eq_some_iff {cs : List Char} {n : ℕ} :
    natural? cs = some n ↔ cs ≠ [] ∧ (∀ c ∈ cs, isDigit c) ∧ digitsValue cs = n := by
  simp [natural?, and_assoc]

/-- An integer is a sign, which may be missing, and digits. -/
theorem integer?_eq_some_iff {cs : List Char} {n : ℤ} :
    integer? cs = some n ↔
      ∃ sign factor ds, Sign sign factor ∧ cs = sign ++ ds ∧ ds ≠ [] ∧ (∀ c ∈ ds, isDigit c) ∧
        n = factor * digitsValue ds := by
  have hsigned : integer? cs = readSigned natural? cs := rfl
  rw [hsigned, readSigned_eq_some_iff (fun _ => by simp [natural?, isDigit])
    (fun _ => by simp [natural?, isDigit])]
  simp only [natural?_eq_some_iff]
  grind

end Sift.Text
