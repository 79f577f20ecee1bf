import Mathlib.Algebra.Order.Field.Power
import Mathlib.Algebra.Order.Field.Rat
import Mathlib.Data.Int.CharZero
import Mathlib.Order.WithBot
import ClusterTopology.Number.Binary64

/-!
# What numbers of double precision amount to

A finite number is a rational one, the infinite ones lie below and above all of these, and the
unordered number amounts to nothing. Comparison with integers and the test for integral values
say what they should about these amounts.
-/

namespace ClusterTopology.Number

/-- The rational numbers between a least and a greatest element. -/
abbrev Amount : Type := WithBot (WithTop ℚ)

/-- An integer as an amount. -/
def Amount.ofInt (n : Int) : Amount := ((n : ℚ) : WithTop ℚ)

namespace Amount

theorem cmp_coe (q : ℚ) (n : Int) :
    cmp (((q : ℚ) : WithTop ℚ) : Amount) (ofInt n) = cmp q (n : ℚ) :=
  (WithBot.coe_strictMono.comp WithTop.coe_strictMono).cmp_map_eq q n

theorem cmp_ofInt (m n : Int) : cmp (ofInt m) (ofInt n) = compare m n := by
  rw [ofInt, cmp_coe, Int.cast_strictMono.cmp_map_eq, cmp_eq_compare]

@[simp]
theorem ofInt_lt_ofInt {m n : Int} : ofInt m < ofInt n ↔ m < n := by
  rw [← cmp_eq_lt_iff, cmp_ofInt, compare_lt_iff_lt]

@[simp]
theorem ofInt_le_ofInt {m n : Int} : ofInt m ≤ ofInt n ↔ m ≤ n := by
  rw [← not_lt, ofInt_lt_ofInt, not_lt]

end Amount

namespace Binary64

/-- The rational number that a sign, a mantissa and an exponent stand for. -/
def rational (negative : Bool) (mantissa : Nat) (exponent : Int) : ℚ :=
  (if negative then -(mantissa : ℚ) else mantissa) * 2 ^ exponent

/-- The amount of a number, if it is ordered. -/
def amount? : Binary64 → Option Amount
  | .nan => none
  | .infinite negative => some (if negative then ⊥ else ⊤)
  | .finite negative mantissa exponent =>
    some ((rational negative mantissa exponent : ℚ) : WithTop ℚ)

/-- A mantissa with its sign, as the comparison uses it. -/
theorem rational_eq (negative : Bool) (mantissa : Nat) (exponent : Int) :
    rational negative mantissa exponent =
      ((if negative then -(mantissa : Int) else mantissa : Int) : ℚ) * 2 ^ exponent := by
  rw [rational]
  split <;> simp

theorem compare_mul {a b : Int} {c : ℚ} (positive : 0 < c) {q : ℚ}
    (left : (a : ℚ) = q * c) {n : Int} (right : (b : ℚ) = n * c) :
    compare a b = compare q (n : ℚ) := by
  have lt : a < b ↔ q < n := by
    rw [← Int.cast_lt (R := ℚ), left, right]
    exact mul_lt_mul_iff_left₀ positive
  have eq : a = b ↔ q = n := by
    rw [← Int.cast_inj (α := ℚ), left, right]
    exact mul_left_inj' positive.ne'
  rcases lt_trichotomy q (n : ℚ) with less | same | more
  · rw [compare_lt_iff_lt.2 less, compare_lt_iff_lt.2 (lt.2 less)]
  · rw [compare_eq_iff_eq.2 same, compare_eq_iff_eq.2 (eq.2 same)]
  · have greater : b < a := by
      rcases lt_trichotomy a b with h | h | h
      · exact absurd (lt.1 h) (not_lt_of_gt more)
      · exact absurd (eq.1 h) (ne_of_gt more)
      · exact h
    rw [compare_gt_iff_gt.2 more, compare_gt_iff_gt.2 greater]

/-- A finite number compares with an integer as the rational number that it is. -/
theorem compareFinite_eq (negative : Bool) (mantissa : Nat) (exponent n : Int) :
    compareFinite negative mantissa exponent n =
      compare (rational negative mantissa exponent) (n : ℚ) := by
  rw [compareFinite, rational_eq]
  generalize (if negative then -(mantissa : Int) else (mantissa : Int)) = signed
  split
  · next large =>
    obtain ⟨k, rfl⟩ := Int.eq_ofNat_of_zero_le large
    refine compare_mul one_pos ?_ (mul_one _).symm
    simp [Nat.pow_eq]
  · next small =>
    obtain ⟨k, rfl⟩ : ∃ k : Nat, exponent = -(k : Int) := ⟨(-exponent).toNat, by omega⟩
    -- The comparison is one of integers, as it multiplies both sides by the denominator.
    have positive : (0 : ℚ) < 2 ^ k := pow_pos two_pos k
    refine compare_mul positive ?_ ?_
    · simp
    · simp [Nat.pow_eq]

/-- A number compares with an integer as its amount does. -/
theorem compareInt_eq (x : Binary64) (n : Int) :
    x.compareInt n = x.amount?.map fun amount => cmp amount (Amount.ofInt n) := by
  cases x with
  | nan => rfl
  | infinite negative =>
    cases negative with
    | true =>
      have below : (⊥ : Amount) < Amount.ofInt n := WithBot.bot_lt_coe _
      exact congrArg some (cmp_eq_lt_iff _ _ |>.2 below).symm
    | false =>
      have above : Amount.ofInt n < (⊤ : Amount) :=
        WithBot.coe_lt_coe.2 (WithTop.coe_lt_top _)
      exact congrArg some (cmp_eq_gt_iff _ _ |>.2 above).symm
  | finite negative mantissa exponent =>
    rw [compareInt, compareFinite_eq, amount?, Option.map_some, Amount.cmp_coe,
      cmp_eq_compare]

theorem amount?_eq_none_iff {x : Binary64} : x.amount? = none ↔ x = .nan := by
  cases x with
  | nan => simp [amount?]
  | infinite negative => cases negative <;> simp [amount?]
  | finite negative mantissa exponent => simp [amount?]

theorem amount?_finite_eq_iff (negative : Bool) (mantissa : Nat) (exponent n : Int) :
    (finite negative mantissa exponent).amount? = some (Amount.ofInt n) ↔
      rational negative mantissa exponent = n := by
  rw [amount?, Amount.ofInt, Option.some.injEq, WithBot.coe_inj, WithTop.coe_inj]

/-- A negative power of two divides a mantissa exactly if the number is an integer. -/
theorem exists_rational_eq_iff (negative : Bool) (mantissa k : Nat) :
    (∃ n : Int, rational negative mantissa (-k) = n) ↔ mantissa % Nat.pow 2 k = 0 := by
  have nonzero : (2 : ℚ) ^ k ≠ 0 := pow_ne_zero k two_ne_zero
  have divides : ∀ n : Int, rational negative mantissa (-k) = n ↔
      (if negative then -(mantissa : Int) else mantissa) = (Nat.pow 2 k : Nat) * n := by
    intro n
    rw [rational_eq, zpow_neg, zpow_natCast, ← div_eq_mul_inv, div_eq_iff nonzero,
      ← Int.cast_inj (α := ℚ)]
    simp [Nat.pow_eq, mul_comm]
  rw [← Nat.dvd_iff_mod_eq_zero, ← Int.natCast_dvd_natCast]
  simp only [divides]
  cases negative with
  | true => exact Int.dvd_neg
  | false => exact Iff.rfl

/-- A number is integral if it amounts to an integer. -/
theorem isIntegral_iff (x : Binary64) :
    x.isIntegral = true ↔ ∃ n, x.amount? = some (Amount.ofInt n) := by
  cases x with
  | nan => simp [isIntegral, amount?]
  | infinite negative =>
    refine iff_of_false Bool.false_ne_true ?_
    rintro ⟨n, same⟩
    cases negative with
    | true => cases same
    | false => cases same
  | finite negative mantissa exponent =>
    simp only [amount?_finite_eq_iff, isIntegral, Bool.or_eq_true, decide_eq_true_eq]
    rcases le_or_gt 0 exponent with large | small
    · obtain ⟨k, rfl⟩ := Int.eq_ofNat_of_zero_le large
      refine iff_of_true (.inl large)
        ⟨(if negative then -(mantissa : Int) else mantissa) * 2 ^ k, ?_⟩
      rw [rational_eq]
      simp
    · obtain ⟨k, rfl⟩ : ∃ k : Nat, exponent = -(k : Int) := ⟨(-exponent).toNat, by omega⟩
      rw [exists_rational_eq_iff, neg_neg, Int.toNat_natCast]
      exact or_iff_right (not_le.2 small)

end Binary64

end ClusterTopology.Number
