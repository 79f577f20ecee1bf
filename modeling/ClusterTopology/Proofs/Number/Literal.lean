import ClusterTopology.Number.Decimal
import ClusterTopology.Number.Literal

/-!
# Reading printed integers

The decimal text of an integer is read back as that integer, unless it has more
digits than are accepted.
-/

namespace ClusterTopology

theorem Text.isBlank_of_isDigit {c : Char} (digit : c.isDigit) : isBlank c = false := by
  have bounds : 48 ≤ c.toNat ∧ c.toNat ≤ 57 := by
    simpa [Char.isDigit, UInt32.le_iff_toNat_le] using digit
  simp [isBlank]
  omega

namespace Number

/-- An ASCII digit has its own value in base ten. -/
theorem digitIn?_of_isDigit {c : Char} (digit : c.isDigit) :
    digitIn? 10 c = some (c.toNat - '0'.toNat) := by
  have bounds : 48 ≤ c.toNat ∧ c.toNat ≤ 57 := by
    simpa [Char.isDigit, UInt32.le_iff_toNat_le] using digit
  have noLower : ¬ 'a' ≤ c := by
    simp only [Char.le_def, UInt32.le_iff_toNat_le]
    change ¬ 97 ≤ c.toNat
    omega
  have noUpper : ¬ 'A' ≤ c := by
    simp only [Char.le_def, UInt32.le_iff_toNat_le]
    change ¬ 65 ≤ c.toNat
    omega
  have isDecimal : decimalDigit? c = some (c.toNat - 48) := by
    have ascii : c.toNat < 128 := by omega
    have from0 : '0' ≤ c := by
      simp only [Char.le_def, UInt32.le_iff_toNat_le]
      exact bounds.1
    have to9 : c ≤ '9' := by
      simp only [Char.le_def, UInt32.le_iff_toNat_le]
      exact bounds.2
    simp [decimalDigit?, ascii, from0, to9]
  have small : c.toNat - 48 < 10 := by omega
  simp [digitIn?, noLower, noUpper, isDecimal, small]

/-- A run of ASCII digits is read to its end. -/
theorem digitRun_of_digits {cs : List Char} (digits : ∀ c ∈ cs, c.isDigit) (value count : Nat) :
    digitRun 10 value count cs =
      some (Nat.ofDigitChars 10 cs value, count + cs.length, []) := by
  induction cs generalizing value count with
  | nil => simp [digitRun]
  | cons c cs ih =>
    have digit : c.isDigit := digits c (.head _)
    have rest := ih (fun d found => digits d (.tail _ found)) (value * 10 + (c.toNat - '0'.toNat))
      (count + 1)
    rw [digitRun.eq_def]
    simp only [digitIn?_of_isDigit digit, rest, Nat.ofDigitChars_cons, List.length_cons]
    rw [Nat.mul_comm value, Nat.add_assoc count, Nat.add_comm 1]

theorem isDigit_of_mem_decimalDigits {n : Nat} {c : Char} (found : c ∈ decimalDigits n) :
    c.isDigit :=
  Nat.isDigit_of_mem_toDigits (by decide) (by decide) found

theorem decimalDigits_ne_nil (n : Nat) : decimalDigits n ≠ [] :=
  Nat.toDigits_ne_nil

/-- A digit is neither a sign nor a blank. -/
theorem takeSign_of_digits {cs : List Char} (digits : ∀ c ∈ cs, c.isDigit) :
    takeSign (cs.dropWhile isLiteralBlank) = (false, cs) := by
  cases cs with
  | nil => rfl
  | cons c cs =>
    have digit : c.isDigit := digits c (.head _)
    have shown : isLiteralBlank c = false := by
      simp [isLiteralBlank, Text.isBlank_of_isDigit digit]
    have minus : c ≠ '-' := fun same => by simp [same] at digit
    have plus : c ≠ '+' := fun same => by simp [same] at digit
    rw [List.dropWhile_cons_of_neg (by simp [shown])]
    simp [takeSign, minus, plus]

/-- Digits after at most one sign are read as a number, unless there are too many. -/
theorem read_of_takeSign {text cs : List Char} {negative : Bool}
    (signed : takeSign (text.dropWhile isLiteralBlank) = (negative, cs)) (nonempty : cs ≠ [])
    (digits : ∀ c ∈ cs, c.isDigit) :
    read text =
      if maxDigits < cs.length then .error (.tooLong cs.length)
      else .ok
        (if negative then -(Nat.ofDigitChars 10 cs 0 : Int) else Nat.ofDigitChars 10 cs 0) := by
  cases cs with
  | nil => exact absurd rfl nonempty
  | cons c cs =>
    have first := digitIn?_of_isDigit (digits c (.head _))
    have run := digitRun_of_digits digits 0 0
    rw [read, readIn, signed]
    simp [dropBaseMark, first, run]

/-- The text of an integer: a minus sign if it is needed, and its digits. -/
theorem toList_toString (n : Int) :
    (toString n).toList =
      if n < 0 then '-' :: decimalDigits n.natAbs else decimalDigits n.natAbs := by
  cases n with
  | ofNat n =>
    simp [decimalDigits, Int.repr]
  | negSucc n =>
    simp [decimalDigits, Int.repr]

/-- An integer is read back from its text, unless that has too many digits. -/
theorem read_toString_eq (n : Int) :
    read (toString n).toList =
      if maxDigits < (decimalDigits n.natAbs).length then
        .error (.tooLong (decimalDigits n.natAbs).length)
      else .ok n := by
  have digits : ∀ c ∈ decimalDigits n.natAbs, c.isDigit :=
    fun c found => isDigit_of_mem_decimalDigits found
  have value : Nat.ofDigitChars 10 (decimalDigits n.natAbs) 0 = n.natAbs :=
    Nat.ofDigitChars_ten_toDigits
  rw [toList_toString]
  split
  · next negative =>
    have signed : takeSign (('-' :: decimalDigits n.natAbs).dropWhile isLiteralBlank) =
        (true, decimalDigits n.natAbs) := rfl
    have same : -(n.natAbs : Int) = n := by omega
    rw [read_of_takeSign signed (decimalDigits_ne_nil _) digits, value, if_pos rfl, same]
  · next negative =>
    have same : (n.natAbs : Int) = n := by omega
    rw [read_of_takeSign (takeSign_of_digits digits) (decimalDigits_ne_nil _) digits, value,
      if_neg Bool.false_ne_true, same]

/-- Any integer that is short enough is read back from its text. -/
theorem read_toString {n : Int} (short : (decimalDigits n.natAbs).length ≤ maxDigits) :
    read (toString n).toList = .ok n := by
  rw [read_toString_eq, if_neg (by omega)]

/-- A power of ten is a one and as many zeros as its exponent. -/
theorem length_decimalDigits_pow (k : Nat) : (decimalDigits (Nat.pow 10 k)).length = k + 1 := by
  have fits : (decimalDigits (Nat.pow 10 k)).length ≤ k + 1 :=
    (Nat.length_toDigits_le_iff (by decide) (by omega)).2
      (Nat.pow_lt_pow_right (by decide) (by omega))
  cases k with
  | zero => exact Nat.le_antisymm fits Nat.length_toDigits_pos
  | succ k =>
    have needs : ¬ (decimalDigits (Nat.pow 10 (k + 1))).length ≤ k + 1 := fun short =>
      Nat.lt_irrefl _ ((Nat.length_toDigits_le_iff (by decide) (by omega)).1 short)
    omega

end Number

end ClusterTopology
