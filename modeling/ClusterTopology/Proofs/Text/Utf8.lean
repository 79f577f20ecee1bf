import ClusterTopology.Text.Utf8

/-!
# UTF-8 there and back

The bytes of a text are read as that text. One lemma for each length of a
character says which bytes are accepted and what they stand for; the forms that
`encodeChar` chooses are among them, since a character is no surrogate and each
form is used only where no shorter one will do.
-/

namespace ClusterTopology.Utf8

section Accepted

variable {a b c d : UInt8} (position : Nat) (rest : List UInt8)

theorem decodeFrom_one (low : a.toNat < 0x80) :
    decodeFrom position (a :: rest) =
      (decodeFrom (position + 1) rest).map (Char.ofNat a.toNat :: ·) := by
  rw [decodeFrom.eq_def]
  dsimp only
  rw [if_pos low]

theorem decodeFrom_two (first : 0xc2 ≤ a.toNat) (last : a.toNat < 0xe0) (second : isTail b = true) :
    decodeFrom position (a :: b :: rest) =
      (decodeFrom (position + 2) rest).map (Char.ofNat (extend (a.toNat - 0xc0) b) :: ·) := by
  rw [decodeFrom.eq_def]
  dsimp only
  rw [if_neg (by omega), if_neg (by omega), if_pos last]
  simp only [second, if_true]

theorem decodeFrom_three (first : 0xe0 ≤ a.toNat) (last : a.toNat < 0xf0)
    (second : isSecond a b = true) (third : isTail c = true) :
    decodeFrom position (a :: b :: c :: rest) =
      (decodeFrom (position + 3) rest).map
        (Char.ofNat (extend (extend (a.toNat - 0xe0) b) c) :: ·) := by
  rw [decodeFrom.eq_def]
  dsimp only
  rw [if_neg (by omega), if_neg (by omega), if_neg (by omega), if_pos last]
  simp only [second, third, if_true]

theorem decodeFrom_four (first : 0xf0 ≤ a.toNat) (last : a.toNat < 0xf5)
    (second : isSecond a b = true) (third : isTail c = true) (fourth : isTail d = true) :
    decodeFrom position (a :: b :: c :: d :: rest) =
      (decodeFrom (position + 4) rest).map
        (Char.ofNat (extend (extend (extend (a.toNat - 0xf0) b) c) d) :: ·) := by
  rw [decodeFrom.eq_def]
  dsimp only
  rw [if_neg (by omega), if_neg (by omega), if_neg (by omega), if_neg (by omega),
    if_pos last]
  simp only [second, third, fourth, if_true]

end Accepted

theorem toNat_ofNat {n : Nat} (small : n < 256) : (UInt8.ofNat n).toNat = n := by
  rw [UInt8.toNat_ofNat', Nat.mod_eq_of_lt small]

theorem toNat_continuation (n : Nat) : (continuation n).toNat = 0x80 + n % 0x40 := by
  have small : 0x80 + n % 0x40 < 256 := by omega
  exact toNat_ofNat small

theorem isTail_continuation (n : Nat) : isTail (continuation n) = true := by
  have bounds : 0x80 ≤ 0x80 + n % 0x40 ∧ 0x80 + n % 0x40 < 0xc0 := by omega
  rw [isTail, toNat_continuation]
  simpa using bounds

theorem extend_continuation (code n : Nat) : extend code (continuation n) = code * 64 + n % 64 := by
  show code * 64 + ((continuation n).toNat - 0x80) = _
  rw [toNat_continuation, Nat.add_sub_cancel_left]

/-- The byte after the first one of a long form is accepted if the form stands for a code
point that has no shorter form, is no surrogate and is not too big. -/
theorem isSecond_continuation {first n : Nat} (small : first < 256)
    (three : first = 0xe0 → 0x20 ≤ n % 0x40) (surrogate : first = 0xed → n % 0x40 < 0x20)
    (four : first = 0xf0 → 0x10 ≤ n % 0x40) (big : first = 0xf4 → n % 0x40 < 0x10) :
    isSecond (UInt8.ofNat first) (continuation n) = true := by
  have same {k : Nat} (fits : k < 256) : UInt8.ofNat first = UInt8.ofNat k ↔ first = k := by
    rw [← UInt8.toNat_inj, toNat_ofNat small, toNat_ofNat fits]
  rw [isSecond, isTail_continuation, toNat_continuation, Bool.true_and]
  split
  · next is =>
    have least := three ((same (k := 0xe0) (by decide)).1 is)
    exact decide_eq_true (by omega)
  split
  · next is =>
    have most := surrogate ((same (k := 0xed) (by decide)).1 is)
    exact decide_eq_true (by omega)
  split
  · next is =>
    have least := four ((same (k := 0xf0) (by decide)).1 is)
    exact decide_eq_true (by omega)
  split
  · next is =>
    have most := big ((same (k := 0xf4) (by decide)).1 is)
    exact decide_eq_true (by omega)
  · rfl

theorem decodeFrom_encodeChar (position : Nat) (c : Char) (rest : List UInt8) :
    ∃ next, decodeFrom position (encodeChar c ++ rest) = (decodeFrom next rest).map (c :: ·) := by
  have point : c.toNat < 0xd800 ∨ 0xdfff < c.toNat ∧ c.toNat < 0x110000 := c.valid
  -- One case for each length; in each, the six-bit parts make up the code point again.
  rw [encodeChar]
  split
  · next one =>
    have byte : (UInt8.ofNat c.toNat).toNat = c.toNat := toNat_ofNat (by omega)
    refine ⟨position + 1, ?_⟩
    rw [List.singleton_append, decodeFrom_one _ _ (by omega), byte, Char.ofNat_toNat]
  split
  · next one two =>
    have byte : (UInt8.ofNat (0xc0 + c.toNat / 0x40)).toNat = 0xc0 + c.toNat / 0x40 :=
      toNat_ofNat (by omega)
    have value : c.toNat / 0x40 * 64 + c.toNat % 64 = c.toNat := by omega
    refine ⟨position + 2, ?_⟩
    rw [List.cons_append, List.singleton_append,
      decodeFrom_two _ _ (by omega) (by omega) (isTail_continuation _), byte,
      Nat.add_sub_cancel_left, extend_continuation, value, Char.ofNat_toNat]
  split
  · next one two three =>
    have byte : (UInt8.ofNat (0xe0 + c.toNat / 0x1000)).toNat = 0xe0 + c.toNat / 0x1000 :=
      toNat_ofNat (by omega)
    have second : isSecond (UInt8.ofNat (0xe0 + c.toNat / 0x1000))
        (continuation (c.toNat / 0x40)) = true :=
      isSecond_continuation (by omega) (by omega) (by omega) (by omega) (by omega)
    have value : (c.toNat / 0x1000 * 64 + c.toNat / 0x40 % 64) * 64 + c.toNat % 64 = c.toNat := by
      omega
    refine ⟨position + 3, ?_⟩
    rw [List.cons_append, List.cons_append, List.singleton_append,
      decodeFrom_three _ _ (by omega) (by omega) second (isTail_continuation _), byte,
      Nat.add_sub_cancel_left, extend_continuation, extend_continuation, value, Char.ofNat_toNat]
  · next one two three =>
    have byte : (UInt8.ofNat (0xf0 + c.toNat / 0x40000)).toNat = 0xf0 + c.toNat / 0x40000 :=
      toNat_ofNat (by omega)
    have second : isSecond (UInt8.ofNat (0xf0 + c.toNat / 0x40000))
        (continuation (c.toNat / 0x1000)) = true :=
      isSecond_continuation (by omega) (by omega) (by omega) (by omega) (by omega)
    have value : ((c.toNat / 0x40000 * 64 + c.toNat / 0x1000 % 64) * 64 +
        c.toNat / 0x40 % 64) * 64 + c.toNat % 64 = c.toNat := by omega
    refine ⟨position + 4, ?_⟩
    rw [List.cons_append, List.cons_append, List.cons_append, List.singleton_append,
      decodeFrom_four _ _ (by omega) (by omega) second (isTail_continuation _)
        (isTail_continuation _), byte, Nat.add_sub_cancel_left, extend_continuation,
      extend_continuation, extend_continuation, value, Char.ofNat_toNat]

/-- The bytes of a text are read as that text. -/
theorem decode_encode (s : String) : decode (encode s) = .ok s := by
  have chars (cs : List Char) (position : Nat) :
      decodeFrom position (cs.flatMap encodeChar) = .ok cs := by
    -- Only faults depend on the position, and there are none.
    induction cs generalizing position with
    | nil => rfl
    | cons c cs ih =>
      obtain ⟨next, reads⟩ := decodeFrom_encodeChar position c (cs.flatMap encodeChar)
      rw [List.flatMap_cons, reads, ih]
      rfl
  rw [decode, encode, chars]
  exact congrArg Except.ok (String.ofList_toList ..)

end ClusterTopology.Utf8
