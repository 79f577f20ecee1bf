import Mathlib.Data.List.TakeWhile
import Mathlib.Data.Nat.Digits.Defs
import ClusterTopology.Proofs.Number.Literal

/-!
# The grammar of integer literals

`IsLiteral` says which texts denote which integer: blanks, at most one sign, digits of which two
may have an underscore between them, and blanks. The reader accepts exactly these texts, with
this value.
-/

namespace ClusterTopology.Number

/-- What may follow a digit, with the values of its digits: more digits, each of them directly
or after one underscore. -/
inductive MoreDigits : List Char → List Nat → Prop where
  | none : MoreDigits [] []
  | digit {c : Char} {cs : List Char} {d : Nat} {ds : List Nat}
    (read : decimalDigit? c = some d) (more : MoreDigits cs ds) : MoreDigits (c :: cs) (d :: ds)
  | underscore {c : Char} {cs : List Char} {d : Nat} {ds : List Nat}
    (read : decimalDigit? c = some d) (more : MoreDigits cs ds) :
    MoreDigits ('_' :: c :: cs) (d :: ds)

/-- The sign that may lead digits, and the factor that it stands for. -/
inductive IsSign : List Char → Int → Prop where
  | none : IsSign [] 1
  | plus : IsSign ['+'] 1
  | minus : IsSign ['-'] (-1)

/-- A text that denotes an integer, with no more digits than are accepted. -/
inductive IsLiteral : List Char → Int → Prop where
  | intro {front sign digits back : List Char} {factor : Int} {c : Char} {d : Nat} {ds : List Nat}
    (blankFront : ∀ b ∈ front, isLiteralBlank b) (signed : IsSign sign factor)
    (first : decimalDigit? c = some d) (more : MoreDigits digits ds)
    (short : (d :: ds).length ≤ maxDigits) (blankBack : ∀ b ∈ back, isLiteralBlank b) :
    IsLiteral (front ++ (sign ++ c :: (digits ++ back)))
      (factor * (Nat.ofDigits 10 (d :: ds).reverse : Nat))

/-- The decimal digits of all scripts lie between the blanks. -/
theorem decimalDigit?_eq_some {c : Char} {d : Nat} (read : decimalDigit? c = some d) :
    d < 10 ∧ (48 ≤ c.toNat ∧ c.toNat < 58 ∨ 1632 ≤ c.toNat ∧ c.toNat < 5760 ∨
      5760 < c.toNat ∧ c.toNat < 8192 ∨ 12288 < c.toNat) := by
  rw [decimalDigit?] at read
  split at read
  · split at read
    · next bounds =>
      simp only [Bool.and_eq_true, decide_eq_true_eq, Char.le_def, UInt32.le_iff_toNat_le]
        at bounds
      have low : 48 ≤ c.toNat := bounds.1
      have high : c.toNat ≤ 57 := bounds.2
      cases read
      omega
    · cases read
  · obtain ⟨start, found, rfl⟩ := Option.map_eq_some_iff.1 read
    have listed : start ∈ digitZeros := List.mem_of_find?_eq_some found
    have run := List.find?_some found
    simp only [Bool.and_eq_true, decide_eq_true_eq] at run
    have apart : ∀ start ∈ digitZeros, start = 48 ∨ 1632 ≤ start ∧ start + 10 ≤ 5760 ∨
        5760 < start ∧ start + 10 ≤ 8192 ∨ 12288 < start := by decide
    have place := apart start listed
    omega

theorem isLiteralBlank_of_digit {c : Char} {d : Nat} (read : decimalDigit? c = some d) :
    isLiteralBlank c = false := by
  have place := (decimalDigit?_eq_some read).2
  have shown : Text.isBlank c = false := by
    simp [Text.isBlank]
    omega
  simp [isLiteralBlank, shown]

/-- In base ten only decimal digits count. -/
theorem digitIn?_ten (c : Char) : digitIn? 10 c = decimalDigit? c := by
  have noDigit (low : 58 ≤ c.toNat) (high : c.toNat < 128) : decimalDigit? c = none := by
    rcases read : decimalDigit? c with _ | d
    · rfl
    · have place := (decimalDigit?_eq_some read).2
      omega
  have between {a b : Char} (inside : (a ≤ c && c ≤ b) = true) :
      a.toNat ≤ c.toNat ∧ c.toNat ≤ b.toNat := by
    simp only [Bool.and_eq_true, decide_eq_true_eq, Char.le_def, UInt32.le_iff_toNat_le] at inside
    exact inside
  rw [digitIn?]
  split
  · next lower =>
    obtain ⟨from_a, to_z⟩ := between lower
    change 97 ≤ c.toNat at from_a
    change c.toNat ≤ 122 at to_z
    rw [noDigit (by omega) (by omega), Option.filter_eq_none_iff]
    simp
    omega
  · split
    · next upper =>
      obtain ⟨from_A, to_Z⟩ := between upper
      change 65 ≤ c.toNat at from_A
      change c.toNat ≤ 90 at to_Z
      rw [noDigit (by omega) (by omega), Option.filter_eq_none_iff]
      simp
      omega
    · rcases read : decimalDigit? c with _ | d
      · rfl
      · simp [(decimalDigit?_eq_some read).1]

/-- A digit after the others, the highest first. -/
def appendDigit (value digit : Nat) : Nat := value * 10 + digit

theorem foldl_appendDigit (ds : List Nat) :
    ds.foldl appendDigit 0 = Nat.ofDigits 10 ds.reverse := by
  rw [Nat.ofDigits_eq_foldr, List.foldr_reverse]
  refine congrArg (fun step => ds.foldl step 0) ?_
  funext value digit
  simp [appendDigit, Nat.mul_comm, Nat.add_comm]

/-- Whether a run of digits ends before this text. -/
def EndsRun (rest : List Char) : Prop :=
  ∀ c, rest.head? = some c → decimalDigit? c = none ∧ c ≠ '_'

theorem digitRun_of_endsRun {rest : List Char} (ends : EndsRun rest) (value count : Nat) :
    digitRun 10 value count rest = some (value, count, rest) := by
  cases rest with
  | nil => rfl
  | cons c rest =>
    obtain ⟨other, plain⟩ := ends c rfl
    rw [digitRun.eq_def]
    simp [digitIn?_ten, other, plain]

theorem decimalDigit?_underscore : decimalDigit? '_' = none := rfl

/-- A run is read to its end. -/
theorem digitRun_of_moreDigits {digits rest : List Char} {ds : List Nat}
    (more : MoreDigits digits ds) (ends : EndsRun rest) (value count : Nat) :
    digitRun 10 value count (digits ++ rest) =
      some (ds.foldl appendDigit value, count + ds.length, rest) := by
  induction more generalizing value count with
  | none => exact digitRun_of_endsRun ends value count
  | @digit c cs d ds read more ih =>
    rw [List.cons_append, digitRun.eq_def]
    simp only [digitIn?_ten, read, ih, List.foldl_cons, List.length_cons]
    rw [Nat.add_assoc count, Nat.add_comm 1]
    rfl
  | @underscore c cs d ds read more ih =>
    rw [List.cons_append, List.cons_append, digitRun.eq_def]
    simp only [digitIn?_ten, decimalDigit?_underscore, read, ih, if_true, List.foldl_cons,
      List.length_cons]
    rw [Nat.add_assoc count, Nat.add_comm 1]
    rfl

/-- What a run is read from. -/
theorem moreDigits_of_digitRun {cs rest : List Char} {value count total length : Nat}
    (reads : digitRun 10 value count cs = some (total, length, rest)) :
    ∃ digits ds, cs = digits ++ rest ∧ MoreDigits digits ds ∧
      total = ds.foldl appendDigit value ∧ length = count + ds.length := by
  fun_induction digitRun 10 value count cs with
  | case1 value count =>
    cases reads
    exact ⟨[], [], rfl, .none, rfl, rfl⟩
  | case2 value count c cs d digit ih =>
    obtain ⟨digits, ds, rfl, more, rfl, rfl⟩ := ih reads
    rw [digitIn?_ten] at digit
    exact ⟨c :: digits, d :: ds, rfl, .digit digit more, rfl, by simp; omega⟩
  | case3 => cases reads
  | case4 value count d cs v digit other ih =>
    obtain ⟨digits, ds, rfl, more, rfl, rfl⟩ := ih reads
    rw [digitIn?_ten] at digit
    exact ⟨'_' :: d :: digits, v :: ds, rfl, .underscore digit more, rfl, by simp; omega⟩
  | case5 => cases reads
  | case6 value count c cs other plain =>
    cases reads
    exact ⟨[], [], rfl, .none, rfl, rfl⟩

/-- Blanks and the end of the text end a run. -/
theorem endsRun_of_blank {rest : List Char} (blank : ∀ b ∈ rest, isLiteralBlank b) :
    EndsRun rest := by
  intro c first
  have isBlank : isLiteralBlank c = true := blank c (List.mem_of_head? first)
  refine ⟨?_, ?_⟩
  · rcases read : decimalDigit? c with _ | d
    · rfl
    · rw [isLiteralBlank_of_digit read] at isBlank
      cases isBlank
  · rintro rfl
    cases isBlank

/-- What is left of a text without the blanks before it, and with them. -/
theorem dropWhile_of_blank {front rest : List Char} (blank : ∀ b ∈ front, isLiteralBlank b)
    (shown : ∀ c, rest.head? = some c → isLiteralBlank c = false) :
    (front ++ rest).dropWhile isLiteralBlank = rest := by
  rw [List.dropWhile_append_of_pos blank]
  cases rest with
  | nil => rfl
  | cons c rest => exact List.dropWhile_cons_of_neg (by simp [shown c rfl])

/-- A sign is taken off digits. -/
theorem takeSign_of_isSign {sign digits : List Char} {factor : Int} {c : Char} {d : Nat}
    (signed : IsSign sign factor) (first : decimalDigit? c = some d) :
    takeSign (sign ++ c :: digits) = (decide (factor = -1), c :: digits) := by
  cases signed with
  | none =>
    have minus : c ≠ '-' := by
      rintro rfl
      cases first
    have plus : c ≠ '+' := by
      rintro rfl
      cases first
    simp [takeSign, minus, plus]
  | plus => rfl
  | minus => rfl

theorem exists_isSign {cs digits : List Char} {negative : Bool}
    (taken : takeSign cs = (negative, digits)) :
    ∃ sign, cs = sign ++ digits ∧ IsSign sign (if negative then -1 else 1) := by
  unfold takeSign at taken
  split at taken
  · cases taken
    exact ⟨['-'], rfl, .minus⟩
  · cases taken
    exact ⟨['+'], rfl, .plus⟩
  · cases taken
    exact ⟨[], rfl, .none⟩

theorem digitRun_cons {c : Char} {d : Nat} (digit : decimalDigit? c = some d) (cs : List Char) :
    digitRun 10 0 0 (c :: cs) = digitRun 10 d 1 cs := by
  rw [digitRun.eq_def]
  simp [digitIn?_ten, digit]

theorem isLiteral_of_read {cs : List Char} {n : Int} (reads : read cs = .ok n) :
    IsLiteral cs n := by
  rcases taken : takeSign (cs.dropWhile isLiteralBlank) with ⟨negative, unsigned⟩
  rw [read, readIn, taken] at reads
  cases unsigned with
  | nil => cases reads
  | cons c tail =>
    have unmarked : dropBaseMark 10 (c :: tail) = c :: tail := rfl
    simp only [unmarked, digitIn?_ten] at reads
    rcases digit : decimalDigit? c with _ | d
    · simp [digit] at reads
    rcases run : digitRun 10 d 1 tail with _ | ⟨value, count, back⟩
    · simp [digit, digitRun_cons digit, run] at reads
    simp only [digit, digitRun_cons digit, run, Option.isNone_some, Bool.false_eq_true, if_false,
      decide_true, Bool.true_and, decide_eq_true_eq] at reads
    split at reads
    · cases reads
    next few =>
    split at reads
    · next blankBack =>
      obtain ⟨sign, whole, signed⟩ := exists_isSign taken
      obtain ⟨digits, ds, rfl, more, rfl, rfl⟩ := moreDigits_of_digitRun run
      -- The first digit starts the run, so both its value and its length count it in.
      have short : (d :: ds).length ≤ maxDigits := by
        rw [List.length_cons]
        omega
      have sum : ds.foldl appendDigit d = Nat.ofDigits 10 (d :: ds).reverse := by
        rw [← foldl_appendDigit]
        simp [appendDigit]
      have blankFront : ∀ b ∈ cs.takeWhile isLiteralBlank, isLiteralBlank b :=
        fun b found => List.mem_takeWhile_imp found
      have literal :=
        IsLiteral.intro blankFront signed digit more short (List.all_eq_true.1 blankBack)
      rw [← whole, List.takeWhile_append_dropWhile] at literal
      rw [sum] at reads
      cases reads
      cases negative with
      | true => simpa using literal
      | false => simpa using literal
    · cases reads

theorem read_of_isLiteral {cs : List Char} {n : Int} (literal : IsLiteral cs n) :
    read cs = .ok n := by
  obtain @⟨front, sign, digits, back, factor, c, d, ds, blankFront, signed, first, more, short,
    blankBack⟩ := literal
  have shown : ∀ b, (sign ++ c :: (digits ++ back)).head? = some b →
      isLiteralBlank b = false := by
    intro b starts
    cases signed with
    | none =>
      cases starts
      exact isLiteralBlank_of_digit first
    | plus =>
      cases starts
      rfl
    | minus =>
      cases starts
      rfl
  have run : digitRun 10 d 1 (digits ++ back) =
      some (Nat.ofDigits 10 (d :: ds).reverse, (d :: ds).length, back) := by
    rw [digitRun_of_moreDigits more (endsRun_of_blank blankBack), ← foldl_appendDigit,
      List.length_cons, Nat.add_comm]
    simp [appendDigit]
  have unmarked : dropBaseMark 10 (c :: (digits ++ back)) = c :: (digits ++ back) := rfl
  have few : ¬ maxDigits < (d :: ds).length := Nat.not_lt.2 short
  rw [read, readIn, dropWhile_of_blank blankFront shown, takeSign_of_isSign signed first]
  simp only [unmarked, digitIn?_ten, first, digitRun_cons first, run, Option.isNone_some,
    Bool.false_eq_true, if_false, decide_true, Bool.true_and, decide_eq_true_eq, if_neg few,
    if_pos (List.all_eq_true.2 blankBack)]
  cases signed with
  | none => simp
  | plus => simp
  | minus => simp

/-- A text is read as an integer exactly if it is a literal of that integer. -/
theorem read_eq_ok_iff {cs : List Char} {n : Int} : read cs = .ok n ↔ IsLiteral cs n :=
  ⟨isLiteral_of_read, read_of_isLiteral⟩

/-- A literal denotes one integer. -/
theorem IsLiteral.unique {cs : List Char} {m n : Int} (literal : IsLiteral cs m)
    (other : IsLiteral cs n) : m = n := by
  have first := read_of_isLiteral literal
  rw [read_of_isLiteral other] at first
  exact (Except.ok.inj first).symm

end ClusterTopology.Number
