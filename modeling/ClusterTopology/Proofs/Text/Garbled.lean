import ClusterTopology.Proofs.Text.Utf8
import Mathlib.Data.List.Basic
import Mathlib.Data.List.TakeWhile

/-!
# Bytes that are no text

Which bytes are the encoding of no text. A character has one form, its shortest; so bytes that
are no text go on as a text only up to a fault: a byte that begins no character, a form that is
longer than it need be, one of a surrogate or of a number beyond the last code point, or one that
is cut short. Reading bytes succeeds exactly on the encodings of texts, and gives back the text
that was encoded.
-/

namespace ClusterTopology.Utf8

/-- Bytes that make up a number, whose bits are what the marks of the bytes leave over. The number
need not be a code point, and there may be a shorter form of it. -/
inductive Form : Nat → List UInt8 → Prop where
  | one {a : UInt8} (last : a.toNat < 0x80) : Form a.toNat [a]
  | two {a b : UInt8} (first : 0xc0 ≤ a.toNat) (last : a.toNat < 0xe0) (second : isTail b = true) :
    Form ((a.toNat - 0xc0) * 64 + (b.toNat - 0x80)) [a, b]
  | three {a b c : UInt8} (first : 0xe0 ≤ a.toNat) (last : a.toNat < 0xf0)
    (second : isTail b = true) (third : isTail c = true) :
    Form (((a.toNat - 0xe0) * 64 + (b.toNat - 0x80)) * 64 + (c.toNat - 0x80)) [a, b, c]
  | four {a b c d : UInt8} (first : 0xf0 ≤ a.toNat) (last : a.toNat < 0xf8)
    (second : isTail b = true) (third : isTail c = true) (fourth : isTail d = true) :
    Form ((((a.toNat - 0xf0) * 64 + (b.toNat - 0x80)) * 64 + (c.toNat - 0x80)) * 64 +
      (d.toNat - 0x80)) [a, b, c, d]

/-- The smallest number that takes a form of a given length. -/
def least : Nat → Nat
  | 2 => 0x80
  | 3 => 0x800
  | 4 => 0x10000
  | _ => 0

/-- A byte that begins a form of more than one byte. -/
def IsLead (a : UInt8) : Prop :=
  0xc0 ≤ a.toNat ∧ a.toNat < 0xf8

/-- How many bytes follow such a byte. -/
def tailsAfter (a : UInt8) : Nat :=
  if a.toNat < 0xe0 then 1 else if a.toNat < 0xf0 then 2 else 3

/-- Bytes that do not begin with a character, by what is wrong with them. -/
inductive Fault : List UInt8 → Prop where
  /-- A byte that only continues a form. -/
  | stray {b : UInt8} {rest : List UInt8} (tail : isTail b = true) : Fault (b :: rest)
  /-- A byte that is in no form. -/
  | unused {b : UInt8} {rest : List UInt8} (beyond : 0xf8 ≤ b.toNat) : Fault (b :: rest)
  /-- A form of a number that has a shorter one. -/
  | overlong {n : Nat} {bytes rest : List UInt8} (form : Form n bytes)
    (small : n < least bytes.length) : Fault (bytes ++ rest)
  /-- A form of one half of a surrogate pair. -/
  | surrogate {n : Nat} {bytes rest : List UInt8} (form : Form n bytes) (low : 0xd800 ≤ n)
    (high : n ≤ 0xdfff) : Fault (bytes ++ rest)
  /-- A form of a number beyond all code points. -/
  | tooBig {n : Nat} {bytes rest : List UInt8} (form : Form n bytes) (big : 0x10ffff < n) :
    Fault (bytes ++ rest)
  /-- A form that the end, or a byte that does not continue it, cuts short. -/
  | truncated {a : UInt8} {tails rest : List UInt8} (lead : IsLead a)
    (continues : ∀ b ∈ tails, isTail b = true) (few : tails.length < tailsAfter a)
    (ends : ∀ b ∈ rest.head?, isTail b = false) : Fault (a :: tails ++ rest)

/-- Bytes that go on as a text only up to a fault. -/
def Garbled (data : List UInt8) : Prop :=
  ∃ s rest, data = encode s ++ rest ∧ Fault rest

/-- The form of a character: it is that of its code point, and no shorter one is. -/
structure Form.Is (bytes : List UInt8) (c : Char) : Prop where
  form : Form c.toNat bytes
  shortest : least bytes.length ≤ c.toNat

section Byte

variable {a b : UInt8} {n : Nat}

theorem isTail_iff : isTail b = true ↔ 0x80 ≤ b.toNat ∧ b.toNat < 0xc0 := by
  simp [isTail]

/-- What a second byte rules out: forms that are too long, surrogates, and numbers that are too
big. -/
theorem isSecond_iff : isSecond a b = true ↔
    isTail b = true ∧ (a.toNat = 0xe0 → 0xa0 ≤ b.toNat) ∧ (a.toNat = 0xed → b.toNat < 0xa0) ∧
      (a.toNat = 0xf0 → 0x90 ≤ b.toNat) ∧ (a.toNat = 0xf4 → b.toNat < 0x90) := by
  rw [isSecond, Bool.and_eq_true, and_congr_right_iff]
  intro tail
  simp only [← UInt8.toNat_inj, UInt8.reduceToNat]
  split
  · rw [decide_eq_true_eq]
    omega
  split
  · rw [decide_eq_true_eq]
    omega
  split
  · rw [decide_eq_true_eq]
    omega
  split
  · rw [decide_eq_true_eq]
    omega
  · simp only [true_iff]
    omega

theorem ofNat_eq (same : n = a.toNat) : UInt8.ofNat n = a := by
  rw [same, UInt8.ofNat_toNat]

theorem continuation_eq (tail : isTail b = true) (same : n % 0x40 = b.toNat - 0x80) :
    continuation n = b := by
  have bounds := isTail_iff.1 tail
  exact ofNat_eq (by omega)

end Byte

namespace Form

variable {n : Nat} {bytes : List UInt8}

/-- A form is one byte, or a byte that begins a long form with as many more as it tells. -/
theorem shape (form : Form n bytes) : (∃ a, bytes = [a] ∧ a.toNat < 0x80) ∨
    ∃ a tails, bytes = a :: tails ∧ IsLead a ∧ tails.length = tailsAfter a ∧
      ∀ b ∈ tails, isTail b = true := by
  cases form with
  | @one a last => exact .inl ⟨a, rfl, last⟩
  | @two a b first last second =>
    refine .inr ⟨a, [b], rfl, ⟨first, by omega⟩, ?_, by simpa using second⟩
    rw [tailsAfter, if_pos last]
    rfl
  | @three a b c first last second third =>
    refine .inr ⟨a, [b, c], rfl, ⟨by omega, by omega⟩, ?_, by simpa using ⟨second, third⟩⟩
    rw [tailsAfter, if_neg (by omega), if_pos last]
    rfl
  | @four a b c d first last second third fourth =>
    refine .inr ⟨a, [b, c, d], rfl, ⟨by omega, last⟩, ?_, by simpa using ⟨second, third, fourth⟩⟩
    rw [tailsAfter, if_neg (by omega), if_neg (by omega)]
    rfl

/-- Every byte that begins a long form has one with any bytes that continue it. -/
theorem exists_of_lead {a : UInt8} {tails : List UInt8} (lead : IsLead a)
    (count : tails.length = tailsAfter a) (continues : ∀ b ∈ tails, isTail b = true) :
    ∃ n, Form n (a :: tails) := by
  obtain ⟨first, last⟩ := lead
  rw [tailsAfter] at count
  split at count
  · next two =>
    obtain ⟨b, rfl⟩ := List.length_eq_one_iff.1 count
    exact ⟨_, .two first two (continues b (by simp))⟩
  split at count
  · next two three =>
    obtain ⟨b, c, rfl⟩ := List.length_eq_two.1 count
    exact ⟨_, .three (by omega) three (continues b (by simp)) (continues c (by simp))⟩
  · next two three =>
    obtain ⟨b, c, d, rfl⟩ := List.length_eq_three.1 count
    exact ⟨_, .four (by omega) last (continues b (by simp)) (continues c (by simp))
      (continues d (by simp))⟩

theorem number_unique {m : Nat} (form : Form n bytes) (other : Form m bytes) : n = m := by
  cases form with
  | one => cases other; rfl
  | two => cases other; rfl
  | three => cases other; rfl
  | four => cases other; rfl

/-- Bytes begin with one form at most. -/
theorem unique {m : Nat} {others rest tail : List UInt8} (form : Form n bytes)
    (other : Form m others) (same : bytes ++ rest = others ++ tail) :
    n = m ∧ bytes = others ∧ rest = tail := by
  have equal : bytes = others ∧ rest = tail := by
    rcases form.shape with ⟨a, rfl, low⟩ | ⟨a, tails, rfl, lead, count, -⟩
    · rcases other.shape with ⟨b, rfl, -⟩ | ⟨b, more, rfl, lead, -⟩
      · exact List.append_inj same rfl
      · have first : a = b := List.head_eq_of_cons_eq same
        rw [← first] at lead
        exact absurd lead.1 (by omega)
    · rcases other.shape with ⟨b, rfl, low⟩ | ⟨b, more, rfl, -, known, -⟩
      · have first : a = b := List.head_eq_of_cons_eq same
        rw [← first] at low
        exact absurd lead.1 (by omega)
      · have first : a = b := List.head_eq_of_cons_eq same
        subst first
        exact List.append_inj same (by simp [count, known])
  obtain ⟨rfl, rest⟩ := equal
  exact ⟨form.number_unique other, rfl, rest⟩

theorem is_ofNat (form : Form n bytes) (shortest : least bytes.length ≤ n)
    (point : n < 0xd800 ∨ 0xdfff < n ∧ n ≤ 0x10ffff) : Form.Is bytes (Char.ofNat n) := by
  have valid : n.isValidChar := by
    show n < 0xd800 ∨ 0xdfff < n ∧ n < 0x110000
    omega
  have number : (Char.ofNat n).toNat = n := by
    rw [Char.ofNat, dif_pos valid]
    rfl
  exact ⟨by rwa [number], by rwa [number]⟩

/-- A character is encoded in its form. -/
theorem Is.eq_encodeChar {c : Char} (is : Form.Is bytes c) : bytes = encodeChar c := by
  obtain ⟨form, shortest⟩ := is
  have point : c.toNat < 0xd800 ∨ 0xdfff < c.toNat ∧ c.toNat < 0x110000 := c.valid
  rw [encodeChar]
  generalize same : c.toNat = n at *
  -- In each length the bits of the number are those of the bytes.
  cases form with
  | one last => rw [if_pos last, UInt8.ofNat_toNat]
  | @two a b first last second =>
    have tail := isTail_iff.1 second
    have enough : 0x80 ≤ (a.toNat - 0xc0) * 64 + (b.toNat - 0x80) := shortest
    rw [if_neg (by omega), if_pos (by omega), ofNat_eq (a := a) (by omega),
      continuation_eq (b := b) second (by omega)]
  | @three a b c first last second third =>
    have tails := And.intro (isTail_iff.1 second) (isTail_iff.1 third)
    have enough : 0x800 ≤ ((a.toNat - 0xe0) * 64 + (b.toNat - 0x80)) * 64 + (c.toNat - 0x80) :=
      shortest
    rw [if_neg (by omega), if_neg (by omega), if_pos (by omega), ofNat_eq (a := a) (by omega),
      continuation_eq (b := b) second (by omega), continuation_eq (b := c) third (by omega)]
  | @four a b c d first last second third fourth =>
    have tails := And.intro (isTail_iff.1 second) (And.intro (isTail_iff.1 third)
      (isTail_iff.1 fourth))
    have enough : 0x10000 ≤ (((a.toNat - 0xf0) * 64 + (b.toNat - 0x80)) * 64 +
      (c.toNat - 0x80)) * 64 + (d.toNat - 0x80) := shortest
    rw [if_neg (by omega), if_neg (by omega), if_neg (by omega), ofNat_eq (a := a) (by omega),
      continuation_eq (b := b) second (by omega), continuation_eq (b := c) third (by omega),
      continuation_eq (b := d) fourth (by omega)]

end Form

section Accepted

variable {a b c d : UInt8}

theorem is_one (last : a.toNat < 0x80) : Form.Is [a] (Char.ofNat a.toNat) :=
  (Form.one last).is_ofNat (Nat.zero_le _) (by omega)

theorem is_two (first : 0xc2 ≤ a.toNat) (last : a.toNat < 0xe0) (second : isTail b = true) :
    Form.Is [a, b] (Char.ofNat (extend (a.toNat - 0xc0) b)) := by
  have tail := isTail_iff.1 second
  refine (Form.two (by omega) last second).is_ofNat ?_ (by omega)
  show 0x80 ≤ _
  omega

theorem is_three (first : 0xe0 ≤ a.toNat) (last : a.toNat < 0xf0) (second : isSecond a b = true)
    (third : isTail c = true) :
    Form.Is [a, b, c] (Char.ofNat (extend (extend (a.toNat - 0xe0) b) c)) := by
  obtain ⟨continues, e0, ed, -, -⟩ := isSecond_iff.1 second
  have tails := And.intro (isTail_iff.1 continues) (isTail_iff.1 third)
  refine (Form.three first last continues third).is_ofNat ?_ (by omega)
  show 0x800 ≤ _
  omega

theorem is_four (first : 0xf0 ≤ a.toNat) (last : a.toNat < 0xf5) (second : isSecond a b = true)
    (third : isTail c = true) (fourth : isTail d = true) :
    Form.Is [a, b, c, d] (Char.ofNat (extend (extend (extend (a.toNat - 0xf0) b) c) d)) := by
  obtain ⟨continues, -, -, f0, f4⟩ := isSecond_iff.1 second
  have tails := And.intro (isTail_iff.1 continues)
    (And.intro (isTail_iff.1 third) (isTail_iff.1 fourth))
  refine (Form.four first (by omega) continues third fourth).is_ofNat ?_ (by omega)
  show 0x10000 ≤ _
  omega

end Accepted

section Read

variable {position : Nat} {a : UInt8} {rest : List UInt8} {cs : List Char}

theorem exists_of_map {data bytes tail : List UInt8} {c : Char} {next : Nat}
    (is : Form.Is bytes c) (begins : data = bytes ++ tail)
    (reads : (decodeFrom next tail).map (c :: ·) = .ok cs) :
    ∃ c bytes tail next others, Form.Is bytes c ∧ data = bytes ++ tail ∧
      decodeFrom next tail = .ok others ∧ cs = c :: others := by
  rcases read : decodeFrom next tail with error | others
  · rw [read] at reads
    cases reads
  · rw [read] at reads
    cases reads
    exact ⟨c, bytes, tail, next, others, is, begins, read, rfl⟩

/-- What is read begins with the form of its first character. -/
theorem exists_of_decodeFrom (reads : decodeFrom position (a :: rest) = .ok cs) :
    ∃ c bytes tail next others, Form.Is bytes c ∧ a :: rest = bytes ++ tail ∧
      decodeFrom next tail = .ok others ∧ cs = c :: others := by
  rw [decodeFrom.eq_def] at reads
  dsimp only at reads
  split at reads
  · next last => exact exists_of_map (is_one last) rfl reads
  split at reads
  · cases reads
  split at reads
  · next low last =>
    split at reads
    · cases reads
    · next b rest =>
      split at reads
      · next second => exact exists_of_map (is_two (by omega) last second) rfl reads
      · cases reads
  split at reads
  · next low last =>
    split at reads
    · cases reads
    · next b rest =>
      split at reads
      · next second =>
        split at reads
        · cases reads
        · next c rest =>
          split at reads
          · next third => exact exists_of_map (is_three (by omega) last second third) rfl reads
          · cases reads
      · cases reads
  split at reads
  · next low last =>
    split at reads
    · cases reads
    · next b rest =>
      split at reads
      · next second =>
        split at reads
        · cases reads
        · next c rest =>
          split at reads
          · next third =>
            split at reads
            · cases reads
            · next d rest =>
              split at reads
              · next fourth =>
                exact exists_of_map (is_four (by omega) last second third fourth) rfl reads
              · cases reads
          · cases reads
      · cases reads
  · cases reads

theorem eq_of_decodeFrom {data : List UInt8} (reads : decodeFrom position data = .ok cs) :
    data = cs.flatMap encodeChar := by
  -- Each character that is read has taken its form off the bytes.
  induction cs generalizing data position with
  | nil =>
    rcases data with _ | ⟨a, rest⟩
    · rfl
    · obtain ⟨c, bytes, tail, next, others, -, -, -, none⟩ := exists_of_decodeFrom reads
      cases none
  | cons c cs ih =>
    rcases data with _ | ⟨a, rest⟩
    · rw [decodeFrom] at reads
      cases reads
    · obtain ⟨first, bytes, tail, next, others, is, begins, read, same⟩ :=
        exists_of_decodeFrom reads
      cases same
      rw [begins, is.eq_encodeChar, ih read, List.flatMap_cons]

/-- Reading succeeds exactly on the encoding of the text that is read. -/
theorem decode_eq_ok_iff {data : List UInt8} {s : String} :
    decode data = .ok s ↔ data = encode s := by
  constructor
  · intro reads
    rw [decode] at reads
    rcases read : decodeFrom 0 data with error | cs
    · rw [read] at reads
      cases reads
    · rw [read] at reads
      cases reads
      rw [encode, String.toList_ofList]
      exact eq_of_decodeFrom read
  · rintro rfl
    exact decode_encode s

/-- A character is encoded in its form, since that is what is read as the character. -/
theorem is_encodeChar (c : Char) : Form.Is (encodeChar c) c := by
  obtain ⟨next, reads⟩ := decodeFrom_encodeChar 0 c []
  rw [List.append_nil, decodeFrom] at reads
  rcases bytes : encodeChar c with _ | ⟨a, rest⟩
  · rw [bytes, decodeFrom] at reads
    cases reads
  · rw [bytes] at reads
    obtain ⟨first, form, tail, next, others, is, begins, read, same⟩ := exists_of_decodeFrom reads
    cases same
    have none : tail = [] := eq_of_decodeFrom read
    rwa [begins, none, List.append_nil]

end Read

section Fault

/-- Bytes begin with a form, unless their first byte is in none or its form is cut short. -/
theorem form_or_fault (a : UInt8) (rest : List UInt8) :
    (∃ n bytes tail, Form n bytes ∧ a :: rest = bytes ++ tail) ∨ Fault (a :: rest) := by
  by_cases low : a.toNat < 0x80
  · exact .inl ⟨_, [a], rest, .one low, rfl⟩
  by_cases tail : isTail a = true
  · exact .inr (.stray tail)
  by_cases beyond : 0xf8 ≤ a.toNat
  · exact .inr (.unused beyond)
  have lead : IsLead a := by
    rw [isTail_iff] at tail
    exact ⟨by omega, by omega⟩
  have parts := List.takeWhile_append_dropWhile (p := isTail) (l := rest)
  have continues : ∀ b ∈ rest.takeWhile isTail, isTail b = true := fun b found =>
    List.mem_takeWhile_imp found
  by_cases few : (rest.takeWhile isTail).length < tailsAfter a
  · right
    rw [← parts]
    refine .truncated lead continues few fun b found => ?_
    have stops := List.head?_dropWhile_not isTail rest
    rw [Option.mem_def.1 found] at stops
    simpa using stops
  · left
    have count : ((rest.takeWhile isTail).take (tailsAfter a)).length = tailsAfter a :=
      List.length_take_of_le (by omega)
    obtain ⟨n, form⟩ := Form.exists_of_lead lead count fun b found =>
      continues b (List.mem_of_mem_take found)
    refine ⟨n, _, (rest.takeWhile isTail).drop (tailsAfter a) ++ rest.dropWhile isTail, form, ?_⟩
    rw [List.cons_append, ← List.append_assoc, List.take_append_drop, parts]

/-- Bytes begin with a character or with a fault. -/
theorem is_or_fault (a : UInt8) (rest : List UInt8) :
    (∃ c bytes tail, Form.Is bytes c ∧ a :: rest = bytes ++ tail) ∨ Fault (a :: rest) := by
  rcases form_or_fault a rest with ⟨n, bytes, tail, form, same⟩ | fault
  · rw [same]
    by_cases small : n < least bytes.length
    · exact .inr (.overlong form small)
    by_cases big : 0x10ffff < n
    · exact .inr (.tooBig form big)
    by_cases half : 0xd800 ≤ n ∧ n ≤ 0xdfff
    · exact .inr (.surrogate form half.1 half.2)
    · exact .inl ⟨_, bytes, tail, form.is_ofNat (by omega) (by omega), rfl⟩
  · exact .inr fault

theorem Form.first_of_eq {n : Nat} {b : UInt8} {bytes rest tail : List UInt8}
    (form : Form n bytes) (same : b :: rest = bytes ++ tail) : b.toNat < 0x80 ∨ IsLead b := by
  rcases form.shape with ⟨a, rfl, low⟩ | ⟨a, tails, rfl, lead, -⟩
  · have first : b = a := List.head_eq_of_cons_eq same
    exact .inl (first ▸ low)
  · have first : b = a := List.head_eq_of_cons_eq same
    exact .inr (first ▸ lead)

/-- A form that is cut short is not the beginning of any form. -/
theorem Form.ne_of_truncated {n : Nat} {a : UInt8} {bytes tails others rest : List UInt8}
    (form : Form n bytes) (lead : IsLead a) (few : tails.length < tailsAfter a)
    (ends : ∀ b ∈ others.head?, isTail b = false) : a :: tails ++ others ≠ bytes ++ rest := by
  intro same
  rcases form.shape with ⟨b, rfl, low⟩ | ⟨b, more, rfl, -, count, continues⟩
  · have first : a = b := List.head_eq_of_cons_eq same
    exact absurd lead.1 (by rw [first]; omega)
  · have first : a = b := List.head_eq_of_cons_eq same
    subst first
    have rests : tails ++ others = more ++ rest := List.tail_eq_of_cons_eq same
    rcases List.append_eq_append_iff.1 rests with ⟨extra, rfl, rfl⟩ | ⟨extra, rfl, -⟩
    · -- The byte after the cut would have to continue the form.
      rcases extra with _ | ⟨b, extra⟩
      · simp only [List.append_nil] at count
        omega
      · have stops := ends b rfl
        rw [continues b (by simp)] at stops
        cases stops
    · simp only [List.length_append] at few
      omega

/-- With a fault no character begins. -/
theorem Fault.not_is {data bytes rest : List UInt8} {c : Char} (fault : Fault data)
    (is : Form.Is bytes c) : data ≠ bytes ++ rest := by
  intro same
  have point : c.toNat < 0xd800 ∨ 0xdfff < c.toNat ∧ c.toNat < 0x110000 := c.valid
  cases fault with
  | stray tail =>
    have bounds := isTail_iff.1 tail
    rcases is.form.first_of_eq same with low | ⟨first, -⟩
    · omega
    · omega
  | unused beyond =>
    rcases is.form.first_of_eq same with low | ⟨-, last⟩
    · omega
    · omega
  | overlong form small =>
    obtain ⟨rfl, rfl, -⟩ := form.unique is.form same
    exact absurd is.shortest (by omega)
  | surrogate form low high =>
    obtain ⟨rfl, -⟩ := form.unique is.form same
    omega
  | tooBig form big =>
    obtain ⟨rfl, -⟩ := form.unique is.form same
    omega
  | truncated lead continues few ends => exact is.form.ne_of_truncated lead few ends same

theorem Form.ne_nil {n : Nat} {bytes : List UInt8} (form : Form n bytes) : bytes ≠ [] := by
  rcases form.shape with ⟨a, rfl, -⟩ | ⟨a, tails, rfl, -⟩
  · simp
  · simp

theorem Fault.ne_nil {data : List UInt8} (fault : Fault data) : data ≠ [] := by
  cases fault with
  | stray tail => simp
  | unused beyond => simp
  | overlong form small => simp [form.ne_nil]
  | surrogate form low high => simp [form.ne_nil]
  | tooBig form big => simp [form.ne_nil]
  | truncated lead continues few ends => simp

/-- Bytes go on as characters to their end, or up to a fault. -/
theorem exists_flatMap_append (data : List UInt8) :
    ∃ (cs : List Char) (rest : List UInt8), data = cs.flatMap encodeChar ++ rest ∧
      (rest = [] ∨ Fault rest) := by
  -- What is left after a character is shorter.
  induction size : data.length using Nat.strongRecOn generalizing data with
  | ind size ih =>
    rcases data with _ | ⟨a, rest⟩
    · exact ⟨[], [], rfl, .inl rfl⟩
    rcases is_or_fault a rest with ⟨c, bytes, tail, is, begins⟩ | fault
    · have some := List.length_pos_iff.2 is.form.ne_nil
      have length := congrArg List.length begins
      rw [List.length_append] at length
      obtain ⟨cs, last, same, stops⟩ := ih tail.length (by omega) tail rfl
      refine ⟨c :: cs, last, ?_, stops⟩
      rw [begins, is.eq_encodeChar, same, List.flatMap_cons, List.append_assoc]
    · exact ⟨[], a :: rest, rfl, .inr fault⟩

/-- Nothing that goes on as characters up to a fault goes on so to its end. -/
theorem flatMap_append_ne {rest : List UInt8} (fault : Fault rest) (cs others : List Char) :
    cs.flatMap encodeChar ++ rest ≠ others.flatMap encodeChar := by
  induction cs generalizing others with
  | nil =>
    rcases others with _ | ⟨c, others⟩
    · exact fault.ne_nil
    · exact fault.not_is (is_encodeChar c)
  | cons c cs ih =>
    intro same
    rw [List.flatMap_cons, List.append_assoc] at same
    rcases others with _ | ⟨d, others⟩
    · exact (is_encodeChar c).form.ne_nil (List.append_eq_nil_iff.1 same).1
    · rw [List.flatMap_cons] at same
      exact ih others ((is_encodeChar c).form.unique (is_encodeChar d).form same).2.2

/-- Bytes are garbled exactly if they are the encoding of no text. -/
theorem garbled_iff {data : List UInt8} : Garbled data ↔ ∀ s, data ≠ encode s := by
  constructor
  · rintro ⟨s, rest, rfl, fault⟩ other
    exact flatMap_append_ne fault s.toList other.toList
  · intro none
    obtain ⟨cs, rest, same, empty | fault⟩ := exists_flatMap_append data
    · refine absurd ?_ (none (String.ofList cs))
      rw [same, empty, List.append_nil, encode, String.toList_ofList]
    · exact ⟨String.ofList cs, rest, by rw [same, encode, String.toList_ofList], fault⟩

/-- Reading fails exactly on garbled bytes. -/
theorem decode_eq_error_iff {data : List UInt8} :
    (∃ error, decode data = .error error) ↔ Garbled data := by
  rw [garbled_iff]
  simp only [ne_eq, ← decode_eq_ok_iff]
  rcases decode data with error | s
  · simp
  · simp

end Fault

end ClusterTopology.Utf8
