import ClusterTopology.Proofs.Address.Spelling

/-!
# Groups of version six

Eight groups are read back from the spelling that they print. Printing leaves
out a run of zeros and puts a double colon there: it is the only place of the
text with two colons in a row, and it stands for exactly the zeros that are
missing, so reading finds the same groups on both sides of it.
-/

namespace ClusterTopology

namespace Text

variable {separator : Char}

theorem splitAt_of_notMem {cs : List Char} (clean : separator ∉ cs) :
    splitAt separator cs = [cs] := by
  induction cs with
  | nil => rfl
  | cons c cs ih =>
    rw [List.mem_cons, not_or] at clean
    rw [splitAt, if_neg (Ne.symm clean.1), ih clean.2]

/-- The first piece ends at the first separator. -/
theorem splitAt_append {front rest : List Char} (clean : separator ∉ front) :
    splitAt separator (front ++ separator :: rest) = front :: splitAt separator rest := by
  induction front with
  | nil => rw [List.nil_append, splitAt, if_pos rfl]
  | cons c front ih =>
    rw [List.mem_cons, not_or] at clean
    rw [List.cons_append, splitAt, if_neg (Ne.symm clean.1), ih clean.2]

theorem length_splitAt (cs : List Char) :
    (splitAt separator cs).length = cs.count separator + 1 := by
  induction cs with
  | nil => rfl
  | cons c cs ih =>
    rw [splitAt]
    split
    · next same => rw [same, List.count_cons_self, List.length_cons, ih]
    · next other =>
      rw [List.count_cons_of_ne other, ← ih]
      split
      · next none => exact absurd none (splitAt_ne_nil _ _)
      · next first rest pieces => rw [pieces]; rfl

/-- Every other character is in one of the pieces. -/
theorem exists_mem_splitAt {cs : List Char} {c : Char} (found : c ∈ cs) (other : c ≠ separator) :
    ∃ piece ∈ splitAt separator cs, c ∈ piece := by
  induction cs with
  | nil => cases found
  | cons d cs ih =>
    rw [splitAt]
    split
    · next same =>
      have later : c ∈ cs := by
        rcases List.mem_cons.1 found with rfl | later
        · exact absurd same other
        · exact later
      obtain ⟨piece, among, there⟩ := ih later
      exact ⟨piece, .tail _ among, there⟩
    · rcases pieces : splitAt separator cs with _ | ⟨first, rest⟩
      · exact absurd pieces (splitAt_ne_nil _ _)
      · rcases List.mem_cons.1 found with rfl | later
        · exact ⟨_, .head _, .head _⟩
        · obtain ⟨piece, among, there⟩ := ih later
          rw [pieces] at among
          rcases List.mem_cons.1 among with rfl | further
          · exact ⟨_, .head _, .tail _ there⟩
          · exact ⟨piece, .tail _ further, there⟩

end Text

namespace IpAddress

open Number

/-- Parts with separators between them are split into the same parts. -/
theorem splitAt_joinWith {separator : Char} {parts : List (List Char)} (nonempty : parts ≠ [])
    (clean : ∀ part ∈ parts, separator ∉ part) :
    Text.splitAt separator (joinWith [separator] parts) = parts := by
  fun_induction joinWith [separator] parts with
  | case1 => exact absurd rfl nonempty
  | case2 part => exact Text.splitAt_of_notMem (clean part (.head _))
  | case3 part parts several ih =>
    have others : parts ≠ [] := fun none => several none
    rw [List.append_assoc, List.singleton_append, Text.splitAt_append (clean part (.head _)),
      ih others fun other among => clean other (.tail _ among)]

/-- Joined parts that are not empty are empty only if there are none. -/
theorem joinWith_eq_nil {separator : List Char} {parts : List (List Char)}
    (filled : ∀ part ∈ parts, part ≠ []) : joinWith separator parts = [] ↔ parts = [] := by
  fun_cases joinWith separator parts with
  | case1 => simp
  | case2 part => simpa using filled part (.head _)
  | case3 part parts several => simpa using fun none => absurd none (filled part (.head _))

section Reading

theorem hexValue?_digitChar {digit : Nat} (small : digit < 16) :
    hexValue? (Nat.digitChar digit) = some digit := by
  have all : ∀ digit < 16, hexValue? (Nat.digitChar digit) = some digit := by decide
  exact all digit small

/-- A digit of base sixteen is one of three runs of characters. -/
theorem hexValue?_eq_some {c : Char} {digit : Nat} (read : hexValue? c = some digit) :
    (48 ≤ c.toNat ∧ c.toNat ≤ 57 ∧ digit = c.toNat - 48) ∨
      (97 ≤ c.toNat ∧ c.toNat ≤ 102 ∧ digit = c.toNat - 87) ∨
        (65 ≤ c.toNat ∧ c.toNat ≤ 70 ∧ digit = c.toNat - 55) := by
  have codes (a b : Char) (between : (decide (a ≤ c) && decide (c ≤ b)) = true) :
      a.toNat ≤ c.toNat ∧ c.toNat ≤ b.toNat := by
    simpa [Char.le_def, UInt32.le_iff_toNat_le] using between
  rw [hexValue?] at read
  split at read
  · next decimal =>
    obtain ⟨low, high⟩ := codes '0' '9' decimal
    exact .inl ⟨low, high, (Option.some.inj read).symm⟩
  split at read
  · next lower =>
    obtain ⟨low, high⟩ := codes 'a' 'f' lower
    exact .inr (.inl ⟨low, high, (Option.some.inj read).symm⟩)
  split at read
  · next upper =>
    obtain ⟨low, high⟩ := codes 'A' 'F' upper
    exact .inr (.inr ⟨low, high, (Option.some.inj read).symm⟩)
  · cases read

/-- A number after one more digit of base sixteen. -/
def appendHex (value : Option Nat) (c : Char) : Option Nat := do
  return (← value) * 16 + (← hexValue? c)

theorem appendHex_eq_some {value : Option Nat} {c : Char} {n : Nat}
    (read : appendHex value c = some n) :
    ∃ high digit, value = some high ∧ hexValue? c = some digit ∧ n = high * 16 + digit := by
  simp only [appendHex, bind, pure, Option.bind_eq_some_iff, Option.some.injEq] at read
  obtain ⟨high, same, digit, isDigit, rfl⟩ := read
  exact ⟨high, digit, same, isDigit, rfl⟩

/-- What digits are appended to was a number, and each of them makes the bound of the number
sixteen times as great. -/
theorem foldl_appendHex_eq_some {cs : List Char} {value : Option Nat} {n : Nat}
    (read : cs.foldl appendHex value = some n) :
    (∃ high, value = some high ∧ n < (high + 1) * Nat.pow 16 cs.length) ∧
      ∀ c ∈ cs, ∃ digit, hexValue? c = some digit := by
  induction cs generalizing value with
  | nil => exact ⟨⟨n, read, by simp⟩, by simp⟩
  | cons c cs ih =>
    obtain ⟨⟨next, step, below⟩, rest⟩ := ih read
    obtain ⟨high, digit, start, isDigit, sum⟩ := appendHex_eq_some step
    have small : next + 1 ≤ (high + 1) * 16 := by
      rcases hexValue?_eq_some isDigit with range | range | range <;> omega
    refine ⟨⟨high, start, Nat.lt_of_lt_of_le below ?_⟩, List.forall_mem_cons.2 ⟨⟨_, isDigit⟩, rest⟩⟩
    calc (next + 1) * Nat.pow 16 cs.length ≤ (high + 1) * 16 * Nat.pow 16 cs.length :=
          Nat.mul_le_mul_right _ small
      _ = (high + 1) * Nat.pow 16 (c :: cs).length := by
          rw [Nat.mul_assoc, Nat.mul_comm 16]
          rfl

/-- A group is one to four digits with their value. -/
theorem group?_eq_some {cs : List Char} {n : Nat} :
    group? cs = some n ↔ cs ≠ [] ∧ cs.length ≤ 4 ∧ cs.foldl appendHex (some 0) = some n := by
  rw [group?]
  split
  · next refused =>
    have bad : cs = [] ∨ 4 < cs.length := by simpa using refused
    simp only [reduceCtorEq, false_iff]
    rintro ⟨filled, short, -⟩
    rcases bad with empty | long
    · exact filled empty
    · omega
  · next shown =>
    have proper : cs ≠ [] ∧ cs.length ≤ 4 := by simpa using shown
    simp only [proper, ne_eq, not_false_eq_true, true_and]
    rfl

theorem foldl_appendHex_toDigits (n : Nat) :
    (Nat.toDigits 16 n).foldl appendHex (some 0) = some n := by
  induction n using Nat.strongRecOn with
  | ind n ih =>
    rw [Nat.toDigits_eq_if (by decide)]
    split
    · next small => simp [appendHex, hexValue?_digitChar small]
    · next large =>
      have last : n % 16 < 16 := Nat.mod_lt _ (by decide)
      have whole : n / 16 * 16 + n % 16 = n := by omega
      rw [List.foldl_append, ih _ (by omega)]
      simp [appendHex, hexValue?_digitChar last, whole]

theorem group?_groupChars {n : Nat} (small : n < 65536) : group? (groupChars n) = some n := by
  have short : (groupChars n).length ≤ 4 :=
    (Nat.length_toDigits_le_iff (by decide) (by decide)).2 small
  exact group?_eq_some.2 ⟨Nat.toDigits_ne_nil, short, foldl_appendHex_toDigits n⟩

theorem mem_groupChars {n : Nat} {c : Char} (found : c ∈ groupChars n) : c ≠ ':' ∧ c ≠ '.' := by
  obtain ⟨digit, small, rfl⟩ := mem_toDigits (by decide) found
  have all : ∀ digit < 16, Nat.digitChar digit ≠ ':' ∧ Nat.digitChar digit ≠ '.' := by decide
  exact all digit small

/-- Printed groups are read back part by part; the last one has no points. -/
theorem groupsOfParts?_map_groupChars {groups : List Nat}
    (small : ∀ group ∈ groups, group < 65536) :
    groupsOfParts? (groups.map groupChars) = some groups := by
  induction groups with
  | nil => rfl
  | cons group groups ih =>
    have first : group? (groupChars group) = some group := group?_groupChars (small group (.head _))
    have rest := ih fun other among => small other (.tail _ among)
    rcases groups with _ | ⟨next, others⟩
    · have noPoint : '.' ∉ groupChars group := fun found => (mem_groupChars found).2 rfl
      simp [groupsOfParts?, lastGroups?, first, noPoint]
    · rw [List.map_cons] at rest
      simp [groupsOfParts?, first, rest]

theorem mapM_group?_map_groupChars {groups : List Nat}
    (small : ∀ group ∈ groups, group < 65536) :
    (groups.map groupChars).mapM group? = some groups := by
  induction groups with
  | nil => rfl
  | cons group groups ih =>
    rw [List.map_cons, List.mapM_cons, group?_groupChars (small group (.head _)),
      ih fun other among => small other (.tail _ among)]
    rfl

/-- Groups that are read one by one come from the parts, and each part is a group. -/
theorem mapM_group?_eq_some {parts : List (List Char)} {groups : List Nat}
    (read : parts.mapM group? = some groups) :
    (∀ group ∈ groups, ∃ part ∈ parts, group? part = some group) ∧
      ∀ part ∈ parts, ∃ group, group? part = some group := by
  induction parts generalizing groups with
  | nil =>
    cases read
    simp
  | cons part parts ih =>
    simp only [List.mapM_cons, bind, pure, Option.bind_eq_some_iff, Option.some.injEq] at read
    obtain ⟨group, first, others, rest, rfl⟩ := read
    obtain ⟨fromParts, each⟩ := ih rest
    refine ⟨List.forall_mem_cons.2 ⟨⟨part, .head _, first⟩, ?_⟩,
      List.forall_mem_cons.2 ⟨⟨group, first⟩, each⟩⟩
    intro other found
    obtain ⟨source, among, same⟩ := fromParts other found
    exact ⟨source, .tail _ among, same⟩

/-- Groups as they are printed without a double colon. -/
def printed (groups : List Nat) : List Char :=
  joinWith [':'] (groups.map groupChars)

theorem filled_groupChars (groups : List Nat) : ∀ part ∈ groups.map groupChars, part ≠ [] := by
  intro part found
  obtain ⟨group, -, rfl⟩ := List.mem_map.1 found
  exact Nat.toDigits_ne_nil

theorem noColon_groupChars (groups : List Nat) : ∀ part ∈ groups.map groupChars, ':' ∉ part := by
  intro part found colon
  obtain ⟨group, -, rfl⟩ := List.mem_map.1 found
  exact (mem_groupChars colon).1 rfl

theorem printed_eq_nil {groups : List Nat} : printed groups = [] ↔ groups = [] := by
  rw [printed, joinWith_eq_nil (filled_groupChars groups), List.map_eq_nil_iff]

theorem splitAt_printed {groups : List Nat} (some : groups ≠ []) :
    Text.splitAt ':' (printed groups) = groups.map groupChars :=
  splitAt_joinWith (by simpa using some) (noColon_groupChars groups)

theorem groups?_printed {groups : List Nat} (small : ∀ group ∈ groups, group < 65536) :
    groups? (printed groups) = some groups := by
  rw [groups?]
  by_cases none : groups = []
  · subst none
    rfl
  · have shown : printed groups ≠ [] := fun empty => none (printed_eq_nil.1 empty)
    rw [if_neg (by simpa using shown), splitAt_printed none, groupsOfParts?_map_groupChars small]

theorem plainGroups?_printed {groups : List Nat} (small : ∀ group ∈ groups, group < 65536) :
    plainGroups? (printed groups) = some groups := by
  rw [plainGroups?]
  by_cases none : groups = []
  · subst none
    rfl
  · have shown : printed groups ≠ [] := fun empty => none (printed_eq_nil.1 empty)
    rw [if_neg (by simpa using shown), splitAt_printed none, mapM_group?_map_groupChars small]

end Reading

section DoubleColon

/-- A character that does not begin a double colon is passed over. -/
theorem splitDoubleColon?_cons {c : Char} {rest : List Char}
    (single : c = ':' → rest.head? ≠ some ':') :
    splitDoubleColon? (c :: rest) =
      (splitDoubleColon? rest).map fun (before, after) => (c :: before, after) := by
  rw [splitDoubleColon?.eq_def]
  split
  · next same =>
    cases same
    exact absurd rfl (single rfl)
  · next d others _ same =>
    cases same
    rfl
  · next none => cases none

theorem splitDoubleColon?_append {front rest : List Char} (clean : ':' ∉ front) :
    splitDoubleColon? (front ++ rest) =
      (splitDoubleColon? rest).map fun (before, after) => (front ++ before, after) := by
  induction front with
  | nil => simp
  | cons c front ih =>
    rw [List.mem_cons, not_or] at clean
    rw [List.cons_append, splitDoubleColon?_cons fun colon => absurd colon.symm clean.1,
      ih clean.2, Option.map_map]
    rfl

variable {parts : List (List Char)} (filled : ∀ part ∈ parts, part ≠ [])
  (clean : ∀ part ∈ parts, ':' ∉ part)

include filled clean

/-- Joined parts begin with the first of them. -/
theorem head?_joinWith_append (some : parts ≠ []) (rest : List Char) :
    (joinWith [':'] parts ++ rest).head? ≠ .some ':' := by
  obtain ⟨part, others, rfl⟩ := List.exists_cons_of_ne_nil some
  obtain ⟨c, cs, rfl⟩ := List.exists_cons_of_ne_nil (filled part (.head _))
  have other : c ≠ ':' := fun colon => clean _ (.head _) (by simp [colon])
  cases others with
  | nil => simpa [joinWith] using other
  | cons next later => simpa [joinWith] using other

/-- The first double colon comes after the parts that are joined by single ones. -/
theorem splitDoubleColon?_joinWith (rest : List Char) :
    splitDoubleColon? (joinWith [':'] parts ++ rest) =
      (splitDoubleColon? rest).map fun (before, after) =>
        (joinWith [':'] parts ++ before, after) := by
  fun_induction joinWith [':'] parts with
  | case1 => simp
  | case2 part => exact splitDoubleColon?_append (clean part (.head _))
  | case3 part parts several ih =>
    have laterFilled : ∀ other ∈ parts, other ≠ [] :=
      fun other among => filled other (.tail _ among)
    have laterClean : ∀ other ∈ parts, ':' ∉ other := fun other among => clean other (.tail _ among)
    have starts := head?_joinWith_append laterFilled laterClean (fun none => several none) rest
    simp only [List.append_assoc]
    rw [splitDoubleColon?_append (clean part (.head _)), List.singleton_append,
      splitDoubleColon?_cons fun _ => starts, ih laterFilled laterClean, Option.map_map,
      Option.map_map]
    rfl

end DoubleColon

section ZeroRun

theorem eq_replicate_append_drop {groups : List Nat} {n : Nat} (most : n ≤ leadingZeros groups) :
    groups = List.replicate n 0 ++ groups.drop n := by
  induction groups generalizing n with
  | nil =>
    have none : n = 0 := by simpa [leadingZeros] using most
    simp [none]
  | cons group groups ih =>
    cases n with
    | zero => simp
    | succ n =>
      by_cases zero : group = 0
      · subst zero
        have rest : n ≤ leadingZeros groups := by simpa [leadingZeros] using most
        rw [List.replicate_succ, List.drop_succ_cons, List.cons_append, ← ih rest]
      · simp [leadingZeros, zero] at most

/-- The longer of a run and the one that starts at a place. -/
def longerRun (groups : List Nat) (best : Nat × Nat) (start : Nat) : Nat × Nat :=
  if best.2 < leadingZeros (groups.drop start) then (start, leadingZeros (groups.drop start))
  else best

theorem longestZeroRun_eq_foldl (groups : List Nat) :
    longestZeroRun groups = (List.range groups.length).foldl (longerRun groups) (0, 0) := rfl

theorem longestZeroRun_le (groups : List Nat) :
    (longestZeroRun groups).2 ≤ leadingZeros (groups.drop (longestZeroRun groups).1) := by
  have kept : ∀ (starts : List Nat) (best : Nat × Nat),
      best.2 ≤ leadingZeros (groups.drop best.1) →
      (starts.foldl (longerRun groups) best).2 ≤
        leadingZeros (groups.drop (starts.foldl (longerRun groups) best).1) := by
    intro starts
    induction starts with
    | nil => exact fun best holds => holds
    | cons start starts ih =>
      intro best holds
      apply ih
      rw [longerRun]
      split
      · exact Nat.le_refl _
      · exact holds
  rw [longestZeroRun_eq_foldl]
  exact kept _ _ (Nat.zero_le _)

/-- Around the run that is found stand the other groups. -/
theorem take_longestZeroRun (groups : List Nat) :
    groups.take (longestZeroRun groups).1 ++
      (List.replicate (longestZeroRun groups).2 0 ++
        groups.drop ((longestZeroRun groups).1 + (longestZeroRun groups).2)) = groups := by
  have zeros := eq_replicate_append_drop (longestZeroRun_le groups)
  rw [List.drop_drop] at zeros
  rw [← zeros, List.take_append_drop]

theorem eightGroups?_groupsChars {groups : List Nat} (eight : groups.length = 8)
    (small : ∀ group ∈ groups, group < 65536) :
    eightGroups? (groupsChars groups) = some groups := by
  have whole := take_longestZeroRun groups
  rw [groupsChars]
  generalize longestZeroRun groups = run at whole ⊢
  obtain ⟨start, length⟩ := run
  simp only at whole ⊢
  split
  · next long =>
    -- The double colon parts the text, and stands for as many zeros as are missing.
    have front := plainGroups?_printed fun group (found : group ∈ groups.take start) =>
      small group (List.mem_of_mem_take found)
    have back := groups?_printed fun group (found : group ∈ groups.drop (start + length)) =>
      small group (List.mem_of_mem_drop found)
    have parted : splitDoubleColon? (printed (groups.take start) ++ [':', ':'] ++
        printed (groups.drop (start + length))) =
        some (printed (groups.take start), printed (groups.drop (start + length))) := by
      rw [List.append_assoc, printed, splitDoubleColon?_joinWith (filled_groupChars _)
        (noColon_groupChars _)]
      simp [splitDoubleColon?]
    have given : (groups.take start).length + (groups.drop (start + length)).length =
        8 - length := by
      have sizes := congrArg List.length whole
      simp only [List.length_append, List.length_replicate, eight] at sizes
      omega
    have fewer : 8 - length < 8 := by omega
    have missing : 8 - (8 - length) = length := by
      have sizes := congrArg List.length whole
      simp only [List.length_append, List.length_replicate, eight] at sizes
      omega
    change eightGroups? (printed _ ++ [':', ':'] ++ printed _) = _
    rw [eightGroups?, parted]
    simp only [front, back]
    change (if _ < 8 then some _ else none) = _
    rw [given, if_pos fewer, missing, List.append_assoc, whole]
  · next short =>
    have single := splitDoubleColon?_joinWith (filled_groupChars groups) (noColon_groupChars groups)
      []
    rw [List.append_nil] at single
    change eightGroups? (printed groups) = _
    rw [eightGroups?, printed, single]
    change (groups? (printed groups)).filter _ = _
    rw [groups?_printed small]
    simp [eight]

end ZeroRun

end IpAddress

end ClusterTopology
