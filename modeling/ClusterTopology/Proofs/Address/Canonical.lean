import ClusterTopology.Proofs.Address.Groups

/-!
# Canonical spellings are read back

An IP address is read from many spellings and printed in one. What is read is
well formed, and a well-formed address is read back from the spelling that it
prints, so no two addresses print alike.
-/

namespace ClusterTopology

namespace IpAddress

open Number

/-- What reading gives: four octets, or eight groups and, it may be, a scope that a text
can name. -/
inductive IsWellFormed : IpAddress → Prop where
  | v4 {octets : List Nat} (four : octets.length = 4) (small : ∀ octet ∈ octets, octet < 256) :
    IsWellFormed (.v4 octets)
  | v6 {groups : List Nat} {scope : Option String} (eight : groups.length = 8)
    (small : ∀ group ∈ groups, group < 65536)
    (named : ∀ name, scope = some name → name ≠ "" ∧ '%' ∉ name.toList ∧ '/' ∉ name.toList) :
    IsWellFormed (.v6 groups scope)

section Octets

theorem octet?_decimalDigits {n : Nat} (small : n < 256) : octet? (decimalDigits n) = some n := by
  have all : ∀ n < 256, octet? (decimalDigits n) = some n := by decide +kernel
  exact all n small

/-- An octet is below 256 and written in digits. -/
theorem octet?_eq_some {cs : List Char} {n : Nat} (read : octet? cs = some n) :
    n < 256 ∧ ∀ c ∈ cs, isDigit c = true := by
  rw [octet?] at read
  split at read
  · cases read
  next shown =>
  split at read
  · cases read
  split at read
  · cases read
  next small =>
  cases read
  have digits : cs.all isDigit = true := by
    simp only [Bool.or_eq_true, not_or, Bool.not_eq_true, Bool.not_eq_false'] at shown
    exact shown.1.2
  exact ⟨by omega, List.all_eq_true.1 digits⟩

/-- Four octets are read from the four pieces of a text. -/
theorem octets?_eq_some {cs : List Char} {octets : List Nat} (read : octets? cs = some octets) :
    octets.length = 4 ∧ (∀ octet ∈ octets, octet < 256) ∧
      ∀ piece ∈ Text.splitAt '.' cs, ∀ c ∈ piece, isDigit c = true := by
  rw [octets?] at read
  split at read
  · next a b c d pieces =>
    simp only [bind, pure, Option.bind_eq_some_iff, Option.some.injEq] at read
    obtain ⟨w, readA, x, readB, y, readC, z, readD, rfl⟩ := read
    rw [pieces]
    refine ⟨rfl, ?_, ?_⟩
    · simp only [List.forall_mem_cons, List.not_mem_nil, false_imp_iff, implies_true, and_true]
      exact ⟨(octet?_eq_some readA).1, (octet?_eq_some readB).1, (octet?_eq_some readC).1,
        (octet?_eq_some readD).1⟩
    · simp only [List.forall_mem_cons, List.not_mem_nil, false_imp_iff, implies_true, and_true]
      exact ⟨(octet?_eq_some readA).2, (octet?_eq_some readB).2, (octet?_eq_some readC).2,
        (octet?_eq_some readD).2⟩
  · cases read

theorem colon_notMem_of_octets? {cs : List Char} {octets : List Nat}
    (read : octets? cs = some octets) : ':' ∉ cs := by
  intro colon
  obtain ⟨piece, among, found⟩ := Text.exists_mem_splitAt colon (by decide : ':' ≠ '.')
  have digit := (octets?_eq_some read).2.2 piece among ':' found
  exact absurd digit (by decide)

end Octets

section Groups

theorem group?_lt {cs : List Char} {n : Nat} (read : group? cs = some n) : n < 65536 := by
  obtain ⟨-, short, value⟩ := group?_eq_some.1 read
  obtain ⟨⟨high, start, below⟩, -⟩ := foldl_appendHex_eq_some value
  cases start
  calc n < (0 + 1) * Nat.pow 16 cs.length := below
    _ ≤ 1 * Nat.pow 16 4 := Nat.mul_le_mul_left _ (Nat.pow_le_pow_right (by decide) short)
    _ = 65536 := rfl

/-- The last part makes at most two groups. -/
theorem lastGroups?_eq_some {cs : List Char} {groups : List Nat}
    (read : lastGroups? cs = some groups) :
    groups.length ≤ 2 ∧ ∀ group ∈ groups, group < 65536 := by
  rw [lastGroups?] at read
  split at read
  · split at read
    · next a b c d octets =>
      cases read
      have small := (octets?_eq_some octets).2.1
      simp only [List.forall_mem_cons] at small
      refine ⟨Nat.le_refl _, ?_⟩
      simp only [List.forall_mem_cons, List.not_mem_nil, false_imp_iff, implies_true, and_true]
      omega
    · cases read
  · obtain ⟨group, one, rfl⟩ := Option.map_eq_some_iff.1 read
    exact ⟨by simp, by simpa using group?_lt one⟩

/-- Parts make at most one group more than they are. -/
theorem groupsOfParts?_eq_some {parts : List (List Char)} {groups : List Nat}
    (read : groupsOfParts? parts = some groups) :
    groups.length ≤ parts.length + 1 ∧ ∀ group ∈ groups, group < 65536 := by
  fun_induction groupsOfParts? parts generalizing groups with
  | case1 =>
    cases read
    simp
  | case2 last => exact lastGroups?_eq_some read
  | case3 part parts several ih =>
    simp only [bind, pure, Option.bind_eq_some_iff, Option.some.injEq] at read
    obtain ⟨group, first, others, rest, rfl⟩ := read
    obtain ⟨count, small⟩ := ih rest
    exact ⟨Nat.succ_le_succ count, List.forall_mem_cons.2 ⟨group?_lt first, small⟩⟩

theorem groups?_lt {cs : List Char} {groups : List Nat} (read : groups? cs = some groups) :
    ∀ group ∈ groups, group < 65536 := by
  rw [groups?] at read
  split at read
  · cases read
    simp
  · exact (groupsOfParts?_eq_some read).2

theorem plainGroups?_lt {cs : List Char} {groups : List Nat}
    (read : plainGroups? cs = some groups) :
    ∀ group ∈ groups, group < 65536 := by
  rw [plainGroups?] at read
  split at read
  · cases read
    simp
  · intro group found
    obtain ⟨part, -, one⟩ := (mapM_group?_eq_some read).1 group found
    exact group?_lt one

/-- What is read as eight groups is that. -/
theorem eightGroups?_eq_some {cs : List Char} {groups : List Nat}
    (read : eightGroups? cs = some groups) :
    groups.length = 8 ∧ ∀ group ∈ groups, group < 65536 := by
  rw [eightGroups?] at read
  split at read
  · obtain ⟨all, eight⟩ := Option.filter_eq_some_iff.1 read
    exact ⟨by simpa using eight, groups?_lt all⟩
  · simp only [bind, Option.bind_eq_some_iff] at read
    obtain ⟨high, readHigh, low, readLow, read⟩ := read
    split at read
    · next fewer =>
      cases read
      constructor
      · simp only [List.length_append, List.length_replicate]
        omega
      · intro group found
        rcases List.mem_append.1 found with before | after
        · rcases List.mem_append.1 before with front | zero
          · exact plainGroups?_lt readHigh group front
          · rw [List.eq_of_mem_replicate zero]
            decide
        · exact groups?_lt readLow group after
    · cases read

end Groups

theorem isWellFormed_of_ofChars? {cs : List Char} {ip : IpAddress} (read : ofChars? cs = some ip) :
    ip.IsWellFormed := by
  rw [ofChars?] at read
  split at read
  · next octets four =>
    cases read
    exact .v4 (octets?_eq_some four).1 (octets?_eq_some four).2.1
  rw [v6?] at read
  split at read
  · cases read
  next noSlash =>
  split at read
  · obtain ⟨groups, eight, rfl⟩ := Option.map_eq_some_iff.1 read
    exact .v6 (eightGroups?_eq_some eight).1 (eightGroups?_eq_some eight).2
      fun _ none => by cases none
  · next address scope parted =>
    split at read
    · cases read
    next named =>
    obtain ⟨groups, eight, rfl⟩ := Option.map_eq_some_iff.1 read
    refine .v6 (eightGroups?_eq_some eight).1 (eightGroups?_eq_some eight).2 fun name same => ?_
    cases same
    simp only [Bool.or_eq_true, List.isEmpty_iff, List.contains_eq_mem, decide_eq_true_eq,
      not_or] at named
    have whole := (splitFirst?_eq_some.1 parted).1
    rw [String.toList_ofList]
    refine ⟨fun empty => named.1 ?_, named.2, fun slash => noSlash ?_⟩
    · simpa using congrArg String.toList empty
    · simp [whole, slash]

/-- Groups are printed with a colon. -/
theorem colon_mem_groupsChars {groups : List Nat} (eight : groups.length = 8) :
    ':' ∈ groupsChars groups := by
  simp only [groupsChars]
  split
  · simp
  · rcases groups with _ | ⟨first, _ | ⟨second, others⟩⟩
    · cases eight
    · cases eight
    · simp [joinWith]

theorem octets?_toChars {octets : List Nat} (four : octets.length = 4)
    (small : ∀ octet ∈ octets, octet < 256) :
    octets? (IpAddress.v4 octets).toChars = some octets := by
  have clean : ∀ part ∈ octets.map decimalDigits, '.' ∉ part := by
    intro part among point
    obtain ⟨octet, found, rfl⟩ := List.mem_map.1 among
    exact absurd ((octet?_eq_some (octet?_decimalDigits (small octet found))).2 _ point) (by decide)
  have some : octets.map decimalDigits ≠ [] := by
    rintro none
    simp [List.map_eq_nil_iff.1 none] at four
  rw [toChars, octets?, splitAt_joinWith some clean]
  obtain ⟨a, b, c, d, rfl⟩ : ∃ a b c d, octets = [a, b, c, d] := by
    rcases octets with _ | ⟨a, _ | ⟨b, _ | ⟨c, _ | ⟨d, _ | ⟨e, others⟩⟩⟩⟩⟩ <;> cases four
    exact ⟨a, b, c, d, rfl⟩
  simp only [List.forall_mem_cons] at small
  simp [octet?_decimalDigits small.1, octet?_decimalDigits small.2.1,
    octet?_decimalDigits small.2.2.1, octet?_decimalDigits small.2.2.2.1]

theorem v6?_toChars {groups : List Nat} {scope : Option String} (eight : groups.length = 8)
    (small : ∀ group ∈ groups, group < 65536)
    (named : ∀ name, scope = some name → name ≠ "" ∧ '%' ∉ name.toList ∧ '/' ∉ name.toList) :
    v6? (IpAddress.v6 groups scope).toChars = some (.v6 groups scope) := by
  have noSlash : '/' ∉ (IpAddress.v6 groups scope).toChars := by
    intro slash
    rcases mem_toChars slash with own | percent | inScope
    · exact absurd own (by decide)
    · cases percent
    · cases scope with
      | none => cases inScope
      | some name => exact (named name rfl).2.2 inScope
  have noPercent : '%' ∉ groupsChars groups := fun percent =>
    absurd (isAddressChar_of_mem_groupsChars percent) (by decide)
  rw [v6?, if_neg (by simpa using noSlash)]
  cases scope with
  | none => rw [toChars, splitFirst?_of_notMem noPercent, eightGroups?_groupsChars eight small]; rfl
  | some name =>
    obtain ⟨nonempty, noOther, -⟩ := named name rfl
    have parted : splitFirst? '%' (groupsChars groups ++ '%' :: name.toList) =
        some (groupsChars groups, name.toList) := splitFirst?_eq_some.2 ⟨rfl, noPercent⟩
    have proper : ¬ (name.toList.isEmpty || name.toList.contains '%') = true := by
      simpa using ⟨nonempty, noOther⟩
    rw [toChars, parted]
    simp only [if_neg proper, eightGroups?_groupsChars eight small, Option.map_some,
      String.ofList_toList]

/-- A well-formed address is read back from its canonical spelling. -/
theorem ofChars?_toChars {ip : IpAddress} (formed : ip.IsWellFormed) :
    ofChars? ip.toChars = some ip := by
  cases formed with
  | v4 four small => rw [ofChars?, octets?_toChars four small]
  | @v6 groups scope eight small named =>
    have colon : ':' ∈ (IpAddress.v6 groups scope).toChars := by
      cases scope with
      | none => exact colon_mem_groupsChars eight
      | some name => exact List.mem_append_left _ (colon_mem_groupsChars eight)
    have noOctets : octets? (IpAddress.v6 groups scope).toChars = none :=
      Option.eq_none_iff_forall_ne_some.2 fun octets read => colon_notMem_of_octets? read colon
    rw [ofChars?, noOctets]
    exact v6?_toChars eight small named

/-- No two addresses that were read have one canonical spelling. -/
theorem toChars_inj {cs ds : List Char} {ip other : IpAddress} (read : ofChars? cs = some ip)
    (readOther : ofChars? ds = some other) : ip.toChars = other.toChars ↔ ip = other := by
  refine ⟨fun same => ?_, fun same => by rw [same]⟩
  have back := ofChars?_toChars (isWellFormed_of_ofChars? read)
  rw [same, ofChars?_toChars (isWellFormed_of_ofChars? readOther)] at back
  exact (Option.some.inj back).symm

end IpAddress

end ClusterTopology
