import ClusterTopology.Proofs.Address.Canonical

/-!
# Texts that are accepted as IP addresses

What an accepted text is made of. Without its scope it holds nothing but
digits, points and colons, so it begins with no blank and no bracket; a text of
version four has no colon, and one of version six has at least two. A text with
one colon is therefore never taken for an address.
-/

namespace ClusterTopology

namespace IpAddress

open Number

/-- A character that the spelling of an address without its scope may hold. -/
def IsSpellingChar (c : Char) : Prop :=
  c = ':' ∨ c = '.' ∨ ∃ digit, hexValue? c = some digit

theorem isSpellingChar_of_isDigit {c : Char} (digit : isDigit c = true) : IsSpellingChar c := by
  refine .inr (.inr ⟨c.toNat - 48, ?_⟩)
  rw [hexValue?]
  exact if_pos digit

theorem IsSpellingChar.shown {c : Char} (spelled : IsSpellingChar c) :
    Text.isBlank c = false ∧ c ≠ '[' ∧ c ≠ ']' := by
  rcases spelled with rfl | rfl | ⟨digit, read⟩
  · decide
  · decide
  · have range := hexValue?_eq_some read
    refine ⟨?_, ?_, ?_⟩
    · simp [Text.isBlank]
      omega
    · rintro rfl
      simp at range
    · rintro rfl
      simp at range

/-- A text is spelled like its pieces, if the separator is. -/
theorem isSpellingChar_of_pieces {separator : Char} {cs : List Char}
    (between : IsSpellingChar separator)
    (pieces : ∀ piece ∈ Text.splitAt separator cs, ∀ c ∈ piece, IsSpellingChar c) :
    ∀ c ∈ cs, IsSpellingChar c := by
  intro c found
  by_cases same : c = separator
  · rw [same]
    exact between
  · obtain ⟨piece, among, there⟩ := Text.exists_mem_splitAt found same
    exact pieces piece among c there

theorem isSpellingChar_of_octets? {cs : List Char} {octets : List Nat}
    (read : octets? cs = some octets) : ∀ c ∈ cs, IsSpellingChar c :=
  isSpellingChar_of_pieces (.inr (.inl rfl)) fun piece among c there =>
    isSpellingChar_of_isDigit ((octets?_eq_some read).2.2 piece among c there)

theorem isSpellingChar_of_group? {cs : List Char} {n : Nat} (read : group? cs = some n) :
    ∀ c ∈ cs, IsSpellingChar c := by
  intro c found
  exact .inr (.inr ((foldl_appendHex_eq_some (group?_eq_some.1 read).2.2).2 c found))

theorem isSpellingChar_of_groupsOfParts? {parts : List (List Char)} {groups : List Nat}
    (read : groupsOfParts? parts = some groups) : ∀ part ∈ parts, ∀ c ∈ part, IsSpellingChar c := by
  fun_induction groupsOfParts? parts generalizing groups with
  | case1 => simp
  | case2 last =>
    simp only [List.mem_singleton, forall_eq]
    rw [lastGroups?] at read
    split at read
    · split at read
      · next octets => exact isSpellingChar_of_octets? octets
      · cases read
    · obtain ⟨group, one, -⟩ := Option.map_eq_some_iff.1 read
      exact isSpellingChar_of_group? one
  | case3 part parts several ih =>
    simp only [bind, pure, Option.bind_eq_some_iff, Option.some.injEq] at read
    obtain ⟨group, first, others, rest, rfl⟩ := read
    exact List.forall_mem_cons.2 ⟨isSpellingChar_of_group? first, ih rest⟩

theorem isSpellingChar_of_groups? {cs : List Char} {groups : List Nat}
    (read : groups? cs = some groups) : ∀ c ∈ cs, IsSpellingChar c := by
  rw [groups?] at read
  split at read
  · next empty => simp [List.isEmpty_iff.1 empty]
  · exact isSpellingChar_of_pieces (.inl rfl) (isSpellingChar_of_groupsOfParts? read)

theorem isSpellingChar_of_plainGroups? {cs : List Char} {groups : List Nat}
    (read : plainGroups? cs = some groups) : ∀ c ∈ cs, IsSpellingChar c := by
  rw [plainGroups?] at read
  split at read
  · next empty => simp [List.isEmpty_iff.1 empty]
  · refine isSpellingChar_of_pieces (.inl rfl) fun piece among => ?_
    obtain ⟨group, one⟩ := (mapM_group?_eq_some read).2 piece among
    exact isSpellingChar_of_group? one

/-- A double colon that is found stands between the two texts. -/
theorem splitDoubleColon?_eq_some {cs before after : List Char}
    (split : splitDoubleColon? cs = some (before, after)) : cs = before ++ ':' :: ':' :: after := by
  fun_induction splitDoubleColon? cs generalizing before with
  | case1 rest =>
    cases split
    rfl
  | case2 c rest notDouble ih =>
    obtain ⟨⟨front, back⟩, inner, same⟩ := Option.map_eq_some_iff.1 split
    cases same
    rw [ih inner, List.cons_append]
  | case3 => cases split

/-- A text that eight groups are read from holds two colons, and nothing else than
spellings hold. -/
theorem colons_of_eightGroups? {cs : List Char} {groups : List Nat}
    (read : eightGroups? cs = some groups) :
    2 ≤ cs.count ':' ∧ ∀ c ∈ cs, IsSpellingChar c := by
  rw [eightGroups?] at read
  split at read
  · obtain ⟨all, eight⟩ := Option.filter_eq_some_iff.1 read
    refine ⟨?_, isSpellingChar_of_groups? all⟩
    have count : groups.length = 8 := by simpa using eight
    rw [groups?] at all
    split at all
    · cases all
      cases count
    · have most := (groupsOfParts?_eq_some all).1
      rw [Text.length_splitAt] at most
      omega
  · next before after parted =>
    simp only [bind, Option.bind_eq_some_iff] at read
    obtain ⟨high, readHigh, low, readLow, -⟩ := read
    rw [splitDoubleColon?_eq_some parted]
    constructor
    · simp only [List.count_append, List.count_cons_self]
      omega
    · intro c found
      rcases List.mem_append.1 found with front | back
      · exact isSpellingChar_of_plainGroups? readHigh c front
      · rcases List.mem_cons.1 back with rfl | second
        · exact .inl rfl
        · rcases List.mem_cons.1 second with rfl | there
          · exact .inl rfl
          · exact isSpellingChar_of_groups? readLow c there

/-- How an accepted text came to be read. -/
theorem ofChars?_eq_some {cs : List Char} {ip : IpAddress} (read : ofChars? cs = some ip) :
    (∃ octets, ip = .v4 octets ∧ octets? cs = some octets) ∨
      ∃ address rest groups scope, ip = .v6 groups scope ∧ cs = address ++ rest ∧
        eightGroups? address = some groups := by
  rw [ofChars?] at read
  split at read
  · next octets four =>
    cases read
    exact .inl ⟨octets, rfl, four⟩
  rw [v6?] at read
  split at read
  · cases read
  split at read
  · obtain ⟨groups, eight, rfl⟩ := Option.map_eq_some_iff.1 read
    exact .inr ⟨cs, [], groups, none, rfl, (List.append_nil cs).symm, eight⟩
  · next address scope parted =>
    split at read
    · cases read
    · obtain ⟨groups, eight, rfl⟩ := Option.map_eq_some_iff.1 read
      exact .inr ⟨address, _, groups, _, rfl, (splitFirst?_eq_some.1 parted).1, eight⟩

theorem head?_of_ofChars? {cs : List Char} {ip : IpAddress} (read : ofChars? cs = some ip) :
    ∃ c, cs.head? = some c ∧ IsSpellingChar c := by
  obtain ⟨octets, rfl, four⟩ | ⟨address, rest, groups, scope, rfl, rfl, eight⟩ :=
    ofChars?_eq_some read
  · cases cs with
    | nil => cases four
    | cons c cs => exact ⟨c, rfl, isSpellingChar_of_octets? four c (.head _)⟩
  · cases address with
    | nil => cases eight
    | cons c address => exact ⟨c, rfl, (colons_of_eightGroups? eight).2 c (.head _)⟩

theorem count_colon_of_ofChars? {cs : List Char} {ip : IpAddress} (read : ofChars? cs = some ip) :
    cs.count ':' ≠ 1 := by
  obtain ⟨octets, rfl, four⟩ | ⟨address, rest, groups, scope, rfl, rfl, eight⟩ :=
    ofChars?_eq_some read
  · rw [List.count_eq_zero_of_not_mem (colon_notMem_of_octets? four)]
    decide
  · have two := (colons_of_eightGroups? eight).1
    rw [List.count_append]
    omega

end IpAddress

end ClusterTopology
