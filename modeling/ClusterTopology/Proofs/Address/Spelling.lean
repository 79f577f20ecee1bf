import ClusterTopology.Address

/-!
# Characters of canonical hosts

Which characters the canonical spelling of a host is made of. An IP address is
spelled with digits, points and colons, and a scope that was read is kept as it
is. So a host that is read from a text without a closing bracket has none, and
one that is read from a text that begins with no blank begins with none.
-/

namespace ClusterTopology

namespace IpAddress

/-- A text is split at the first occurrence of a character, if there is one. -/
theorem splitFirst?_eq_some {mark : Char} {cs before after : List Char} :
    splitFirst? mark cs = some (before, after) ↔
      cs = before ++ mark :: after ∧ mark ∉ before := by
  induction cs generalizing before with
  | nil => simp [splitFirst?]
  | cons c cs ih =>
    by_cases same : c = mark
    · subst same
      cases before with
      | nil => simp [splitFirst?, eq_comm]
      | cons b before => simp_all [splitFirst?]
    · cases before with
      | nil => simp [splitFirst?, same]
      | cons b before =>
        have step : splitFirst? mark (c :: cs) = some (b :: before, after) ↔
            c = b ∧ splitFirst? mark cs = some (before, after) := by
          rcases rest : splitFirst? mark cs with _ | ⟨front, back⟩
          · simp [splitFirst?, same, rest]
          · simp [splitFirst?, same, rest, and_assoc]
        rw [step, ih]
        constructor
        · rintro ⟨rfl, rfl, clean⟩
          exact ⟨rfl, by simp [clean, Ne.symm same]⟩
        · rintro ⟨split, clean⟩
          obtain ⟨rfl, rfl⟩ := List.cons.inj split
          exact ⟨rfl, rfl, fun found => clean (.tail _ found)⟩

theorem splitFirst?_of_notMem {mark : Char} {cs : List Char} (clean : mark ∉ cs) :
    splitFirst? mark cs = none := by
  rcases split : splitFirst? mark cs with _ | ⟨before, after⟩
  · rfl
  · rw [(splitFirst?_eq_some.1 split).1] at clean
    exact absurd (by simp) clean

/-- Texts that are joined add nothing but the separators. -/
theorem mem_joinWith {separator : List Char} {parts : List (List Char)} {c : Char}
    (found : c ∈ joinWith separator parts) : c ∈ separator ∨ ∃ part ∈ parts, c ∈ part := by
  fun_induction joinWith separator parts with
  | case1 => cases found
  | case2 part => exact .inr ⟨part, .head _, found⟩
  | case3 part parts notOne ih =>
    rw [List.append_assoc, List.mem_append, List.mem_append] at found
    rcases found with here | between | later
    · exact .inr ⟨part, .head _, here⟩
    · exact .inl between
    · rcases ih later with between | ⟨other, among, there⟩
      · exact .inl between
      · exact .inr ⟨other, .tail _ among, there⟩

/-- A character that IP addresses are spelled with. -/
def IsAddressChar (c : Char) : Prop :=
  c = '.' ∨ c = ':' ∨ ∃ digit < 16, c = Nat.digitChar digit

instance : DecidablePred IsAddressChar := fun c =>
  inferInstanceAs (Decidable (c = '.' ∨ c = ':' ∨ ∃ digit < 16, c = Nat.digitChar digit))

theorem mem_toDigits {base n : Nat} {c : Char} (large : 1 < base)
    (found : c ∈ Nat.toDigits base n) : ∃ digit < base, c = Nat.digitChar digit := by
  -- The last digit is the remainder; the others are the digits of the quotient.
  induction n using Nat.strongRecOn with
  | ind n ih =>
    rw [Nat.toDigits_eq_if large] at found
    split at found
    · next small => exact ⟨n, small, List.mem_singleton.1 found⟩
    · next notSmall =>
      rcases List.mem_append.1 found with front | last
      · exact ih _ (Nat.div_lt_self (by omega) large) front
      · exact ⟨n % base, Nat.mod_lt _ (by omega), List.mem_singleton.1 last⟩

theorem isAddressChar_of_mem_groupsChars {groups : List Nat} {c : Char}
    (found : c ∈ groupsChars groups) : IsAddressChar c := by
  have printed (some : List Nat) (among : c ∈ joinWith [':'] (some.map groupChars)) :
      IsAddressChar c := by
    rcases mem_joinWith among with between | ⟨part, chosen, there⟩
    · exact .inr (.inl (List.mem_singleton.1 between))
    · obtain ⟨group, -, rfl⟩ := List.mem_map.1 chosen
      exact .inr (.inr (mem_toDigits (by decide) there))
  simp only [groupsChars] at found
  split at found
  · rw [List.append_assoc, List.mem_append, List.mem_append] at found
    rcases found with front | colons | back
    · exact printed _ front
    · exact .inr (.inl (by simpa using colons))
    · exact printed _ back
  · exact printed _ found

/-- The scope of an address. -/
def scopeChars : IpAddress → List Char
  | .v6 _ (some scope) => scope.toList
  | _ => []

/-- An address is spelled with its own characters, a percent sign and its scope. -/
theorem mem_toChars {ip : IpAddress} {c : Char} (found : c ∈ ip.toChars) :
    IsAddressChar c ∨ c = '%' ∨ c ∈ ip.scopeChars := by
  rcases ip with octets | ⟨groups, _ | scope⟩
  · rcases mem_joinWith found with between | ⟨part, chosen, there⟩
    · exact .inl (.inl (List.mem_singleton.1 between))
    · obtain ⟨octet, -, rfl⟩ := List.mem_map.1 chosen
      obtain ⟨digit, small, same⟩ := mem_toDigits (by decide) there
      exact .inl (.inr (.inr ⟨digit, by omega, same⟩))
  · exact .inl (isAddressChar_of_mem_groupsChars found)
  · rcases List.mem_append.1 found with group | rest
    · exact .inl (isAddressChar_of_mem_groupsChars group)
    · rcases List.mem_cons.1 rest with percent | there
      · exact .inr (.inl percent)
      · exact .inr (.inr there)

/-- The scope is a part of the text that was read. -/
theorem mem_of_mem_scopeChars {cs : List Char} {ip : IpAddress} (read : ofChars? cs = some ip)
    {c : Char} (found : c ∈ ip.scopeChars) : c ∈ cs := by
  rw [ofChars?] at read
  split at read
  · cases read
    cases found
  rw [v6?] at read
  split at read
  · cases read
  split at read
  · obtain ⟨groups, -, rfl⟩ := Option.map_eq_some_iff.1 read
    cases found
  · next address scope parted =>
    split at read
    · cases read
    · obtain ⟨groups, -, rfl⟩ := Option.map_eq_some_iff.1 read
      rw [(splitFirst?_eq_some.1 parted).1]
      simp only [scopeChars, String.toList_ofList] at found
      simp [found]

/-- The first character of an address is one of its own or a percent sign. -/
theorem head?_toChars {ip : IpAddress} {c : Char} (first : ip.toChars.head? = some c) :
    IsAddressChar c ∨ c = '%' := by
  rcases ip with octets | ⟨groups, _ | scope⟩
  · have among : c ∈ (IpAddress.v4 octets).toChars := List.mem_of_head? first
    rcases mem_toChars among with own | percent | there
    · exact .inl own
    · exact .inr percent
    · cases there
  · exact .inl (isAddressChar_of_mem_groupsChars (List.mem_of_head? first))
  · -- Without any group the percent sign would come first.
    rw [toChars] at first
    rcases printed : groupsChars groups with _ | ⟨d, ds⟩
    · rw [printed] at first
      exact .inr (Option.some.inj first).symm
    · rw [printed] at first
      have among : c ∈ groupsChars groups := by
        rw [printed, ← Option.some.inj first]
        exact .head _
      exact .inl (isAddressChar_of_mem_groupsChars among)

end IpAddress

namespace NodeAddress

open IpAddress

theorem isBlank_of_isAddressChar {c : Char} (own : IsAddressChar c) : Text.isBlank c = false := by
  have digits : ∀ digit < 16, Text.isBlank (Nat.digitChar digit) = false := by decide
  rcases own with rfl | rfl | ⟨digit, small, rfl⟩
  · rfl
  · rfl
  · exact digits digit small

/-- A host without a closing bracket has none in canonical spelling either. -/
theorem bracket_not_mem_canonicalHost {host : List Char} (clean : ']' ∉ host) :
    ']' ∉ canonicalHost host := by
  rw [canonicalHost]
  split
  · next ip read =>
    intro found
    rcases mem_toChars found with own | percent | scope
    · exact absurd own (by decide)
    · cases percent
    · exact clean (mem_of_mem_scopeChars read scope)
  · exact clean

/-- A host that begins with no blank begins with none in canonical spelling either. -/
theorem head?_canonicalHost {host : List Char}
    (clean : ∀ c, host.head? = some c → Text.isBlank c = false) {c : Char}
    (first : (canonicalHost host).head? = some c) : Text.isBlank c = false := by
  rw [canonicalHost] at first
  split at first
  · rcases head?_toChars first with own | rfl
    · exact isBlank_of_isAddressChar own
    · rfl
  · exact clean c first

/-- A host is in canonical spelling exactly if it is no IP address, or is spelled as the
address prints. -/
theorem canonicalHost_eq_self_iff {host : List Char} :
    canonicalHost host = host ↔ ∀ ip, ofChars? host = some ip → ip.toChars = host := by
  rw [canonicalHost]
  split
  · next ip read => simp [read]
  · next noIp => simp [noIp]

end NodeAddress

end ClusterTopology
