import ClusterTopology.Json.Reader

/-!
# The mapping of a text

A name that comes again takes the last value, so a JSON text that is a mapping has every name
once.
-/

namespace ClusterTopology.Json

variable {entries : Entries Scalar Value} {rest : List Char}

theorem number_ne_map {cs : List Char} : number cs ≠ .ok (.map entries, rest) := by
  intro reads
  unfold number at reads
  dsimp only at reads
  split at reads
  · cases reads
  · split at reads
    · split at reads
      · cases reads
      · cases reads
    · cases reads

theorem named_ne_map {cs : List Char} : named? cs ≠ some (.map entries, rest) := by
  intro named
  obtain ⟨entry, listed, same⟩ := List.exists_of_findSome?_eq_some named
  obtain ⟨after, -, split⟩ := Option.map_eq_some_iff.1 same
  have isMap : entry.2 = .map entries := congrArg Prod.fst split
  simp only [List.mem_cons, List.not_mem_nil, or_false] at listed
  rcases listed with rfl | rfl | rfl | rfl | rfl | rfl <;> cases isMap

theorem elements_ne_map {fuel room : Nat} {cs : List Char} {done : List Value} :
    elements fuel room cs done ≠ .ok (.map entries, rest) := by
  induction fuel generalizing cs done with
  | zero =>
    intro reads
    cases reads
  | succ fuel ih =>
    intro reads
    rw [elements] at reads
    split at reads
    · cases reads
    · split at reads
      · cases reads
      · exact ih reads
      · cases reads

/-- Names that are different before a mapping is read on are different after it. -/
theorem distinct_of_members {fuel room : Nat} {cs : List Char} {done : Entries Scalar Value}
    (distinct : Entries.Distinct done)
    (reads : members fuel room cs done = .ok (.map entries, rest)) : Entries.Distinct entries := by
  -- The names so far are different, and reading on does nothing but insert another one.
  induction fuel generalizing cs done with
  | zero => cases reads
  | succ fuel ih =>
    rw [members.eq_def] at reads
    dsimp only at reads
    split at reads
    · split at reads
      · cases reads
      · next name _ _ =>
        split at reads
        · split at reads
          · cases reads
          · next item _ _ =>
            have more : Entries.Distinct (Entries.insert done (.text name) item) :=
              distinct.insert _ _
            split at reads
            · cases reads
              exact more
            · exact ih more reads
            · cases reads
        · cases reads
    · cases reads

theorem distinct_of_value {fuel room : Nat} {cs : List Char}
    (reads : value fuel room cs = .ok (.map entries, rest)) : Entries.Distinct entries := by
  cases fuel with
  | zero => cases reads
  | succ fuel =>
    rw [value.eq_def] at reads
    dsimp only at reads
    split at reads
    · rcases ends : string _ with stop | found
      · rw [ends] at reads
        cases reads
      · rw [ends] at reads
        cases reads
    · split at reads
      · cases reads
      · split at reads
        · cases reads
        · exact absurd reads elements_ne_map
    · split at reads
      · cases reads
      · split at reads
        · cases reads
          exact Entries.distinct_nil
        · exact distinct_of_members Entries.distinct_nil reads
    · split at reads
      · next named =>
        cases reads
        exact absurd named named_ne_map
      · exact absurd reads number_ne_map

/-- A text that is a mapping has every name once. -/
theorem distinct_of_read {text : String} (reads : read text = .ok (.map entries)) :
    Entries.Distinct entries := by
  rw [read] at reads
  rcases ends : document text.toList with stop | found
  · rw [ends] at reads
    cases reads
  · rw [ends] at reads
    cases reads
    unfold document at ends
    split at ends
    · cases ends
    · split at ends
      · cases ends
      · next whole after inside =>
        split at ends
        · cases ends
          exact distinct_of_value inside
        · cases ends

end ClusterTopology.Json
