import ClusterTopology.Proofs.Address.Spelling
import ClusterTopology.Proofs.Number.Literal

/-!
# Reading printed addresses

Which addresses are read back from their text. Printing puts brackets around a
host with a colon; reading takes blanks off, looks for brackets and for the one
colon, and brings IP addresses into canonical spelling. An address comes back
as it was exactly if none of this touches its host.
-/

namespace ClusterTopology

namespace Text

theorem trimStart_eq_self_iff {cs : List Char} :
    trimStart cs = cs ↔ ∀ c, cs.head? = some c → isBlank c = false := by
  cases cs with
  | nil => simp
  | cons c cs =>
    rcases blank : isBlank c with _ | _
    · simp [trimStart_cons_of_not_blank blank, blank]
    · have shorter : (trimStart (c :: cs)).length ≠ (c :: cs).length := by
        have := (List.dropWhile_sublist (l := cs) isBlank).length_le
        simp only [trimStart, List.dropWhile_cons_of_pos blank, List.length_cons]
        omega
      have changed : trimStart (c :: cs) ≠ c :: cs := fun same => shorter (by rw [same])
      simp [changed, blank]

theorem head?_trimStart {cs : List Char} {c : Char} (first : (trimStart cs).head? = some c) :
    isBlank c = false := by
  have stops := List.head?_dropWhile_not isBlank cs
  rw [trimStart] at first
  rw [first] at stops
  exact stops

/-- Nothing is taken off an end without blanks. -/
theorem trimEnd_append {cs last : List Char} (nonempty : last ≠ [])
    (shown : ∀ c ∈ last, isBlank c = false) : trimEnd (cs ++ last) = cs ++ last := by
  obtain ⟨front, c, rfl⟩ : ∃ front c, last = front ++ [c] :=
    ⟨_, _, (List.dropLast_concat_getLast nonempty).symm⟩
  have ends : isBlank c = false := shown c (by simp)
  simp [trimEnd, ends]

end Text

namespace NodeAddress

open IpAddress Number

theorem toList_toText (a : NodeAddress) :
    a.toText.toList =
      (if ':' ∈ a.host.toList then '[' :: (a.host.toList ++ [']']) else a.host.toList) ++
        ':' :: (toString a.port).toList := by
  rw [toText]
  split
  · next colon =>
    have found : ':' ∈ a.host.toList := by simpa using colon
    simp [found]
  · next noColon =>
    have missing : ':' ∉ a.host.toList := by simpa using noColon
    simp [missing]

theorem mem_toString {n : Int} {c : Char} (found : c ∈ (toString n).toList) :
    c = '-' ∨ c.isDigit := by
  rw [toList_toString] at found
  split at found
  · rcases List.mem_cons.1 found with minus | digit
    · exact .inl minus
    · exact .inr (isDigit_of_mem_decimalDigits digit)
  · exact .inr (isDigit_of_mem_decimalDigits found)

/-- Blanks are only taken off before the host. -/
theorem trim_port (front : List Char) (n : Int) :
    Text.trim (front ++ ':' :: (toString n).toList) =
      Text.trimStart front ++ ':' :: (toString n).toList := by
  have starts : Text.trimStart (front ++ ':' :: (toString n).toList) =
      Text.trimStart front ++ ':' :: (toString n).toList := by
    have colon : Text.isBlank ':' = false := rfl
    rw [Text.trimStart, List.dropWhile_append, List.dropWhile_cons_of_neg (by simp [colon])]
    split
    · next blank => simp [Text.trimStart, List.isEmpty_iff.1 blank]
    · rfl
  rw [Text.trim, starts]
  apply Text.trimEnd_append (List.cons_ne_nil _ _)
  intro c found
  rcases List.mem_cons.1 found with rfl | port
  · rfl
  · rcases mem_toString port with rfl | digit
    · rfl
    · exact Text.isBlank_of_isDigit digit

/-- Reading an address is splitting it, reading its port and spelling its host. -/
theorem parseTrimmed_eq_ok {cs : List Char} {a : NodeAddress} :
    parseTrimmed cs = .ok a ↔ ∃ host digits port, splitPort? cs = some (host, digits) ∧
      readPort digits = .ok port ∧ canonicalHost host ≠ [] ∧
        a = ⟨String.ofList (canonicalHost host), port⟩ := by
  rw [parseTrimmed]
  rcases cs with _ | ⟨c, cs⟩
  · constructor
    · intro read
      cases read
    · rintro ⟨host, digits, port, parted, -, shown, -⟩
      cases parted
      exact absurd rfl shown
  rcases parted : splitPort? (c :: cs) with _ | ⟨host, digits⟩
  · simp
  rcases read : readPort digits with error | port
  · simp [read]
  rcases shown : canonicalHost host with _ | ⟨d, ds⟩
  · simp [read, shown]
  · simp only [read, shown, Option.some.injEq, Prod.mk.injEq]
    constructor
    · intro same
      exact ⟨host, digits, port, ⟨rfl, rfl⟩, read, by simp [shown],
        by simpa [shown] using same.symm⟩
    · rintro ⟨_, _, _, ⟨rfl, rfl⟩, again, -, rfl⟩
      rw [read] at again
      cases again
      simp [shown]

/-- A bracketed host ends at the first closing bracket. -/
theorem splitPort?_bracket {inner host : List Char} {digits : Option (List Char)}
    (parted : splitPort? ('[' :: inner) = some (host, digits)) :
    ']' ∉ host ∧ ']' ∈ inner := by
  rw [splitPort?] at parted
  rcases split : splitFirst? ']' inner with _ | ⟨front, rest⟩
  · simp [split] at parted
  obtain ⟨same, clean⟩ := splitFirst?_eq_some.1 split
  have host_eq : front = host := by
    rw [split] at parted
    rcases rest with _ | ⟨c, rest⟩
    · exact congrArg Prod.fst (Option.some.inj parted)
    · by_cases colon : c = ':'
      · subst colon
        exact congrArg Prod.fst (Option.some.inj parted)
      · simp [colon] at parted
  rw [← host_eq, same]
  exact ⟨clean, by simp⟩

/-- The host of an address that is read from brackets has no closing bracket. -/
theorem host_of_bracket {inner : List Char} {a : NodeAddress}
    (read : parseTrimmed ('[' :: inner) = .ok a) : ']' ∉ a.host.toList ∧ ']' ∈ inner := by
  obtain ⟨host, digits, port, parted, -, -, rfl⟩ := parseTrimmed_eq_ok.1 read
  obtain ⟨clean, closed⟩ := splitPort?_bracket parted
  rw [String.toList_ofList]
  exact ⟨bracket_not_mem_canonicalHost clean, closed⟩

theorem splitPort?_of_bracketed {host port : List Char} (clean : ']' ∉ host) :
    splitPort? ('[' :: (host ++ [']']) ++ ':' :: port) = some (host, some port) := by
  have split : splitFirst? ']' (host ++ [']'] ++ ':' :: port) = some (host, ':' :: port) :=
    splitFirst?_eq_some.2 ⟨by simp, clean⟩
  rw [List.cons_append, splitPort?, split]
  rfl

/-- Without brackets the host ends at the only colon. -/
theorem splitPort?_of_bare {host port : List Char} (noHostColon : ':' ∉ host)
    (noPortColon : ':' ∉ port) (noBracket : host.head? ≠ some '[') :
    splitPort? (host ++ ':' :: port) = some (host, some port) := by
  have split : splitFirst? ':' (host ++ ':' :: port) = some (host, port) :=
    splitFirst?_eq_some.2 ⟨rfl, noHostColon⟩
  have once : (host ++ ':' :: port).count ':' = 1 := by
    simp [List.count_eq_zero_of_not_mem noHostColon, List.count_eq_zero_of_not_mem noPortColon]
  rw [splitPort?.eq_def]
  split
  · next inner same =>
    cases host with
    | nil => cases same
    | cons c host => simp_all
  · rw [if_pos once, split]
    rfl

/-- What is read from a host and the text of a port. -/
theorem parseTrimmed_of_splits {cs host : List Char} {n : Int} {a : NodeAddress}
    (short : (decimalDigits n.natAbs).length ≤ maxDigits)
    (parted : splitPort? cs = some (host, some (toString n).toList)) :
    parseTrimmed cs = .ok a ↔
      canonicalHost host ≠ [] ∧ a = ⟨String.ofList (canonicalHost host), n⟩ := by
  have port : readPort (some (toString n).toList) = .ok n := by
    rw [readPort, read_toString short]
    rfl
  rw [parseTrimmed_eq_ok, parted]
  constructor
  · rintro ⟨host, digits, port', same, read, shown, rfl⟩
    cases same
    rw [port] at read
    cases read
    exact ⟨shown, rfl⟩
  · rintro ⟨shown, rfl⟩
    exact ⟨host, _, n, rfl, port, shown, rfl⟩

/-- A host that is split off as it was printed comes back exactly if it is not empty and
in canonical spelling. -/
theorem parseTrimmed_of_own_host {cs : List Char} {a : NodeAddress}
    (short : (decimalDigits a.port.natAbs).length ≤ maxDigits)
    (parted : splitPort? cs = some (a.host.toList, some (toString a.port).toList)) :
    parseTrimmed cs = .ok a ↔ a.host ≠ "" ∧ canonicalHost a.host.toList = a.host.toList := by
  rw [parseTrimmed_of_splits short parted]
  constructor
  · rintro ⟨shown, same⟩
    have host : a.host.toList = canonicalHost a.host.toList := by
      have := congrArg (fun b => b.host.toList) same
      simpa using this
    refine ⟨?_, host.symm⟩
    rintro empty
    rw [← host, empty] at shown
    exact shown rfl
  · rintro ⟨nonempty, same⟩
    rw [same, String.ofList_toList]
    exact ⟨by simpa using nonempty, rfl⟩

section Text

variable {a : NodeAddress} (short : (decimalDigits a.port.natAbs).length ≤ maxDigits)

include short

/-- A host in brackets comes back unless it has a closing bracket of its own. -/
theorem parse_toText_of_colon (colon : ':' ∈ a.host.toList) :
    parse a.toText = .ok a ↔
      (a.host ≠ "" ∧ canonicalHost a.host.toList = a.host.toList) ∧ ']' ∉ a.host.toList := by
  have opening : Text.isBlank '[' = false := rfl
  have printed : Text.trim a.toText.toList =
      '[' :: (a.host.toList ++ [']']) ++ ':' :: (toString a.port).toList := by
    rw [toList_toText, if_pos colon, trim_port, Text.trimStart_cons_of_not_blank opening]
  rw [parse, printed]
  -- A closing bracket in the host cuts it short, whatever the rest is read as.
  by_cases bracket : ']' ∈ a.host.toList
  · have lost : parseTrimmed ('[' :: (a.host.toList ++ [']']) ++ ':' :: (toString a.port).toList) ≠
        .ok a := fun read => (host_of_bracket read).1 bracket
    exact iff_of_false lost fun kept => kept.2 bracket
  · rw [parseTrimmed_of_own_host short (splitPort?_of_bracketed bracket)]
    simp [bracket]

/-- A bare host comes back unless it begins with a bracket or a blank. -/
theorem parse_toText_of_no_colon (noColon : ':' ∉ a.host.toList) :
    parse a.toText = .ok a ↔
      (a.host ≠ "" ∧ canonicalHost a.host.toList = a.host.toList) ∧
        a.host.toList.head? ≠ some '[' ∧ Text.trimStart a.host.toList = a.host.toList := by
  have printed : Text.trim a.toText.toList =
      Text.trimStart a.host.toList ++ ':' :: (toString a.port).toList := by
    rw [toList_toText, if_neg noColon, trim_port]
  have portChars : ∀ c ∈ (toString a.port).toList, c ≠ ':' ∧ c ≠ ']' := by
    intro c found
    rcases mem_toString found with rfl | digit
    · decide
    · constructor
      · rintro rfl
        exact absurd digit (by decide)
      · rintro rfl
        exact absurd digit (by decide)
  have kept {c : Char} (found : c ∈ Text.trimStart a.host.toList) : c ∈ a.host.toList :=
    (List.dropWhile_sublist _).mem found
  rw [parse, printed]
  -- Taking blanks off may bring a bracket to the front; then the host that is read has no
  -- closing bracket, and the one that was printed has.
  by_cases bracket : (Text.trimStart a.host.toList).head? = some '['
  · have lost : parseTrimmed (Text.trimStart a.host.toList ++ ':' :: (toString a.port).toList) ≠
        .ok a := by
      intro read
      obtain ⟨inner, opens⟩ := List.head?_eq_some_iff.1 bracket
      rw [opens] at read
      obtain ⟨clean, closed⟩ := host_of_bracket read
      rcases List.mem_append.1 closed with here | there
      · exact clean (kept (by rw [opens]; exact .tail _ here))
      · rcases List.mem_cons.1 there with colon | port
        · cases colon
        · exact (portChars _ port).2 rfl
    refine iff_of_false lost ?_
    rintro ⟨-, other, same⟩
    rw [same] at bracket
    exact other bracket
  have parted := splitPort?_of_bare (fun found => noColon (kept found))
    (fun found => (portChars _ found).1 rfl) bracket
  by_cases same : Text.trimStart a.host.toList = a.host.toList
  · rw [same] at parted bracket ⊢
    rw [parseTrimmed_of_own_host short parted]
    simp [bracket]
  · rw [parseTrimmed_of_splits short parted]
    refine iff_of_false ?_ fun kept => same kept.2.2
    rintro ⟨-, moved⟩
    -- What is left after the blanks begins with none, and spelling it adds none.
    have host : a.host.toList = canonicalHost (Text.trimStart a.host.toList) := by
      have := congrArg (fun b => b.host.toList) moved
      simpa using this
    refine same (Text.trimStart_eq_self_iff.2 fun c first => ?_)
    rw [host] at first
    exact head?_canonicalHost (fun _ => Text.head?_trimStart) first

/-- An address whose port is short enough is read back from its text exactly if its host is
not empty, is in canonical spelling, and either holds a colon and no closing bracket, or
holds no colon and begins neither with a bracket nor with a blank. -/
theorem parse_toText_iff :
    parse a.toText = .ok a ↔
      a.host ≠ "" ∧
      (∀ ip, ofChars? a.host.toList = some ip → ip.toChars = a.host.toList) ∧
      (':' ∈ a.host.toList ∧ ']' ∉ a.host.toList ∨
        ':' ∉ a.host.toList ∧ a.host.toList.head? ≠ some '[' ∧
          ∀ c, a.host.toList.head? = some c → Text.isBlank c = false) := by
  rw [← canonicalHost_eq_self_iff, ← Text.trimStart_eq_self_iff]
  by_cases colon : ':' ∈ a.host.toList
  · rw [parse_toText_of_colon short colon]
    simp [colon, and_assoc]
  · rw [parse_toText_of_no_colon short colon]
    simp [colon, and_assoc]

end Text

/-- A host with colons comes back, with a negative port as well. -/
theorem parse_toText_loopback :
    let a : NodeAddress := ⟨"::1", -9042⟩
    (decimalDigits a.port.natAbs).length ≤ maxDigits ∧ a.toText = "[::1]:-9042" ∧
      parse a.toText = .ok a := by
  intro a
  have short : (decimalDigits a.port.natAbs).length ≤ maxDigits := by decide
  have canonical : ∀ ip, ofChars? a.host.toList = some ip → ip.toChars = a.host.toList := by
    intro ip read
    have known : ofChars? a.host.toList = some (.v6 [0, 0, 0, 0, 0, 0, 0, 1] none) := by decide
    rw [known] at read
    cases read
    decide
  exact ⟨short, by decide, (parse_toText_iff short).2
    ⟨by decide, canonical, .inl ⟨by decide, by decide⟩⟩⟩

end NodeAddress

end ClusterTopology
