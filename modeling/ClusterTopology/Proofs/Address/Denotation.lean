import Mathlib.Data.Nat.Digits.Defs
import ClusterTopology.Proofs.Address.Accepted
import ClusterTopology.Proofs.Address.RoundTrip

/-!
# What the text of an address denotes

An IP address denotes a version, a number and, it may be, a scope. Texts of
nodes whose hosts denote the same are read as one node, and others never are,
whichever of the accepted spellings they use; a text without a port names the
default port. A port with more digits than are accepted is refused, whatever
the host.
-/

namespace ClusterTopology

namespace IpAddress

open Number

/-- The version of an address. -/
def version : IpAddress → Nat
  | .v4 _ => 4
  | .v6 _ _ => 6

/-- The number of an address: its octets or groups are the digits, the highest first. -/
def number : IpAddress → Nat
  | .v4 octets => Nat.ofDigits 256 octets.reverse
  | .v6 groups _ => Nat.ofDigits 65536 groups.reverse

/-- The scope of an address, if it names one. -/
def scope? : IpAddress → Option String
  | .v4 _ => none
  | .v6 _ scope => scope

/-- Digits of one length are determined by their number. -/
theorem ofDigits_reverse_inj {base : Nat} (large : 1 < base) {digits others : List Nat}
    (length : digits.length = others.length) (small : ∀ digit ∈ digits, digit < base)
    (smallOthers : ∀ digit ∈ others, digit < base)
    (same : Nat.ofDigits base digits.reverse = Nat.ofDigits base others.reverse) :
    digits = others := by
  apply List.reverse_inj.1
  apply Nat.ofDigits_inj_of_len_eq large
  · simpa using length
  · simpa using small
  · simpa using smallOthers
  · exact same

/-- Version, number and scope determine a well-formed address. -/
theorem eq_iff_denotes {ip other : IpAddress} (formed : ip.IsWellFormed)
    (formedOther : other.IsWellFormed) :
    ip = other ↔
      ip.version = other.version ∧ ip.number = other.number ∧ ip.scope? = other.scope? := by
  refine ⟨fun same => by simp [same], ?_⟩
  rintro ⟨version, number, scope⟩
  cases formed with
  | v4 four small =>
    cases formedOther with
    | v4 fourOther smallOther =>
      rw [ofDigits_reverse_inj (by decide) (four.trans fourOther.symm) small smallOther number]
    | v6 => cases version
  | v6 eight small =>
    cases formedOther with
    | v4 => cases version
    | v6 eightOther smallOther =>
      rw [ofDigits_reverse_inj (by decide) (eight.trans eightOther.symm) small smallOther number]
      cases scope
      rfl

end IpAddress

namespace NodeAddress

open IpAddress Number

/-- The node that a host in canonical spelling and a port stand for. -/
def ofIp (ip : IpAddress) (port : Int) : NodeAddress :=
  ⟨String.ofList ip.toChars, port⟩

theorem ofIp_inj {host other : List Char} {ip otherIp : IpAddress} {port : Int}
    (read : ofChars? host = some ip) (readOther : ofChars? other = some otherIp) :
    ofIp ip port = ofIp otherIp port ↔ ip = otherIp := by
  rw [← toChars_inj read readOther]
  constructor
  · intro same
    have hosts := congrArg (fun a => a.host.toList) same
    simpa [ofIp] using hosts
  · intro same
    rw [ofIp, ofIp, same]

theorem parseTrimmed_of_badPort {cs host : List Char} {digits : Option (List Char)}
    {error : AddressError} (parted : splitPort? cs = some (host, digits))
    (refused : readPort digits = .error error) : parseTrimmed cs = .error error := by
  cases cs with
  | nil =>
    cases parted
    cases refused
  | cons c cs => simp [parseTrimmed, parted, refused]

section Accepted

variable {host : String} {ip : IpAddress} (read : ofChars? host.toList = some ip)

include read

/-- An accepted host is brought into the canonical spelling, which is not empty. -/
theorem canonicalHost_of_accepted :
    canonicalHost host.toList = ip.toChars ∧ canonicalHost host.toList ≠ [] := by
  have spelled : canonicalHost host.toList = ip.toChars := by rw [canonicalHost, read]
  refine ⟨spelled, fun empty => ?_⟩
  have back := ofChars?_toChars (isWellFormed_of_ofChars? read)
  rw [← spelled, empty] at back
  cases back

/-- A host that is split off with a port is read as its address. -/
theorem parseTrimmed_of_accepted {cs : List Char} {digits : Option (List Char)} {port : Int}
    (parted : splitPort? cs = some (host.toList, digits)) (reads : readPort digits = .ok port) :
    parseTrimmed cs = .ok (ofIp ip port) := by
  obtain ⟨spelled, shown⟩ := canonicalHost_of_accepted read
  exact parseTrimmed_eq_ok.2 ⟨_, _, port, parted, reads, shown, by rw [spelled]; rfl⟩

theorem trimStart_of_accepted : Text.trimStart host.toList = host.toList := by
  refine Text.trimStart_eq_self_iff.2 fun c first => ?_
  obtain ⟨d, starts, spelled⟩ := head?_of_ofChars? read
  rw [starts] at first
  cases first
  exact spelled.shown.1

/-- A host in brackets is read with the port after it, or refused if that is too long. -/
theorem parse_bracketed_port (clean : ']' ∉ host.toList) (n : Int) :
    parse ("[" ++ host ++ "]:" ++ toString n) =
      if maxDigits < (decimalDigits n.natAbs).length then
        .error (.badPort (.tooLong (decimalDigits n.natAbs).length))
      else .ok (ofIp ip n) := by
  have opening : Text.isBlank '[' = false := rfl
  have text : ("[" ++ host ++ "]:" ++ toString n).toList =
      '[' :: (host.toList ++ [']']) ++ ':' :: (toString n).toList := by simp
  have parted : splitPort? ('[' :: (host.toList ++ [']']) ++ ':' :: (toString n).toList) =
      some (host.toList, some (toString n).toList) := splitPort?_of_bracketed clean
  rw [parse, text, trim_port, Text.trimStart_cons_of_not_blank opening]
  split
  · next long =>
    apply parseTrimmed_of_badPort parted
    rw [readPort, read_toString_eq, if_pos long]
    rfl
  · next short =>
    apply parseTrimmed_of_accepted read parted
    rw [readPort, read_toString_eq, if_neg short]
    rfl

/-- A host in brackets alone has the default port. -/
theorem parse_bracketed (clean : ']' ∉ host.toList) :
    parse ("[" ++ host ++ "]") = .ok (ofIp ip defaultPort) := by
  have text : ("[" ++ host ++ "]").toList = '[' :: host.toList ++ [']'] := by simp
  have trimmed : Text.trim ('[' :: host.toList ++ [']']) = '[' :: host.toList ++ [']'] := by
    rw [Text.trim, List.cons_append, Text.trimStart_cons_of_not_blank rfl, ← List.cons_append]
    exact Text.trimEnd_append (by simp) (by simp; rfl)
  have parted : splitPort? ('[' :: host.toList ++ [']']) = some (host.toList, none) := by
    have split : splitFirst? ']' (host.toList ++ [']']) = some (host.toList, []) :=
      splitFirst?_eq_some.2 ⟨rfl, clean⟩
    rw [List.cons_append, splitPort?, split]
  rw [parse, text, trimmed]
  exact parseTrimmed_of_accepted read parted rfl

/-- A host alone is never taken for a host with a port, though it may have colons. -/
theorem parse_bare (ends : ∀ c, host.toList.getLast? = some c → Text.isBlank c = false) :
    parse host = .ok (ofIp ip defaultPort) := by
  obtain ⟨first, starts, spelled⟩ := head?_of_ofChars? read
  have trimmed : Text.trim host.toList = host.toList := by
    rw [Text.trim, trimStart_of_accepted read]
    have filled : host.toList ≠ [] := fun empty => by simp [empty] at starts
    obtain ⟨front, last, same⟩ : ∃ front last, host.toList = front ++ [last] :=
      ⟨_, _, (List.dropLast_concat_getLast filled).symm⟩
    rw [same]
    exact Text.trimEnd_append (by simp) (by simpa using ends last (by simp [same]))
  have parted : splitPort? host.toList = some (host.toList, none) := by
    rw [splitPort?.eq_def]
    split
    · next inner same =>
      rw [same] at starts
      cases starts
      exact absurd rfl spelled.shown.2.1
    · rw [if_neg (count_colon_of_ofChars? read)]
  rw [parse, trimmed]
  exact parseTrimmed_of_accepted read parted rfl

omit read in
/-- A host of version four has neither colons nor brackets, and ends with no blank. -/
theorem clean_of_version_four (read : ofChars? host.toList = some ip) (four : ip.version = 4) :
    ':' ∉ host.toList ∧ ']' ∉ host.toList ∧
      ∀ c, host.toList.getLast? = some c → Text.isBlank c = false := by
  obtain ⟨octets, -, octetsRead⟩ | ⟨_, _, groups, scope, rfl, -, -⟩ := ofChars?_eq_some read
  · have spelled := isSpellingChar_of_octets? octetsRead
    exact ⟨colon_notMem_of_octets? octetsRead, fun bracket => (spelled _ bracket).shown.2.2 rfl,
      fun c last => (spelled c (List.mem_of_getLast? last)).shown.1⟩
  · cases four

/-- A host without colons is read with the port after it. -/
theorem parse_port (noColon : ':' ∉ host.toList) :
    parse (host ++ ":7000") = .ok (ofIp ip defaultPort) := by
  have text : (host ++ ":7000").toList = host.toList ++ ':' :: (toString defaultPort).toList := by
    rw [String.toList_append]
    rfl
  obtain ⟨first, starts, spelled⟩ := head?_of_ofChars? read
  have noBracket : host.toList.head? ≠ some '[' := by
    rw [starts]
    exact fun same => spelled.shown.2.1 (Option.some.inj same)
  have parted : splitPort? (host.toList ++ ':' :: (toString defaultPort).toList) =
      some (host.toList, some (toString defaultPort).toList) :=
    splitPort?_of_bare noColon (by decide) noBracket
  rw [parse, text, trim_port, trimStart_of_accepted read]
  exact parseTrimmed_of_accepted read parted (by decide)

end Accepted

/-- Two bracketed hosts with one port, of which the digits are not too many, are read as one
node exactly if they denote one version, number and scope. An accepted text of version six
that ends with no blank, and one of version four, are read as the same node alone, in brackets
and with the default port. -/
theorem parse_eq_iff_denotes :
    (∀ (host other : String) (ip otherIp : IpAddress) (n : Int),
      ofChars? host.toList = some ip → ofChars? other.toList = some otherIp →
      ']' ∉ host.toList → ']' ∉ other.toList → (decimalDigits n.natAbs).length ≤ maxDigits →
      ∃ a b, parse ("[" ++ host ++ "]:" ++ toString n) = .ok a ∧
        parse ("[" ++ other ++ "]:" ++ toString n) = .ok b ∧
        (a = b ↔ ip.version = otherIp.version ∧ ip.number = otherIp.number ∧
          ip.scope? = otherIp.scope?)) ∧
    (∀ (host : String) (ip : IpAddress), ofChars? host.toList = some ip → ip.version = 6 →
      ']' ∉ host.toList → (∀ c, host.toList.getLast? = some c → Text.isBlank c = false) →
      ∃ a, a.port = defaultPort ∧ parse host = .ok a ∧ parse ("[" ++ host ++ "]") = .ok a ∧
        parse ("[" ++ host ++ "]:7000") = .ok a) ∧
    ∀ (host : String) (ip : IpAddress), ofChars? host.toList = some ip → ip.version = 4 →
      ∃ a, a.port = defaultPort ∧ parse host = .ok a ∧ parse (host ++ ":7000") = .ok a ∧
        parse ("[" ++ host ++ "]:7000") = .ok a := by
  have bracketed7000 {host : String} {ip : IpAddress} (read : ofChars? host.toList = some ip)
      (clean : ']' ∉ host.toList) :
      parse ("[" ++ host ++ "]:7000") = .ok (ofIp ip defaultPort) := by
    have port : "]:7000" = "]:" ++ toString defaultPort := by decide
    rw [port, ← String.append_assoc, parse_bracketed_port read clean, if_neg (by decide)]
  refine ⟨?_, ?_, ?_⟩
  · intro host other ip otherIp n read readOther clean cleanOther short
    have fits : ¬ maxDigits < (decimalDigits n.natAbs).length := by omega
    refine ⟨ofIp ip n, ofIp otherIp n, ?_, ?_, ?_⟩
    · rw [parse_bracketed_port read clean, if_neg fits]
    · rw [parse_bracketed_port readOther cleanOther, if_neg fits]
    · rw [ofIp_inj read readOther]
      exact eq_iff_denotes (isWellFormed_of_ofChars? read) (isWellFormed_of_ofChars? readOther)
  · intro host ip read _ clean ends
    exact ⟨ofIp ip defaultPort, rfl, parse_bare read ends, parse_bracketed read clean,
      bracketed7000 read clean⟩
  · intro host ip read four
    obtain ⟨noColon, noBracket, ends⟩ := clean_of_version_four read four
    exact ⟨ofIp ip defaultPort, rfl, parse_bare read ends, parse_port read noColon,
      bracketed7000 read noBracket⟩

/-- A compressed spelling and one with a dotted quad and capitals, which denote one number
with a scope; and the loopback address of version four. -/
theorem parse_eq_of_spellings :
    let host := "::ffff:102:304%a"
    let other := "0:0:0::FFFF:1.2.3.4%a"
    let ip : IpAddress := .v6 [0, 0, 0, 0, 0, 0xffff, 0x102, 0x304] (some "a")
    let four : IpAddress := .v4 [127, 0, 0, 1]
    ofChars? host.toList = some ip ∧ ofChars? other.toList = some ip ∧
    ']' ∉ host.toList ∧ ']' ∉ other.toList ∧
    (decimalDigits (-1 : Int).natAbs).length ≤ maxDigits ∧
    (∃ a b, parse ("[" ++ host ++ "]:" ++ toString (-1 : Int)) = .ok a ∧
      parse ("[" ++ other ++ "]:" ++ toString (-1 : Int)) = .ok b ∧ a = b) ∧
    ip.version = 6 ∧ (∀ c, other.toList.getLast? = some c → Text.isBlank c = false) ∧
    (∃ a, a.port = defaultPort ∧ parse other = .ok a ∧ parse ("[" ++ other ++ "]") = .ok a ∧
      parse ("[" ++ other ++ "]:7000") = .ok a) ∧
    ofChars? "127.0.0.1".toList = some four ∧ four.version = 4 ∧
    ∃ a, a.port = defaultPort ∧ parse "127.0.0.1" = .ok a ∧
      parse ("127.0.0.1" ++ ":7000") = .ok a ∧ parse ("[" ++ "127.0.0.1" ++ "]:7000") = .ok a := by
  intro host other ip four
  have read : ofChars? host.toList = some ip := by decide
  have readOther : ofChars? other.toList = some ip := by decide
  have readFour : ofChars? "127.0.0.1".toList = some four := by decide
  have clean : ']' ∉ host.toList := by decide
  have cleanOther : ']' ∉ other.toList := by decide
  have short : (decimalDigits (-1 : Int).natAbs).length ≤ maxDigits := by decide
  have ends : ∀ c, other.toList.getLast? = some c → Text.isBlank c = false := by
    have last : other.toList.getLast? = some 'a' := by decide
    intro c found
    rw [last] at found
    cases found
    rfl
  obtain ⟨a, b, first, second, same⟩ :=
    parse_eq_iff_denotes.1 host other ip ip (-1) read readOther clean cleanOther short
  exact ⟨read, readOther, clean, cleanOther, short,
    ⟨a, b, first, second, same.2 ⟨rfl, rfl, rfl⟩⟩, rfl, ends,
    parse_eq_iff_denotes.2.1 other ip readOther rfl cleanOther ends, readFour, rfl,
    parse_eq_iff_denotes.2.2 "127.0.0.1" four readFour rfl⟩

/-- One host with a port of 4301 digits is not read as a node, so not as the same one twice. -/
theorem not_parse_long_port :
    let n : Int := Nat.pow 10 maxDigits
    let ip : IpAddress := .v6 [0, 0, 0, 0, 0, 0, 0, 1] none
    ofChars? "::1".toList = some ip ∧ ']' ∉ "::1".toList ∧
    parse ("[" ++ "::1" ++ "]:" ++ toString n) = .error (.badPort (.tooLong 4301)) ∧
    ¬ ∃ a b, parse ("[" ++ "::1" ++ "]:" ++ toString n) = .ok a ∧
      parse ("[" ++ "::1" ++ "]:" ++ toString n) = .ok b ∧ a = b := by
  intro n ip
  have read : ofChars? "::1".toList = some ip := by decide
  have clean : ']' ∉ "::1".toList := by decide
  have digits : (decimalDigits n.natAbs).length = 4301 := by
    rw [Int.natAbs_natCast, length_decimalDigits_pow, maxDigits]
  have refused : parse ("[" ++ "::1" ++ "]:" ++ toString n) = .error (.badPort (.tooLong 4301)) := by
    rw [parse_bracketed_port read clean, digits, if_pos (by decide)]
  refine ⟨read, clean, refused, ?_⟩
  rintro ⟨a, b, first, -, -⟩
  rw [refused] at first
  cases first

end NodeAddress

end ClusterTopology
