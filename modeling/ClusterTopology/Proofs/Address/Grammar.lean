import ClusterTopology.Failure
import ClusterTopology.Proofs.Address.Canonical
import ClusterTopology.Proofs.Address.RoundTrip
import ClusterTopology.Proofs.Number.Grammar

/-!
# The grammar of addresses

A trimmed text names a node if it has one of three shapes: a host in brackets, after which a port
may follow, a host and a port around the only colon, or a bare host. A text has one shape at most,
and the shape decides what the host and the port are. Exactly these texts are read; whatever else
is given is refused as a bad value.
-/

namespace ClusterTopology

namespace NodeAddress

open IpAddress Number

/-- The shapes of a text that names a node. -/
inductive Shape where
  | bracketed
  | withPort
  | bare
  deriving DecidableEq, Repr

/-- A text of some shape, with its host and, if it has one, the text of its port. -/
inductive Spelled (text : List Char) : Shape → List Char → Option (List Char) → Prop where
  | bracketed {host : List Char} (shown : host ≠ []) (clean : ']' ∉ host)
    (same : text = '[' :: (host ++ [']'])) : Spelled text .bracketed host none
  | bracketedPort {host port : List Char} (shown : host ≠ []) (clean : ']' ∉ host)
    (same : text = '[' :: (host ++ ']' :: ':' :: port)) :
    Spelled text .bracketed host (some port)
  | withPort {host port : List Char} (shown : host ≠ []) (unbracketed : text.head? ≠ some '[')
    (once : text.count ':' = 1) (same : text = host ++ ':' :: port) :
    Spelled text .withPort host (some port)
  | bare (shown : text ≠ []) (unbracketed : text.head? ≠ some '[')
    (notOnce : text.count ':' ≠ 1) : Spelled text .bare text none

/-- The port that the text of a port names; without one it is 7000. -/
inductive NamesPort : Option (List Char) → Int → Prop where
  | none : NamesPort none 7000
  | some {digits : List Char} {port : Int} (literal : IsLiteral digits port) :
    NamesPort (some digits) port

/-- How a host is written down: an accepted IP address in its canonical spelling, and any other
host as it is. -/
inductive Normalises (host : List Char) : List Char → Prop where
  | address {ip : IpAddress} (accepted : ofChars? host = some ip) : Normalises host ip.toChars
  | name (refused : ofChars? host = none) : Normalises host host

/-- The shape that a text can have. -/
def shapeOf (text : List Char) : Shape :=
  if text.head? = some '[' then .bracketed
  else if text.count ':' = 1 then .withPort
  else .bare

theorem Spelled.shape_eq {text host : List Char} {shape : Shape} {digits : Option (List Char)}
    (spelled : Spelled text shape host digits) : shape = shapeOf text := by
  cases spelled with
  | bracketed shown clean same => rw [same]; rfl
  | bracketedPort shown clean same => rw [same]; rfl
  | withPort shown unbracketed once same => rw [shapeOf, if_neg unbracketed, if_pos once]
  | bare shown unbracketed notOnce => rw [shapeOf, if_neg unbracketed, if_neg notOnce]

theorem splitPort?_of_unbracketed {text : List Char} (unbracketed : text.head? ≠ some '[') :
    splitPort? text =
      if text.count ':' = 1 then
        (splitFirst? ':' text).map fun (host, port) => (host, some port)
      else some (text, none) := by
  rw [splitPort?.eq_def]
  split
  · exact absurd rfl unbracketed
  · rfl

/-- A text of some shape is split into the host and the port of that shape. -/
theorem Spelled.splitPort {text host : List Char} {shape : Shape} {digits : Option (List Char)}
    (spelled : Spelled text shape host digits) : splitPort? text = some (host, digits) := by
  cases spelled with
  | bracketed shown clean same =>
    have closes : splitFirst? ']' (host ++ [']']) = some (host, []) :=
      splitFirst?_eq_some.2 ⟨rfl, clean⟩
    rw [same, splitPort?, closes]
  | @bracketedPort _ port shown clean same =>
    have closes : splitFirst? ']' (host ++ ']' :: ':' :: port) = some (host, ':' :: port) :=
      splitFirst?_eq_some.2 ⟨rfl, clean⟩
    rw [same, splitPort?, closes]
    rfl
  | withPort shown unbracketed once same =>
    have noColon : ':' ∉ host := by
      intro found
      have := List.count_pos_iff.2 found
      rw [same, List.count_append, List.count_cons_self] at once
      omega
    rw [splitPort?_of_unbracketed unbracketed, if_pos once,
      splitFirst?_eq_some.2 ⟨same, noColon⟩]
    rfl
  | bare shown unbracketed notOnce =>
    rw [splitPort?_of_unbracketed unbracketed, if_neg notOnce]

theorem Spelled.shown {text host : List Char} {shape : Shape} {digits : Option (List Char)}
    (spelled : Spelled text shape host digits) : host ≠ [] := by
  cases spelled with
  | bracketed shown => exact shown
  | bracketedPort shown => exact shown
  | withPort shown => exact shown
  | bare shown => exact shown

/-- A text that is split with a host has one of the shapes. -/
theorem spelled_of_splitPort {text host : List Char} {digits : Option (List Char)}
    (parted : splitPort? text = some (host, digits)) (shown : host ≠ []) :
    Spelled text (shapeOf text) host digits := by
  -- Colons are not counted after an opening bracket, so it comes first in both definitions.
  by_cases opens : text.head? = some '['
  · obtain ⟨inner, rfl⟩ := List.head?_eq_some_iff.1 opens
    rw [splitPort?] at parted
    split at parted
    · next closes =>
      cases parted
      obtain ⟨rfl, clean⟩ := splitFirst?_eq_some.1 closes
      exact .bracketed shown clean rfl
    · next closes =>
      cases parted
      obtain ⟨rfl, clean⟩ := splitFirst?_eq_some.1 closes
      exact .bracketedPort shown clean rfl
    · cases parted
  · rw [splitPort?_of_unbracketed opens] at parted
    rw [shapeOf, if_neg opens]
    split at parted
    · next once =>
      obtain ⟨⟨front, back⟩, split, same⟩ := Option.map_eq_some_iff.1 parted
      cases same
      rw [if_pos once]
      exact .withPort shown opens once (splitFirst?_eq_some.1 split).1
    · next notOnce =>
      cases parted
      rw [if_neg notOnce]
      exact .bare shown opens notOnce

theorem readPort_eq_ok_iff {digits : Option (List Char)} {port : Int} :
    readPort digits = .ok port ↔ NamesPort digits port := by
  cases digits with
  | none =>
    constructor
    · rintro ⟨⟩
      exact .none
    · rintro ⟨⟩
      rfl
  | some digits =>
    rw [readPort]
    constructor
    · intro reads
      rcases literal : Number.read digits with error | n
      · rw [literal] at reads
        cases reads
      · rw [literal] at reads
        cases reads
        exact .some (read_eq_ok_iff.1 literal)
    · rintro ⟨⟩
      next literal =>
        rw [read_of_isLiteral literal]
        rfl

theorem normalises_canonicalHost (host : List Char) : Normalises host (canonicalHost host) := by
  rw [canonicalHost]
  split
  · next accepted => exact .address accepted
  · next refused => exact .name refused

theorem Normalises.eq_canonicalHost {host name : List Char} (normalises : Normalises host name) :
    name = canonicalHost host := by
  cases normalises with
  | address accepted => rw [canonicalHost, accepted]
  | name refused => rw [canonicalHost, refused]

/-- Only an empty host is written down as nothing. -/
theorem canonicalHost_eq_nil {host : List Char} : canonicalHost host = [] ↔ host = [] := by
  constructor
  · intro empty
    rw [canonicalHost] at empty
    split at empty
    · next accepted =>
      have back := ofChars?_toChars (isWellFormed_of_ofChars? accepted)
      rw [empty] at back
      cases back
    · exact empty
  · rintro rfl
    rfl

/-- What a text tells about a node: its shape and its host, and the port with its text. -/
structure Tells (text : List Char) (shape : Shape) (host : List Char)
    (digits : Option (List Char)) (port : Int) : Prop where
  spelled : Spelled text shape host digits
  named : NamesPort digits port

theorem parseTrimmed_eq_ok_iff_tells {text : List Char} {a : NodeAddress} :
    parseTrimmed text = .ok a ↔ ∃ shape host digits port name,
      Tells text shape host digits port ∧ Normalises host name ∧
        a = ⟨String.ofList name, port⟩ := by
  rw [parseTrimmed_eq_ok]
  constructor
  · rintro ⟨host, digits, port, parted, reads, shown, rfl⟩
    have nonempty : host ≠ [] := fun empty => shown (canonicalHost_eq_nil.2 empty)
    exact ⟨_, host, digits, port, _,
      ⟨spelled_of_splitPort parted nonempty, readPort_eq_ok_iff.1 reads⟩,
      normalises_canonicalHost host, rfl⟩
  · rintro ⟨shape, host, digits, port, name, tells, normalises, rfl⟩
    rw [normalises.eq_canonicalHost]
    exact ⟨host, digits, port, tells.spelled.splitPort, readPort_eq_ok_iff.2 tells.named,
      fun empty => tells.spelled.shown (canonicalHost_eq_nil.1 empty), rfl⟩

section Unique

variable {text host host' : List Char} {shape shape' : Shape} {digits digits' : Option (List Char)}
  {port port' : Int}

/-- A text has one shape, and tells one host and one text of a port. -/
theorem Spelled.unique (spelled : Spelled text shape host digits)
    (other : Spelled text shape' host' digits') :
    shape = shape' ∧ host = host' ∧ digits = digits' := by
  have parts := spelled.splitPort.symm.trans other.splitPort
  cases parts
  exact ⟨spelled.shape_eq.trans other.shape_eq.symm, rfl, rfl⟩

theorem Tells.unique (tells : Tells text shape host digits port)
    (other : Tells text shape' host' digits' port') :
    shape = shape' ∧ host = host' ∧ digits = digits' ∧ port = port' := by
  obtain ⟨rfl, rfl, rfl⟩ := tells.spelled.unique other.spelled
  have ports := readPort_eq_ok_iff.2 tells.named
  rw [readPort_eq_ok_iff.2 other.named] at ports
  exact ⟨rfl, rfl, rfl, (Except.ok.inj ports).symm⟩

end Unique

/-- A text is read exactly if, without the blanks around it, it has one of the three shapes with
a port that is a literal. The shapes exclude each other and decide host and port. What is read is
the host as it is written down, with this port; every other text is refused as a bad value. -/
theorem parse_iff_tells (s : String) :
    ((∃ a, parse s = .ok a) ↔
      ∃! shape, ∃ host digits port, Tells (Text.trim s.toList) shape host digits port) ∧
    (∀ shape host digits port, Tells (Text.trim s.toList) shape host digits port →
      ∀ name, Normalises host name → parse s = .ok ⟨String.ofList name, port⟩) ∧
    (∀ shape host digits port shape' host' digits' port',
      Tells (Text.trim s.toList) shape host digits port →
      Tells (Text.trim s.toList) shape' host' digits' port' →
      shape = shape' ∧ host = host' ∧ digits = digits' ∧ port = port') ∧
    ((¬ ∃ shape host digits port, Tells (Text.trim s.toList) shape host digits port) →
      ∃ error, parse s = .error error ∧ (Failure.address error).isBadValue = true) := by
  have reads {a : NodeAddress} : parse s = .ok a ↔ ∃ shape host digits port name,
      Tells (Text.trim s.toList) shape host digits port ∧ Normalises host name ∧
        a = ⟨String.ofList name, port⟩ := parseTrimmed_eq_ok_iff_tells
  refine ⟨⟨?_, ?_⟩, ?_, fun _ _ _ _ _ _ _ _ => Tells.unique, ?_⟩
  · rintro ⟨a, read⟩
    obtain ⟨shape, host, digits, port, name, tells, -, -⟩ := reads.1 read
    refine ⟨shape, ⟨host, digits, port, tells⟩, ?_⟩
    rintro other ⟨host', digits', port', others⟩
    exact (others.unique tells).1
  · rintro ⟨shape, ⟨host, digits, port, tells⟩, -⟩
    exact ⟨_, reads.2 ⟨shape, host, digits, port, _, tells, normalises_canonicalHost host, rfl⟩⟩
  · intro shape host digits port tells name normalises
    exact reads.2 ⟨shape, host, digits, port, name, tells, normalises, rfl⟩
  · intro none
    rcases read : parse s with error | a
    · exact ⟨error, rfl, rfl⟩
    · obtain ⟨shape, host, digits, port, name, tells, -, -⟩ := reads.1 read
      exact absurd ⟨shape, host, digits, port, tells⟩ none

/-- A host in brackets with zeros to spare, and a port with a sign and an underscore. -/
theorem parse_of_padded_loopback :
    let s := " [0:0::1]:+9_042 "
    Tells (Text.trim s.toList) .bracketed "0:0::1".toList (some "+9_042".toList) 9042 ∧
      parse s = .ok ⟨"::1", 9042⟩ := by
  intro s
  have literal : IsLiteral "+9_042".toList 9042 := read_eq_ok_iff.1 (by decide)
  have tells : Tells (Text.trim s.toList) .bracketed "0:0::1".toList (some "+9_042".toList) 9042 :=
    ⟨.bracketedPort (by decide) (by decide) (by decide), .some literal⟩
  have accepted : ofChars? "0:0::1".toList = some (.v6 [0, 0, 0, 0, 0, 0, 0, 1] none) := by decide
  exact ⟨tells, (parse_iff_tells s).2.1 _ _ _ _ tells _ (.address accepted)⟩

end NodeAddress

end ClusterTopology
