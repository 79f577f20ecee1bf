import ClusterTopology.Membership
import ClusterTopology.Proofs.Address.RoundTrip
import ClusterTopology.Store

/-!
# Names of nodes in Redis

The text of an address tells the address: the last colon parts host and port,
and a host that holds a colon is one in brackets. So the hashes that nodes
publish never fall together within a namespace, and none of them is a hash of
placements, which ends with a letter and not with the digit of a port.
-/

namespace ClusterTopology

namespace Number

/-- The text of an integer tells the integer, however many digits it has. -/
theorem toList_toString_inj {m n : Int} :
    (toString m).toList = (toString n).toList ↔ m = n := by
  refine ⟨fun same => ?_, fun same => by rw [same]⟩
  have digits : m.natAbs = n.natAbs → decide (m < 0) = decide (n < 0) → m = n := by
    intro size sign
    simp only [decide_eq_decide] at sign
    omega
  have value (k : Nat) : Nat.ofDigitChars 10 (decimalDigits k) 0 = k :=
    Nat.ofDigitChars_ten_toDigits
  -- A minus sign is no digit.
  have noSign (k : Nat) (cs : List Char) : decimalDigits k ≠ '-' :: cs := by
    intro starts
    have digit : ('-' : Char).isDigit := isDigit_of_mem_decimalDigits (starts ▸ List.mem_cons_self)
    cases digit
  rw [toList_toString, toList_toString] at same
  split at same
  · next negative =>
    split at same
    · next negativeOther =>
      refine digits ?_ (by simp [negative, negativeOther])
      rw [← value m.natAbs, (List.cons.inj same).2, value]
    · exact absurd same.symm (noSign _ _)
  · next positive =>
    split at same
    · exact absurd same (noSign _ _)
    · next positiveOther =>
      refine digits ?_ (by simp [positive, positiveOther])
      rw [← value m.natAbs, same, value]

theorem getLast?_toString (n : Int) :
    ∃ c, (toString n).toList.getLast? = some c ∧ c.isDigit := by
  have filled := decimalDigits_ne_nil n.natAbs
  refine ⟨(decimalDigits n.natAbs).getLast filled, ?_,
    isDigit_of_mem_decimalDigits (List.getLast_mem filled)⟩
  rw [toList_toString]
  split
  · rw [List.getLast?_cons, List.getLast?_eq_some_getLast filled]
    rfl
  · exact List.getLast?_eq_some_getLast filled

end Number

namespace NodeAddress

open IpAddress Number

/-- Two texts are cut alike at their last colons. -/
theorem append_colon_inj {front other port otherPort : List Char} (clean : ':' ∉ port)
    (cleanOther : ':' ∉ otherPort) (same : front ++ ':' :: port = other ++ ':' :: otherPort) :
    front = other ∧ port = otherPort := by
  have cut {front port : List Char} (clean : ':' ∉ port) :
      splitFirst? ':' (front ++ ':' :: port).reverse = some (port.reverse, front.reverse) :=
    splitFirst?_eq_some.2 ⟨by simp, by simpa using clean⟩
  have parts : splitFirst? ':' (front ++ ':' :: port).reverse =
      some (port.reverse, front.reverse) := cut clean
  rw [same, cut cleanOther, Option.some.injEq, Prod.mk.injEq] at parts
  exact ⟨List.reverse_inj.1 parts.2.symm, List.reverse_inj.1 parts.1.symm⟩

theorem colon_notMem_toString (n : Int) : ':' ∉ (toString n).toList := by
  intro found
  rcases mem_toString found with minus | digit
  · cases minus
  · cases digit

theorem toText_inj {a b : NodeAddress} : a.toText = b.toText ↔ a = b := by
  refine ⟨fun same => ?_, fun same => by rw [same]⟩
  have texts := congrArg String.toList same
  rw [toList_toText, toList_toText] at texts
  obtain ⟨fronts, ports⟩ :=
    append_colon_inj (colon_notMem_toString a.port) (colon_notMem_toString b.port) texts
  -- A host without brackets around it has no colon, so it is not one in brackets.
  have hosts : a.host.toList = b.host.toList := by
    split at fronts
    · next colon =>
      split at fronts
      · exact List.append_cancel_right (List.cons.inj fronts).2
      · next noColon =>
        rw [← fronts] at noColon
        exact absurd (by simp [colon]) noColon
    · next noColon =>
      split at fronts
      · next colon =>
        rw [fronts] at noColon
        exact absurd (by simp [colon]) noColon
      · exact fronts
  obtain ⟨host, port⟩ := a
  obtain ⟨otherHost, otherPort⟩ := b
  rw [mk.injEq]
  exact ⟨String.toList_inj.1 hosts, toList_toString_inj.1 ports⟩

/-- The text of an address where it is written out; a port with too many digits cannot be. -/
def written (a : NodeAddress) : Except Failure String :=
  if a.isWritable then .ok a.toText else .error (.unwritable)

theorem written_of_isWritable {a : NodeAddress} (short : a.isWritable = true) :
    a.written = .ok a.toText := if_pos short

theorem written_of_not_isWritable {a : NodeAddress} (long : a.isWritable = false) :
    a.written = .error (.unwritable) := if_neg (by simp [long])

/-- Addresses that are written out are written alike only if they are one. -/
theorem written_inj {a b : NodeAddress} (short : a.isWritable = true)
    (shortOther : b.isWritable = true) :
    ∃ s t, a.written = .ok s ∧ b.written = .ok t ∧ (s = t ↔ a = b) :=
  ⟨a.toText, b.toText, written_of_isWritable short, written_of_isWritable shortOther, toText_inj⟩

/-- A port of 4301 digits keeps an address from being written, so from being written alike. -/
theorem not_written_long_port :
    let a : NodeAddress := ⟨"h", Nat.pow 10 maxDigits⟩
    a.written = .error (.unwritable) ∧
      ¬ ∃ s t, a.written = .ok s ∧ a.written = .ok t ∧ (s = t ↔ a = a) := by
  intro a
  have long : a.isWritable = false := by
    rw [isWritable, Int.natAbs_natCast, length_decimalDigits_pow]
    exact decide_eq_false (Nat.not_succ_le_self maxDigits)
  have refused := written_of_not_isWritable long
  refine ⟨refused, ?_⟩
  rintro ⟨s, t, written, -, -⟩
  rw [refused] at written
  cases written

end NodeAddress

namespace Membership

/-- The hash of a node in a namespace is that of no other node. -/
theorem stateKey_inj {namespaceName : String} {a b : NodeAddress} :
    stateKey namespaceName a = stateKey namespaceName b ↔ a = b := by
  refine ⟨fun same => ?_, fun same => by rw [same]⟩
  have texts := congrArg String.toList same
  simp only [stateKey, String.toList_append, List.append_assoc] at texts
  exact NodeAddress.toText_inj.1
    (String.toList_inj.1 (List.append_cancel_left (List.append_cancel_left texts)))

/-- Across namespaces two nodes may share a hash. -/
example : stateKey "r" ⟨"q:gossip:h", 7000⟩ = stateKey "r:gossip:[q" ⟨"h]", 7000⟩ := by decide

/-- A node is looked up under its written text, and only there; one without a written text
is not looked up. -/
theorem events_readRedis (namespaceName : String) (node : NodeAddress) (key : Attribute)
    (w : World) :
    ((readRedis namespaceName node key).run w).events =
      match node.written with
      | .ok text => [.call (.hashGet (namespaceName ++ ":gossip:" ++ text) key.name)]
      | .error _ => [] := by
  by_cases short : node.isWritable = true
  · rw [NodeAddress.written_of_isWritable short, readRedis, if_pos short,
      Effect.run_bind_of_ok rfl, Effect.run_bind_of_ok rfl]
    simp only [World.redis_after]
    rcases w.redis.failure with _ | reason
    · rcases Entries.get? (w.redis.hash (stateKey namespaceName node)) (.text key.name)
        with _ | value
      · rfl
      · dsimp only
        rcases value.decode with error | text
        · rfl
        · rfl
    · rfl
  · have long : node.isWritable = false := by simpa using short
    rw [NodeAddress.written_of_not_isWritable long, readRedis, if_neg short]
    rfl

theorem getLast?_stateKey (namespaceName : String) (node : NodeAddress) :
    ∃ c, (stateKey namespaceName node).toList.getLast? = some c ∧ c.isDigit := by
  obtain ⟨c, ends, digit⟩ := Number.getLast?_toString node.port
  refine ⟨c, ?_, digit⟩
  rw [stateKey, String.toList_append, NodeAddress.toList_toText, List.getLast?_append,
    List.getLast?_append, List.getLast?_cons, ends]
  rfl

end Membership

namespace Store

/-- The hash of placements in a namespace is that of no other namespace. -/
theorem peersKey_inj {namespaceName other : String} :
    peersKey namespaceName = peersKey other ↔ namespaceName = other := by
  refine ⟨fun same => ?_, fun same => by rw [same]⟩
  have texts := congrArg String.toList same
  simp only [peersKey, String.toList_append] at texts
  exact String.toList_inj.1 (List.append_cancel_right texts)

/-- No hash of a node is a hash of placements. -/
theorem stateKey_ne_peersKey {namespaceName other : String} {node : NodeAddress} :
    Membership.stateKey namespaceName node ≠ peersKey other := by
  intro same
  obtain ⟨c, ends, digit⟩ := Membership.getLast?_stateKey namespaceName node
  have letter : (peersKey other).toList.getLast? = some 's' := by
    rw [peersKey, String.toList_append, List.getLast?_append]
    rfl
  rw [same, letter] at ends
  cases ends
  cases digit

end Store

end ClusterTopology
