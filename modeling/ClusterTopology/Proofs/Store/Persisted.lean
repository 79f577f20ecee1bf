import ClusterTopology.Proofs.Address.Keys
import ClusterTopology.Proofs.Store.Agreement
import Mathlib.Data.List.Nodup

/-!
# Placements there and back

Placements that are written out entry by entry, each under the text of its
node's address, are loaded again as they were: in the same order, with nothing
lost, merged or skipped. It takes that every address reads back from its text;
the records may be written with either name of the datacenter, in either order,
and in any form that JSON has for them.
-/

namespace ClusterTopology

namespace Placement

theorem fieldText_text (s : String) : fieldText (some (.text s)) = s := by
  by_cases empty : s = ""
  · simp [fieldText, Value.isPresent, empty]
  · simp [fieldText, Value.isPresent, Value.plain, empty]

/-- A mapping that records a placement: the datacenter under one of its names and the rack,
and nothing else. -/
inductive Recorded (p : Placement) : Value → Prop
  | datacenterFirst {name : String} (known : name = "data_center" ∨ name = "datacenter") :
    Recorded p (.map [(.text name, .text p.datacenter), (.text "rack", .text p.rack)])
  | rackFirst {name : String} (known : name = "data_center" ∨ name = "datacenter") :
    Recorded p (.map [(.text "rack", .text p.rack), (.text name, .text p.datacenter)])

/-- A recorded placement is what the record tells, empty texts included. -/
theorem Recorded.ofRecord {p : Placement} {record : Value} (recorded : p.Recorded record) :
    ofRecord record = .ok p := by
  cases recorded with
  | datacenterFirst known =>
    rcases known with rfl | rfl <;>
      simp [Placement.ofRecord, Value.field?, Entries.get?, fieldText_text]
  | rackFirst known =>
    rcases known with rfl | rfl <;>
      simp [Placement.ofRecord, Value.field?, Entries.get?, fieldText_text]

end Placement

namespace Store

/-- An entry of a hash for a node and its placement: its address and the JSON of a record,
as texts or as bytes. -/
structure HashHolds (datum : Datum × Datum) (entry : NodeAddress × Placement) : Prop where
  field : datum.1.decode = .ok entry.1.toText
  value : ∃ text record, datum.2.decode = .ok text ∧ Json.read text = .ok record ∧
    entry.2.Recorded record

/-- An entry of a mapping for a node and its placement: its address and a record. -/
structure MapHolds (member : Scalar × Value) (entry : NodeAddress × Placement) : Prop where
  key : member.1 = .text entry.1.toText
  record : entry.2.Recorded member.2

/-- The reading of an entry that tells a placement. -/
def readingFor (entry : NodeAddress × Placement) : Reading :=
  (entry.1.toText, .ok entry)

/-- A record under the text of an address that reads back tells its placement. -/
theorem reading_of_recorded {node : NodeAddress} {p : Placement} {record : Value}
    (same : NodeAddress.parse node.toText = .ok node) (recorded : p.Recorded record) :
    reading (node.toText, record) = readingFor (node, p) := by
  -- A record is a mapping, so it is not read as JSON a second time.
  have unfolds : unfoldRecord record = .ok record := by cases recorded <;> rfl
  rw [reading, readingFor, readEntry, unfolds]
  simp [recorded.ofRecord, same, bind, Except.bind, pure, Except.pure]

theorem reading_of_recorded_text {node : NodeAddress} {p : Placement} {record : Value}
    {text : String} (same : NodeAddress.parse node.toText = .ok node)
    (read : Json.read text = .ok record) (recorded : p.Recorded record) :
    reading (node.toText, .text text) = readingFor (node, p) := by
  have other : ∀ s, record ≠ .text s := by
    rintro s rfl
    cases recorded
  rw [← reading_of_standsFor (.value read other), reading_of_recorded same recorded]

/-- Readings that tell placements of different nodes tell just these and skip nothing. -/
theorem told_readingFor {placements : Placements}
    (distinct : (Entries.keys placements).Nodup) :
    told (placements.map readingFor) = .ok placements ∧
      skipped (placements.map readingFor) = [] := by
  have readable : ∀ r ∈ placements.map readingFor, r.isFatal = false := by
    intro r found
    obtain ⟨entry, -, rfl⟩ := List.mem_map.1 found
    rfl
  obtain ⟨tells, skips⟩ := told_of_readable readable
  rw [tells, skips, List.filterMap_map, List.filterMap_map]
  have all : placements.filterMap ((fun r : Reading => r.2.toOption) ∘ readingFor) = placements :=
    List.filterMap_some ..
  have none : placements.filterMap (Reading.fault? ∘ readingFor) = [] := by
    simp [List.filterMap_eq_nil_iff, Reading.fault?, readingFor]
  rw [all, none, Entries.ofList_of_nodup distinct]
  exact ⟨rfl, rfl⟩

/-- The texts of a hash of placements: one entry for each node, under the text of its
address, with the reading that tells its placement. -/
theorem exists_texts_of_hashHolds {hash : Entries Datum Datum} {placements : Placements}
    (holds : List.Forall₂ HashHolds hash placements)
    (reads : ∀ node ∈ Entries.keys placements, NodeAddress.parse node.toText = .ok node) :
    ∃ entries : Entries String String,
      List.Forall₂ (fun datum entry =>
        datum.1.decode = .ok entry.1 ∧ datum.2.decode = .ok entry.2) hash entries ∧
      Entries.keys entries = (Entries.keys placements).map NodeAddress.toText ∧
      readingsOf entries = placements.map readingFor := by
  induction holds with
  | nil => exact ⟨[], .nil, rfl, rfl⟩
  | @cons datum entry hash placements now later ih =>
    obtain ⟨entries, decoded, keys, readings⟩ := ih fun other found => reads other (.tail _ found)
    obtain ⟨node, p⟩ := entry
    obtain ⟨text, record, decodes, read, recorded⟩ := now.value
    have same : NodeAddress.parse node.toText = .ok node := reads node List.mem_cons_self
    refine ⟨(node.toText, text) :: entries, .cons ⟨now.field, decodes⟩ decoded, ?_, ?_⟩
    · exact congrArg (node.toText :: ·) keys
    · show reading (node.toText, .text text) :: readingsOf entries = _
      rw [reading_of_recorded_text same read recorded, readings]
      rfl

/-- A hash of placements is decoded, to entries with the readings that tell them. -/
theorem decodeHash_of_hashHolds {hash : Entries Datum Datum} {placements : Placements}
    (holds : List.Forall₂ HashHolds hash placements)
    (distinct : (Entries.keys placements).Nodup)
    (reads : ∀ node ∈ Entries.keys placements, NodeAddress.parse node.toText = .ok node) :
    ∃ entries, decodeHash hash = .ok entries ∧ readingsOf entries = placements.map readingFor := by
  obtain ⟨entries, decoded, keys, readings⟩ := exists_texts_of_hashHolds holds reads
  -- Different nodes have different texts, so no field is written over another.
  have fields : (Entries.keys entries).Nodup := by
    rw [keys]
    exact distinct.map fun _ _ same => NodeAddress.toText_inj.1 same
  exact ⟨entries, decodeHash_of_decoded decoded fields, readings⟩

/-- The members of a mapping have the readings that tell its placements. -/
theorem readings_of_mapHolds {members : List (Scalar × Value)} {placements : Placements}
    (holds : List.Forall₂ MapHolds members placements)
    (reads : ∀ node ∈ Entries.keys placements, NodeAddress.parse node.toText = .ok node) :
    (members.map fun (key, record) => reading (key.plain, record)) =
      placements.map readingFor := by
  induction holds with
  | nil => rfl
  | @cons member entry members placements now later ih =>
    obtain ⟨key, record⟩ := member
    obtain ⟨node, p⟩ := entry
    obtain ⟨rfl, recorded⟩ := now
    have same : NodeAddress.parse node.toText = .ok node := reads node List.mem_cons_self
    rw [List.map_cons, List.map_cons, ih fun other found => reads other (.tail _ found)]
    exact congrArg (· :: _) (reading_of_recorded same recorded)

/-- The report on placements that were all loaded. -/
def allLoaded (origin : String) (placements : Placements) : Event :=
  .log ⟨logger, .info,
    "Loaded " ++ toString placements.length ++ " persisted placements from " ++ origin⟩

/-- Placements of different nodes whose addresses read back from their texts are loaded from
a hash in Redis and from the mapping of a file exactly as they are, with no report but the one
on their number. -/
theorem load_persisted {placements : Placements} (distinct : (Entries.keys placements).Nodup)
    (reads : ∀ node ∈ Entries.keys placements, NodeAddress.parse node.toText = .ok node) :
    (∀ (namespaceName : String) (w : World), w.redis.failure = none →
      List.Forall₂ HashHolds (w.redis.hash (peersKey namespaceName)) placements →
      (load (.redis namespaceName)).run w =
        ⟨.ok placements,
          [.call (.hashGetAll (peersKey namespaceName)), allLoaded "Redis" placements]⟩) ∧
    ∀ (path : Path) (w : World) (data : List UInt8) (text : String)
      (members : List (Scalar × Value)), w.files.read path = .ok data →
      Utf8.decodeLines data = .ok text → Json.read text = .ok (.map members) →
      List.Forall₂ MapHolds members placements →
      (load (.file path)).run w = ⟨.ok placements, [allLoaded path.toText placements]⟩ := by
  obtain ⟨tells, skips⟩ := told_readingFor distinct
  constructor
  · intro namespaceName w up holds
    obtain ⟨entries, decoded, readings⟩ := decodeHash_of_hashHolds holds distinct reads
    rw [load, run_loadRedis_of_decoded up decoded, readings, tells, skips]
    rfl
  · intro path w data text members holds decoded parsed mapping
    have read : readFile w.files path = .ok (.map members) :=
      readFile_of_parsed holds decoded parsed
    rw [load, run_loadFile_of_map (Files.contains_of_read holds) read,
      readings_of_mapHolds mapping reads, tells, skips]
    rfl

set_option maxRecDepth 2048 in
/-- Two nodes, one with colons in its host and no datacenter, in a hash and in a file. -/
theorem load_persisted_pair :
    let placements : Placements := [(⟨"n", 1⟩, ⟨"e", "1"⟩), (⟨"::1", 1⟩, ⟨"", "2"⟩)]
    let hash : Entries Datum Datum :=
      [(.text "n:1",
          .text "\x7b\"data_center\":\"e\",\"rack\":\"1\"\x7d"),
        (.text "[::1]:1", .text "\x7b\"rack\":\"2\",\"datacenter\":\"\"\x7d")]
    let members : List (Scalar × Value) :=
      [(.text "n:1", .map [(.text "data_center", .text "e"), (.text "rack", .text "1")]),
        (.text "[::1]:1", .map [(.text "rack", .text "2"), (.text "datacenter", .text "")])]
    let text := "\x7b\"n:1\":\x7b\"data_center\":\"e\",\"rack\":\"1\"\x7d," ++
      "\"[::1]:1\":\x7b\"rack\":\"2\",\"datacenter\":\"\"\x7d\x7d"
    let w : World := {
      http := fun _ => .unreachable ""
      redis := ⟨[("r:topology:peers", hash)], none, none⟩
      files := ⟨[(["p"], .file (Utf8.encode text))]⟩
      log := none
      time := "" }
    (Entries.keys placements).Nodup ∧
    (∀ node ∈ Entries.keys placements, NodeAddress.parse node.toText = .ok node) ∧
    List.Forall₂ HashHolds (w.redis.hash (peersKey "r")) placements ∧
    w.files.read ⟨"", ["p"]⟩ = .ok (Utf8.encode text) ∧
    Utf8.decodeLines (Utf8.encode text) = .ok text ∧ Json.read text = .ok (.map members) ∧
    List.Forall₂ MapHolds members placements ∧
    (load (.redis "r")).run w =
      ⟨.ok placements, [.call (.hashGetAll (peersKey "r")), allLoaded "Redis" placements]⟩ ∧
    (load (.file ⟨"", ["p"]⟩)).run w = ⟨.ok placements, [allLoaded "p" placements]⟩ := by
  intro placements hash members text w
  have distinct : (Entries.keys placements).Nodup := by decide
  have reads : ∀ node ∈ Entries.keys placements, NodeAddress.parse node.toText = .ok node := by
    decide +kernel
  have first : Placement.Recorded ⟨"e", "1"⟩
      (.map [(.text "data_center", .text "e"), (.text "rack", .text "1")]) :=
    .datacenterFirst (.inl rfl)
  have second : Placement.Recorded ⟨"", "2"⟩
      (.map [(.text "rack", .text "2"), (.text "datacenter", .text "")]) :=
    .rackFirst (.inr rfl)
  have inHash : List.Forall₂ HashHolds (w.redis.hash (peersKey "r")) placements :=
    .cons ⟨rfl, _, _, rfl, by cbv, first⟩ (.cons ⟨rfl, _, _, rfl, by cbv, second⟩ .nil)
  have holds : w.files.read ⟨"", ["p"]⟩ = .ok (Utf8.encode text) := by decide +kernel
  have decoded : Utf8.decodeLines (Utf8.encode text) = .ok text := by decide +kernel
  have parsed : Json.read text = .ok (.map members) := by cbv
  have inFile : List.Forall₂ MapHolds members placements :=
    .cons ⟨rfl, first⟩ (.cons ⟨rfl, second⟩ .nil)
  obtain ⟨fromRedis, fromFile⟩ := load_persisted distinct reads
  exact ⟨distinct, reads, inHash, holds, decoded, parsed, inFile, fromRedis "r" w rfl inHash,
    fromFile ⟨"", ["p"]⟩ w _ text members holds decoded parsed inFile⟩

end Store

end ClusterTopology
