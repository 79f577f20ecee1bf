import ClusterTopology.Proofs.Store.Breaks
import ClusterTopology.Proofs.Text.Utf8
import Mathlib

/-!
# One record in Redis and in a file

The same entries, kept in a Redis hash or in a JSON file, are loaded alike: with
the same placements in the same order, and with a report on the same fields,
whatever the entries tell and however each of them is written. In a hash a text
may stand as bytes; in a file the value of a JSON text may stand for the text.
A record that is nested too deeply ends both loads in the same way.
-/

namespace ClusterTopology

/-- Whether a datum is a text, as it stands or as the bytes of its encoding. -/
inductive Datum.Holds (s : String) : Datum → Prop
  | text : Holds s (.text s)
  | bytes : Holds s (.bytes (Utf8.encode s))

theorem Datum.Holds.decode {s : String} {datum : Datum} (holds : datum.Holds s) :
    datum.decode = .ok s := by
  cases holds with
  | text => rfl
  | bytes => exact Utf8.decode_encode s

/-- A value that may stand in a file in the place of a text: the text itself, or what it
says as JSON unless that is a text again. -/
inductive Json.StandsFor (t : String) : Value → Prop
  | text : StandsFor t (.text t)
  | value {v : Value} (read : Json.read t = .ok v) (other : ∀ s, v ≠ .text s) : StandsFor t v

namespace Store

/-- A value that stands for a text is read as the text is. -/
theorem reading_of_standsFor {t : String} {v : Value} (stands : Json.StandsFor t v)
    (field : String) : reading (field, v) = reading (field, .text t) := by
  cases stands with
  | text => rfl
  | value read other =>
    have same : unfoldRecord v = unfoldRecord (.text t) := by
      rw [unfoldRecord_of_other other, unfoldRecord, read]
      rfl
    rw [reading, reading, readEntry, readEntry, same]

/-- A hash with the given entries: each field and each value is a text or its bytes. -/
def HashLists (hash : Entries Datum Datum) (entries : Entries String String) : Prop :=
  List.Forall₂ (fun datum entry => datum.1.Holds entry.1 ∧ datum.2.Holds entry.2) hash entries

/-- A mapping with the given entries: each value is a text or stands for it. -/
def MapLists (members : List (Scalar × Value)) (entries : Entries String String) : Prop :=
  List.Forall₂ (fun member entry => member.1 = .text entry.1 ∧ Json.StandsFor entry.2 member.2)
    members entries

theorem HashLists.decodeHash {hash : Entries Datum Datum} {entries : Entries String String}
    (lists : HashLists hash entries) (distinct : (Entries.keys entries).Nodup) :
    Store.decodeHash hash = .ok entries :=
  decodeHash_of_decoded (lists.imp fun _ _ holds => ⟨holds.1.decode, holds.2.decode⟩) distinct

theorem MapLists.readings {members : List (Scalar × Value)} {entries : Entries String String}
    (lists : MapLists members entries) :
    (members.map fun (key, record) => reading (key.plain, record)) = readingsOf entries := by
  induction lists with
  | nil => rfl
  | @cons member entry members entries now later ih =>
    obtain ⟨key, record⟩ := member
    obtain ⟨field, text⟩ := entry
    obtain ⟨rfl, stands⟩ := now
    rw [List.map_cons, ih]
    show reading (field, record) :: readingsOf entries =
      reading (field, .text text) :: readingsOf entries
    rw [reading_of_standsFor stands]

/-- A reading of a text is fatal exactly if the text is nested too deeply. -/
theorem isFatal_reading_text {field record : String} :
    (reading (field, .text record)).isFatal = true ↔ Json.IsTooDeep record := by
  rw [isFatal_reading, isFatal_iff]
  constructor
  · rintro ⟨text, same, deep⟩
    cases same
    exact deep
  · intro deep
    exact ⟨record, rfl, deep⟩

/-- Where no record is nested too deeply the placements are loaded, and the fields that are
skipped are those of the entries that cannot be read. -/
theorem told_of_shallow {entries : Entries String String}
    (shallow : ∀ entry ∈ entries, ¬ Json.IsTooDeep entry.2) :
    (∃ placements, told (readingsOf entries) = .ok placements) ∧
      ∀ field failure, (field, failure) ∈ skipped (readingsOf entries) ↔
        ∃ record, (field, record) ∈ entries ∧
          readEntry field (.text record) = .error failure := by
  have readable : ∀ r ∈ readingsOf entries, r.isFatal = false := by
    intro r found
    obtain ⟨⟨field, record⟩, listed, rfl⟩ := List.mem_map.1 found
    have whole : ¬ (reading (field, .text record)).isFatal = true := fun fatal =>
      shallow _ listed (isFatal_reading_text.1 fatal)
    simpa using whole
  obtain ⟨loads, skips⟩ := told_of_readable readable
  refine ⟨⟨_, loads⟩, ?_⟩
  intro field failure
  rw [skips]
  simp only [List.mem_filterMap, Reading.fault?_eq_some, exists_eq_right, readingsOf,
    List.mem_map, Prod.exists, reading, Prod.mk.injEq]
  constructor
  · rintro ⟨name, record, listed, rfl, fails⟩
    exact ⟨record, listed, fails⟩
  · rintro ⟨record, listed, fails⟩
    exact ⟨field, record, listed, rfl, fails⟩

/-- A hash and a file with the same entries, of different fields, are loaded alike: what
their readings tell is the result of both, and both report on the same skipped fields. These
are the ones whose entries cannot be read, and all others are loaded, unless a record is
nested too deeply; then both loads fail with that. -/
theorem load_agree {namespaceName : String} {path : Path} {w w' : World}
    {entries : Entries String String} {members : List (Scalar × Value)} {data : List UInt8}
    {text : String} (distinct : (Entries.keys entries).Nodup) (up : w.redis.failure = none)
    (hash : HashLists (w.redis.hash (peersKey namespaceName)) entries)
    (holds : w'.files.read path = .ok data) (decoded : Utf8.decodeLines data = .ok text)
    (parsed : Json.read text = .ok (.map members)) (mapping : MapLists members entries) :
    let readings := readingsOf entries
    (load (.redis namespaceName)).run w =
      ⟨told readings, .call (.hashGetAll (peersKey namespaceName)) ::
        ((skipped readings).map (skipReport (peersKey namespaceName)) ++
          loadReport "Redis" (told readings))⟩ ∧
    (load (.file path)).run w' =
      ⟨told readings, (skipped readings).map (skipReport path.toText) ++
        loadReport path.toText (told readings)⟩ ∧
    ((∀ entry ∈ entries, ¬ Json.IsTooDeep entry.2) →
      (∃ placements, told readings = .ok placements) ∧
        ∀ field failure, (field, failure) ∈ skipped readings ↔
          ∃ record, (field, record) ∈ entries ∧
            readEntry field (.text record) = .error failure) ∧
    ((∃ entry ∈ entries, Json.IsTooDeep entry.2) →
      ∃ isList, told readings = .error (.json (.tooDeep isList))) := by
  intro readings
  refine ⟨?_, ?_, told_of_shallow, ?_⟩
  · rw [load]
    exact run_loadRedis_of_decoded up (hash.decodeHash distinct)
  · have read : readFile w'.files path = .ok (.map members) :=
      readFile_of_parsed holds decoded parsed
    rw [load, run_loadFile_of_map (Files.contains_of_read holds) read, mapping.readings]
  · rintro ⟨⟨field, record⟩, listed, deep⟩
    exact told_of_fatal (List.mem_map_of_mem listed) (isFatal_reading_text.2 deep)

/-- Three entries, one with its field as bytes and one that tells no placement; the file has
a mapping in the place of the first text. -/
theorem load_agree_of_three :
    let entries : Entries String String :=
      [("10.0.0.2", "\x7b\"rack\":\"3\"\x7d"), ("é", "[]"), ("n", "\x7b\x7d")]
    let hash : Entries Datum Datum :=
      [(.text "10.0.0.2", .text "\x7b\"rack\":\"3\"\x7d"), (.bytes [0xc3, 0xa9], .text "[]"),
        (.text "n", .bytes [0x7b, 0x7d])]
    let members : List (Scalar × Value) :=
      [(.text "10.0.0.2", .map [(.text "rack", .text "3")]), (.text "é", .text "[]"),
        (.text "n", .text "\x7b\x7d")]
    let text := "\x7b\"10.0.0.2\":\x7b\"rack\":\"3\"\x7d,\"é\":\"[]\",\"n\":\"\x7b\x7d\"\x7d"
    let w : World := {
      http := fun _ => .unreachable ""
      redis := ⟨[("r:topology:peers", hash)], none, none⟩
      files := ⟨[(["p"], .file (Utf8.encode text))]⟩
      log := none
      time := "" }
    (Entries.keys entries).Nodup ∧ HashLists (w.redis.hash (peersKey "r")) entries ∧
    w.files.read ⟨"", ["p"]⟩ = .ok (Utf8.encode text) ∧
    Utf8.decodeLines (Utf8.encode text) = .ok text ∧ Json.read text = .ok (.map members) ∧
    MapLists members entries ∧
    ((load (.redis "r")).run w).result = ((load (.file ⟨"", ["p"]⟩)).run w).result ∧
    ((load (.redis "r")).run w).result.toOption =
      some [(⟨"10.0.0.2", 7000⟩, ⟨"", "3"⟩), (⟨"n", 7000⟩, ⟨"", ""⟩)] := by
  intro entries hash members text w
  have distinct : (Entries.keys entries).Nodup := by decide
  have lists : HashLists (w.redis.hash (peersKey "r")) entries :=
    .cons ⟨.text, .text⟩ (.cons ⟨.bytes, .text⟩ (.cons ⟨.text, .bytes⟩ .nil))
  have holds : w.files.read ⟨"", ["p"]⟩ = .ok (Utf8.encode text) := by decide +kernel
  have decoded : Utf8.decodeLines (Utf8.encode text) = .ok text := by decide +kernel
  have parsed : Json.read text = .ok (.map members) := by cbv
  have mapping : MapLists members entries := by
    refine .cons ⟨rfl, .value ?_ (by simp)⟩ (.cons ⟨rfl, .text⟩ (.cons ⟨rfl, .text⟩ .nil))
    cbv
  obtain ⟨inRedis, inFile, -, -⟩ := load_agree distinct rfl lists holds decoded parsed mapping
  refine ⟨distinct, lists, holds, decoded, parsed, mapping, ?_, by decide +kernel⟩
  rw [inRedis, inFile]

end Store

end ClusterTopology
