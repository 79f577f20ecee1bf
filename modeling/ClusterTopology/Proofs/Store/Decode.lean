import ClusterTopology.Proofs.Effect
import ClusterTopology.Store
import Mathlib.Data.List.Forall2
import Mathlib.Data.List.TakeWhile

/-!
# Loading entries

A store reads each of its entries by itself, and what it loads and reports is
told by these readings alone: neither by the source of the entries nor by the
way they are written there. This module says what loading from Redis and from a
file comes to, cause by cause: a server that fails, bytes that are no text, a
file that is missing or refused, and else the readings of the entries.
-/

namespace ClusterTopology

namespace Files

variable {files : Files} {path : Path}

/-- Only a path that is too long cannot be looked up. -/
theorem contains_eq_error : (∃ error, files.contains path = .error error) ↔
    path.hasNull = false ∧ files.place path = .error .nameTooLong := by
  rw [contains]
  rcases clean : path.hasNull with _ | _
  · rcases placed : files.place path with cause | place
    · cases cause <;> simp
    · cases place <;> simp
  · simp

theorem contains_of_read {data : List UInt8} (holds : files.read path = .ok data) :
    files.contains path = .ok true := by
  rw [read] at holds
  rw [contains]
  rcases clean : path.hasNull with _ | _
  · rcases placed : files.place path with cause | place
    · simp [clean, placed] at holds
    · cases place <;> simp_all
  · simp [clean] at holds

/-- What is there can be read, or is refused by the system. -/
theorem read_of_contains (present : files.contains path = .ok true) :
    (∃ data, files.read path = .ok data) ∨
      ∃ cause text, files.read path = .error (.refused cause text) := by
  rw [contains] at present
  rw [read]
  rcases clean : path.hasNull with _ | _
  · rcases placed : files.place path with cause | place
    · simp
    · rcases place with ⟨names, data | _⟩ | names | _ <;> simp
  · simp [clean] at present

end Files

namespace Store

theorem unfoldRecord_of_other {record : Value} (other : ∀ s, record ≠ .text s) :
    unfoldRecord record = .ok record := by
  rw [unfoldRecord.eq_def]
  split
  · next s => exact absurd rfl (other s)
  · rfl

/-- What an entry turns out to be: its field, and what it tells or why it cannot be
read. -/
abbrev Reading := String × Except Failure (NodeAddress × Placement)

/-- The reading of an entry. -/
def reading (entry : String × Value) : Reading :=
  (entry.1, readEntry entry.1 entry.2)

/-- The readings of entries whose records are texts. -/
def readingsOf (entries : Entries String String) : List Reading :=
  entries.map fun (field, record) => reading (field, .text record)

namespace Reading

/-- Whether a reading stops the loading. -/
def isFatal (r : Reading) : Bool :=
  match r.2 with
  | .error (.json (.tooDeep _)) => true
  | _ => false

/-- The field of an entry that cannot be read, with the reason. -/
def fault? (r : Reading) : Option (String × Failure) :=
  match r.2 with
  | .ok _ => none
  | .error failure => some (r.1, failure)

theorem isFatal_iff {r : Reading} :
    r.isFatal = true ↔ ∃ isList, r.2 = .error (.json (.tooDeep isList)) := by
  rw [isFatal]
  split
  · next isList same => simp [same]
  · next other => simpa using other

theorem fault?_eq_some {r : Reading} {field : String} {failure : Failure} :
    r.fault? = some (field, failure) ↔ r = (field, .error failure) := by
  obtain ⟨name, failed | found⟩ := r
  · simp [fault?]
  · simp [fault?]

end Reading

theorem isFatal_reading (entry : String × Value) : (reading entry).isFatal = isFatal entry := rfl

/-- What readings tell: the placements, of which the last one for a node counts, unless one
of the readings stops the loading. -/
def told (readings : List Reading) : Except Failure Placements :=
  match readings.dropWhile fun r => !r.isFatal with
  | [] => .ok (Entries.ofList (readings.filterMap fun r => r.2.toOption))
  | r :: _ => r.2.map fun _ => []

/-- The fields that are skipped, each with the reason, up to where the loading stops. -/
def skipped (readings : List Reading) : List (String × Failure) :=
  (readings.takeWhile fun r => !r.isFatal).filterMap Reading.fault?

/-- Readings of which none is fatal tell all their placements and skip all the others. -/
theorem told_of_readable {readings : List Reading} (readable : ∀ r ∈ readings, r.isFatal = false) :
    told readings = .ok (Entries.ofList (readings.filterMap fun r => r.2.toOption)) ∧
      skipped readings = readings.filterMap Reading.fault? := by
  have all : readings.takeWhile (fun r => !r.isFatal) = readings :=
    List.takeWhile_eq_self_iff.2 fun r found => by rw [readable r found]; rfl
  have none : readings.dropWhile (fun r => !r.isFatal) = [] :=
    List.dropWhile_eq_nil_iff.2 fun r found => by rw [readable r found]; rfl
  rw [told, skipped, all, none]
  exact ⟨rfl, rfl⟩

/-- A fatal reading is the failure of all of them. -/
theorem told_of_fatal {readings : List Reading} {r : Reading} (found : r ∈ readings)
    (fatal : r.isFatal = true) : ∃ isList, told readings = .error (.json (.tooDeep isList)) := by
  -- The first reading that is not passed over is itself fatal, and it is the failure.
  have stops := List.head?_dropWhile_not (fun r => !r.isFatal) readings
  rcases dropped : readings.dropWhile (fun r => !r.isFatal) with _ | ⟨first, others⟩
  · have readable := List.dropWhile_eq_nil_iff.1 dropped r found
    rw [fatal] at readable
    cases readable
  · rw [dropped] at stops
    obtain ⟨isList, same⟩ := Reading.isFatal_iff.1 (by simpa using stops)
    refine ⟨isList, ?_⟩
    rw [told, dropped]
    show first.2.map _ = _
    rw [same]
    rfl

/-- The first fatal reading is the failure; the skips are those before it. -/
theorem told_append_fatal {before after : List Reading} {r : Reading} {isList : Bool}
    (readable : ∀ r ∈ before, r.isFatal = false)
    (stops : r.2 = .error (.json (.tooDeep isList))) :
    told (before ++ r :: after) = .error (.json (.tooDeep isList)) ∧
      skipped (before ++ r :: after) = before.filterMap Reading.fault? := by
  have fatal : r.isFatal = true := Reading.isFatal_iff.2 ⟨isList, stops⟩
  have passed : ∀ r ∈ before, (!r.isFatal) = true := fun r found => by simp [readable r found]
  constructor
  · rw [told, List.dropWhile_append_of_pos passed, List.dropWhile_cons_of_neg (by simp [fatal])]
    simp only [stops, Except.map]
  · rw [skipped, List.takeWhile_append_of_pos passed, List.takeWhile_cons_of_neg (by simp [fatal]),
      List.append_nil]

/-- The report on a field of a source that is skipped. -/
def skipReport (source : String) (skip : String × Failure) : Event :=
  .log ⟨logger, .warning,
    "Skipping unreadable placement for " ++ skip.1 ++ " in " ++ source ++ ": " ++
      skip.2.message⟩

/-- The report on placements that were loaded; there is none where loading stopped. -/
def loadReport (origin : String) : Except Failure Placements → List Event
  | .ok placements =>
    [.log ⟨logger, .info,
      "Loaded " ++ toString placements.length ++ " persisted placements from " ++ origin⟩]
  | .error _ => []

theorem skipReports_takeWhile (source : String) (entries : List (String × Value)) :
    (skipReports source (entries.takeWhile fun entry => !isFatal entry)).map
        (fun message => Event.log ⟨logger, .warning, message⟩) =
      (skipped (entries.map reading)).map (skipReport source) := by
  rw [skipped, List.takeWhile_map, skipReports, List.filterMap_map, List.map_filterMap,
    List.map_filterMap]
  congr 1
  funext entry
  rcases read : readEntry entry.1 entry.2 with failure | found
  · simp [reading, read, skipReport, Reading.fault?]
  · simp [reading, read, Reading.fault?]

/-- Decoding tells what the readings of the entries tell, and reports what they skip. -/
theorem run_decode (source : String) (entries : List (String × Value)) (w : World) :
    (decode source entries).run w =
      ⟨told (entries.map reading), (skipped (entries.map reading)).map (skipReport source)⟩ := by
  have rest : entries.drop (entries.takeWhile fun entry => !isFatal entry).length =
      entries.dropWhile fun entry => !isFatal entry := by
    have parts := List.takeWhile_append_dropWhile (p := fun entry => !isFatal entry) (l := entries)
    calc entries.drop _ = (_ ++ entries.dropWhile _).drop _ := by rw [parts]
      _ = _ := List.drop_left
  have reported : (((skipReports source (entries.takeWhile fun entry => !isFatal entry)).forM
      (Effect.report logger .warning)).run w).result = .ok () := by
    rw [Effect.run_forM_report]
  have dropped : (entries.map reading).dropWhile (fun r => !r.isFatal) =
      (entries.dropWhile fun entry => !isFatal entry).map reading := List.dropWhile_map ..
  rw [decode, Effect.run_bind_of_ok reported, rest, Effect.run_forM_report,
    skipReports_takeWhile, told, dropped]
  rcases entries.dropWhile fun entry => !isFatal entry with _ | ⟨entry, others⟩
  · simp only [List.map_nil, List.append_nil, Effect.run_pure, List.filterMap_map]
    rfl
  · rcases read : readEntry entry.1 entry.2 with failure | found
    · simp [reading, read, Except.map, Effect.run_bind_of_error]
    · simp [reading, read, Except.map, Effect.run_bind_of_ok, Effect.run_pure]

/-- Decoding with a report on what was loaded. -/
theorem run_decode_bind_report (source origin : String) (entries : List (String × Value))
    (w : World) :
    (do
      let placements ← decode source entries
      Effect.report logger .info
        ("Loaded " ++ toString placements.length ++ " persisted placements from " ++ origin)
      return placements : Effect Placements).run w =
      ⟨told (entries.map reading), (skipped (entries.map reading)).map (skipReport source) ++
        loadReport origin (told (entries.map reading))⟩ := by
  rw [Effect.run_bind_report, run_decode]
  rcases told (entries.map reading) with failure | placements
  · rfl
  · rfl

theorem result_decode_of_readable {source : String} {entries : List (String × Value)} {w : World}
    (readable : ∀ entry ∈ entries, isFatal entry = false) :
    ∃ placements, ((decode source entries).run w).result = .ok placements := by
  have whole : ∀ r ∈ entries.map reading, r.isFatal = false := by
    intro r found
    obtain ⟨entry, listed, rfl⟩ := List.mem_map.1 found
    exact readable entry listed
  rw [run_decode]
  exact ⟨_, (told_of_readable whole).1⟩

theorem result_decode_of_fatal {source : String} {entries : List (String × Value)} {w : World}
    {entry : String × Value} (found : entry ∈ entries) (fatal : isFatal entry = true) :
    ∃ isList, ((decode source entries).run w).result = .error (.json (.tooDeep isList)) := by
  rw [run_decode]
  exact told_of_fatal (List.mem_map_of_mem found) fatal

/-- The entries once one more field with its value was decoded. -/
def decodeInto (entries : Entries String String) (entry : Datum × Datum) :
    Except Utf8.Error (Entries String String) := do
  let field ← entry.1.decode
  let value ← entry.2.decode
  return Entries.insert entries field value

theorem decodeHash_eq_foldlM (hash : Entries Datum Datum) :
    decodeHash hash = hash.foldlM decodeInto [] := rfl

/-- The entries of a hash, where each field and each value is a text under some form. -/
theorem decodeHash_of_decoded {hash : List (Datum × Datum)} {entries : Entries String String}
    (decoded : List.Forall₂ (fun datum entry =>
      datum.1.decode = .ok entry.1 ∧ datum.2.decode = .ok entry.2) hash entries)
    (distinct : (Entries.keys entries).Nodup) : decodeHash hash = .ok entries := by
  -- Fields are written one by one, after those that are done.
  have writes (done : Entries String String) :
      hash.foldlM decodeInto done = .ok (Entries.update done entries) := by
    induction decoded generalizing done with
    | nil => rfl
    | @cons datum entry hash entries now later ih =>
      have goes : decodeInto done datum = .ok (Entries.insert done entry.1 entry.2) := by
        rw [decodeInto, now.1, now.2]
        rfl
      rw [List.foldlM_cons, goes]
      exact ih (List.nodup_cons.1 distinct).2 _
  rw [decodeHash_eq_foldlM, writes]
  exact congrArg Except.ok (Entries.ofList_of_nodup distinct)

section Redis

variable {namespaceName : String} {w : World}

theorem result_loadRedis_of_failure {reason : String} (down : w.redis.failure = some reason) :
    ((loadRedis namespaceName).run w).result = .error (.source (.recordsInRedis reason)) := by
  rw [loadRedis, Effect.run_bind_of_ok rfl, Effect.run_bind_of_ok rfl]
  simp only [World.redis_after, down, Effect.run_fail]

theorem result_loadRedis_of_garbled {error : Utf8.Error} (up : w.redis.failure = none)
    (garbled : decodeHash (w.redis.hash (peersKey namespaceName)) = .error error) :
    ((loadRedis namespaceName).run w).result = .error (.undecodable error) := by
  rw [loadRedis, Effect.run_bind_of_ok rfl, Effect.run_bind_of_ok rfl]
  simp only [World.redis_after, up, garbled]
  rfl

/-- A load from Redis asks for the hash of placements, tells what the readings of its
entries tell, and reports what they skip. -/
theorem run_loadRedis_of_decoded {entries : Entries String String} (up : w.redis.failure = none)
    (decoded : decodeHash (w.redis.hash (peersKey namespaceName)) = .ok entries) :
    (loadRedis namespaceName).run w =
      ⟨told (readingsOf entries), .call (.hashGetAll (peersKey namespaceName)) ::
        ((skipped (readingsOf entries)).map (skipReport (peersKey namespaceName)) ++
          loadReport "Redis" (told (readingsOf entries)))⟩ := by
  have same : (entries.map fun (field, value) => (field, Value.text value)).map reading =
      readingsOf entries := List.map_map ..
  have origin (placements : Placements) :
      "Loaded " ++ toString placements.length ++ " persisted placements from Redis" =
        "Loaded " ++ toString placements.length ++ " persisted placements from " ++ "Redis" := by
    have word : " persisted placements from Redis" = " persisted placements from " ++ "Redis" := rfl
    rw [word, ← String.append_assoc]
  rw [loadRedis, Effect.run_bind_of_ok rfl, Effect.run_bind_of_ok rfl]
  simp only [World.redis_after, up, decoded, origin]
  rw [Effect.run_bind_of_ok rfl, run_decode_bind_report, same]
  rfl

theorem result_loadRedis_of_decoded {entries : Entries String String}
    (up : w.redis.failure = none)
    (decoded : decodeHash (w.redis.hash (peersKey namespaceName)) = .ok entries) :
    ((loadRedis namespaceName).run w).result =
      ((decode (peersKey namespaceName)
        (entries.map fun (field, value) => (field, .text value))).run w).result := by
  rw [run_loadRedis_of_decoded up decoded, run_decode, List.map_map]
  rfl

/-- What is loaded from Redis depends on the hash of placements and on whether the server
can be read, and on nothing else in the world. -/
theorem excused_loadRedis_congr {w' : World}
    (availability : w.redis.failure.isSome = w'.redis.failure.isSome)
    (peers : w.redis.hash (peersKey namespaceName) = w'.redis.hash (peersKey namespaceName)) :
    Failure.excused [] ((loadRedis namespaceName).run w).result =
      Failure.excused [] ((loadRedis namespaceName).run w').result := by
  rcases up : w.redis.failure with _ | reason
  · have up' : w'.redis.failure = none := by simpa [up] using availability
    rcases decoded : decodeHash (w.redis.hash (peersKey namespaceName)) with error | entries
    · rw [result_loadRedis_of_garbled up decoded]
      rw [peers] at decoded
      rw [result_loadRedis_of_garbled up' decoded]
    · rw [result_loadRedis_of_decoded up decoded]
      rw [peers] at decoded
      rw [result_loadRedis_of_decoded up' decoded, run_decode, run_decode]
  · rw [up] at availability
    obtain ⟨reason', down⟩ := Option.isSome_iff_exists.1 availability.symm
    rw [result_loadRedis_of_failure up, result_loadRedis_of_failure down]
    rfl

end Redis

section File

variable {path : Path} {w : World}

theorem result_loadFile_of_error {error : FileError}
    (refused : w.files.contains path = .error error) :
    ((loadFile path).run w).result = .error (.file error) := by
  rw [loadFile, Effect.run_bind_of_ok rfl]
  change ((Effect.lift .file (w.files.contains path) >>= _).run w).result = _
  rw [refused]
  rfl

theorem result_loadFile_of_missing (missing : w.files.contains path = .ok false) :
    ((loadFile path).run w).result = .ok [] := by
  rw [loadFile, Effect.run_bind_of_ok rfl]
  change ((Effect.lift .file (w.files.contains path) >>= _).run w).result = _
  rw [missing]
  rfl

/-- The placements that the value of a file tells. -/
def loadValue (path : Path) : Value → Effect Placements
  | .map entries => do
    let placements ← decode path.toText (entries.map fun (key, record) => (key.plain, record))
    Effect.report logger .info
      ("Loaded " ++ toString placements.length ++ " persisted placements from " ++ path.toText)
    return placements
  | _ => Effect.fail (.source (.recordsNotMapping path.toText))

theorem readFile_of_parsed {data : List UInt8} {text : String} {value : Value}
    (holds : w.files.read path = .ok data) (decoded : Utf8.decodeLines data = .ok text)
    (parsed : Json.read text = .ok value) : readFile w.files path = .ok value := by
  simp [readFile, holds, decoded, parsed]

/-- A file that is there is read, and its value tells the placements. -/
theorem result_loadFile_of_present (present : w.files.contains path = .ok true) :
    ((loadFile path).run w).result =
      ((Effect.ofExcept (readFile w.files path) >>= loadValue path).run w).result := by
  rw [loadFile, Effect.run_bind_of_ok rfl]
  change ((Effect.lift .file (w.files.contains path) >>= _).run w).result = _
  rw [present, Effect.run_bind_of_ok rfl]
  rfl

theorem result_loadFile_of_unread {failure : Failure} (present : w.files.contains path = .ok true)
    (unread : readFile w.files path = .error failure) :
    ((loadFile path).run w).result = .error failure := by
  rw [result_loadFile_of_present present, unread]
  rfl

theorem result_loadFile_of_read {value : Value} (present : w.files.contains path = .ok true)
    (read : readFile w.files path = .ok value) :
    ((loadFile path).run w).result = ((loadValue path value).run w).result := by
  rw [result_loadFile_of_present present, read]
  rfl

/-- A load from a file of a mapping tells what the readings of its entries tell, and reports
what they skip. -/
theorem run_loadFile_of_map {entries : List (Scalar × Value)}
    (present : w.files.contains path = .ok true)
    (read : readFile w.files path = .ok (.map entries)) :
    let readings := entries.map fun (key, record) => reading (key.plain, record)
    (loadFile path).run w =
      ⟨told readings, (skipped readings).map (skipReport path.toText) ++
        loadReport path.toText (told readings)⟩ := by
  intro readings
  have same : (entries.map fun (key, record) => (key.plain, record)).map reading = readings :=
    List.map_map ..
  rw [loadFile, Effect.run_bind_of_ok rfl]
  show (Effect.lift .file (w.files.contains path) >>= _).run w = _
  rw [present, Effect.run_bind_of_ok rfl]
  show (Effect.ofExcept (readFile w.files path) >>= _).run w = _
  rw [read, Effect.run_bind_of_ok rfl]
  dsimp only
  rw [run_decode_bind_report, same]
  rfl

theorem result_loadFile_of_map {entries : List (Scalar × Value)}
    (present : w.files.contains path = .ok true)
    (read : readFile w.files path = .ok (.map entries)) :
    ((loadFile path).run w).result =
      ((decode path.toText
        (entries.map fun (key, record) => (key.plain, record))).run w).result := by
  rw [run_loadFile_of_map present read, run_decode, List.map_map]
  rfl

theorem result_loadFile_of_other {value : Value} (present : w.files.contains path = .ok true)
    (read : readFile w.files path = .ok value) (other : ∀ entries, value ≠ .map entries) :
    ((loadFile path).run w).result = .error (.source (.recordsNotMapping path.toText)) := by
  rw [result_loadFile_of_read present read]
  cases value with
  | map entries => exact absurd rfl (other entries)
  | _ => rfl

end File

end Store

end ClusterTopology
