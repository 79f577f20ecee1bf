import ClusterTopology.Proofs.Store.Decode
import ClusterTopology.Proofs.Store.Fallback

/-!
# Data that a store trips over

A store skips most of what it cannot read, and reports the rest as a source
that cannot be read. Four things it does neither skip nor report: bytes that
are no UTF-8, a file with an integer that has too many digits, JSON that is
nested too deeply, and a path that is too long to be looked up. `Store.Breaks`
says where they stand, and a load fails with anything but a source error
exactly where it holds.
-/

namespace ClusterTopology

/-- Whether a datum is bytes that are no text. -/
def Datum.IsGarbled (datum : Datum) : Prop :=
  ∃ error, datum.decode = .error error

/-- Whether a text is JSON that is nested more deeply than is followed. -/
def Json.IsTooDeep (s : String) : Prop :=
  ∃ isList, Json.read s = .error (.tooDeep isList)

namespace Effect

variable {α : Type}

/-- Whether an effect fails otherwise than by a source that cannot be read. -/
def Trips (effect : Effect α) (w : World) : Prop :=
  ∃ failure, (effect.run w).result = .error failure ∧ ¬ failure.IsSource

theorem trips_of_error {effect : Effect α} {w : World} {failure : Failure}
    (fails : (effect.run w).result = .error failure) (other : ¬ failure.IsSource) :
    effect.Trips w :=
  ⟨failure, fails, other⟩

theorem not_trips_of_ok {effect : Effect α} {w : World} {a : α}
    (ends : (effect.run w).result = .ok a) : ¬ effect.Trips w := by
  rintro ⟨failure, fails, -⟩
  rw [ends] at fails
  cases fails

theorem not_trips_of_source {effect : Effect α} {w : World} {error : SourceError}
    (fails : (effect.run w).result = .error (.source error)) : ¬ effect.Trips w := by
  rintro ⟨failure, same, other⟩
  rw [fails] at same
  cases same
  exact other ⟨error, rfl⟩

end Effect

namespace Store

/-- What in a hash of placements ends the loading. -/
inductive HashBreaks (hash : Entries Datum Datum) : Prop where
  | field {field value : Datum} (found : (field, value) ∈ hash) (garbled : field.IsGarbled)
  | value {field value : Datum} (found : (field, value) ∈ hash) (garbled : value.IsGarbled)
  | record {entries : Entries String String} {field record : String}
      (decoded : decodeHash hash = .ok entries) (found : (field, record) ∈ entries)
      (deep : Json.IsTooDeep record)

/-- What in the bytes of a file of placements ends the loading. -/
inductive DataBreaks (data : List UInt8) : Prop where
  | garbled {error : Utf8.Error} (undecoded : Utf8.decodeLines data = .error error)
  | longInteger {text : String} {digits : Nat} (decoded : Utf8.decodeLines data = .ok text)
      (long : Json.read text = .error (.longInteger digits))
  | tooDeep {text : String} (decoded : Utf8.decodeLines data = .ok text)
      (deep : Json.IsTooDeep text)
  | record {text record : String} {entries : List (Scalar × Value)} {key : Scalar}
      (decoded : Utf8.decodeLines data = .ok text) (parsed : Json.read text = .ok (.map entries))
      (found : (key, .text record) ∈ entries) (deep : Json.IsTooDeep record)

/-- What in the files ends the loading from a path. -/
inductive FileBreaks (files : Files) (path : Path) : Prop where
  | path (clean : path.hasNull = false) (long : files.place path = .error .nameTooLong)
  | data {data : List UInt8} (holds : files.read path = .ok data) (breaks : DataBreaks data)

/-- The world in which the next store is asked, if a store is passed over. -/
def passed? (store : Store) (w : World) : Option World :=
  match (store.load.run w).result with
  | .ok [] => some (w.after (store.load.run w).events)
  | .error (.source error) =>
    some (w.after ((store.load.run w).events ++ [passReport store error]))
  | _ => none

mutual

/-- Whether a store trips over what it reads. -/
def Breaks : Store → World → Prop
  | .static _, _ => False
  | .redis namespaceName, w =>
    w.redis.failure = none ∧ HashBreaks (w.redis.hash (peersKey namespaceName))
  | .file path, w => FileBreaks w.files path
  | .fallback stores, w => FirstBreaks stores w

/-- Whether the first store that is not passed over trips over what it reads. -/
def FirstBreaks : List Store → World → Prop
  | [], _ => False
  | store :: rest, w =>
    Breaks store w ∨ ∃ next, passed? store w = some next ∧ FirstBreaks rest next

end

/-- Only the reading of a record as JSON can tell that it is nested too deeply. -/
theorem readEntry_eq_tooDeep {address : String} {record : Value} {isList : Bool} :
    readEntry address record = .error (.json (.tooDeep isList)) ↔
      unfoldRecord record = .error (.json (.tooDeep isList)) := by
  rcases unfolded : unfoldRecord record with failure | known
  · simp [readEntry, unfolded, bind, Except.bind]
  · have others : readEntry address record ≠ .error (.json (.tooDeep isList)) := by
      rcases made : Placement.ofRecord known with kind | placement
      · simp [readEntry, unfolded, made, bind, Except.bind]
      · rcases parsed : NodeAddress.parse address with error | node
        · simp [readEntry, unfolded, made, parsed, bind, Except.bind]
        · simp [readEntry, unfolded, made, parsed, bind, Except.bind, pure,
            Except.pure]
    simp [others]

/-- An entry is fatal exactly if its record is a text that is nested too deeply. -/
theorem isFatal_iff {entry : String × Value} :
    isFatal entry = true ↔ ∃ text, entry.2 = .text text ∧ Json.IsTooDeep text := by
  simp only [← isFatal_reading, Reading.isFatal_iff, reading, readEntry_eq_tooDeep]
  constructor
  · rintro ⟨isList, deep⟩
    rw [unfoldRecord.eq_def] at deep
    split at deep
    · next text same =>
      refine ⟨text, same, isList, ?_⟩
      rcases parsed : Json.read text with error | value
      · simp only [parsed, mapError_error, Except.error.injEq, Failure.json.injEq] at deep
        rw [deep]
      · simp [parsed] at deep
    · cases deep
  · rintro ⟨text, same, isList, deep⟩
    exact ⟨isList, by simp [same, unfoldRecord, deep]⟩

/-- Decoding trips over the entries that are nested too deeply, and over nothing else. -/
theorem trips_decode_map_iff {ι : Type} {source : String} {items : List ι}
    {entryOf : ι → String × Value} {w : World} :
    (decode source (items.map entryOf)).Trips w ↔
      ∃ item ∈ items, ∃ text, (entryOf item).2 = .text text ∧ Json.IsTooDeep text := by
  simp only [← isFatal_iff]
  constructor
  · intro trips
    refine Classical.byContradiction fun none => ?_
    have readable : ∀ entry ∈ items.map entryOf, isFatal entry = false := by simpa using none
    obtain ⟨placements, loads⟩ := result_decode_of_readable readable
    exact Effect.not_trips_of_ok loads trips
  · rintro ⟨item, found, fatal⟩
    obtain ⟨isList, fails⟩ := result_decode_of_fatal (List.mem_map_of_mem found) fatal
    exact Effect.trips_of_error fails (by simp [Failure.IsSource])

/-- The entries of a hash cannot be told exactly if bytes in it are no text. -/
theorem decodeHash_eq_error {hash : Entries Datum Datum} :
    (∃ error, decodeHash hash = .error error) ↔
      ∃ entry ∈ hash, entry.1.IsGarbled ∨ entry.2.IsGarbled := by
  rw [decodeHash_eq_foldlM]
  -- The entries so far have no influence on what can be decoded.
  generalize ([] : Entries String String) = entries
  induction hash generalizing entries with
  | nil => simp [pure, Except.pure]
  | cons entry rest ih =>
    simp only [List.foldlM_cons, List.mem_cons, exists_eq_or_imp]
    rcases field : entry.1.decode with error | name
    · have stops : decodeInto entries entry = .error error := by
        rw [decodeInto, field]
        rfl
      simp [stops, Datum.IsGarbled, field, bind, Except.bind]
    rcases value : entry.2.decode with error | text
    · have stops : decodeInto entries entry = .error error := by
        rw [decodeInto, field, value]
        rfl
      simp [stops, Datum.IsGarbled, value, bind, Except.bind]
    · have goes : decodeInto entries entry = .ok (Entries.insert entries name text) := by
        rw [decodeInto, field, value]
        rfl
      have clean : ¬ (entry.1.IsGarbled ∨ entry.2.IsGarbled) := by
        simp [Datum.IsGarbled, field, value]
      rw [goes, or_iff_right clean]
      exact ih _

theorem hashBreaks_iff {hash : Entries Datum Datum} :
    HashBreaks hash ↔ (∃ error, decodeHash hash = .error error) ∨
      ∃ entries, decodeHash hash = .ok entries ∧ ∃ entry ∈ entries, Json.IsTooDeep entry.2 := by
  rw [decodeHash_eq_error]
  constructor
  · rintro (⟨found, garbled⟩ | ⟨found, garbled⟩ | ⟨decoded, found, deep⟩)
    · exact .inl ⟨_, found, .inl garbled⟩
    · exact .inl ⟨_, found, .inr garbled⟩
    · exact .inr ⟨_, decoded, _, found, deep⟩
  · rintro (⟨⟨field, value⟩, found, garbled | garbled⟩ | ⟨entries, decoded, entry, found, deep⟩)
    · exact .field found garbled
    · exact .value found garbled
    · exact .record decoded found deep

section Redis

variable {namespaceName : String} {w : World}

theorem trips_loadRedis_iff : (loadRedis namespaceName).Trips w ↔
    w.redis.failure = none ∧ HashBreaks (w.redis.hash (peersKey namespaceName)) := by
  rw [hashBreaks_iff]
  rcases up : w.redis.failure with _ | reason
  · rcases decoded : decodeHash (w.redis.hash (peersKey namespaceName)) with error | entries
    · have trips := Effect.trips_of_error (result_loadRedis_of_garbled up decoded)
        (by simp [Failure.IsSource])
      simp [trips]
    · rw [Effect.Trips, result_loadRedis_of_decoded up decoded]
      change (decode _ _).Trips w ↔ _
      rw [trips_decode_map_iff]
      simp
  · have keeps : ¬ (loadRedis namespaceName).Trips w :=
      Effect.not_trips_of_source (result_loadRedis_of_failure up)
    simp [keeps]

end Redis

section File

variable {path : Path} {w : World}

theorem dataBreaks_of_decoded {data : List UInt8} {text : String}
    (decoded : Utf8.decodeLines data = .ok text) :
    DataBreaks data ↔ (∃ digits, Json.read text = .error (.longInteger digits)) ∨
      Json.IsTooDeep text ∨ ∃ entries, Json.read text = .ok (.map entries) ∧
        ∃ entry ∈ entries, ∃ record, entry.2 = .text record ∧ Json.IsTooDeep record := by
  constructor
  · rintro (undecoded | ⟨same, long⟩ | ⟨same, deep⟩ | ⟨same, parsed, found, deep⟩)
    · rw [decoded] at undecoded
      cases undecoded
    all_goals
      rw [decoded] at same
      cases same
    · exact .inl ⟨_, long⟩
    · exact .inr (.inl deep)
    · exact .inr (.inr ⟨_, parsed, _, found, _, rfl, deep⟩)
  · rintro (⟨digits, long⟩ | deep | ⟨entries, parsed, ⟨key, value⟩, found, record, same, deep⟩)
    · exact .longInteger decoded long
    · exact .tooDeep decoded deep
    · cases same
      exact .record decoded parsed found deep

/-- A file that can be opened is tripped over exactly if its bytes break the loading. -/
theorem trips_loadFile_iff_of_read {data : List UInt8} (holds : w.files.read path = .ok data) :
    (loadFile path).Trips w ↔ DataBreaks data := by
  have present := Files.contains_of_read holds
  rcases decoded : Utf8.decodeLines data with error | text
  · have unread : readFile w.files path = .error (.undecodable error) := by
      simp [readFile, holds, decoded]
    have trips := Effect.trips_of_error (result_loadFile_of_unread present unread)
      (by simp [Failure.IsSource])
    exact iff_of_true trips (.garbled decoded)
  rw [dataBreaks_of_decoded decoded]
  rcases parsed : Json.read text with error | value
  · cases error with
    | malformed fault place =>
      have keeps : ¬ (loadFile path).Trips w :=
        Effect.not_trips_of_source (result_loadFile_of_unread present
          (by simp [readFile, holds, decoded, parsed]; rfl))
      simp [keeps, Json.IsTooDeep, parsed]
    | longInteger digits =>
      have unread : readFile w.files path = .error (.json (.longInteger digits)) := by
        simp [readFile, holds, decoded, parsed]
      have trips := Effect.trips_of_error (result_loadFile_of_unread present unread)
        (by simp [Failure.IsSource])
      simp [trips]
    | tooDeep isList =>
      have unread : readFile w.files path = .error (.json (.tooDeep isList)) := by
        simp [readFile, holds, decoded, parsed]
      have trips := Effect.trips_of_error (result_loadFile_of_unread present unread)
        (by simp [Failure.IsSource])
      simp [trips, Json.IsTooDeep, parsed]
  · have read : readFile w.files path = .ok value := readFile_of_parsed holds decoded parsed
    by_cases mapping : ∃ entries, value = .map entries
    · obtain ⟨entries, rfl⟩ := mapping
      rw [Effect.Trips, result_loadFile_of_map present read]
      change (decode _ _).Trips w ↔ _
      rw [trips_decode_map_iff]
      simp [Json.IsTooDeep, parsed]
    · have other : ∀ entries, value ≠ .map entries := fun entries same => mapping ⟨entries, same⟩
      have keeps : ¬ (loadFile path).Trips w :=
        Effect.not_trips_of_source (result_loadFile_of_other present read other)
      simp [keeps, Json.IsTooDeep, parsed, other]

/-- A file store trips over a path or a file exactly if that breaks the loading. -/
theorem trips_loadFile_iff : (loadFile path).Trips w ↔ FileBreaks w.files path := by
  have breaks : FileBreaks w.files path ↔ (∃ error, w.files.contains path = .error error) ∨
      ∃ data, w.files.read path = .ok data ∧ DataBreaks data := by
    rw [Files.contains_eq_error]
    constructor
    · rintro (⟨clean, long⟩ | ⟨holds, breaks⟩)
      · exact .inl ⟨clean, long⟩
      · exact .inr ⟨_, holds, breaks⟩
    · rintro (⟨clean, long⟩ | ⟨data, holds, breaks⟩)
      · exact .path clean long
      · exact .data holds breaks
  rw [breaks]
  -- A path that cannot be looked up, a file that is missing, and a file that is there.
  rcases contains : w.files.contains path with error | _ | _
  · have trips := Effect.trips_of_error (result_loadFile_of_error contains)
      (by simp [Failure.IsSource])
    simp [trips]
  · have keeps : ¬ (loadFile path).Trips w :=
      Effect.not_trips_of_ok (result_loadFile_of_missing contains)
    have unread : ∀ data, w.files.read path ≠ .ok data := fun data holds => by
      simp [Files.contains_of_read holds] at contains
    simp [keeps, unread]
  · obtain ⟨data, holds⟩ | ⟨cause, text, refused⟩ := Files.read_of_contains contains
    · rw [trips_loadFile_iff_of_read holds]
      simp [holds]
    · have keeps : ¬ (loadFile path).Trips w :=
        Effect.not_trips_of_source (result_loadFile_of_unread contains
          (by simp [readFile, refused]; rfl))
      simp [keeps, refused]

end File

mutual

/-- A load fails otherwise than by a source that cannot be read exactly if the store
breaks. -/
theorem trips_load_iff : (store : Store) → (w : World) → (store.load.Trips w ↔ Breaks store w)
  | .static placements, w => by
    have keeps : ¬ (Store.static placements).load.Trips w := by
      rw [load]
      exact Effect.not_trips_of_ok rfl
    simp [keeps, Breaks]
  | .redis namespaceName, w => by
    rw [load, Breaks]
    exact trips_loadRedis_iff
  | .file path, w => by
    rw [load, Breaks]
    exact trips_loadFile_iff
  | .fallback stores, w => by
    rw [load, Breaks]
    exact trips_loadFirst_iff stores w none false

/-- A fallback goes on after the stores that it passes over, and ends with the first one
that breaks. -/
theorem trips_loadFirst_iff : (stores : List Store) → (w : World) →
    (lastError : Option SourceError) → (loadedAny : Bool) →
    ((loadFirst stores lastError loadedAny).Trips w ↔ FirstBreaks stores w)
  | [], w, lastError, loadedAny => by
    have keeps : ¬ (loadFirst [] lastError loadedAny).Trips w := by
      rcases lastError with _ | error
      · exact Effect.not_trips_of_ok rfl
      · cases loadedAny
        · exact Effect.not_trips_of_source rfl
        · exact Effect.not_trips_of_ok rfl
    simp [keeps, FirstBreaks]
  | store :: rest, w, lastError, loadedAny => by
    -- The first store settles it, unless it is passed over; then the rest does, in the
    -- world that it leaves behind.
    rw [FirstBreaks, ← trips_load_iff store w]
    obtain empty | ⟨entry, entries, filled⟩ | ⟨error, fails⟩ | ⟨failure, fails, other⟩ :=
      ending_cases (store.load.run w).result
    · have keeps : ¬ store.load.Trips w := Effect.not_trips_of_ok empty
      rw [Effect.Trips, run_loadFirst_of_empty empty, Outcome.result_following]
      change (loadFirst rest _ _).Trips _ ↔ _
      rw [trips_loadFirst_iff rest]
      simp [keeps, passed?, empty]
    · have keeps : ¬ store.load.Trips w := Effect.not_trips_of_ok filled
      have ends : ¬ (loadFirst (store :: rest) lastError loadedAny).Trips w :=
        Effect.not_trips_of_ok (congrArg Outcome.result (run_loadFirst_of_filled filled))
      simp [keeps, ends, passed?, filled]
    · have keeps : ¬ store.load.Trips w := Effect.not_trips_of_source fails
      rw [Effect.Trips, run_loadFirst_of_source fails, Outcome.result_following]
      change (loadFirst rest _ _).Trips _ ↔ _
      rw [trips_loadFirst_iff rest]
      simp [keeps, passed?, fails]
    · have trips : store.load.Trips w := Effect.trips_of_error fails other
      have ends : (loadFirst (store :: rest) lastError loadedAny).Trips w :=
        Effect.trips_of_error (congrArg Outcome.result (run_loadFirst_of_failure fails other)) other
      simp [trips, ends]

end

end Store

end ClusterTopology
