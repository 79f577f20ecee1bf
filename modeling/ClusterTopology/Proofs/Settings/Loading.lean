import ClusterTopology.Proofs.Settings.Telling
import ClusterTopology.Proofs.Store.Decode
import ClusterTopology.Settings.File

/-!
# Loading settings

A file that is missing or cannot be read means that nothing is configured, and only what is read
and refused is a failure. This is so but for six kinds of data, which are told here with the
failures that they lead to.
-/

namespace ClusterTopology

namespace Settings

theorem isShowable_merge {entries : Entries Scalar Value}
    (shown : (Value.map entries).isShowable = true) :
    (Value.map (merge entries)).isShowable = true := by
  have initially : (Value.map initial).isShowable = true := by decide +kernel
  exact Value.isShowable_update initially shown

section OfValue

variable {file : String} {value : Value} {entries : Entries Scalar Value}

theorem ofValue_of_other (other : entriesOf? value = none) :
    ofValue file value = .error (.notMapping file) := by
  rw [ofValue, other]

theorem ofValue_of_sound (found : entriesOf? value = some entries)
    (sound : violations (merge entries) = []) :
    ofValue file value = .ok ⟨merge entries, sound⟩ := by
  rw [ofValue, found]
  dsimp only
  unfold ofEntries
  split
  · rfl
  · next broken => exact absurd sound broken

theorem ofValue_of_broken (found : entriesOf? value = some entries)
    (broken : violations (merge entries) ≠ []) :
    ofValue file value = .error (.ofViolations (some file) (violations (merge entries))) := by
  rw [ofValue, found]
  dsimp only
  unfold ofEntries
  split
  · next sound => exact absurd sound broken
  · rfl

/-- Of a value that can be shown nothing is hidden, also not once it is written over the initial
values. -/
theorem not_hides_of_entriesOf (found : entriesOf? value = some entries)
    (shown : value.isShowable = true) : ¬ Hides (merge entries) := by
  refine not_hides_of_isShowable (isShowable_merge ?_)
  unfold entriesOf? at found
  split at found
  · cases found
    rfl
  · cases found
    exact shown
  · cases found

end OfValue

section ReadFile

variable {files : Files} {path : Path} {data : List UInt8} {value : Value}

theorem readFile_of_read (holds : files.read path = .ok data) :
    readFile files path = readData path data := by
  rw [readFile, holds]
  rfl

theorem readFile_of_refused {error : FileError} (refused : files.read path = .error error) :
    readFile files path = .error (.file error) := by
  rw [readFile, refused]
  rfl

theorem readData_of_json (json : isYaml path = false) {text : String}
    (decoded : Utf8.decodeLines data = .ok text) :
    readData path data = (Json.read text).mapError .json := by
  rw [readData, json, decoded]
  rfl

theorem readData_of_garbled (json : isYaml path = false) {error : Utf8.Error}
    (undecoded : Utf8.decodeLines data = .error error) :
    readData path data = .error (.undecodable error) := by
  rw [readData, json, undecoded]
  rfl

theorem readData_of_yaml (yaml : isYaml path = true) :
    readData path data = (Yaml.read data).mapError .yaml := by
  rw [readData, if_pos yaml]

/-- What is read from a file is there, and is the value of its bytes. -/
theorem read_of_readFile (reads : readFile files path = .ok value) :
    ∃ data, files.read path = .ok data ∧ readData path data = .ok value := by
  rcases holds : files.read path with error | data
  · rw [readFile_of_refused holds] at reads
    cases reads
  · rw [readFile_of_read holds] at reads
    exact ⟨data, rfl, reads⟩

/-- A JSON file holds nothing that cannot be shown. -/
theorem isShowable_of_readFile (json : isYaml path = false)
    (reads : readFile files path = .ok value) : value.isShowable = true := by
  obtain ⟨data, -, reads⟩ := read_of_readFile reads
  rcases decoded : Utf8.decodeLines data with error | text
  · rw [readData_of_garbled json decoded] at reads
    cases reads
  · rw [readData_of_json json decoded] at reads
    rcases parsed : Json.read text with error | found
    · rw [parsed] at reads
      cases reads
    · rw [parsed] at reads
      cases reads
      exact Json.isShowable_of_read parsed

end ReadFile

/-- Data that neither are read nor mean that nothing is configured, and the failures that they
lead to. -/
inductive Breaks (files : Files) (path : Path) : Failure → Prop
  | longName (clean : path.hasNull = false) (long : files.place path = .error .nameTooLong) :
    Breaks files path (.file (.refused .nameTooLong path.toText))
  | garbled {data : List UInt8} {error : Utf8.Error} (json : isYaml path = false)
    (holds : files.read path = .ok data) (undecoded : Utf8.decodeLines data = .error error) :
    Breaks files path (.undecodable error)
  | longInteger {data : List UInt8} {text : String} {digits : Nat} (json : isYaml path = false)
    (holds : files.read path = .ok data) (decoded : Utf8.decodeLines data = .ok text)
    (long : Json.read text = .error (.longInteger digits)) :
    Breaks files path (.json (.longInteger digits))
  | tooDeep {data : List UInt8} {text : String} {isList : Bool} (json : isYaml path = false)
    (holds : files.read path = .ok data) (decoded : Utf8.decodeLines data = .ok text)
    (deep : Json.read text = .error (.tooDeep isList)) :
    Breaks files path (.json (.tooDeep isList))
  | yaml {data : List UInt8} {error : Yaml.Error} (yaml : isYaml path = true)
    (holds : files.read path = .ok data) (unread : Yaml.read data = .error error)
    (other : error ≠ .malformed) : Breaks files path (.yaml error)
  | unshowable {value : Value} {entries : Entries Scalar Value} (yaml : isYaml path = true)
    {error : ShowError} (reads : readFile files path = .ok value)
    (found : entriesOf? value = some entries) (hidden : HiddenBy (merge entries) error) :
    Breaks files path (.settings (.unshowable error))

/-- Files whose settings are refused: what they hold is no mapping, or breaks rules once it is
written over the initial values. -/
inductive Refused (files : Files) (path : Path) : Failure → Prop
  | notMapping {value : Value} (reads : readFile files path = .ok value)
    (other : entriesOf? value = none) :
    Refused files path (.settings (.notMapping path.toText))
  | unsound {value : Value} {entries : Entries Scalar Value}
    (reads : readFile files path = .ok value) (found : entriesOf? value = some entries)
    (broken : violations (merge entries) ≠ []) :
    Refused files path (.settings (.invalid (some path.toText) (violations (merge entries))))

/-- The report on a path where nothing is. -/
def missingReport (path : Path) : Event :=
  .log ⟨logger, .warning, "Configuration file not found: " ++ path.toText ++ ", using defaults"⟩

/-- The report on data that cannot be read. -/
def unreadReport (failure : Failure) : Event :=
  .log ⟨logger, .error, "Error loading configuration: " ++ failure.message⟩

/-- How settings are loaded if whatever is missing or cannot be read means that nothing is
configured. -/
structure FallsBack (path : Path) (w : World) (outcome : Outcome Settings) : Prop where
  missing : w.files.contains path ≠ .ok true →
    outcome = ⟨.ok default, [missingReport path]⟩
  unreadable : w.files.contains path = .ok true →
    ∀ failure, readFile w.files path = .error failure →
      outcome = ⟨.ok default, [unreadReport failure]⟩
  refused : ∀ failure, outcome.result = .error failure ↔ Refused w.files path failure
  merged : ∀ value entries settings, readFile w.files path = .ok value →
    entriesOf? value = some entries → outcome.result = .ok settings →
    settings.entries = merge entries

section Run

variable {text : String} {path : Path} {w : World}

/-- A path is looked up before anything is read. -/
theorem run_load (given : text ≠ "") :
    (load (some text)).run w =
      match w.files.contains (Path.parse text) with
      | .error error => ⟨.error (.file error), []⟩
      | .ok true => (loadExisting (Path.parse text)).run w
      | .ok false => ⟨.ok default, [missingReport (Path.parse text)]⟩ := by
  unfold load
  split
  · next none => cases none
  · next empty => exact absurd (Option.some.inj empty) given
  · next same =>
    cases same
    rw [Effect.run_ask_bind]
    rcases w.files.contains (Path.parse text) with error | _ | _
    · rw [Effect.run_lift_bind_error]
    · rw [Effect.run_lift_bind_ok]
      rfl
    · rw [Effect.run_lift_bind_ok]
      rfl

theorem run_loadExisting_of_unread {failure : Failure}
    (unread : readFile w.files path = .error failure) :
    (loadExisting path).run w =
      if isUnreadable failure then ⟨.ok default, [unreadReport failure]⟩
      else ⟨.error failure, []⟩ := by
  rw [loadExisting, Effect.run_ask_bind, unread]
  dsimp only
  split
  · rfl
  · rfl

/-- What a file holds is read over the initial values, and is reported if it is sound. -/
theorem run_loadExisting_of_read {value : Value} (reads : readFile w.files path = .ok value) :
    (loadExisting path).run w =
      match ofValue path.toText value with
      | .ok settings =>
        ⟨.ok settings, [.log ⟨logger, .info, "Loaded configuration from " ++ path.toText⟩]⟩
      | .error error => ⟨.error (.settings error), []⟩ := by
  rw [loadExisting, Effect.run_ask_bind, reads]
  dsimp only
  rcases ofValue path.toText value with error | settings
  · rw [Effect.run_lift_bind_error]
  · rw [Effect.run_lift_bind_ok]
    rfl

end Run

/-- Data that cannot be read either mean that nothing is configured, or break that. -/
theorem breaks_of_unread {files : Files} {path : Path} {failure : Failure}
    (present : files.contains path = .ok true) (unread : readFile files path = .error failure)
    (other : isUnreadable failure = false) : Breaks files path failure := by
  obtain ⟨data, holds⟩ | ⟨cause, text, refused⟩ := Files.read_of_contains present
  · rw [readFile_of_read holds] at unread
    by_cases yaml : isYaml path = true
    · rw [readData_of_yaml yaml] at unread
      rcases parsed : Yaml.read data with error | value
      · rw [parsed] at unread
        cases unread
        refine .yaml yaml holds parsed ?_
        rintro rfl
        cases other
      · rw [parsed] at unread
        cases unread
    · have json : isYaml path = false := by simpa using yaml
      rcases decoded : Utf8.decodeLines data with error | text
      · rw [readData_of_garbled json decoded] at unread
        cases unread
        exact .garbled json holds decoded
      · rw [readData_of_json json decoded] at unread
        rcases parsed : Json.read text with error | value
        · rw [parsed] at unread
          cases unread
          cases error with
          | malformed fault place => cases other
          | longInteger digits => exact .longInteger json holds decoded parsed
          | tooDeep isList => exact .tooDeep json holds decoded parsed
        · rw [parsed] at unread
          cases unread
  · rw [readFile_of_refused refused] at unread
    cases unread
    cases other

section Load

variable {text : String} {w : World}

theorem run_load_of_read (given : text ≠ "") {data : List UInt8}
    (holds : w.files.read (Path.parse text) = .ok data) :
    (load (some text)).run w = (loadExisting (Path.parse text)).run w := by
  rw [run_load given, Files.contains_of_read holds]

theorem run_load_of_unread (given : text ≠ "") {data : List UInt8} {failure : Failure}
    (holds : w.files.read (Path.parse text) = .ok data)
    (unread : readData (Path.parse text) data = .error failure)
    (other : isUnreadable failure = false) :
    (load (some text)).run w = ⟨.error failure, []⟩ := by
  rw [run_load_of_read given holds,
    run_loadExisting_of_unread ((readFile_of_read holds).trans unread), other]
  rfl

theorem run_load_of_value (given : text ≠ "") {value : Value}
    (reads : readFile w.files (Path.parse text) = .ok value) :
    (load (some text)).run w =
      match ofValue (Path.parse text).toText value with
      | .ok settings => ⟨.ok settings,
        [.log ⟨logger, .info, "Loaded configuration from " ++ (Path.parse text).toText⟩]⟩
      | .error error => ⟨.error (.settings error), []⟩ := by
  obtain ⟨data, holds, -⟩ := read_of_readFile reads
  rw [run_load_of_read given holds, run_loadExisting_of_read reads]

theorem run_load_of_breaks {failure : Failure} (given : text ≠ "")
    (breaks : Breaks w.files (Path.parse text) failure) :
    (load (some text)).run w = ⟨.error failure, []⟩ := by
  cases breaks with
  | longName clean long =>
    have lost : w.files.contains (Path.parse text) =
        .error (.refused .nameTooLong (Path.parse text).toText) := by
      simp [Files.contains, clean, long]
    rw [run_load given, lost]
  | garbled json holds undecoded =>
    exact run_load_of_unread given holds (readData_of_garbled json undecoded) rfl
  | longInteger json holds decoded long =>
    have unread := readData_of_json json decoded
    rw [long] at unread
    exact run_load_of_unread given holds unread rfl
  | tooDeep json holds decoded deep =>
    have unread := readData_of_json json decoded
    rw [deep] at unread
    exact run_load_of_unread given holds unread rfl
  | @yaml data error yaml holds unread other =>
    have fails : readData (Path.parse text) data = .error (.yaml error) := by
      rw [readData_of_yaml yaml, unread]
      rfl
    refine run_load_of_unread given holds fails ?_
    cases error with
    | malformed => exact absurd rfl other
    | _ => rfl
  | unshowable yaml reads found hidden =>
    rw [run_load_of_value given reads, ofValue_of_broken found hidden.hides.violations_ne_nil,
      ofViolations_of_hiddenBy hidden]

theorem not_refused_of_breaks {files : Files} {path : Path} {failure : Failure}
    (breaks : Breaks files path failure) : ¬ Refused files path failure := by
  intro refused
  cases breaks <;> cases refused

section Sound

variable (sound : ¬ ∃ failure, Breaks w.files (Path.parse text) failure)

include sound

theorem isUnreadable_of_not_breaks {failure : Failure}
    (present : w.files.contains (Path.parse text) = .ok true)
    (unread : readFile w.files (Path.parse text) = .error failure) :
    isUnreadable failure = true := by
  by_contra other
  exact sound ⟨_, breaks_of_unread present unread (by simpa using other)⟩

theorem ofViolations_of_not_breaks {value : Value} {entries : Entries Scalar Value}
    (reads : readFile w.files (Path.parse text) = .ok value)
    (found : entriesOf? value = some entries) :
    SettingsError.ofViolations (some (Path.parse text).toText) (violations (merge entries)) =
      .invalid (some (Path.parse text).toText) (violations (merge entries)) := by
  refine ofViolations_of_not_hides (fun hides => ?_) _
  by_cases yaml : isYaml (Path.parse text) = true
  · obtain ⟨error, hidden⟩ := exists_hiddenBy hides
    exact sound ⟨_, .unshowable yaml reads found hidden⟩
  · have shown := isShowable_of_readFile (by simpa using yaml) reads
    exact not_hides_of_entriesOf found shown hides

theorem result_load_of_refused (given : text ≠ "") {failure : Failure}
    (refused : Refused w.files (Path.parse text) failure) :
    ((load (some text)).run w).result = .error failure := by
  cases refused with
  | notMapping reads other =>
    rw [run_load_of_value given reads, ofValue_of_other other]
  | unsound reads found broken =>
    rw [run_load_of_value given reads, ofValue_of_broken found broken,
      ofViolations_of_not_breaks sound reads found]

theorem refused_of_result_load (given : text ≠ "") {failure : Failure}
    (fails : ((load (some text)).run w).result = .error failure) :
    Refused w.files (Path.parse text) failure := by
  rcases contains : w.files.contains (Path.parse text) with error | _ | _
  · obtain ⟨clean, long⟩ := Files.contains_eq_error.1 ⟨_, contains⟩
    exact absurd ⟨_, .longName clean long⟩ sound
  · rw [run_load given, contains] at fails
    cases fails
  · rcases reads : readFile w.files (Path.parse text) with cause | value
    · rw [run_load given, contains] at fails
      dsimp only at fails
      rw [run_loadExisting_of_unread reads,
        isUnreadable_of_not_breaks sound contains reads] at fails
      cases fails
    · rw [run_load_of_value given reads] at fails
      rcases found : entriesOf? value with _ | entries
      · rw [ofValue_of_other found] at fails
        cases fails
        exact .notMapping reads found
      · by_cases holds : violations (merge entries) = []
        · rw [ofValue_of_sound found holds] at fails
          cases fails
        · rw [ofValue_of_broken found holds, ofViolations_of_not_breaks sound reads found] at fails
          cases fails
          exact .unsound reads found holds

theorem fallsBack_of_not_breaks (given : text ≠ "") :
    FallsBack (Path.parse text) w ((load (some text)).run w) where
  missing absent := by
    rw [run_load given]
    rcases contains : w.files.contains (Path.parse text) with error | _ | _
    · obtain ⟨clean, long⟩ := Files.contains_eq_error.1 ⟨_, contains⟩
      exact absurd ⟨_, .longName clean long⟩ sound
    · rfl
    · exact absurd contains absent
  unreadable present failure unread := by
    rw [run_load given, present]
    dsimp only
    rw [run_loadExisting_of_unread unread, isUnreadable_of_not_breaks sound present unread]
    rfl
  refused _ := ⟨refused_of_result_load sound given, result_load_of_refused sound given⟩
  merged value entries settings reads found loads := by
    by_cases holds : violations (merge entries) = []
    · rw [run_load_of_value given reads, ofValue_of_sound found holds] at loads
      cases loads
      rfl
    · rw [run_load_of_value given reads, ofValue_of_broken found holds] at loads
      cases loads

end Sound

end Load

/-- Settings are loaded from a path so that whatever is missing or cannot be read means that
nothing is configured, unless the data break that. Each break has its own failure, and leaves
no report. -/
theorem fallsBack_iff_not_breaks (text : String) (w : World) (given : text ≠ "") :
    (FallsBack (Path.parse text) w ((load (some text)).run w) ↔
      ¬ ∃ failure, Breaks w.files (Path.parse text) failure) ∧
    ∀ failure, Breaks w.files (Path.parse text) failure →
      (load (some text)).run w = ⟨.error failure, []⟩ := by
  refine ⟨⟨?_, fun sound => fallsBack_of_not_breaks sound given⟩,
    fun failure => run_load_of_breaks given⟩
  rintro falls ⟨failure, breaks⟩
  have fails := congrArg Outcome.result (run_load_of_breaks given breaks)
  exact not_refused_of_breaks breaks ((falls.refused failure).1 fails)

/-- A file with a byte that is no text. -/
theorem garbled_breaks :
    let w : World := {
      http := fun _ => .unreachable ""
      redis := ⟨[], none, none⟩
      files := ⟨[(["c.json"], .file [0xff])]⟩
      log := none
      time := "" }
    "c.json" ≠ "" ∧ ¬ FallsBack (Path.parse "c.json") w ((load (some "c.json")).run w) ∧
    ∃ error, (load (some "c.json")).run w = ⟨.error (.undecodable error), []⟩ := by
  intro w
  have given : "c.json" ≠ "" := by decide
  have holds : w.files.read (Path.parse "c.json") = .ok [0xff] := by decide +kernel
  obtain ⟨error, undecoded⟩ : ∃ error, Utf8.decodeLines [0xff] = .error error := ⟨_, rfl⟩
  have breaks : Breaks w.files (Path.parse "c.json") (.undecodable error) :=
    .garbled (by decide +kernel) holds undecoded
  obtain ⟨same, fails⟩ := fallsBack_iff_not_breaks "c.json" w given
  exact ⟨given, fun falls => same.1 falls ⟨_, breaks⟩, error, fails _ breaks⟩

end Settings

end ClusterTopology
