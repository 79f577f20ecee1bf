import ClusterTopology.Proofs.Json.Mapping
import ClusterTopology.Proofs.Settings.Loading
import ClusterTopology.Proofs.Settings.Merging
import ClusterTopology.Proofs.Yaml.Mapping
import Mathlib

/-!
# What is loaded

A file has every key once, so it is loaded as its entries over the initial values, exactly if
every setting takes its value. What is loaded passes a second check unchanged. Whatever a file or a
configuration is accepted as has a value for every setting.
-/

namespace ClusterTopology

namespace Settings

open Entries

/-- A file that is a mapping has every key once. -/
theorem distinct_of_readFile {files : Files} {path : Path} {entries : Entries Scalar Value}
    (reads : readFile files path = .ok (.map entries)) : Distinct entries := by
  obtain ⟨data, -, reads⟩ := read_of_readFile reads
  cases yaml : isYaml path with
  | true =>
    rw [readData_of_yaml yaml] at reads
    rcases parsed : Yaml.read data with error | value
    · rw [parsed] at reads
      cases reads
    · rw [parsed] at reads
      cases reads
      exact Yaml.distinct_of_read parsed
  | false =>
    rcases decoded : Utf8.decodeLines data with error | text
    · rw [readData_of_garbled yaml decoded] at reads
      cases reads
    · rw [readData_of_json yaml decoded] at reads
      rcases parsed : Json.read text with error | value
      · rw [parsed] at reads
        cases reads
      · rw [parsed] at reads
        cases reads
        exact Json.distinct_of_read parsed

theorem distinct_of_entriesOf {files : Files} {path : Path} {value : Value}
    {entries : Entries Scalar Value} (reads : readFile files path = .ok value)
    (found : entriesOf? value = some entries) : Distinct entries := by
  unfold entriesOf? at found
  split at found
  · cases found
    exact distinct_nil
  · cases found
    exact distinct_of_readFile reads
  · cases found

theorem make_of_merged {settings : Settings} (merged : merge settings.entries = settings.entries) :
    make settings.entries = .ok settings := by
  obtain ⟨entries, sound⟩ := settings
  rw [make, merged]
  unfold ofEntries
  split
  · rfl
  · next broken => exact absurd sound broken

theorem entries_of_value {text : String} {w : World} {value : Value} {settings : Settings}
    (given : text ≠ "") (reads : readFile w.files (Path.parse text) = .ok value)
    (loads : ((load (some text)).run w).result = .ok settings) :
    ∃ entries, entriesOf? value = some entries ∧ settings.entries = merge entries := by
  rw [run_load_of_value given reads] at loads
  rcases found : entriesOf? value with _ | entries
  · rw [ofValue_of_other found] at loads
    cases loads
  · by_cases sound : violations (merge entries) = []
    · rw [ofValue_of_sound found sound] at loads
      cases loads
      exact ⟨entries, rfl, rfl⟩
    · rw [ofValue_of_broken found sound] at loads
      cases loads

/-- Without a value in the file nothing is configured. -/
theorem eq_default_of_unread {text : String} {w : World} {settings : Settings} {failure : Failure}
    (given : text ≠ "") (unread : readFile w.files (Path.parse text) = .error failure)
    (loads : ((load (some text)).run w).result = .ok settings) : settings = default := by
  rcases present : w.files.contains (Path.parse text) with error | _ | _
  · rw [run_load given, present] at loads
    cases loads
  · rw [run_load given, present] at loads
    cases loads
    rfl
  · rw [run_load given, present] at loads
    dsimp only at loads
    rw [run_loadExisting_of_unread unread] at loads
    split at loads
    · cases loads
      rfl
    · cases loads

/-- What is loaded is merged, also if nothing is configured. -/
theorem merge_of_load {text : Option String} {w : World} {settings : Settings}
    (loads : ((load text).run w).result = .ok settings) :
    merge settings.entries = settings.entries := by
  have initially : merge default.entries = default.entries := merge_merge distinct_nil
  obtain rfl | rfl | ⟨text, rfl, given⟩ : text = none ∨ text = some "" ∨
      ∃ path, text = some path ∧ path ≠ "" := by
    cases text with
    | none => exact .inl rfl
    | some text => by_cases empty : text = "" <;> simp [empty]
  · cases loads
    exact initially
  · cases loads
    exact initially
  · rcases reads : readFile w.files (Path.parse text) with failure | value
    -- Something is loaded even if the file cannot be read, but only the initial values.
    · rw [eq_default_of_unread given reads loads]
      exact initially
    · obtain ⟨entries, found, same⟩ := entries_of_value given reads loads
      rw [same]
      exact merge_merge (distinct_of_entriesOf reads found)

/-- A second check changes nothing, and leaves no report. -/
theorem run_ofFile_of_load {text : Option String} {w : World} {settings : Settings}
    (loads : ((load text).run w).result = .ok settings) :
    (ofFile text).run w = (load text).run w := by
  rw [ofFile, Effect.run_bind_of_ok loads, Effect.lift, make_of_merged (merge_of_load loads)]
  rw [mapError_ok, Effect.run_ofExcept, List.append_nil, ← loads]

/-- Settings that a file or a configuration is accepted as. -/
inductive Accepted : Settings → Prop where
  | loaded {text : Option String} {w : World} {settings : Settings}
    (loads : ((load text).run w).result = .ok settings) : Accepted settings
  | checked {text : Option String} {w : World} {settings : Settings}
    (loads : ((ofFile text).run w).result = .ok settings) : Accepted settings
  | config {value : Value} {settings : Settings} (makes : ofConfig value = .ok settings) :
    Accepted settings

theorem entries_of_make {given : Entries Scalar Value} {settings : Settings}
    (makes : (make given).mapError Failure.settings = .ok settings) :
    settings.entries = merge given := by
  rw [make] at makes
  unfold ofEntries at makes
  split at makes
  · cases makes
    rfl
  · cases makes

/-- Accepted settings are written over the initial values. -/
theorem Accepted.exists_merge {settings : Settings} (accepted : Accepted settings) :
    ∃ given, settings.entries = merge given := by
  cases accepted with
  | loaded loads => exact ⟨_, (merge_of_load loads).symm⟩
  | checked loads =>
    obtain ⟨loaded, -, makes⟩ := Effect.result_bind_eq_ok.1 loads
    exact ⟨_, entries_of_make makes⟩
  | @config value _ makes =>
    unfold ofConfig at makes
    split at makes
    · rcases listed : Listing.entries value with error | given
      · rw [listed] at makes
        cases makes
      · rw [listed] at makes
        exact ⟨given, entries_of_make makes⟩
    · exact ⟨[], entries_of_make makes⟩

/-- Accepted settings have a value for every setting, which it takes. -/
theorem Accepted.exists_value {settings : Settings} (accepted : Accepted settings)
    (setting : Setting) :
    ∃ value, Entries.get? settings.entries setting.key = some value ∧ setting.Accepts value := by
  obtain ⟨given, same⟩ := accepted.exists_merge
  have initially : (Entries.get? initial setting.key).isSome = true := by
    rw [get?_initial]
    rfl
  obtain ⟨key, listed, found⟩ := Entries.isSome_get?_iff.1 initially
  have kept : key ∈ Entries.keys settings.entries := by
    rw [same, merge]
    exact (Entries.keys_prefix_update initial given).subset listed
  obtain ⟨value, holds⟩ := Option.isSome_iff_exists.1
    (Entries.isSome_get?_iff.2 ⟨key, kept, found⟩)
  exact ⟨value, holds, violations_eq_nil_iff.1 settings.sound setting value holds⟩

/-- How a file is loaded whose entries come to `merged`: it holds them as settings exactly if every
setting takes its value, and else is refused with a text that lists all that is wrong. -/
structure LoadsExactly (path : Path) (merged : Entries Scalar Value) (outcome : Outcome Settings) :
    Prop where
  returns : (∃ settings, outcome.result = .ok settings) ↔ AllAccepted merged
  entries : ∀ settings, outcome.result = .ok settings → settings.entries = merged
  refused : ∀ failure, outcome.result = .error failure → failure.isOwn = true ∧
    ∃ found, Reports merged found ∧ failure.message =
      "Invalid configuration in " ++ path.toText ++ ": " ++
        "; ".intercalate (found.map Violation.message)

section Exact

variable {text : String} {w : World} {value : Value} {entries : Entries Scalar Value}

theorem isYaml_of_hides (reads : readFile w.files (Path.parse text) = .ok value)
    (found : entriesOf? value = some entries) (hides : Hides (merge entries)) :
    isYaml (Path.parse text) = true := by
  by_contra json
  have shown := isShowable_of_readFile (by simpa using json) reads
  exact not_hides_of_entriesOf found shown hides

theorem run_load_of_hiddenBy {error : ShowError} (given : text ≠ "")
    (reads : readFile w.files (Path.parse text) = .ok value)
    (found : entriesOf? value = some entries) (hidden : HiddenBy (merge entries) error) :
    (load (some text)).run w = ⟨.error (.settings (.unshowable error)), []⟩ := by
  rw [run_load_of_value given reads, ofValue_of_broken found hidden.hides.violations_ne_nil,
    ofViolations_of_hiddenBy hidden]

theorem loadsExactly_of_clear (given : text ≠ "")
    (reads : readFile w.files (Path.parse text) = .ok value)
    (found : entriesOf? value = some entries) (clear : ¬ Hides (merge entries)) :
    LoadsExactly (Path.parse text) (merge entries) ((load (some text)).run w) := by
  rw [run_load_of_value given reads]
  by_cases sound : violations (merge entries) = []
  · rw [ofValue_of_sound found sound]
    exact {
      returns := iff_of_true ⟨_, rfl⟩ (violations_eq_nil_iff.1 sound)
      entries := fun settings returns => by cases returns; rfl
      refused := fun failure fails => by cases fails }
  · rw [ofValue_of_broken found sound, ofViolations_of_not_hides clear]
    refine ⟨iff_of_false ?_ (mt violations_eq_nil_iff.2 sound), ?_, ?_⟩
    · rintro ⟨settings, returns⟩
      cases returns
    · intro settings returns
      cases returns
    · intro failure fails
      cases fails
      exact ⟨rfl, _, reports_violations _, rfl⟩

end Exact

/-- A file of entries is loaded as these entries over the initial values, unless a value that is
refused cannot be told; then it is refused as well, but with a failure that is none of the
library's. Whatever is loaded passes a second check as it is. -/
theorem load_merges_exactly (text : Option String) (w : World) :
    (∀ name value entries, text = some name → name ≠ "" →
      readFile w.files (Path.parse name) = .ok value → entriesOf? value = some entries →
      ∃ merged, IsMerged entries merged ∧
        (LoadsExactly (Path.parse name) merged ((load text).run w) ↔ ¬ Hides merged) ∧
        (Hides merged → isYaml (Path.parse name) = true ∧ ∃ error, HiddenBy merged error ∧
          (load text).run w = ⟨.error (.settings (.unshowable error)), []⟩)) ∧
    (∀ settings, ((load text).run w).result = .ok settings →
      (ofFile text).run w = (load text).run w) := by
  refine ⟨?_, fun _ => run_ofFile_of_load⟩
  rintro name value entries rfl given reads found
  refine ⟨merge entries, isMerged_merge (distinct_of_entriesOf reads found), ⟨?_, ?_⟩, ?_⟩
  · intro loads hides
    obtain ⟨error, hidden⟩ := exists_hiddenBy hides
    have fails := congrArg Outcome.result (run_load_of_hiddenBy given reads found hidden)
    have own := (loads.refused _ fails).1
    cases own
  · exact loadsExactly_of_clear given reads found
  · intro hides
    obtain ⟨error, hidden⟩ := exists_hiddenBy hides
    exact ⟨isYaml_of_hides reads found hides, error, hidden,
      run_load_of_hiddenBy given reads found hidden⟩

/-- A file with a setting that comes twice, last as null, and with a key that is no setting. -/
theorem load_merges_null_and_zone :
    let text := "\x7b\"log_file\": \"a\", \"zone\": [], \"log_file\": null\x7d"
    let w : World := {
      http := fun _ => .unreachable ""
      redis := ⟨[], none, none⟩
      files := ⟨[(["c.json"], .file (Utf8.encode text))]⟩
      log := none
      time := "" }
    let entries := [(Setting.logFile.key, Value.null), (.text "zone", .list [])]
    "c.json" ≠ "" ∧ readFile w.files (Path.parse "c.json") = .ok (.map entries) ∧
    ∃ settings : Settings, ((load (some "c.json")).run w).result = .ok settings ∧
      IsMerged entries settings.entries ∧
      (ofFile (some "c.json")).run w = (load (some "c.json")).run w := by
  intro text w entries
  have given : "c.json" ≠ "" := by decide
  have holds : w.files.read (Path.parse "c.json") = .ok (Utf8.encode text) := by decide +kernel
  have decoded : Utf8.decodeLines (Utf8.encode text) = .ok text := by decide +kernel
  have json : isYaml (Path.parse "c.json") = false := by decide +kernel
  have parsed : Json.read text = .ok (.map entries) := by cbv
  have reads : readFile w.files (Path.parse "c.json") = .ok (.map entries) := by
    rw [readFile_of_read holds, readData_of_json json decoded, parsed]
    rfl
  have sound : violations (merge entries) = [] := by decide +kernel
  obtain ⟨settings, returns⟩ :
      ∃ settings, ((load (some "c.json")).run w).result = .ok settings := by
    rw [run_load_of_value given reads, ofValue_of_sound rfl sound]
    exact ⟨_, rfl⟩
  obtain ⟨merges, again⟩ := load_merges_exactly (some "c.json") w
  obtain ⟨merged, same, loads, hides⟩ := merges "c.json" _ entries rfl given reads rfl
  have clear : ¬ Hides merged := fun hidden => Bool.false_ne_true (json ▸ (hides hidden).1)
  have held : settings.entries = merged := (loads.2 clear).entries settings returns
  exact ⟨given, reads, settings, returns, held ▸ same, again settings returns⟩

end Settings

end ClusterTopology
