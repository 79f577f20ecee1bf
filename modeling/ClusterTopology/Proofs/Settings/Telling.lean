import ClusterTopology.Proofs.Json.Showable
import ClusterTopology.Proofs.Settings.Checking
import ClusterTopology.Settings.Error

/-!
# How what is wrong with settings is told

What the check of a value finds is told with the values that are at fault, in one text for each
broken rule. A value that cannot be shown has no such text, and then nothing is told: the check
fails, and why the first of these values cannot be shown, in the order in which settings are listed,
is why it does. Everything that a JSON text holds can be shown, so of that all is told.
-/

namespace ClusterTopology.Settings

/-- A setting whose value is refused and cannot be told. -/
def Hides (merged : Entries Scalar Value) : Prop :=
  ∃ (setting : Setting) (value : Value), Entries.get? merged setting.key = some value ∧
    ¬ setting.Accepts value ∧ value.isShowable = false

/-- The value of a setting is refused, and there is a reason that it cannot be told. -/
def HidesAt (merged : Entries Scalar Value) (setting : Setting) (error : ShowError) : Prop :=
  ∃ value, Entries.get? merged setting.key = some value ∧ ¬ setting.Accepts value ∧
    value.hidden? Value.maxDepth = some error

/-- The reason at the first setting, in the order in which they are listed, whose value is refused
and cannot be told. -/
def HiddenBy (merged : Entries Scalar Value) (error : ShowError) : Prop :=
  ∃ before setting after, Setting.all = before ++ setting :: after ∧ HidesAt merged setting error ∧
    ∀ earlier ∈ before, ∀ other, ¬ HidesAt merged earlier other

section Hidden

variable {merged : Entries Scalar Value} {setting : Setting} {error : ShowError}

theorem exists_hidesAt_iff : (∃ setting error, HidesAt merged setting error) ↔ Hides merged := by
  simp only [HidesAt, Hides, Value.isShowable, Option.isNone_eq_false_iff,
    Option.isSome_iff_exists]
  refine exists_congr fun setting => ?_
  constructor
  · rintro ⟨error, value, holds, refused, hidden⟩
    exact ⟨value, holds, refused, error, hidden⟩
  · rintro ⟨value, holds, refused, error, hidden⟩
    exact ⟨error, value, holds, refused, hidden⟩

theorem HiddenBy.hides (hidden : HiddenBy merged error) : Hides merged := by
  obtain ⟨before, setting, after, -, here, -⟩ := hidden
  exact exists_hidesAt_iff.1 ⟨setting, error, here⟩

theorem Hides.violations_ne_nil (hides : Hides merged) : violations merged ≠ [] := by
  obtain ⟨setting, value, holds, refused, -⟩ := hides
  exact fun sound => refused (violations_eq_nil_iff.1 sound setting value holds)

/-- A value that is refused breaks a rule. -/
theorem exists_mem_violations {value : Value}
    (holds : Entries.get? merged setting.key = some value) (refused : ¬ setting.Accepts value) :
    ∃ violation ∈ violations merged, violation.setting? = some setting ∧
      violation.value = value := by
  rw [← forall_keeps_iff, not_forall] at refused
  obtain ⟨rule, refused⟩ := refused
  obtain ⟨listed, broken⟩ := Classical.not_imp.1 refused
  exact ⟨_, mem_violations_iff.2 ⟨setting, rule, value, holds, listed, broken, rfl⟩, rfl, rfl⟩

/-- The violations of a setting cannot be told exactly if its value cannot. -/
theorem hiddenAt?_eq_some_iff :
    hiddenAt? (violations merged) (some setting) = some error ↔ HidesAt merged setting error := by
  -- All of these violations are by the one value that the setting has.
  have only {violation : Violation} {other : ShowError}
      (found : violation ∈ (violations merged).filter fun violation =>
        violation.setting? = some setting)
      (hidden : violation.value.hidden? Value.maxDepth = some other) :
      HidesAt merged setting other := by
    obtain ⟨found, here⟩ := List.mem_filter.1 found
    obtain ⟨holder, rule, value, holds, listed, broken, rfl⟩ := mem_violations_iff.1 found
    cases of_decide_eq_true here
    exact ⟨value, holds, fun takes => broken ((forall_keeps_iff _ value).2 takes rule listed),
      hidden⟩
  constructor
  · intro first
    obtain ⟨violation, found, hidden⟩ := List.exists_of_findSome?_eq_some first
    exact only found hidden
  · rintro ⟨value, holds, refused, hidden⟩
    obtain ⟨violation, found, here, told⟩ := exists_mem_violations holds refused
    rcases first : hiddenAt? (violations merged) (some setting) with _ | other
    · have shown := List.findSome?_eq_none_iff.1 first violation
        (List.mem_filter.2 ⟨found, decide_eq_true here⟩)
      rw [told, hidden] at shown
      cases shown
    · obtain ⟨violation, found, tells⟩ := List.exists_of_findSome?_eq_some first
      obtain ⟨given, gives, -, reason⟩ := only found tells
      cases holds.symm.trans gives
      rw [← reason, hidden]

/-- No violation of entries is one of the whole. -/
theorem hiddenAt?_none : hiddenAt? (violations merged) none = none := by
  refine List.findSome?_eq_none_iff.2 fun violation found => ?_
  obtain ⟨found, here⟩ := List.mem_filter.1 found
  obtain ⟨setting, rule, value, -, -, -, rfl⟩ := mem_violations_iff.1 found
  cases of_decide_eq_true here

/-- What is wrong with entries cannot be told exactly for the reason at the first setting that is
refused and cannot be told. -/
theorem hidden?_eq_some_iff : hidden? (violations merged) = some error ↔ HiddenBy merged error := by
  rw [hidden?, List.findSome?_cons, hiddenAt?_none, List.findSome?_map, List.findSome?_eq_some_iff]
  simp only [Function.comp_apply, hiddenAt?_eq_some_iff, Option.eq_none_iff_forall_ne_some, ne_eq]
  rfl

theorem hidden?_eq_none_iff : hidden? (violations merged) = none ↔ ¬ Hides merged := by
  rw [hidden?, List.findSome?_cons, hiddenAt?_none, List.findSome?_map, List.findSome?_eq_none_iff,
    ← exists_hidesAt_iff]
  simp only [Function.comp_apply, Option.eq_none_iff_forall_ne_some, hiddenAt?_eq_some_iff, ne_eq,
    not_exists]
  exact ⟨fun none setting => none setting (mem_all setting), fun none setting _ => none setting⟩

theorem exists_hiddenBy (hides : Hides merged) : ∃ error, HiddenBy merged error := by
  rcases first : hidden? (violations merged) with _ | error
  · exact absurd hides (hidden?_eq_none_iff.1 first)
  · exact ⟨error, hidden?_eq_some_iff.1 first⟩

/-- All that is wrong with entries is told, if nothing of it is hidden. -/
theorem tell_of_not_hides (clear : ¬ Hides merged) :
    tell (violations merged) = .ok ((violations merged).map Violation.message) := by
  rw [tell, hidden?_eq_none_iff.2 clear]

theorem tell_of_hiddenBy (hidden : HiddenBy merged error) :
    tell (violations merged) = .error error := by
  rw [tell, hidden?_eq_some_iff.2 hidden]

theorem ofViolations_of_not_hides (clear : ¬ Hides merged) (file : Option String) :
    SettingsError.ofViolations file (violations merged) = .invalid file (violations merged) := by
  rw [SettingsError.ofViolations, tell_of_not_hides clear]

theorem ofViolations_of_hiddenBy (hidden : HiddenBy merged error) (file : Option String) :
    SettingsError.ofViolations file (violations merged) = .unshowable error := by
  rw [SettingsError.ofViolations, tell_of_hiddenBy hidden]

/-- Of entries that can be shown nothing is hidden. -/
theorem not_hides_of_isShowable (shown : (Value.map merged).isShowable = true) :
    ¬ Hides merged := by
  rintro ⟨setting, value, holds, -, hidden⟩
  exact Bool.false_ne_true (hidden ▸ Value.isShowable_of_get? shown holds)

end Hidden

/-- What is wrong with a value that is no mapping is told with the whole value. -/
theorem hidden?_notMapping (value : Value) :
    hidden? [.notMapping value] = value.hidden? Value.maxDepth := by
  have whole : hiddenAt? [.notMapping value] none = value.hidden? Value.maxDepth := by
    rw [hiddenAt?, List.filter_cons_of_pos rfl, List.filter_nil, List.findSome?_singleton,
      Violation.value]
  have nowhere : (Setting.all.map some).findSome? (hiddenAt? [.notMapping value]) = none := rfl
  rw [hidden?, List.findSome?_cons, whole, nowhere]
  rcases value.hidden? Value.maxDepth with _ | error
  · rfl
  · rfl

/-- What is wrong with a value is told in full: of a mapping every rule that is broken, once and in
order, and of any other value that it is none. -/
structure ToldExactly (value : Value) (result : Except ShowError (List String)) : Prop where
  mapping : ∀ entries, value = .map entries →
    ∃ found, Reports entries found ∧ result = .ok (found.map Violation.message)
  other : (∀ entries, value ≠ .map entries) →
    result = .ok ["At root: " ++ value.shown ++ " is not of type 'object'"]

/-- Values of which it cannot be told what is wrong with them, and why: a value that is refused, of
a setting or as a whole, cannot be shown. -/
inductive Untold : Value → ShowError → Prop where
  | setting {entries : Entries Scalar Value} {error : ShowError}
    (hidden : HiddenBy entries error) : Untold (.map entries) error
  | whole {value : Value} {error : ShowError} (other : ∀ entries, value ≠ .map entries)
    (hidden : value.hidden? Value.maxDepth = some error) : Untold value error

section Check

variable {value : Value} {entries : Entries Scalar Value} {error : ShowError}

theorem untold_map_iff : Untold (.map entries) error ↔ HiddenBy entries error := by
  constructor
  · rintro (hidden | ⟨other, -⟩)
    · exact hidden
    · exact absurd rfl (other entries)
  · exact .setting

theorem not_hides_of_told (told : ¬ ∃ error, Untold (.map entries) error) : ¬ Hides entries :=
  fun hides => told ((exists_hiddenBy hides).imp fun _ => .setting)

/-- What is no mapping is told with the whole value, if that can be shown. -/
theorem check_of_shown (other : ∀ entries, value ≠ .map entries)
    (shown : value.hidden? Value.maxDepth = none) :
    check value = .ok ["At root: " ++ value.shown ++ " is not of type 'object'"] := by
  rw [check, violationsIn_of_other other, tell, hidden?_notMapping, shown]
  rfl

/-- The check fails where it cannot be told what is wrong. -/
theorem check_of_untold (untold : Untold value error) : check value = .error error := by
  cases untold with
  | setting hidden => exact tell_of_hiddenBy hidden
  | whole other hidden =>
    rw [check, violationsIn_of_other other, tell, hidden?_notMapping, hidden]

theorem toldExactly_of_told (told : ¬ ∃ error, Untold value error) :
    ToldExactly value (check value) where
  mapping entries same := by
    cases same
    exact ⟨violations entries, reports_violations entries,
      tell_of_not_hides (not_hides_of_told told)⟩
  other other := by
    rcases hidden : value.hidden? Value.maxDepth with _ | error
    · exact check_of_shown other hidden
    · exact absurd ⟨error, .whole other hidden⟩ told

theorem ToldExactly.exists_ok {result : Except ShowError (List String)}
    (exactly : ToldExactly value result) : ∃ told, result = .ok told := by
  by_cases mapping : ∃ entries, value = .map entries
  · obtain ⟨entries, same⟩ := mapping
    obtain ⟨found, -, tells⟩ := exactly.mapping entries same
    exact ⟨_, tells⟩
  · exact ⟨_, exactly.other fun entries same => mapping ⟨entries, same⟩⟩

theorem toldExactly_check_iff :
    ToldExactly value (check value) ↔ ¬ ∃ error, Untold value error := by
  refine ⟨?_, toldExactly_of_told⟩
  rintro exactly ⟨error, untold⟩
  obtain ⟨told, tells⟩ := exactly.exists_ok
  rw [check_of_untold untold] at tells
  cases tells

/-- Nothing is told only where nothing is wrong, also of what cannot be shown. -/
theorem check_eq_nil_iff :
    check value = .ok [] ↔ ∃ entries, value = .map entries ∧ AllAccepted entries := by
  by_cases untold : ∃ error, Untold value error
  · obtain ⟨error, untold⟩ := untold
    rw [check_of_untold untold]
    refine iff_of_false (fun same => by cases same) ?_
    rintro ⟨entries, rfl, accepted⟩
    exact (untold_map_iff.1 untold).hides.violations_ne_nil (violations_eq_nil_iff.2 accepted)
  have exactly := toldExactly_of_told untold
  by_cases mapping : ∃ entries, value = .map entries
  · obtain ⟨entries, rfl⟩ := mapping
    have told : check (.map entries) = .ok ((violations entries).map Violation.message) :=
      tell_of_not_hides (not_hides_of_told untold)
    rw [told, Except.ok.injEq, List.map_eq_nil_iff, violations_eq_nil_iff]
    exact ⟨fun accepted => ⟨entries, rfl, accepted⟩, fun ⟨_, same, accepted⟩ => by
      cases same
      exact accepted⟩
  · rw [exactly.other fun entries same => mapping ⟨entries, same⟩]
    refine iff_of_false (fun same => by cases same) ?_
    exact fun ⟨entries, same, _⟩ => mapping ⟨entries, same⟩

/-- What a JSON text holds can be told. -/
theorem not_untold_of_read {text : String} (reads : Json.read text = .ok value) :
    ¬ Untold value error := by
  have shown := Json.isShowable_of_read reads
  rintro (hidden | ⟨-, hidden⟩)
  · exact not_hides_of_isShowable shown hidden.hides
  · rw [Value.isShowable, hidden] at shown
    cases shown

end Check

/-- The check of a value finds nothing exactly if the value is a mapping in which every setting
that is there has a value that it takes. Of a mapping it tells every rule that is broken, and of
any other value that it is none, unless a value that is refused cannot be shown: then it fails
instead. What a JSON text holds is always told. Keys that are no settings, and the order of the
others, make no difference. -/
theorem check_exact (value : Value) :
    (check value = .ok [] ↔ ∃ entries, value = .map entries ∧ AllAccepted entries) ∧
    (ToldExactly value (check value) ↔ ¬ ∃ error, Untold value error) ∧
    (∀ error, Untold value error → check value = .error error) ∧
    (∀ text, Json.read text = .ok value → ToldExactly value (check value)) ∧
    (∀ (setting : Setting) (rule : Rule) (held : Value),
      (Violation.broken setting rule held).message =
        "At " ++ setting.name ++ ": " ++ rule.complaint held) ∧
    (∀ entries others, value = .map entries → (Entries.keys (known entries)).Nodup →
      (known entries).Perm (known others) → check value = check (.map others)) := by
  refine ⟨check_eq_nil_iff, toldExactly_check_iff, fun _ => check_of_untold, ?_,
    fun _ _ _ => rfl, ?_⟩
  · intro text reads
    exact toldExactly_of_told fun ⟨_, untold⟩ => not_untold_of_read reads untold
  · rintro entries others rfl distinct same
    rw [check, check, violationsIn, violationsIn, violations_of_perm distinct same]

/-- A port of one half is no integer and too small, wherever it stands. A port that is too long to
be shown is refused as well, but is not told. -/
theorem check_of_half_port :
    let port := (Setting.redisPort.key, Value.float (.ofRatio false 1 2))
    let long := (Setting.redisPort.key, Value.int (Nat.pow 10 4300))
    let suffix := (Setting.suffix.key, Value.text "-east")
    let other := (Scalar.text "zone", Value.null)
    (Entries.keys (known [port, other, suffix])).Nodup ∧
    (known [port, other, suffix]).Perm (known [suffix, port]) ∧
    check (.map [port, other, suffix]) = check (.map [suffix, port]) ∧
    check (.map [suffix, port]) = .ok ["At redis_port: 0.5 is not of type 'integer'",
      "At redis_port: 0.5 is less than the minimum of 1"] ∧
    (Json.read "[]" = .ok (.list []) ∧
      check (.list []) = .ok ["At root: [] is not of type 'object'"]) ∧
    Untold (.map [long]) .longInteger ∧ check (.map [long]) = .error .longInteger := by
  intro port long suffix other
  have distinct : (Entries.keys (known [port, other, suffix])).Nodup := by decide
  have same : (known [port, other, suffix]).Perm (known [suffix, port]) := .swap suffix port []
  obtain ⟨-, -, -, -, -, order⟩ := check_exact (.map [port, other, suffix])
  have told : check (.map [suffix, port]) = .ok ["At redis_port: 0.5 is not of type 'integer'",
      "At redis_port: 0.5 is less than the minimum of 1"] := by decide +kernel
  have reads : Json.read "[]" = .ok (.list []) := rfl
  obtain ⟨-, -, -, read, -⟩ := check_exact (.list [])
  have noMapping := (read "[]" reads).other (fun entries same => by cases same)
  have untold : Untold (.map [long]) .longInteger :=
    .setting (hidden?_eq_some_iff.1 (by decide +kernel))
  obtain ⟨-, -, fails, -⟩ := check_exact (.map [long])
  exact ⟨distinct, same, order _ _ rfl distinct same, told, ⟨reads, noMapping⟩, untold,
    fails _ untold⟩

end ClusterTopology.Settings
