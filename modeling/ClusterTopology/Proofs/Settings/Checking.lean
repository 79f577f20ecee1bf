import Mathlib.Data.List.Nodup
import ClusterTopology.Proofs.Number.Amount
import ClusterTopology.Settings.Setting

/-!
# What the check of settings finds

`Setting.Accepts` says which values each setting takes, and `Rule.Keeps` what every single rule
asks. The check finds nothing exactly in mappings whose settings all have values that they take;
else it finds every broken rule once, settings in the order of their names and rules in the order
of their lists. Other keys and the order of the keys make no difference.
-/

namespace ClusterTopology

open Number

/-- The amount of a value, if it is an ordered number; truth values are none. -/
def Value.amount? : Value → Option Amount
  | .scalar (.int n) => some (.ofInt n)
  | .scalar (.float x) => x.amount?
  | _ => none

/-- A number, whether ordered or not. -/
def Value.IsNumber (value : Value) : Prop :=
  (∃ n, value = .int n) ∨ ∃ x, value = .float x

namespace Settings

/-- A value of a kind. A number that amounts to an integer is one however it is written. -/
def Kind.Has : Kind → Value → Prop
  | .text, value => ∃ s, value = .text s
  | .null, value => value = .null
  | .integer, value => ∃ n, value.amount? = some (.ofInt n)
  | .number, value => value.IsNumber
  | .boolean, value => ∃ b, value = .bool b

theorem Kind.holds_iff (kind : Kind) (value : Value) :
    kind.holds value = true ↔ kind.Has value := by
  rcases value with ⟨_ | b | n | x | s | _ | _ | _⟩ | _ | _ | _ | _ | _
  case scalar.float =>
    cases kind with
    | integer => exact x.isIntegral_iff
    | _ => simp [Kind.holds, Kind.Has, Value.IsNumber]
  all_goals cases kind <;> simp [Kind.holds, Kind.Has, Value.IsNumber, Value.amount?]

/-- A value compares with an integer as its amount does. -/
theorem compareWith_eq (bound : Int) (value : Value) :
    compareWith bound value = value.amount?.map fun amount => cmp amount (.ofInt bound) := by
  rcases value with ⟨_ | b | n | x | s | _ | _ | _⟩ | _ | _ | _ | _ | _
  case scalar.int => exact congrArg some (Amount.cmp_ofInt n bound).symm
  case scalar.float => exact x.compareInt_eq bound
  all_goals rfl

/-- What a rule asks of a value. The bounds are for what is not an ordered number no matter. -/
def Rule.Keeps : Rule → Value → Prop
  | .kinds allowed, value => ∃ kind ∈ allowed, kind.Has value
  | .nonEmpty, value => value ≠ .text ""
  | .above bound, value => ∀ amount, value.amount? = some amount → ¬ amount ≤ .ofInt bound
  | .atLeast bound, value => ∀ amount, value.amount? = some amount → ¬ amount < .ofInt bound
  | .atMost bound, value => ∀ amount, value.amount? = some amount → ¬ .ofInt bound < amount
  | .oneOf names, value => ∃ s ∈ names, value = .text s

theorem Rule.holds_iff (rule : Rule) (value : Value) :
    rule.holds value = true ↔ rule.Keeps value := by
  cases rule with
  | kinds allowed => simp [holds, Keeps, Kind.holds_iff]
  | nonEmpty =>
    unfold holds Keeps
    dsimp only
    split
    · simp
    · next other => exact iff_of_true rfl (other "")
  | above bound =>
    rw [holds, Keeps, compareWith_eq]
    rcases value.amount? with _ | amount
    · rw [Option.map_none]
      simp
    · rw [Option.map_some]
      rcases lt_trichotomy amount (.ofInt bound) with less | same | more
      · rw [(cmp_eq_lt_iff _ _).2 less]
        simp [less.le]
      · rw [(cmp_eq_eq_iff _ _).2 same]
        simp [same.le]
      · rw [(cmp_eq_gt_iff _ _).2 more]
        simp [more]
  | atLeast bound =>
    rw [holds, Keeps, compareWith_eq]
    rcases value.amount? with _ | amount
    · rw [Option.map_none]
      simp
    · rw [Option.map_some, decide_eq_true_iff, ne_eq, Option.some_inj, cmp_eq_lt_iff]
      simp
  | atMost bound =>
    rw [holds, Keeps, compareWith_eq]
    rcases value.amount? with _ | amount
    · rw [Option.map_none]
      simp
    · rw [Option.map_some, decide_eq_true_iff, ne_eq, Option.some_inj, cmp_eq_gt_iff]
      simp
  | oneOf names =>
    unfold holds Keeps
    dsimp only
    split
    · simp
    · next other =>
      refine iff_of_false Bool.false_ne_true ?_
      rintro ⟨s, -, same⟩
      exact other s same

end Settings

/-- The values that a setting takes. -/
def Setting.Accepts : Setting → Value → Prop
  | .suffix, value => ∃ s, value = .text s
  | .broadcastAddress, value => ∃ s, s ≠ "" ∧ value = .text s
  | .metadataTimeout, value =>
    value.IsNumber ∧ ∀ amount, value.amount? = some amount → ¬ amount ≤ .ofInt 0
  | .redisEnabled, value => ∃ b, value = .bool b
  | .redisHost, value => ∃ s, value = .text s
  | .redisPort, value => ∃ n, value.amount? = some (.ofInt n) ∧ 1 ≤ n ∧ n ≤ 65535
  | .redisPassword, value => value = .null ∨ ∃ s, value = .text s
  | .redisDatabase, value => ∃ n, value.amount? = some (.ofInt n) ∧ 0 ≤ n
  | .redisNamespace, value => ∃ s, s ≠ "" ∧ value = .text s
  | .topologyFile, value => value = .null ∨ ∃ s, value = .text s
  | .logLevel, value =>
    ∃ s ∈ ["DEBUG", "INFO", "WARNING", "ERROR", "CRITICAL"], value = .text s
  | .logFile, value => value = .null ∨ ∃ s, value = .text s

namespace Settings

open Rule

theorem forall_mem_text_iff (value : Value) :
    (∀ rule ∈ [kinds [.text]], rule.Keeps value) ↔ ∃ s, value = .text s := by
  simp [Keeps, Kind.Has]

theorem forall_mem_filledText_iff (value : Value) :
    (∀ rule ∈ [kinds [.text], nonEmpty], rule.Keeps value) ↔ ∃ s, s ≠ "" ∧ value = .text s := by
  rw [List.forall_mem_cons, List.forall_mem_singleton]
  simp only [Keeps, Kind.Has, List.mem_singleton, exists_eq_left]
  constructor
  · rintro ⟨⟨s, rfl⟩, filled⟩
    exact ⟨s, fun empty => filled (by rw [empty]), rfl⟩
  · rintro ⟨s, filled, rfl⟩
    exact ⟨⟨s, rfl⟩, by simpa using filled⟩

theorem forall_mem_optionalText_iff (value : Value) :
    (∀ rule ∈ [kinds [.text, .null]], rule.Keeps value) ↔
      value = .null ∨ ∃ s, value = .text s := by
  simp [Keeps, Kind.Has, or_comm]

/-- Of an integer the bounds ask what they ask of the number it is. -/
theorem atLeast_keeps_iff {bound n : Int} {value : Value} (is : value.amount? = some (.ofInt n)) :
    (atLeast bound).Keeps value ↔ bound ≤ n := by
  simp [Keeps, is]

theorem atMost_keeps_iff {bound n : Int} {value : Value} (is : value.amount? = some (.ofInt n)) :
    (atMost bound).Keeps value ↔ n ≤ bound := by
  simp [Keeps, is]

theorem forall_mem_integer_iff (more : List Rule) (value : Value) :
    (∀ rule ∈ kinds [.integer] :: more, rule.Keeps value) ↔
      ∃ n, value.amount? = some (.ofInt n) ∧ ∀ rule ∈ more, rule.Keeps value := by
  simp [Keeps, Kind.Has]

/-- A value keeps all the rules of a setting exactly if the setting takes it. -/
theorem forall_keeps_iff (setting : Setting) (value : Value) :
    (∀ rule ∈ setting.rules, rule.Keeps value) ↔ setting.Accepts value := by
  cases setting with
  | suffix => exact forall_mem_text_iff value
  | broadcastAddress => exact forall_mem_filledText_iff value
  | metadataTimeout => simp [Setting.rules, Setting.Accepts, Keeps, Kind.Has]
  | redisEnabled => simp [Setting.rules, Setting.Accepts, Keeps, Kind.Has]
  | redisHost => exact forall_mem_text_iff value
  | redisPort =>
    rw [Setting.rules, Setting.Accepts, forall_mem_integer_iff]
    refine exists_congr fun n => and_congr_right fun is => ?_
    simp [atLeast_keeps_iff is, atMost_keeps_iff is]
  | redisPassword => exact forall_mem_optionalText_iff value
  | redisDatabase =>
    rw [Setting.rules, Setting.Accepts, forall_mem_integer_iff]
    refine exists_congr fun n => and_congr_right fun is => ?_
    simp [atLeast_keeps_iff is]
  | redisNamespace => exact forall_mem_filledText_iff value
  | topologyFile => exact forall_mem_optionalText_iff value
  | logLevel => simp [Setting.rules, Setting.Accepts, Keeps]
  | logFile => exact forall_mem_optionalText_iff value

/-- A violation that is told before another one: of a setting with a smaller name, or of an
earlier rule of the same setting. -/
inductive Violation.Before : Violation → Violation → Prop where
  | name {setting other : Setting} {rule later : Rule} {value given : Value}
    (smaller : setting.name < other.name) :
    Before (.broken setting rule value) (.broken other later given)
  | rule {setting : Setting} {rule later : Rule} {value given : Value}
    (listed : [rule, later].Sublist setting.rules) :
    Before (.broken setting rule value) (.broken setting later given)

/-- A list of what is wrong with entries: each rule that the value of a setting breaks, once and
in order. -/
structure Reports (entries : Entries Scalar Value) (found : List Violation) : Prop where
  mem_iff : ∀ violation, violation ∈ found ↔ ∃ setting rule value,
    Entries.get? entries setting.key = some value ∧ rule ∈ setting.rules ∧ ¬ rule.Keeps value ∧
      violation = .broken setting rule value
  sorted : found.Pairwise Violation.Before
  once : found.Nodup

theorem mem_byName (setting : Setting) : setting ∈ Setting.byName := by
  cases setting <;> decide

theorem mem_violations_iff {entries : Entries Scalar Value} {violation : Violation} :
    violation ∈ violations entries ↔ ∃ setting rule value,
      Entries.get? entries setting.key = some value ∧ rule ∈ setting.rules ∧ ¬ rule.Keeps value ∧
        violation = .broken setting rule value := by
  rw [violations, List.mem_flatMap]
  constructor
  · rintro ⟨setting, -, found⟩
    split at found
    · next value given =>
      obtain ⟨rule, broken, rfl⟩ := List.mem_map.1 found
      obtain ⟨listed, fails⟩ := List.mem_filter.1 broken
      exact ⟨setting, rule, value, given, listed, by simpa [← Rule.holds_iff] using fails, rfl⟩
    · cases found
  · rintro ⟨setting, rule, value, given, listed, fails, rfl⟩
    refine ⟨setting, mem_byName setting, ?_⟩
    rw [given]
    refine List.mem_map.2 ⟨rule, List.mem_filter.2 ⟨listed, ?_⟩, rfl⟩
    simpa [← Rule.holds_iff] using fails

theorem byName_sorted : Setting.byName.Pairwise fun setting other => setting.name < other.name := by
  decide

theorem violationsOf_sorted (setting : Setting) (value : Value) :
    (violationsOf setting value).Pairwise Violation.Before := by
  rw [violationsOf, List.pairwise_map, List.pairwise_iff_forall_sublist]
  intro rule later both
  exact .rule (both.trans List.filter_sublist)

theorem violations_sorted (entries : Entries Scalar Value) :
    (violations entries).Pairwise Violation.Before := by
  rw [violations, List.pairwise_flatMap]
  -- Within a setting the order is that of its rules, between settings that of their names.
  constructor
  · intro setting listed
    split
    · exact violationsOf_sorted setting _
    · exact .nil
  · refine byName_sorted.imp fun {setting other} smaller violation found later next => ?_
    split at found
    · split at next
      · obtain ⟨rule, -, rfl⟩ := List.mem_map.1 found
        obtain ⟨rule', -, rfl⟩ := List.mem_map.1 next
        exact .name smaller
      · cases next
    · cases found

theorem rules_nodup (setting : Setting) : setting.rules.Nodup := by
  cases setting <;> decide

theorem Violation.Before.ne {violation later : Violation} (before : violation.Before later) :
    violation ≠ later := by
  cases before with
  | name smaller =>
    intro same
    cases same
    exact String.lt_irrefl _ smaller
  | @rule setting _ _ _ _ listed =>
    intro same
    cases same
    exact absurd rfl (List.pairwise_iff_forall_sublist.1 (rules_nodup setting) listed)

theorem reports_violations (entries : Entries Scalar Value) :
    Reports entries (violations entries) where
  mem_iff _ := mem_violations_iff
  sorted := violations_sorted entries
  once := (violations_sorted entries).imp Violation.Before.ne

theorem mem_all (setting : Setting) : setting ∈ Setting.all := by
  cases setting <;> decide

/-- Whether a key is that of a setting. -/
def isKnown (key : Scalar) : Bool :=
  decide (∃ setting ∈ Setting.all, key = setting.key)

theorem isKnown_iff {key : Scalar} :
    isKnown key = true ↔ ∃ setting : Setting, key = setting.key := by
  rw [isKnown, decide_eq_true_iff]
  exact ⟨fun ⟨setting, _, same⟩ => ⟨setting, same⟩, fun ⟨setting, same⟩ =>
    ⟨setting, mem_all setting, same⟩⟩

@[simp]
theorem isKnown_key (setting : Setting) : isKnown setting.key = true :=
  isKnown_iff.2 ⟨setting, rfl⟩

/-- The entries under keys that are settings. -/
def known (entries : Entries Scalar Value) : Entries Scalar Value :=
  entries.filter fun entry => isKnown entry.1

theorem beq_key (key : Scalar) (setting : Setting) :
    (key == setting.key) = decide (key = setting.key) :=
  Scalar.beq_text key setting.name

/-- Entries under other keys do not show. -/
theorem get?_known (entries : Entries Scalar Value) (setting : Setting) :
    Entries.get? (known entries) setting.key = Entries.get? entries setting.key := by
  refine Entries.get?_filter isKnown (fun other same => ?_) entries
  rw [beq_key, decide_eq_true_iff] at same
  rw [same, isKnown_key]

/-- Under different keys, a setting has the value of its entry. -/
theorem get?_eq_some_iff {entries : Entries Scalar Value} (distinct : (Entries.keys entries).Nodup)
    (setting : Setting) (value : Value) :
    Entries.get? entries setting.key = some value ↔ (setting.key, value) ∈ entries := by
  induction entries with
  | nil => simp [Entries.get?]
  | cons entry rest ih =>
    obtain ⟨key, held⟩ := entry
    obtain ⟨fresh, others⟩ := List.nodup_cons.1 distinct
    rw [Entries.get?, beq_key]
    by_cases same : key = setting.key
    · subst same
      have absent : (setting.key, value) ∉ rest := fun found =>
        fresh (List.mem_map.2 ⟨_, found, rfl⟩)
      simp [absent, eq_comm]
    · simp [same, Ne.symm same, ih others]

/-- What is found depends on the values of the settings alone. -/
theorem violations_congr {entries others : Entries Scalar Value}
    (same : ∀ setting : Setting,
      Entries.get? entries setting.key = Entries.get? others setting.key) :
    violations entries = violations others := by
  simp only [violations, same]

theorem violations_of_perm {entries others : Entries Scalar Value}
    (distinct : (Entries.keys (known entries)).Nodup)
    (same : (known entries).Perm (known others)) : violations entries = violations others := by
  have distinctOthers : (Entries.keys (known others)).Nodup :=
    (same.map Prod.fst).nodup_iff.1 distinct
  refine violations_congr fun setting => Option.ext fun value => ?_
  rw [← get?_known entries, ← get?_known others, get?_eq_some_iff distinct,
    get?_eq_some_iff distinctOthers, same.mem_iff]

/-- Every setting that is there has a value that it takes. -/
def AllAccepted (entries : Entries Scalar Value) : Prop :=
  ∀ (setting : Setting) (value : Value),
    Entries.get? entries setting.key = some value → setting.Accepts value

theorem violations_eq_nil_iff {entries : Entries Scalar Value} :
    violations entries = [] ↔ AllAccepted entries := by
  simp only [AllAccepted, ← forall_keeps_iff, List.eq_nil_iff_forall_not_mem, mem_violations_iff]
  constructor
  · intro none setting value given rule listed
    by_contra fails
    exact none _ ⟨setting, rule, value, given, listed, fails, rfl⟩
  · rintro all violation ⟨setting, rule, value, given, listed, fails, -⟩
    exact fails (all setting value given rule listed)

theorem violationsIn_of_other {value : Value} (other : ∀ entries, value ≠ .map entries) :
    violationsIn value = [.notMapping value] := by
  unfold violationsIn
  split
  · next entries => exact absurd rfl (other entries)
  · rfl

end Settings

end ClusterTopology
