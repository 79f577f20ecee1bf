import Mathlib.Logic.Function.Basic
import ClusterTopology.Proofs.Settings.Checking
import ClusterTopology.Settings

/-!
# Merging settings

Entries that are written over the initial values give the settings in their order, each with its
given value or else its initial one, and then all other keys as they are given. Once merged they
stay as they are if they are written over the initial values again. Both need every key to be
given once.
-/

namespace ClusterTopology

namespace Settings

open Entries

theorem key_inj {setting other : Setting} : setting.key = other.key ↔ setting = other := by
  constructor
  · intro same
    have distinct : (Setting.all.map Setting.key).Nodup := by decide
    exact List.inj_on_of_nodup_map distinct (mem_all setting) (mem_all other) same
  · exact congrArg Setting.key

theorem key_beq (setting : Setting) (key : Scalar) :
    (setting.key == key) = decide (key = setting.key) :=
  Scalar.text_beq key setting.name

/-- All settings in their order, with values. -/
def table (values : Setting → Value) : Entries Scalar Value :=
  Setting.all.map fun setting => (setting.key, values setting)

theorem keys_table (values : Setting → Value) : keys (table values) = keys initial := by
  simp [keys, table, initial, List.map_map, Function.comp_def]

theorem isKnown_of_mem_table {values : Setting → Value} {key : Scalar}
    (listed : key ∈ keys (table values)) : isKnown key = true := by
  rw [keys, table, List.map_map] at listed
  obtain ⟨setting, -, same⟩ := List.mem_map.1 listed
  exact isKnown_iff.2 ⟨setting, same.symm⟩

/-- A key that is no setting is not in a table. -/
theorem beq_of_mem_table {values : Setting → Value} {key other : Scalar}
    (new : isKnown key = false) (listed : other ∈ keys (table values)) :
    (other == key) = false := by
  obtain ⟨setting, rfl⟩ := isKnown_iff.1 (isKnown_of_mem_table listed)
  rw [key_beq, decide_eq_false_iff_not]
  rintro rfl
  simp at new

theorem get?_table (values : Setting → Value) (setting : Setting) :
    get? (table values) setting.key = some (values setting) := by
  have listed (settings : List Setting) (found : setting ∈ settings) :
      get? (settings.map fun setting => (setting.key, values setting)) setting.key =
        some (values setting) := by
    induction settings with
    | nil => cases found
    | cons first rest ih =>
      by_cases same : first = setting
      · simp [get?, same, key_beq]
      · have later := (List.mem_cons.1 found).resolve_left (Ne.symm same)
        simp [get?, key_beq, key_inj, Ne.symm same, ih later]
  exact listed Setting.all (mem_all setting)

theorem get?_table_of_new (values : Setting → Value) {key : Scalar} (new : isKnown key = false) :
    get? (table values) key = none :=
  get?_eq_none fun _ => beq_of_mem_table new

theorem initial_eq_table : initial = table Setting.initial := rfl

theorem get?_initial (setting : Setting) : get? initial setting.key = some setting.initial :=
  get?_table Setting.initial setting

/-- A setting that is written keeps its place. -/
theorem insert_table (values : Setting → Value) (tail : Entries Scalar Value) (setting : Setting)
    (value : Value) :
    Entries.insert (table values ++ tail) setting.key value =
      table (Function.update values setting value) ++ tail := by
  have listed (settings : List Setting) (distinct : settings.Nodup) (found : setting ∈ settings) :
      Entries.insert ((settings.map fun setting => (setting.key, values setting)) ++ tail)
          setting.key value =
        (settings.map fun other =>
          (other.key, Function.update values setting value other)) ++ tail := by
    induction settings with
    | nil => cases found
    | cons first rest ih =>
      obtain ⟨fresh, others⟩ := List.nodup_cons.1 distinct
      by_cases same : first = setting
      · subst same
        have untouched : ∀ other ∈ rest,
            (other.key, values other) =
              (other.key, Function.update values first value other) := by
          intro other later
          have different : other ≠ first := fun same => fresh (same ▸ later)
          rw [Function.update_of_ne different]
        simp [Entries.insert, List.map_congr_left untouched, key_beq]
      · have later := (List.mem_cons.1 found).resolve_left (Ne.symm same)
        simp [Entries.insert, key_beq, key_inj, Ne.symm same, Function.update_of_ne same,
          ih others later]
  exact listed Setting.all (by decide) (mem_all setting)

/-- The entries under keys that are no settings. -/
def others (entries : Entries Scalar Value) : Entries Scalar Value :=
  entries.filter fun entry => !isKnown entry.1

theorem get?_others (entries : Entries Scalar Value) {key : Scalar} (new : isKnown key = false) :
    get? (others entries) key = get? entries key := by
  refine get?_filter (fun other => !isKnown other) (fun other same => ?_) entries
  by_contra known
  obtain ⟨setting, rfl⟩ := isKnown_iff.1 (by simpa using known)
  rw [key_beq, decide_eq_true_iff] at same
  rw [same, isKnown_key] at new
  cases new

/-- The value of a setting that is written over another value. -/
def overlaid (values : Setting → Value) (more : Entries Scalar Value) (setting : Setting) : Value :=
  (get? more setting.key).getD (values setting)

section Cons

variable (values : Setting → Value) {more : Entries Scalar Value} {key : Scalar}

theorem others_cons_key (setting : Setting) (value : Value) :
    others ((setting.key, value) :: more) = others more := by
  simp [others]

theorem others_cons_of_new (new : isKnown key = false) (value : Value) :
    others ((key, value) :: more) = (key, value) :: others more := by
  simp [others, new]

/-- A setting that does not come again has the value that is written first. -/
theorem overlaid_cons_key {setting : Setting} (last : get? more setting.key = none)
    (value : Value) :
    overlaid values ((setting.key, value) :: more) =
      overlaid (Function.update values setting value) more := by
  funext other
  by_cases here : other = setting
  · simp [overlaid, here, last, get?, key_beq]
  · simp [overlaid, get?, key_beq, key_inj, here]

theorem overlaid_cons_of_new (new : isKnown key = false) (value : Value) :
    overlaid values ((key, value) :: more) = overlaid values more := by
  funext setting
  have elsewhere : key ≠ setting.key := by
    rintro rfl
    simp at new
  simp [overlaid, get?, beq_key, elsewhere]

end Cons

/-- Writing over a table sets its values, and leaves other keys behind it in the order in which
they come. -/
theorem update_table (values : Setting → Value) (tail : Entries Scalar Value)
    {more : Entries Scalar Value} (different : Distinct more)
    (distinct : Distinct (tail ++ others more)) :
    update (table values ++ tail) more =
      table (overlaid values more) ++ (tail ++ others more) := by
  -- On what is still to be written: a setting changes the table, another key lengthens the tail.
  induction more generalizing values tail with
  | nil =>
    rw [update_nil, others, List.filter_nil, List.append_nil]
    rfl
  | cons entry more ih =>
    obtain ⟨key, value⟩ := entry
    obtain ⟨fresh, differentLater⟩ := List.pairwise_cons.1 different
    rw [update_cons]
    cases known : isKnown key with
    | true =>
      obtain ⟨setting, rfl⟩ := isKnown_iff.1 known
      have last : get? more setting.key = none := by
        refine get?_eq_none fun other listed => ?_
        rw [beq_key, ← key_beq]
        exact fresh other listed
      rw [others_cons_key] at distinct ⊢
      rw [insert_table, ih _ tail differentLater distinct, overlaid_cons_key values last]
    | false =>
      have new : ∀ other ∈ keys (table values ++ tail), (other == key) = false := by
        intro other listed
        rw [keys, List.map_append, List.mem_append] at listed
        rw [others_cons_of_new known] at distinct
        rcases listed with inTable | inTail
        · exact beq_of_mem_table known inTable
        · exact (distinct_append.1 distinct).2.2 other inTail key List.mem_cons_self
      -- From now on the entry is the last one of the tail.
      rw [others_cons_of_new known, List.append_cons] at distinct ⊢
      rw [insert_of_fresh new, List.append_assoc, ih values _ differentLater distinct,
        overlaid_cons_of_new values known]

section Merge

variable {given : Entries Scalar Value}

theorem distinct_others (distinct : Distinct given) : Distinct (others given) :=
  distinct.sublist (List.filter_sublist.map Prod.fst)

theorem merge_eq (distinct : Distinct given) :
    merge given = table (overlaid Setting.initial given) ++ others given :=
  update_table Setting.initial [] distinct (distinct_others distinct)

theorem distinct_merge (given : Entries Scalar Value) : Distinct (merge given) := by
  have initially : Distinct initial := by
    rw [Distinct]
    decide
  exact initially.update given

/-- Entries written over the initial values. -/
structure IsMerged (given merged : Entries Scalar Value) : Prop where
  /-- A key has its given value, or else the initial one. -/
  value : ∀ key, get? merged key = (get? given key).or (get? initial key)
  /-- First come all settings, in their order. -/
  settings : keys (merged.take Setting.all.length) = keys initial
  /-- Then come the other keys, with their values and in their order. -/
  others : merged.drop Setting.all.length = others given

theorem length_table (values : Setting → Value) : (table values).length = Setting.all.length :=
  List.length_map _

theorem isMerged_merge (distinct : Distinct given) : IsMerged given (merge given) where
  value key := by
    rw [merge_eq distinct, get?_append]
    cases known : isKnown key with
    | true =>
      obtain ⟨setting, rfl⟩ := isKnown_iff.1 known
      rw [get?_table, get?_initial, overlaid]
      cases get? given setting.key with
      | none => rfl
      | some value => rfl
    | false =>
      rw [get?_table_of_new _ known, get?_others given known, initial_eq_table,
        get?_table_of_new _ known, Option.none_or, Option.or_none]
  settings := by
    rw [merge_eq distinct, List.take_left' (length_table _), keys_table]
  others := by
    rw [merge_eq distinct, List.drop_left' (length_table _)]

/-- Merged entries stay as they are over the initial values. -/
theorem merge_merge (distinct : Distinct given) : merge (merge given) = merge given := by
  have values : overlaid Setting.initial (merge given) = overlaid Setting.initial given := by
    funext setting
    rw [overlaid, merge_eq distinct, get?_append, get?_table]
    rfl
  have rest : others (merge given) = others given := by
    have settings : others (table (overlaid Setting.initial given)) = [] := by
      rw [others, List.filter_eq_nil_iff]
      intro entry listed
      simp [isKnown_of_mem_table (List.mem_map.2 ⟨entry, listed, rfl⟩)]
    rw [merge_eq distinct, others, List.filter_append]
    change others (table _) ++ others (others given) = _
    rw [settings]
    simp [others, List.filter_filter]
  rw [merge_eq (distinct_merge given), values, rest, ← merge_eq distinct]

end Merge

end Settings

end ClusterTopology
