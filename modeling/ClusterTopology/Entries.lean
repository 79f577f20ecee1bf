/-!
# Entries in insertion order

A mapping kept as the list of its entries. A key that is written again keeps
its first place and takes the last value. `get?` is the view that the other
operations are described by.
-/

namespace ClusterTopology

/-- The entries of a mapping, oldest first. -/
abbrev Entries (κ ν : Type) := List (κ × ν)

namespace Entries

variable {κ ν : Type} [BEq κ]

/-- The value of a key. -/
def get? (entries : Entries κ ν) (key : κ) : Option ν :=
  match entries with
  | [] => none
  | (other, value) :: rest => if other == key then some value else get? rest key

/-- Whether a key has a value. -/
def contains (entries : Entries κ ν) (key : κ) : Bool :=
  (get? entries key).isSome

/-- Writes a value under a key: in place if the key is there, else at the end. -/
def insert (entries : Entries κ ν) (key : κ) (value : ν) : Entries κ ν :=
  match entries with
  | [] => [(key, value)]
  | (other, old) :: rest =>
    if other == key then (other, value) :: rest else (other, old) :: insert rest key value

/-- Writes entries one after the other over a mapping. -/
def update (entries more : Entries κ ν) : Entries κ ν :=
  more.foldl (fun merged entry => insert merged entry.1 entry.2) entries

/-- The mapping that a list of writes leaves behind. -/
def ofList (writes : List (κ × ν)) : Entries κ ν :=
  update [] writes

/-- The keys, oldest first. -/
def keys (entries : Entries κ ν) : List κ :=
  entries.map Prod.fst

@[simp]
theorem get?_nil (key : κ) : get? ([] : Entries κ ν) key = none := rfl

@[simp]
theorem update_nil (entries : Entries κ ν) : update entries [] = entries := rfl

@[simp]
theorem update_cons (entries more : Entries κ ν) (key : κ) (value : ν) :
    update entries ((key, value) :: more) = update (insert entries key value) more := rfl

theorem update_append (entries first second : Entries κ ν) :
    update entries (first ++ second) = update (update entries first) second := by
  simp [update, List.foldl_append]

theorem get?_append (entries more : Entries κ ν) (key : κ) :
    get? (entries ++ more) key = (get? entries key).or (get? more key) := by
  induction entries with
  | nil => rfl
  | cons entry rest ih =>
    obtain ⟨other, value⟩ := entry
    by_cases same : other == key
    · simp [get?, same]
    · simpa [get?, same] using ih

theorem isSome_get?_iff {entries : Entries κ ν} {key : κ} :
    (get? entries key).isSome = true ↔ ∃ other ∈ keys entries, (other == key) = true := by
  induction entries with
  | nil => simp [keys]
  | cons entry rest ih =>
    obtain ⟨other, value⟩ := entry
    cases same : other == key with
    | true => simp [get?, keys, same]
    | false => simpa [get?, keys, same] using ih

theorem get?_eq_none {entries : Entries κ ν} {key : κ}
    (fresh : ∀ other ∈ keys entries, (other == key) = false) : get? entries key = none := by
  rw [← Option.not_isSome_iff_eq_none, isSome_get?_iff]
  rintro ⟨other, listed, same⟩
  exact Bool.false_ne_true (fresh other listed ▸ same)

/-- Dropping other keys does not change what a key has. -/
theorem get?_filter (isKept : κ → Bool) {key : κ}
    (keeps : ∀ other, (other == key) = true → isKept other = true) (entries : Entries κ ν) :
    get? (entries.filter fun entry => isKept entry.1) key = get? entries key := by
  induction entries with
  | nil => rfl
  | cons entry rest ih =>
    obtain ⟨other, value⟩ := entry
    rw [List.filter_cons]
    cases same : other == key with
    | true => simp [get?, same, keeps other same]
    | false =>
      split
      · simp [get?, same, ih]
      · simp [get?, same, ih]

/-- A write shows under its own key and nowhere else. -/
theorem get?_insert [LawfulBEq κ] (entries : Entries κ ν) (key other : κ) (value : ν) :
    get? (insert entries key value) other
      = if key == other then some value else get? entries other := by
  induction entries with
  | nil => rfl
  | cons entry rest ih =>
    obtain ⟨first, old⟩ := entry
    by_cases same : first == key
    · have : first = key := eq_of_beq same
      subst this
      by_cases found : first == other <;> simp [insert, get?, found]
    · by_cases found : first == other
      · have : first = other := eq_of_beq found
        subst this
        have : (key == first) = false := by
          simpa [BEq.comm] using same
        simp [insert, get?, same, this]
      · simp [insert, get?, same, found, ih]

/-- A key that is none of those before is written at the end. -/
theorem insert_of_fresh {entries : Entries κ ν} {key : κ}
    (fresh : ∀ other ∈ keys entries, (other == key) = false) (value : ν) :
    insert entries key value = entries ++ [(key, value)] := by
  induction entries with
  | nil => rfl
  | cons entry rest ih =>
    obtain ⟨other, old⟩ := entry
    obtain ⟨different, later⟩ := List.forall_mem_cons.1 fresh
    rw [insert, different, ih later]
    rfl

/-- A key without a value is written at the end. -/
theorem insert_of_notMem [LawfulBEq κ] {entries : Entries κ ν} {key : κ}
    (fresh : key ∉ keys entries) (value : ν) :
    insert entries key value = entries ++ [(key, value)] := by
  refine insert_of_fresh (fun other listed => ?_) value
  cases same : other == key with
  | false => rfl
  | true => exact absurd (eq_of_beq same ▸ listed) fresh

/-- A key that is one of those before keeps its place. -/
theorem keys_insert_of_known {entries : Entries κ ν} {key : κ}
    (known : ¬ ∀ other ∈ keys entries, (other == key) = false) (value : ν) :
    keys (insert entries key value) = keys entries := by
  induction entries with
  | nil => exact absurd (by simp [keys]) known
  | cons entry rest ih =>
    obtain ⟨other, old⟩ := entry
    rw [insert]
    split
    · rfl
    · next different =>
      refine congrArg (other :: ·) (ih fun fresh => known ?_)
      exact List.forall_mem_cons.2 ⟨by simpa using different, fresh⟩

/-- A key with a value keeps its place. -/
theorem keys_insert_of_mem [LawfulBEq κ] {entries : Entries κ ν} {key : κ}
    (known : key ∈ keys entries) (value : ν) : keys (insert entries key value) = keys entries :=
  keys_insert_of_known (fun fresh => by simpa using fresh key known) value

theorem keys_prefix_insert (entries : Entries κ ν) (key : κ) (value : ν) :
    keys entries <+: keys (insert entries key value) := by
  by_cases fresh : ∀ other ∈ keys entries, (other == key) = false
  · rw [insert_of_fresh fresh, keys, keys, List.map_append]
    exact List.prefix_append ..
  · exact (keys_insert_of_known fresh value).symm ▸ List.prefix_rfl

/-- No key is lost by writing. -/
theorem keys_prefix_update (entries more : Entries κ ν) :
    keys entries <+: keys (update entries more) := by
  induction more generalizing entries with
  | nil => exact List.prefix_rfl
  | cons entry more ih => exact (keys_prefix_insert entries entry.1 entry.2).trans (ih _)

/-- No two keys are one. -/
def Distinct (entries : Entries κ ν) : Prop :=
  (keys entries).Pairwise fun key later => (key == later) = false

theorem distinct_nil : Distinct ([] : Entries κ ν) := .nil

theorem distinct_append {entries more : Entries κ ν} :
    Distinct (entries ++ more) ↔ Distinct entries ∧ Distinct more ∧
      ∀ key ∈ keys entries, ∀ later ∈ keys more, (key == later) = false := by
  rw [Distinct, keys, List.map_append, List.pairwise_append]
  rfl

theorem Distinct.insert {entries : Entries κ ν} (distinct : Distinct entries) (key : κ)
    (value : ν) : Distinct (insert entries key value) := by
  by_cases fresh : ∀ other ∈ keys entries, (other == key) = false
  · rw [insert_of_fresh fresh, distinct_append]
    exact ⟨distinct, List.pairwise_singleton _ _, fun other listed _ last => by
      rw [List.mem_singleton.1 last]
      exact fresh other listed⟩
  · rw [Distinct, keys_insert_of_known fresh]
    exact distinct

theorem Distinct.update {entries : Entries κ ν} (distinct : Distinct entries)
    (more : Entries κ ν) : Distinct (update entries more) := by
  induction more generalizing entries with
  | nil => exact distinct
  | cons entry more ih => exact ih (distinct.insert entry.1 entry.2)

/-- Whatever is written, a mapping is left behind. -/
theorem distinct_ofList (writes : List (κ × ν)) : Distinct (ofList writes) :=
  distinct_nil.update writes

/-- Writes under keys that are all different and new leave all of them, in order. -/
theorem update_of_distinct {entries more : Entries κ ν} (distinct : Distinct (entries ++ more)) :
    update entries more = entries ++ more := by
  induction more generalizing entries with
  | nil => rw [update_nil, List.append_nil]
  | cons entry more ih =>
    obtain ⟨key, value⟩ := entry
    have fresh : ∀ other ∈ keys entries, (other == key) = false := fun other listed =>
      (distinct_append.1 distinct).2.2 other listed key List.mem_cons_self
    have regroup : entries ++ (key, value) :: more = (entries ++ [(key, value)]) ++ more := by simp
    rw [regroup] at distinct ⊢
    rw [update_cons, insert_of_fresh fresh, ih distinct]

theorem distinct_of_nodup [LawfulBEq κ] {entries : Entries κ ν} (different : (keys entries).Nodup) :
    Distinct entries :=
  different.imp beq_false_of_ne

/-- Writes under different keys are the mapping that they leave behind. -/
theorem ofList_of_nodup [LawfulBEq κ] {writes : Entries κ ν} (distinct : (keys writes).Nodup) :
    ofList writes = writes :=
  update_of_distinct (distinct_of_nodup distinct)

end Entries

end ClusterTopology
