import ClusterTopology.Proofs.NameCheck.Validation
import Mathlib.Data.List.TakeWhile

/-!
# Names that fit

What names have to look like, said without the way they are checked: a datacenter begins with a
known location, or is the name of a region while none is known, and a rack is empty or a digit.
Checking names tells whether all of them are like that, and warns of each one that is not, once
for each place at which it is listed. So neither the order of names and locations matters, nor
how often one is listed.
-/

namespace ClusterTopology.NameCheck

open Number

/-- Letters from `a` to `z`, at least one, then at most one digit, and nothing else. -/
def IsRegionName (cs : List Char) : Prop :=
  ∃ letters digits, cs = letters ++ digits ∧ letters ≠ [] ∧ (∀ c ∈ letters, 'a' ≤ c ∧ c ≤ 'z') ∧
    digits.length ≤ 1 ∧ ∀ c ∈ digits, '0' ≤ c ∧ c ≤ '9'

/-- What the name of a datacenter is like. -/
inductive FitsDatacenter (locations : Locations) (name : String) : Prop where
  | located {location : String} (known : location ∈ locations)
      (begins : location.toList <+: name.toList)
  | shaped (unknown : locations = []) (region : IsRegionName name.toList)

/-- What the name of a rack is like. -/
inductive FitsRack (name : String) : Prop where
  | nowhere (empty : name.toList = [])
  | zone {c : Char} (single : name.toList = [c]) (digit : '0' ≤ c ∧ c ≤ '9')

theorem isSmallLetter_iff {c : Char} : isSmallLetter c = true ↔ 'a' ≤ c ∧ c ≤ 'z' := by
  simp [isSmallLetter]

theorem isDigit_iff {c : Char} : isDigit c = true ↔ '0' ≤ c ∧ c ≤ '9' := by
  simp [isDigit]

/-- No digit is a letter, so the letters of a name end where its digits begin. -/
theorem not_isSmallLetter_of_isDigit {c : Char} (digit : isDigit c = true) :
    isSmallLetter c = false := by
  have upper : c.toNat ≤ 57 := (isDigit_iff.1 digit).2
  have below : ¬ 'a' ≤ c := by
    intro lower
    have : 97 ≤ c.toNat := lower
    omega
  simp [isSmallLetter, below]

theorem dropWhile_letters {letters digits : List Char}
    (small : ∀ c ∈ letters, isSmallLetter c = true) (numeric : ∀ c ∈ digits, isDigit c = true) :
    (letters ++ digits).dropWhile isSmallLetter = digits := by
  rw [List.dropWhile_append_of_pos small]
  cases digits with
  | nil => rfl
  | cons c rest => simp [not_isSmallLetter_of_isDigit (numeric c (.head _))]

theorem looksLikeRegion_iff {cs : List Char} : looksLikeRegion cs = true ↔ IsRegionName cs := by
  constructor
  · intro looks
    -- The letters are those that are skipped, the digits what is left.
    have parts := List.takeWhile_append_dropWhile (p := isSmallLetter) (l := cs)
    have small : ∀ c ∈ cs.takeWhile isSmallLetter, 'a' ≤ c ∧ c ≤ 'z' := fun c found =>
      isSmallLetter_iff.1 (List.mem_takeWhile_imp found)
    refine ⟨_, _, parts.symm, ?_⟩
    rw [looksLikeRegion] at looks
    split at looks
    · next none =>
      rw [none, List.append_nil] at parts
      have some : cs ≠ [] := by simpa using looks
      rw [none, parts]
      exact ⟨some, parts ▸ small, by simp, by simp⟩
    · next c last =>
      rw [last] at parts ⊢
      obtain ⟨digit, long⟩ : isDigit c = true ∧ 1 < cs.length := by simpa using looks
      have some : cs.takeWhile isSmallLetter ≠ [] := by
        intro none
        rw [none] at parts
        rw [← parts] at long
        simp at long
      exact ⟨some, small, by simp, by simpa using isDigit_iff.1 digit⟩
    · cases looks
  · rintro ⟨letters, digits, rfl, some, small, short, numeric⟩
    have dropped : (letters ++ digits).dropWhile isSmallLetter = digits :=
      dropWhile_letters (fun c found => isSmallLetter_iff.2 (small c found))
        fun c found => isDigit_iff.2 (numeric c found)
    rw [looksLikeRegion, dropped]
    match digits, short with
    | [], _ => simpa using some
    | [c], _ =>
      have digit : isDigit c = true := isDigit_iff.2 (numeric c (.head _))
      have long : 0 < letters.length := List.length_pos_iff.2 some
      simp [digit, long]

theorem isDatacenter_iff {locations : Locations} {name : String} :
    isDatacenter locations name = true ↔ FitsDatacenter locations name := by
  rw [isDatacenter]
  constructor
  · split
    · next none => exact fun looks => .shaped (by simpa using none) (looksLikeRegion_iff.1 looks)
    · intro begins
      obtain ⟨location, known, starts⟩ := List.any_eq_true.1 begins
      exact .located known (List.isPrefixOf_iff_prefix.1 starts)
  · rintro (⟨known, begins⟩ | ⟨rfl, region⟩)
    · rw [if_neg (by simpa using List.ne_nil_of_mem known)]
      exact List.any_eq_true.2 ⟨_, known, List.isPrefixOf_iff_prefix.2 begins⟩
    · exact looksLikeRegion_iff.2 region

theorem isRack_iff {name : String} : isRack name = true ↔ FitsRack name := by
  rw [isRack]
  constructor
  · intro fits
    split at fits
    · next empty => exact .nowhere empty
    · next c single => exact .zone single (isDigit_iff.1 fits)
    · cases fits
  · rintro (empty | ⟨single, digit⟩)
    · rw [empty]
    · rw [single]
      exact isDigit_iff.2 digit

instance (locations : Locations) : DecidablePred (FitsDatacenter locations) := fun _ =>
  decidable_of_iff _ isDatacenter_iff

instance : DecidablePred FitsRack := fun _ =>
  decidable_of_iff _ isRack_iff

example : FitsDatacenter [] "eastus2" ∧ ¬ FitsDatacenter [] "eastus2\n" ∧ ¬ FitsRack "٣" := by
  decide

/-- Which locations there are matters, and not how they are listed. -/
theorem FitsDatacenter.of_subset {locations others : Locations} {name : String}
    (fits : FitsDatacenter locations name) (known : ∀ location ∈ locations, location ∈ others)
    (back : ∀ location ∈ others, location ∈ locations) : FitsDatacenter others name := by
  cases fits with
  | located listed begins => exact .located (known _ listed) begins
  | shaped unknown region =>
    subst unknown
    have none : others = [] := List.eq_nil_iff_forall_not_mem.2 fun location listed => by
      cases back location listed
    exact .shaped none region

/-- Whether all names are what they have to be like. -/
structure AllFit (locations : Locations) (datacenters racks : List String) : Prop where
  datacenters : ∀ name ∈ datacenters, FitsDatacenter locations name
  racks : ∀ name ∈ racks, FitsRack name

theorem allFit_iff {locations : Locations} {datacenters racks : List String} :
    (datacenters.all (isDatacenter locations) && racks.all isRack) = true ↔
      AllFit locations datacenters racks := by
  simp only [Bool.and_eq_true, List.all_eq_true, isDatacenter_iff, isRack_iff]
  exact ⟨fun both => ⟨both.1, both.2⟩, fun fits => ⟨fits.datacenters, fits.racks⟩⟩

instance (locations : Locations) (datacenters racks : List String) :
    Decidable (AllFit locations datacenters racks) :=
  decidable_of_iff _ allFit_iff

theorem AllFit.of_subset {locations others : Locations}
    {datacenters racks names zones : List String}
    (fits : AllFit locations datacenters racks)
    (same : ∀ location, location ∈ others ↔ location ∈ locations)
    (fewer : ∀ name ∈ names, name ∈ datacenters) (fewerZones : ∀ name ∈ zones, name ∈ racks) :
    AllFit others names zones where
  datacenters name listed :=
    (fits.datacenters name (fewer name listed)).of_subset
      (fun location => (same location).2) fun location => (same location).1
  racks name listed := fits.racks name (fewerZones name listed)

/-- One warning for each place at which a name is listed that does not fit: first for the
datacenters, then for the racks. -/
def misfitWarnings (locations : Locations) (datacenters racks : List String) : List Event :=
  ((datacenters.filter fun name => ¬ FitsDatacenter locations name).map fun name =>
      .log ⟨logger, .warning, datacenterComplaint locations name⟩) ++
    (racks.filter fun name => ¬ FitsRack name).map fun name =>
      .log ⟨logger, .warning, rackComplaint name⟩

theorem complaintReports_eq (locations : Locations) (datacenters racks : List String) :
    complaintReports locations datacenters racks =
      misfitWarnings locations datacenters racks := by
  have unfit : (fun name => !isDatacenter locations name) =
      fun name => decide (¬ FitsDatacenter locations name) := by
    funext name
    simp [← isDatacenter_iff]
  have unfitRack : (fun name => !isRack name) = fun name => decide (¬ FitsRack name) := by
    funext name
    simp [← isRack_iff]
  simp only [complaintReports, complaints, misfitWarnings, unfit, unfitRack, List.map_append,
    List.map_map]
  rfl

theorem misfitWarnings_eq_nil {locations : Locations} {datacenters racks : List String} :
    misfitWarnings locations datacenters racks = [] ↔ AllFit locations datacenters racks := by
  simp only [misfitWarnings, List.append_eq_nil_iff, List.map_eq_nil_iff, List.filter_eq_nil_iff,
    decide_not, Bool.not_eq_true', decide_eq_false_iff_not, Classical.not_not]
  exact ⟨fun both => ⟨both.1, both.2⟩, fun fits => ⟨fits.datacenters, fits.racks⟩⟩

/-- A check of names always ends, with a verdict and with warnings. The verdict is that all names
are what they have to be like, the warnings are about all those that are not, and there are none
exactly if that is the verdict. The verdict is the same for the same names and locations in any
order, listed any number of times. -/
theorem run_check_eq_misfits (locations : Locations) (datacenters racks : List String) (w : World) :
    (check locations datacenters racks).run w =
        ⟨.ok (decide (AllFit locations datacenters racks)),
          misfitWarnings locations datacenters racks⟩ ∧
      (((check locations datacenters racks).run w).result = .ok true ↔
        ((check locations datacenters racks).run w).events = []) ∧
      ∀ (others : Locations) (names zones : List String) (later : World),
        (∀ location, location ∈ others ↔ location ∈ locations) →
        (∀ name, name ∈ names ↔ name ∈ datacenters) → (∀ name, name ∈ zones ↔ name ∈ racks) →
        ((check others names zones).run later).result =
          ((check locations datacenters racks).run w).result := by
  have ends (locations : Locations) (datacenters racks : List String) (w : World) :
      (check locations datacenters racks).run w =
        ⟨.ok (decide (AllFit locations datacenters racks)),
          misfitWarnings locations datacenters racks⟩ := by
    have verdict : (datacenters.all (isDatacenter locations) && racks.all isRack) =
        decide (AllFit locations datacenters racks) := by
      rw [Bool.eq_iff_iff, allFit_iff, decide_eq_true_eq]
    rw [run_check, complaintReports_eq, verdict]
  refine ⟨ends locations datacenters racks w, ?_, ?_⟩
  · rw [ends, misfitWarnings_eq_nil]
    simp
  · intro others names zones later same sameNames sameZones
    rw [ends, ends]
    have fits : AllFit others names zones ↔ AllFit locations datacenters racks := by
      constructor
      · intro fits
        exact fits.of_subset (fun location => (same location).symm)
          (fun name => (sameNames name).2) fun name => (sameZones name).2
      · intro fits
        exact fits.of_subset same (fun name => (sameNames name).1) fun name => (sameZones name).1
    exact congrArg Except.ok (decide_eq_decide.2 fits)

/-- A name that is listed twice is warned of twice, and listed once in another order it gets the
same verdict. -/
theorem run_check_of_misfit_twice :
    let w : World :=
      { http := fun _ => .unreachable "", redis := ⟨[], none, none⟩, files := Files.empty,
        log := none, time := "" }
    (check ["westus", "eastus"] ["mars", "eastus-1", "mars"] ["1", "", "٣"]).run w =
        ⟨.ok false,
          [.log ⟨logger, .warning, "Datacenter 'mars' does not start with any known location"⟩,
            .log ⟨logger, .warning, "Datacenter 'mars' does not start with any known location"⟩,
            .log ⟨logger, .warning, "Rack '٣' is not an availability zone"⟩]⟩ ∧
      ((check ["eastus", "westus", "eastus"] ["eastus-1", "mars"] ["٣", "1", "", "1"]).run
        w).result = .ok false := by
  intro w
  obtain ⟨ends, -, alike⟩ :=
    run_check_eq_misfits ["westus", "eastus"] ["mars", "eastus-1", "mars"] ["1", "", "٣"] w
  have same := alike ["eastus", "westus", "eastus"] ["eastus-1", "mars"] ["٣", "1", "", "1"] w
    (by simp [or_comm]) (by simp [or_comm]) (by simp; tauto)
  have unfit : decide (AllFit ["westus", "eastus"] ["mars", "eastus-1", "mars"] ["1", "", "٣"]) =
      false := by decide
  have warned : misfitWarnings ["westus", "eastus"] ["mars", "eastus-1", "mars"] ["1", "", "٣"] =
      [.log ⟨logger, .warning, datacenterComplaint ["westus", "eastus"] "mars"⟩,
        .log ⟨logger, .warning, datacenterComplaint ["westus", "eastus"] "mars"⟩,
        .log ⟨logger, .warning, rackComplaint "٣"⟩] := by rfl
  have complaint : datacenterComplaint ["westus", "eastus"] "mars" =
      "Datacenter 'mars' does not start with any known location" := by decide +kernel
  have rackWarned : rackComplaint "٣" = "Rack '٣' is not an availability zone" := by
    decide +kernel
  rw [same, ends, unfit, warned, complaint, rackWarned]
  exact ⟨rfl, rfl⟩

end ClusterTopology.NameCheck
