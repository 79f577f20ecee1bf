import ClusterTopology.Proofs.NameCheck.Verdict
import ClusterTopology.Proofs.Text.Quoted
import Mathlib.Data.List.Nodup
import Mathlib.Data.List.Perm.Basic

/-!
# One warning for each name

A warning about a name that does not fit tells which name it is, and whether it is the name of a
datacenter or of a rack. So no two names share a warning, and if no name is listed twice no warning
is given twice. Names in another order get the same warnings in another order.
-/

namespace ClusterTopology.NameCheck

/-- Whether a name fits what it is the name of. -/
def Fits (locations : Locations) : Attribute → String → Prop
  | .datacenter, name => FitsDatacenter locations name
  | .rack, name => FitsRack name

instance (locations : Locations) (key : Attribute) : DecidablePred (Fits locations key) :=
  match key with
  | .datacenter => inferInstanceAs (DecidablePred (FitsDatacenter locations))
  | .rack => inferInstanceAs (DecidablePred FitsRack)

/-- What is said about a name that does not fit. -/
def complaint (locations : Locations) : Attribute → String → String
  | .datacenter => datacenterComplaint locations
  | .rack => rackComplaint

/-- The warning about a name that does not fit. -/
def warning (locations : Locations) (key : Attribute) (name : String) : LogRecord :=
  ⟨logger, .warning, complaint locations key name⟩

section Complaint

variable {locations : Locations} {name other : String}

theorem datacenterComplaint_injective (locations : Locations) :
    Function.Injective (datacenterComplaint locations) := by
  intro name other same
  rw [datacenterComplaint, datacenterComplaint] at same
  have quoted := (String.append_right_inj _).1 ((String.append_left_inj _).1 same)
  exact Text.quoted_injective quoted

theorem rackComplaint_injective : Function.Injective rackComplaint := by
  intro name other same
  rw [rackComplaint, rackComplaint] at same
  have quoted := (String.append_right_inj _).1 ((String.append_left_inj _).1 same)
  exact Text.quoted_injective quoted

/-- A complaint about a datacenter begins with another letter than one about a rack. -/
theorem datacenterComplaint_ne (locations : Locations) (name other : String) :
    datacenterComplaint locations name ≠ rackComplaint other := by
  intro same
  have starts := congrArg (fun s => s.toList.head?) same
  simp only [datacenterComplaint, rackComplaint, String.toList_append, List.append_assoc] at starts
  cases starts

theorem warning_inj {key another : Attribute} :
    warning locations key name = warning locations another other ↔
      key = another ∧ name = other := by
  refine ⟨fun same => ?_, fun ⟨alike, same⟩ => by rw [alike, same]⟩
  have complains : complaint locations key name = complaint locations another other :=
    congrArg LogRecord.message same
  cases key with
  | datacenter =>
    cases another with
    | datacenter => exact ⟨rfl, datacenterComplaint_injective locations complains⟩
    | rack => exact (datacenterComplaint_ne _ _ _ complains).elim
  | rack =>
    cases another with
    | datacenter => exact (datacenterComplaint_ne _ _ _ complains.symm).elim
    | rack => exact ⟨rfl, rackComplaint_injective complains⟩

/-- What is reported about the locations is no warning about a name. -/
theorem listingReport_ne (listed : Except Failure Locations) (locations : Locations)
    (key : Attribute) (name : String) :
    listingReport listed ≠ .log (warning locations key name) := by
  intro same
  cases listed with
  | ok found => cases congrArg LogRecord.level (Event.log.inj same)
  | error failure =>
    have message := congrArg LogRecord.message (Event.log.inj same)
    have starts := congrArg (fun s => s.toList.head?) message
    cases key with
    | datacenter =>
      simp only [warning, complaint, datacenterComplaint, String.toList_append,
        List.append_assoc] at starts
      cases starts
    | rack =>
      simp only [warning, complaint, rackComplaint, String.toList_append,
        List.append_assoc] at starts
      cases starts

end Complaint

section Lists

variable {locations : Locations} {lists others : Attribute → List String} {key : Attribute}
  {name : String}

/-- The warnings about all listed names that do not fit, datacenters first. -/
def warnings (locations : Locations) (lists : Attribute → List String) : List LogRecord :=
  [.datacenter, .rack].flatMap fun key =>
    ((lists key).filter fun name => ¬ Fits locations key name).map (warning locations key)

theorem complaintReports_eq_warnings (locations : Locations) (lists : Attribute → List String) :
    complaintReports locations (lists .datacenter) (lists .rack) =
      (warnings locations lists).map .log := by
  simp only [complaintReports_eq, misfitWarnings, warnings, List.flatMap_cons, List.flatMap_nil,
    List.append_nil, List.map_append, List.map_map]
  rfl

theorem mem_warnings {record : LogRecord} : record ∈ warnings locations lists ↔
    ∃ key, ∃ name ∈ lists key, ¬ Fits locations key name ∧ record = warning locations key name := by
  have both (key : Attribute) : key ∈ [Attribute.datacenter, .rack] := by cases key <;> decide
  simp only [warnings, List.mem_flatMap, both, true_and, List.mem_map, List.mem_filter,
    decide_eq_true_eq, and_assoc]
  exact exists_congr fun _ => exists_congr fun _ => and_congr_right fun _ =>
    and_congr_right fun _ => eq_comm

theorem warning_mem_iff : warning locations key name ∈ warnings locations lists ↔
    name ∈ lists key ∧ ¬ Fits locations key name := by
  rw [mem_warnings]
  constructor
  · rintro ⟨another, other, listed, misfits, same⟩
    obtain ⟨rfl, rfl⟩ := warning_inj.1 same
    exact ⟨listed, misfits⟩
  · exact fun ⟨listed, misfits⟩ => ⟨key, name, listed, misfits, rfl⟩

theorem nodup_warnings (each : ∀ key, (lists key).Nodup) : (warnings locations lists).Nodup := by
  refine List.nodup_flatMap.2 ⟨fun key _ => ?_, ?_⟩
  · exact ((each key).filter _).map fun _ _ same => (warning_inj.1 same).2
  · refine List.pairwise_pair.2 fun record found foundToo => ?_
    obtain ⟨name, -, rfl⟩ := List.mem_map.1 found
    obtain ⟨other, -, same⟩ := List.mem_map.1 foundToo
    cases (warning_inj.1 same).1

/-- A name that does not fit is warned of once, if no name is listed twice. -/
theorem count_warnings (each : ∀ key, (lists key).Nodup) :
    (warnings locations lists).count (warning locations key name) =
      if name ∈ lists key ∧ ¬ Fits locations key name then 1 else 0 := by
  split
  · next misfit => exact List.count_eq_one_of_mem (nodup_warnings each) (warning_mem_iff.2 misfit)
  · next fit => exact List.count_eq_zero.2 fun found => fit (warning_mem_iff.1 found)

theorem warnings_perm (same : ∀ key, (lists key).Perm (others key)) :
    (warnings locations lists).Perm (warnings locations others) :=
  List.Perm.flatMap_left _ fun key _ => ((same key).filter _).map _

end Lists

end ClusterTopology.NameCheck
