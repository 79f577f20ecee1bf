import ClusterTopology.Proofs.NameCheck.Verdict
import ClusterTopology.Proofs.Resolver.History
import ClusterTopology.Proofs.Snitch.Start
import ClusterTopology.Proofs.Text.Utf8

/-!
# The own label among names

A node names its datacenter after its region and its rack after its zone. So its own label fits
where the region is a known location and the zone is empty or a digit: checked among other names
it changes nothing, neither the verdict nor what is reported. With any other zone the verdict is
that names do not fit. This stays so whatever becomes of a snitch after its start.
-/

namespace ClusterTopology

namespace NameCheck

section Fits

variable {locations : Locations} {name region : String} {datacenters racks : List String}

/-- Whatever follows after a known location, it is the name of a datacenter. -/
theorem fitsDatacenter_append (known : region ∈ locations) (suffix : String) :
    FitsDatacenter locations (region ++ suffix) := by
  refine .located known ?_
  rw [String.toList_append]
  exact List.prefix_append ..

theorem complaints_cons_datacenter (fits : FitsDatacenter locations name) :
    complaints locations (name :: datacenters) racks = complaints locations datacenters racks := by
  have accepted : (!isDatacenter locations name) = false := by rw [isDatacenter_iff.2 fits]; rfl
  rw [complaints, List.filter_cons_of_neg (by simp [accepted]), complaints]

theorem complaints_cons_rack (fits : FitsRack name) :
    complaints locations datacenters (name :: racks) = complaints locations datacenters racks := by
  have accepted : (!isRack name) = false := by rw [isRack_iff.2 fits]; rfl
  rw [complaints, List.filter_cons_of_neg (by simp [accepted]), complaints]

end Fits

section Validate

variable {client : MetadataClient} {url : String} {w other : World} {locations : Locations}
  {datacenter rack : String} {datacenters racks : List String}

/-- Names that fit leave no trace in a check of more names. -/
theorem run_validate_cons (lists : Lists (w.http url) locations)
    (same : other.http url = w.http url) (fits : FitsDatacenter locations datacenter)
    (fitsToo : FitsRack rack) :
    (validate client url (datacenter :: datacenters) (rack :: racks)).run w =
      (validate client url datacenters racks).run other := by
  have inForce : InForce (other.http url) locations := .listed (same ▸ lists)
  rw [run_validate (.listed lists), run_validate inForce, same, List.all_cons, List.all_cons,
    isDatacenter_iff.2 fits, isRack_iff.2 fitsToo, complaintReports,
    complaints_cons_datacenter fits, complaints_cons_rack fitsToo, complaintReports]
  rfl

/-- A rack that does not fit decides the verdict. -/
theorem result_validate_of_misfit (lists : Lists (w.http url) locations)
    (misfit : ¬ FitsRack rack) :
    ((validate client url datacenters (rack :: racks)).run w).result = .ok false := by
  have refused : isRack rack = false := by
    rw [← Bool.not_eq_true, isRack_iff]
    exact misfit
  rw [run_validate (.listed lists), List.all_cons, refused, Bool.false_and, Bool.and_false]

end Validate

end NameCheck

namespace Snitch

/-- A snitch that has started in a world, with the sources that its settings ask for, or with
sources and perhaps a client that were given. -/
inductive StartedIn (settings : Settings) (origin : World) (snitch : Snitch) : Prop where
  | asked (started : ((ofSettings settings).run origin).result = .ok snitch)
  | given {client : Option MetadataClient} {membership : Option Membership}
    {store : Option Store}
    (started : ((start settings client membership store).run origin).result = .ok snitch)

/-- The label of a snitch is made of the region and the zone that were fetched at its start. -/
theorem StartedIn.exists_label {settings : Settings} {origin : World} {snitch : Snitch}
    (started : StartedIn settings origin snitch) : ∃ region zone,
      MetadataClient.textOf Metadata.regionUrl (origin.http Metadata.regionUrl) = .ok region ∧
      MetadataClient.textOf Metadata.zoneUrl (origin.http Metadata.zoneUrl) = .ok zone ∧
      snitch.resolver.label = ⟨region ++ suffixOf settings, zone⟩ := by
  cases started with
  | asked started =>
    obtain ⟨enabled, asked⟩ := settings.redisEnabled_eq_bool
    obtain ⟨calls, learned, learns, result, -⟩ := run_ofSettings asked origin
    rw [result] at started
    -- Only a label that was learned gives a snitch.
    cases learns with
    | noAddress => cases started
    | noRegion => cases started
    | noZone => cases started
    | label parsed found known =>
      cases started
      exact ⟨_, _, found, known, rfl⟩
  | given started =>
    obtain ⟨node, -, begun⟩ := resolver_of_start started
    obtain ⟨region, zone, found, known, made⟩ := Resolver.result_start_eq_ok.1 begun
    exact ⟨region, zone, found, known, by rw [made]; rfl⟩

/-- How the own label does in a check of names at some moment, if the region is among the
locations that are listed then. -/
structure OwnLabelFits (c : Course) (region zone suffix : String) : Prop where
  /-- The label is still the one from the start. -/
  label : c.snitch.resolver.label = ⟨region ++ suffix, zone⟩
  /-- With a zone that fits a rack, a check is the same with and without the own label. -/
  fits : NameCheck.FitsRack zone → ∀ datacenters racks other,
    other.http Metadata.endpointsUrl = c.world.http Metadata.endpointsUrl →
    (c.snitch.validate (c.snitch.resolver.label.datacenter :: datacenters)
      (c.snitch.resolver.label.rack :: racks)).run c.world =
      (c.snitch.validate datacenters racks).run other
  /-- With any other zone, names among which the own label is do not fit. -/
  misfits : ¬ NameCheck.FitsRack zone → ∀ datacenters racks,
    ((c.snitch.validate (c.snitch.resolver.label.datacenter :: datacenters)
      (c.snitch.resolver.label.rack :: racks)).run c.world).result = .ok false
  /-- Whatever the names are, a check ends with a verdict. -/
  ends : ∀ datacenters racks,
    ∃ verdict, ((c.snitch.validate datacenters racks).run c.world).result = .ok verdict

theorem ownLabelFits {c : Course} {region zone suffix : String} {locations : Locations}
    (label : c.snitch.resolver.label = ⟨region ++ suffix, zone⟩)
    (lists : NameCheck.Lists (c.world.http Metadata.endpointsUrl) locations)
    (known : region ∈ locations) : OwnLabelFits c region zone suffix where
  label := label
  fits zoneFits datacenters racks other same := by
    rw [label]
    exact NameCheck.run_validate_cons lists same (NameCheck.fitsDatacenter_append known suffix)
      zoneFits
  misfits zoneMisfits datacenters racks := by
    rw [label]
    exact NameCheck.result_validate_of_misfit lists zoneMisfits
  ends datacenters racks := ⟨_, congrArg Outcome.result (NameCheck.run_validate (.listed lists))⟩

/-- Whatever is done with a snitch after its start, and whatever becomes of the world: while a
document lists its region, its own label passes among all other names if its zone is empty or a
digit, and fails among them otherwise. -/
theorem own_label_fits {settings : Settings} {origin : World} {snitch : Snitch}
    (started : StartedIn settings origin snitch) : ∃ region zone,
      MetadataClient.textOf Metadata.regionUrl (origin.http Metadata.regionUrl) = .ok region ∧
      MetadataClient.textOf Metadata.zoneUrl (origin.http Metadata.zoneUrl) = .ok zone ∧
      ∀ (w : World) (steps : List Step) (locations : Locations),
        NameCheck.Lists (((Course.start snitch w).run steps).world.http Metadata.endpointsUrl)
          locations →
        region ∈ locations →
        OwnLabelFits ((Course.start snitch w).run steps) region zone (suffixOf settings) := by
  obtain ⟨region, zone, found, told, label⟩ := started.exists_label
  refine ⟨region, zone, found, told, fun w steps locations lists known => ?_⟩
  obtain ⟨-, same⟩ := (Course.start snitch w).own_run steps
  exact ownLabelFits (same.trans label) lists known

/-- A node with a suffix, once a document lists its region in a text of its own. -/
theorem own_label_fits_later :
    let settings : Settings :=
      ⟨Settings.merge [(Setting.suffix.key, .text "-1"), (Setting.topologyFile.key, .null)],
        by decide⟩
    let w : World := {
      http := fun url => if url = Metadata.regionUrl then .answer 200 [101, 97]
        else if url = Metadata.zoneUrl then .answer 200 [49] else .unreachable "gone"
      redis := ⟨[], some "down", some "down"⟩
      files := Files.empty
      log := none
      time := "" }
    let document := "\x7b\"cloudEndpoint\":\x7b\"a\":\x7b\"locations\":" ++
      "\"[\\\"b\\\",\\\"ea\\\"]\"\x7d\x7d\x7d"
    let snitch : Snitch :=
      ⟨clientOf settings, true, ⟨⟨"127.0.0.1", 7000⟩, ⟨"ea-1", "1"⟩, none, none⟩⟩
    let later : World := w.replying Metadata.endpointsUrl (.answer 200 (Utf8.encode document))
    let c := (Course.start snitch w).run [.validate ["ea"] [], .change later none none]
    StartedIn settings w snitch ∧
      NameCheck.Lists (c.world.http Metadata.endpointsUrl) ["b", "ea"] ∧
      OwnLabelFits c "ea" "1" "-1" ∧
      (c.snitch.validate ["ea-1", "c"] ["1", ""]).run c.world =
        (c.snitch.validate ["c"] [""]).run c.world := by
  intro settings w document snitch later c
  have parsed : Locations.parse document = .ok ["b", "ea"] := by
    have ends : (Locations.parse document).toOption = some ["b", "ea"] := by decide +kernel
    rcases result : Locations.parse document with failure | locations
    · rw [result] at ends
      cases ends
    · rw [result] at ends
      exact congrArg Except.ok (Option.some.inj ends)
  have address : addressText settings = "127.0.0.1:7000" := rfl
  have own : NodeAddress.parse (addressText settings) = .ok ⟨"127.0.0.1", 7000⟩ := by
    rw [address]
    rfl
  have started : StartedIn settings w snitch := by
    have asked : settings.get .redisEnabled (.bool true) = .bool true := rfl
    obtain ⟨calls, learned, learns, result, -⟩ := run_ofSettings asked w
    refine .asked (result.trans ?_)
    cases learns with
    | noAddress refused => cases own.symm.trans refused
    | noRegion _ missing => cases missing
    | noZone _ _ missing => cases missing
    | label same found known =>
      cases own.symm.trans same
      cases found
      cases known
      rfl
  have lists : NameCheck.Lists (c.world.http Metadata.endpointsUrl) ["b", "ea"] := by
    have replies : c.world.http Metadata.endpointsUrl = .answer 200 (Utf8.encode document) :=
      w.http_replying ..
    rw [replies]
    exact .document (Utf8.decode_encode document) parsed
  obtain ⟨region, zone, found, told, keeps⟩ := own_label_fits started
  cases found
  cases told
  have passes := keeps w [.validate ["ea"] [], .change later none none] _ lists (by decide)
  refine ⟨started, lists, passes, ?_⟩
  exact passes.fits (by decide) ["c"] [""] c.world rfl

end Snitch

end ClusterTopology
