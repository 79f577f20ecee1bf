import ClusterTopology.NameCheck
import ClusterTopology.Proofs.Events
import ClusterTopology.Proofs.Resolver.Start
import Mathlib.Data.List.Forall2

/-!
# Checking names against whatever is known

A check of names never fails. The reply that its one request gets decides which locations are in
force: those that a document lists, and none if there is no document, or none that can be read;
then, and only then, that is reported. Neither earlier replies nor earlier checks matter.
-/

namespace ClusterTopology

/-- The world in which requests for one document get a reply. -/
def World.replying (w : World) (url : String) (reply : Reply) : World :=
  { w with http := fun asked => if asked = url then reply else w.http asked }

@[simp]
theorem World.http_replying (w : World) (url : String) (reply : Reply) :
    (w.replying url reply).http url = reply := if_pos rfl

namespace NameCheck

/-- Whether a reply is a document that lists locations: it is granted, it is text, and it has
the shape of an endpoints document. -/
inductive Lists : Reply → Locations → Prop where
  | document {body : List UInt8} {text : String} {locations : Locations}
    (decoded : Utf8.decode body = .ok text) (parsed : Locations.parse text = .ok locations) :
    Lists (.answer 200 body) locations

/-- The locations that names are checked against after a reply. -/
inductive InForce (reply : Reply) : Locations → Prop where
  | listed {locations : Locations} (lists : Lists reply locations) : InForce reply locations
  | unlisted (unlisted : ∀ locations, ¬ Lists reply locations) : InForce reply []

/-- The locations that a reply lists, or why it lists none. -/
def listing (url : String) (reply : Reply) : Except Failure Locations :=
  (MetadataClient.textOf url reply).bind Locations.parse

theorem lists_iff (url : String) {reply : Reply} {locations : Locations} :
    Lists reply locations ↔ listing url reply = .ok locations := by
  constructor
  · rintro ⟨decoded, parsed⟩
    simp [listing, MetadataClient.textOf, decoded, Except.bind, parsed]
  · intro listed
    -- Every other reply has a failure of its own.
    rcases reply with ⟨status, body⟩ | reason | reason
    · by_cases granted : status = 200
      · subst granted
        rcases decoded : Utf8.decode body with error | text
        · simp [listing, MetadataClient.textOf, decoded, Except.bind] at listed
        · simp only [listing, MetadataClient.textOf, decoded, Except.bind] at listed
          exact .document decoded listed
      · simp [listing, MetadataClient.textOf, granted, Except.bind] at listed
    · cases listed
    · cases listed

theorem unlisted_iff (url : String) {reply : Reply} :
    (∀ locations, ¬ Lists reply locations) ↔ ∃ failure, listing url reply = .error failure := by
  simp only [lists_iff url]
  rcases listing url reply with failure | locations
  · simp
  · simp

/-- After every reply exactly one set of locations is in force. -/
theorem inForce_iff (url : String) {reply : Reply} {locations : Locations} :
    InForce reply locations ↔ locations = (listing url reply).toOption.getD [] := by
  constructor
  · rintro (lists | unlisted)
    · rw [(lists_iff url).1 lists]
      rfl
    · obtain ⟨failure, refused⟩ := (unlisted_iff url).1 unlisted
      rw [refused]
      rfl
  · rintro rfl
    rcases listed : listing url reply with failure | locations
    · exact .unlisted ((unlisted_iff url).2 ⟨failure, listed⟩)
    · exact .listed ((lists_iff url).2 listed)

theorem exists_inForce (reply : Reply) : ∃ locations, InForce reply locations :=
  ⟨_, (inForce_iff Metadata.endpointsUrl).2 rfl⟩

/-- The report that no locations can be had, for a reason. -/
def unavailableReport (reason : String) : Event :=
  .log ⟨logger, .warning,
    "Cloud locations unavailable, checking names by pattern only: " ++ reason⟩

/-- What is reported about the locations that are had or not. -/
def listingReport : Except Failure Locations → Event
  | .ok locations =>
    .log ⟨logger, .debug, "Discovered " ++ toString locations.length ++ " cloud locations"⟩
  | .error failure => unavailableReport failure.message

/-- A request for a document, as it is left behind. -/
def request (client : MetadataClient) (url : String) : List Event :=
  [.log ⟨"MetadataClient", .debug, "Querying metadata endpoint " ++ url⟩,
    .call (.get url client.timeout)]

/-- What is left behind by names that do not fit. -/
def complaintReports (locations : Locations) (datacenters racks : List String) : List Event :=
  (complaints locations datacenters racks).map fun message => .log ⟨logger, .warning, message⟩

/-- Fetching the locations never fails: it ends with those in force. -/
theorem run_fetchLocations (client : MetadataClient) (url : String) (w : World) :
    (fetchLocations client url).run w =
      ⟨.ok ((listing url (w.http url)).toOption.getD []),
        request client url ++ [listingReport (listing url (w.http url))]⟩ := by
  rw [fetchLocations, Effect.run_attempt_bind, MetadataClient.run_fetch]
  dsimp only
  rw [← listing]
  rcases listing url (w.http url) with failure | locations
  · simp only [Effect.run_report_bind]
    rfl
  · simp only [Effect.run_report_bind]
    rfl

/-- Checking names tells whether all of them fit, and never fails. -/
theorem run_check (locations : Locations) (datacenters racks : List String) (w : World) :
    (check locations datacenters racks).run w =
      ⟨.ok (datacenters.all (isDatacenter locations) && racks.all isRack),
        complaintReports locations datacenters racks⟩ := by
  have reported := Effect.run_forM_report logger .warning (complaints locations datacenters racks) w
  rw [check, Effect.run_bind_of_ok (congrArg Outcome.result reported), reported,
    Effect.run_pure]
  exact congrArg (Outcome.mk _) (List.append_nil _)

/-- A check is one request, a report on the locations, and the complaints about the names. -/
theorem run_validate {client : MetadataClient} {url : String} {datacenters racks : List String}
    {w : World} {locations : Locations} (inForce : InForce (w.http url) locations) :
    (validate client url datacenters racks).run w =
      ⟨.ok (datacenters.all (isDatacenter locations) && racks.all isRack),
        request client url ++ listingReport (listing url (w.http url)) ::
          complaintReports locations datacenters racks⟩ := by
  have fetched := run_fetchLocations client url w
  rw [← (inForce_iff url).1 inForce] at fetched
  rw [validate, Effect.run_bind_of_ok (congrArg Outcome.result fetched), fetched, run_check]
  simp

theorem isReport_of_mem_complaintReports {locations : Locations} {datacenters racks : List String}
    {event : Event} (found : event ∈ complaintReports locations datacenters racks) :
    event.IsReport := by
  obtain ⟨message, -, rfl⟩ := List.mem_map.1 found
  trivial

/-- After its request a check only reports. -/
theorem isReport_of_mem_reports {listed : Except Failure Locations} {locations : Locations}
    {datacenters racks : List String} :
    ∀ event ∈ listingReport listed :: complaintReports locations datacenters racks,
      event.IsReport := by
  intro event found
  rcases List.mem_cons.1 found with rfl | complaint
  · cases listed with
    | error failure => trivial
    | ok locations => trivial
  · exact isReport_of_mem_complaintReports complaint

/-- Checking names makes no call. -/
theorem calls_check (locations : Locations) (datacenters racks : List String) (w : World) :
    ((check locations datacenters racks).run w).calls = [] := by
  rw [run_check]
  exact Event.calls_of_reports fun event => isReport_of_mem_complaintReports

/-- The only call of a check is one request for the document. -/
theorem calls_validate (client : MetadataClient) (url : String) (datacenters racks : List String)
    (w : World) :
    ((validate client url datacenters racks).run w).calls = [.get url client.timeout] := by
  rw [run_validate ((inForce_iff url).2 rfl), Outcome.calls_mk, Event.calls_append,
    Event.calls_of_reports isReport_of_mem_reports]
  rfl

/-- A check prints nothing. -/
theorem printed_validate (client : MetadataClient) (url : String)
    (datacenters racks : List String) (w : World) :
    ((validate client url datacenters racks).run w).printed = "" := by
  rw [run_validate ((inForce_iff url).2 rfl), Outcome.printed_mk, Event.printed_append,
    Event.printed_of_lookups fun event found => (isReport_of_mem_reports event found).isLookup]
  rfl

/-- No complaint about a name reads like the report on missing locations. -/
theorem unavailableReport_notMem (reason : String) (locations : Locations)
    (datacenters racks : List String) :
    unavailableReport reason ∉ complaintReports locations datacenters racks := by
  intro found
  obtain ⟨message, complains, same⟩ := List.mem_map.1 found
  rw [unavailableReport, Event.log.injEq, LogRecord.mk.injEq] at same
  -- The messages differ in their first letters.
  have starts : message.toList.head? = some 'C' := by
    rw [same.2.2, String.toList_append]
    rfl
  rw [complaints, List.mem_append, List.mem_map, List.mem_map] at complains
  rcases complains with ⟨name, -, rfl⟩ | ⟨name, -, rfl⟩
  · rw [datacenterComplaint, String.append_assoc, String.toList_append] at starts
    cases starts
  · rw [rackComplaint, String.append_assoc, String.toList_append] at starts
    cases starts

/-- That locations are missing is reported exactly if the reply lists none. -/
theorem unavailableReport_mem_iff {client : MetadataClient} {url : String}
    {datacenters racks : List String} {w : World} :
    (∃ reason, unavailableReport reason ∈
        ((validate client url datacenters racks).run w).events) ↔
      ∀ locations, ¬ Lists (w.http url) locations := by
  rw [run_validate ((inForce_iff url).2 rfl), unlisted_iff url]
  have among (reason : String) : unavailableReport reason ∈
        request client url ++ listingReport (listing url (w.http url)) ::
          complaintReports ((listing url (w.http url)).toOption.getD []) datacenters racks ↔
      unavailableReport reason = listingReport (listing url (w.http url)) := by
    have other := unavailableReport_notMem reason
      ((listing url (w.http url)).toOption.getD []) datacenters racks
    rw [List.mem_append, List.mem_cons, or_iff_left other]
    simp [request, unavailableReport]
  rw [exists_congr among]
  rcases listing url (w.http url) with failure | locations
  · exact ⟨fun _ => ⟨failure, rfl⟩, fun _ => ⟨failure.message, rfl⟩⟩
  · simp [unavailableReport, listingReport]

/-- Names to be checked, and the reply to the request at that moment. -/
structure Visit where
  reply : Reply
  datacenters : List String
  racks : List String

/-- The outcome of a check in a world. -/
def Visit.outcome (visit : Visit) (client : MetadataClient) (url : String) (w : World) :
    Outcome Bool :=
  (validate client url visit.datacenters visit.racks).run (w.replying url visit.reply)

/-- The outcomes of checks one after the other, each in the world that the ones before it leave
behind. -/
def validateAll (client : MetadataClient) (url : String) (w : World) :
    List Visit → List (Outcome Bool)
  | [] => []
  | visit :: rest =>
    let outcome := visit.outcome client url w
    outcome :: validateAll client url ((w.replying url visit.reply).after outcome.events) rest

/-- How a check ends. -/
structure Validated (client : MetadataClient) (url : String) (visit : Visit)
    (outcome : Outcome Bool) : Prop where
  /-- It does not fail. -/
  returns : ∃ fits, outcome.result = .ok fits
  /-- It tells what checking against the locations in force tells, in whatever world. -/
  against : ∃ locations, InForce visit.reply locations ∧
    ∀ w, outcome.result = ((check locations visit.datacenters visit.racks).run w).result
  /-- It makes one request and no other call. -/
  calls : outcome.calls = [.get url client.timeout]
  /-- It warns of missing locations exactly if the reply lists none. -/
  warns : (∃ reason, unavailableReport reason ∈ outcome.events) ↔
    ∀ locations, ¬ Lists visit.reply locations
  /-- It is as if it were the first one, in any world with this reply. -/
  alone : ∀ w, w.http url = visit.reply →
    outcome = (validate client url visit.datacenters visit.racks).run w

/-- One check, whatever was before it. -/
theorem validated_outcome (client : MetadataClient) (url : String) (visit : Visit) (w : World) :
    Validated client url visit (visit.outcome client url w) := by
  have inForce {w : World} (replies : w.http url = visit.reply) :
      InForce (w.http url) ((listing url visit.reply).toOption.getD []) :=
    (inForce_iff url).2 (by rw [replies])
  have ends : visit.outcome client url w = _ := run_validate (inForce (w.http_replying ..))
  constructor
  case returns => exact ⟨_, by rw [ends]⟩
  case against =>
    refine ⟨(listing url visit.reply).toOption.getD [], (inForce_iff url).2 rfl, fun later => ?_⟩
    rw [ends, run_check]
  case calls => exact calls_validate ..
  case warns =>
    rw [← w.http_replying url visit.reply]
    exact unavailableReport_mem_iff
  case alone =>
    intro other replies
    rw [ends, run_validate (inForce replies), replies, World.http_replying]

/-- Whatever replies come, and whatever names are checked one after the other: no check fails,
each makes one request and is made against the locations in force at that moment, a warning
tells that none are known exactly if the reply lists none, and no check depends on those before
it. -/
theorem validated_all (client : MetadataClient) (url : String) (w : World)
    (visits : List Visit) :
    List.Forall₂ (Validated client url) visits (validateAll client url w visits) := by
  induction visits generalizing w with
  | nil => exact .nil
  | cons visit rest ih => exact .cons (validated_outcome client url visit w) (ih _)

/-- A name that fits a location while one is known, and no region by itself. -/
example :
    let w : World :=
      { http := fun _ => .unreachable "", redis := ⟨[], none, none⟩, files := Files.empty,
        log := none, time := "" }
    let document :=
      "\x7b\"cloudEndpoint\":\x7b\"a\":\x7b\"locations\":[\"eastus\"]\x7d\x7d\x7d"
    let visits : List Visit :=
      [⟨.answer 200 (Utf8.encode document), ["eastus-1"], []⟩,
        ⟨.unreachable "gone", ["eastus-1"], []⟩]
    (validateAll MetadataClient.default Metadata.endpointsUrl w visits).map
      (fun outcome => outcome.result.toOption) = [some true, some false] := by
  decide +kernel

end NameCheck

end ClusterTopology
