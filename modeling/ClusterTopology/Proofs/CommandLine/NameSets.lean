import ClusterTopology.Proofs.CommandLine.Checking

/-!
# Lists of names are sets

When the command checks names, its code tells whether all listed names fit, and each name that does
not fit is warned of once, if warnings are shown at all. It does not matter how the lists are
written: with the same names on them the code, what is printed and what is called are the same, and
the error stream shows the same lines in some order.
-/

namespace ClusterTopology.CommandLine

open NameCheck (warnings warning)

/-- Outcomes that differ at most in the order of the lines on the error stream. -/
structure SameButOrder (time : String) (first second : Outcome Nat) : Prop where
  result : second.result = first.result
  printed : second.printed = first.printed
  calls : second.calls = first.calls
  lines : (Event.shownLines time none first.events).Perm (Event.shownLines time none second.events)
  /-- These lines, one after the other, are what is on the error stream. -/
  stream : ∀ outcome ∈ [first, second], Event.complained time none outcome.events =
    String.join (Event.shownLines time none outcome.events)

section Reports

variable {records others : List LogRecord}

theorem isReport_of_mem_map : ∀ event ∈ records.map Event.log, event.IsReport := by
  intro event found
  obtain ⟨record, -, rfl⟩ := List.mem_map.1 found
  trivial

/-- The order of reports matters only for the order in which they are shown. -/
theorem sameButOrder_of_perm {time : String} {result : Except Failure Nat}
    {before after : List Event} (same : records.Perm others) :
    SameButOrder time ⟨result, before ++ (records.map .log ++ after)⟩
      ⟨result, before ++ (others.map .log ++ after)⟩ where
  result := rfl
  printed := by
    have quiet (records : List LogRecord) : Event.printed (records.map .log) = "" :=
      Event.printed_of_lookups fun event found =>
        Event.IsReport.isLookup (isReport_of_mem_map event found)
    simp only [Outcome.printed_mk, Event.printed_append, quiet]
  calls := by
    have quiet (records : List LogRecord) : Event.calls (records.map .log) = [] :=
      Event.calls_of_reports isReport_of_mem_map
    simp only [Outcome.calls_mk, Event.calls_append, quiet]
  lines := by
    have steady : ∀ event ∈ records.map Event.log, event.IsSteady := fun event found =>
      Event.IsReport.isSteady (isReport_of_mem_map event found)
    exact Event.shownLines_perm steady (same.map _)
  stream _ _ := Event.complained_eq_join ..

/-- How often a record is shown, if it is only among some reports. -/
theorem count_shownRecords {time : String} {setup : LogSetup} {before after : List Event}
    {record : LogRecord} (logs : Event.logAfter none before = some setup)
    (early : .log record ∉ before) (late : .log record ∉ after) :
    (Event.shownRecords time none (before ++ (records.map .log ++ after))).count record =
      if setup.shows record then records.count record else 0 := by
  have never {now : Option LogSetup} {events : List Event} (absent : .log record ∉ events) :
      (Event.shownRecords time now events).count record = 0 :=
    List.count_eq_zero.2 fun found => absent (Event.log_mem_of_mem_shownRecords found)
  rw [Event.shownRecords_append, Event.shownRecords_append, List.count_append, List.count_append,
    never early, never late, logs, Event.shownRecords_reports, Nat.zero_add, Nat.add_zero]
  split
  · next shows => exact List.count_filter shows
  · next hides => exact List.count_eq_zero.2 fun found => hides (List.mem_filter.1 found).2

end Reports

/-- What a check leaves behind before it comes to the names. -/
def checkEvents (snitch : Snitch) (w : World) : List Event :=
  NameCheck.request snitch.client Metadata.endpointsUrl ++
    [NameCheck.listingReport
      (NameCheck.listing Metadata.endpointsUrl (w.http Metadata.endpointsUrl))]

section Run

variable {words others : List String} {w : World} {args other : Arguments} {settings : Settings}
  {snitch : Snitch} {before : List Event} {locations : Locations} {lists : Attribute → List String}

/-- The names of lists decide the verdict and which warnings there are, and nothing else. -/
theorem ComesToNames.run_eq (comes : ComesToNames words w args settings snitch before)
    (inForce : NameCheck.InForce (w.http Metadata.endpointsUrl) locations)
    (accepted : Arguments.parse others = .ok (some other)) (same : SameButLists args other)
    (reads : ∀ key, names (other.list key) = .ok (lists key)) :
    (run others).run w =
      ⟨.ok (verdictCode (NameCheck.AllFit locations (lists .datacenter) (lists .rack))),
        before ++ checkEvents snitch w ++ ((warnings locations lists).map .log ++
          .out (terminated
            (verdictLine (NameCheck.AllFit locations (lists .datacenter) (lists .rack)))) ::
              closingEvents snitch)⟩ := by
  have asked : other.validate = true := by rw [same.validate, comes.asked]
  have still := inForce
  rw [← w.http_after before] at still
  have checks : (snitch.validate (lists .datacenter) (lists .rack)).run (w.after before) = _ :=
    NameCheck.run_validate still
  have fits : ((lists .datacenter).all (NameCheck.isDatacenter locations) &&
      (lists .rack).all NameCheck.isRack) =
        decide (NameCheck.AllFit locations (lists .datacenter) (lists .rack)) := by
    rw [Bool.eq_iff_iff, NameCheck.allFit_iff, decide_eq_true_eq]
  rw [fits, NameCheck.complaintReports_eq_warnings] at checks
  rw [comes.goes others other accepted same, framed,
    run_verdict_of_validated asked (reads .datacenter) (reads .rack) checks, World.http_after]
  simp [checkEvents]

/-- Whether all names that are listed fit. -/
def ListedFit (args : Arguments) (locations : Locations) : Prop :=
  ∀ key name, Listed (args.list key) name → NameCheck.Fits locations key name

theorem allFit_iff_listedFit (reads : ∀ key, names (args.list key) = .ok (lists key)) :
    NameCheck.AllFit locations (lists .datacenter) (lists .rack) ↔ ListedFit args locations := by
  constructor
  · intro fits key name listed
    rw [← mem_names (reads key)] at listed
    cases key with
    | datacenter => exact fits.datacenters name listed
    | rack => exact fits.racks name listed
  · intro fits
    exact ⟨fun name listed => fits .datacenter name ((mem_names (reads .datacenter)).1 listed),
      fun name listed => fits .rack name ((mem_names (reads .rack)).1 listed)⟩

theorem SameNames.listedFit_iff (same : SameNames args other) :
    ListedFit other locations ↔ ListedFit args locations := by
  refine forall₂_congr fun key name => ?_
  rw [(same.lists key).listed_iff name]

/-- However lists are written, the run is the same but for the order of lines. -/
theorem ComesToNames.sameButOrder (comes : ComesToNames words w args settings snitch before)
    (accepted : Arguments.parse others = .ok (some other)) (same : SameNames args other) :
    SameButOrder w.time ((run words).run w) ((run others).run w) := by
  obtain ⟨locations, inForce⟩ := NameCheck.exists_inForce (w.http Metadata.endpointsUrl)
  choose lists reads using comes.named
  choose changed rereads perm using fun key => (same.lists key).names (reads key)
  have fits : NameCheck.AllFit locations (changed .datacenter) (changed .rack) ↔
      NameCheck.AllFit locations (lists .datacenter) (lists .rack) := by
    rw [allFit_iff_listedFit rereads, allFit_iff_listedFit reads, same.listedFit_iff]
  rw [comes.run_eq inForce comes.accepted (.refl args) reads,
    comes.run_eq inForce accepted same.toSameButLists rereads]
  simp only [fits]
  exact sameButOrder_of_perm (NameCheck.warnings_perm perm)

theorem isSteady_of_mem_checkEvents : ∀ event ∈ checkEvents snitch w, event.IsSteady := by
  intro event found
  rw [checkEvents, NameCheck.request] at found
  simp only [List.cons_append, List.nil_append, List.mem_cons, List.not_mem_nil, or_false] at found
  rcases found with rfl | rfl | rfl
  · trivial
  · trivial
  · cases NameCheck.listing Metadata.endpointsUrl (w.http Metadata.endpointsUrl) <;> trivial

/-- A warning about a name comes neither before the names are checked nor after that. -/
theorem ComesToNames.warning_notMem (comes : ComesToNames words w args settings snitch before)
    (locations : Locations) (key : Attribute) (name line : String) :
    .log (warning locations key name) ∉ before ++ checkEvents snitch w ∧
      .log (warning locations key name) ∉ .out line :: closingEvents snitch := by
  constructor
  · intro found
    rcases List.mem_append.1 found with early | checked
    · exact comes.apart _ early rfl
    rcases List.mem_append.1 checked with request | listing
    · simp [NameCheck.request, warning, NameCheck.logger] at request
    · exact NameCheck.listingReport_ne _ _ _ _ (List.mem_singleton.1 listing).symm
  · intro found
    rcases List.mem_cons.1 found with now | closing
    · cases now
    · exact isApart_of_mem_closingEvents snitch _ closing rfl

end Run

/-- What becomes of a check of names. -/
structure NamesChecked (args : Arguments) (w : World) (settings : Settings)
    (locations : Locations) (outcome : Outcome Nat) : Prop where
  requests : RequestsEndpoints outcome.calls
  fits : outcome.result = .ok 0 ↔ ListedFit args locations
  misfits : outcome.result = .ok 1 ↔ ¬ ListedFit args locations
  /-- If warnings are shown at all, each name that is listed and does not fit is warned of once. -/
  once : Threshold.named ((settings.text? .logLevel).getD "INFO") ≤ Level.rank .warning →
    ∀ key name, Listed (args.list key) name → ¬ NameCheck.Fits locations key name →
      (Event.shownRecords w.time none outcome.events).count (warning locations key name) = 1
  /-- There is no warning about another name. -/
  only : ∀ key name, .log (warning locations key name) ∈ outcome.events →
    Listed (args.list key) name ∧ ¬ NameCheck.Fits locations key name
  /-- It makes no difference how the lists are written. -/
  alike : ∀ words other, Arguments.parse words = .ok (some other) → SameNames args other →
    SameButOrder w.time outcome ((run words).run w)

theorem ComesToNames.checked {words : List String} {w : World} {args : Arguments}
    {settings : Settings} {snitch : Snitch} {before : List Event} {locations : Locations}
    (comes : ComesToNames words w args settings snitch before)
    (inForce : NameCheck.InForce (w.http Metadata.endpointsUrl) locations) :
    NamesChecked args w settings locations ((run words).run w) := by
  choose lists reads using comes.named
  have runs := comes.run_eq inForce comes.accepted (.refl args) reads
  obtain ⟨setup, logs, threshold⟩ := comes.logs
  have logsThen : Event.logAfter none (before ++ checkEvents snitch w) = some setup := by
    rw [Event.logAfter_append, Event.logAfter_of_steady isSteady_of_mem_checkEvents, logs]
  constructor
  case requests =>
    refine ⟨snitch.client.timeout, Event.mem_calls.2 ?_⟩
    rw [runs]
    simp [checkEvents, NameCheck.request]
  case fits =>
    rw [runs, ← allFit_iff_listedFit reads, Except.ok.injEq, verdictCode_eq_zero, decide_eq_true_eq]
  case misfits =>
    rw [runs, ← allFit_iff_listedFit reads, Except.ok.injEq, verdictCode_eq_one,
      decide_eq_false_iff_not]
  case once =>
    intro shows key name found misfits
    obtain ⟨early, late⟩ := comes.warning_notMem locations key name
      (terminated (verdictLine (NameCheck.AllFit locations (lists .datacenter) (lists .rack))))
    have shown : setup.shows (warning locations key name) = true := by
      rw [LogSetup.shows, threshold]
      exact decide_eq_true shows
    rw [runs, count_shownRecords logsThen early late, if_pos shown,
      NameCheck.count_warnings fun key => nodup_names (reads key),
      if_pos ⟨(mem_names (reads key)).2 found, misfits⟩]
  case only =>
    intro key name found
    obtain ⟨early, late⟩ := comes.warning_notMem locations key name
      (terminated (verdictLine (NameCheck.AllFit locations (lists .datacenter) (lists .rack))))
    rw [runs, List.mem_append, or_iff_right early, List.mem_append, or_iff_left late] at found
    obtain ⟨record, warned, same⟩ := List.mem_map.1 found
    cases same
    obtain ⟨among, misfits⟩ := NameCheck.warning_mem_iff.1 warned
    exact ⟨(mem_names (reads key)).1 among, misfits⟩
  case alike => exact fun others other accepted same => comes.sameButOrder accepted same

/-- Lists that can be read do not keep the command from coming to a check. -/
theorem ComesToNames.of_sameButLists {words others : List String} {w : World}
    {args other : Arguments} {settings : Settings} {snitch : Snitch} {before : List Event}
    (comes : ComesToNames words w args settings snitch before)
    (accepted : Arguments.parse others = .ok (some other)) (same : SameButLists args other)
    (texts : ∀ key, other.list key ≠ some .nothing) :
    ComesToNames others w other settings snitch before where
  accepted := accepted
  loads := by rw [same.config, comes.loads]
  asked := by rw [same.validate, comes.asked]
  named key := exists_names_of_text (texts key)
  logs := comes.logs
  apart := comes.apart
  goes words another acceptedToo sameToo :=
    comes.goes words another acceptedToo (same.trans sameToo)

/-- Whenever the command checks names in a world, and whatever other texts the lists of names are
then: what becomes of the check depends only on the sets of the names that are listed. -/
theorem names_checked_as_sets {words : List String} {w : World}
    (requests : RequestsEndpoints ((run words).run w).calls) :
    ∃ args settings locations, Arguments.parse words = .ok (some args) ∧
      ((Settings.ofFile args.config).run w).result = .ok settings ∧
      NameCheck.InForce (w.http Metadata.endpointsUrl) locations ∧
      NamesChecked args w settings locations ((run words).run w) ∧
      ∀ others other, Arguments.parse others = .ok (some other) → SameButLists args other →
        (∀ key, other.list key ≠ some .nothing) →
        NamesChecked other w settings locations ((run others).run w) := by
  obtain ⟨args, settings, snitch, before, comes⟩ := exists_comesToNames requests
  obtain ⟨locations, inForce⟩ := NameCheck.exists_inForce (w.http Metadata.endpointsUrl)
  refine ⟨args, settings, locations, comes.accepted, comes.loads, inForce, comes.checked inForce,
    fun others other accepted same texts => ?_⟩
  exact (comes.of_sameButLists accepted same texts).checked inForce

/-- A rack that does not fit, on a list and on another one on which it stands twice. -/
theorem names_checked_of_misfit :
    let words := ["--validate", "--datacenters", "ea1", "--racks", "1,x"]
    let others := ["--validate", "--racks", " x,1,x", "--datacenters", "ea1"]
    let args : Arguments := ⟨none, none, [], true, some (.text "ea1"), some (.text "1,x")⟩
    let other : Arguments := ⟨none, none, [], true, some (.text "ea1"), some (.text " x,1,x")⟩
    let w : World := {
      http := fun url => if url = Metadata.regionUrl ∨ url = Metadata.zoneUrl
        then .answer 200 [49] else .unreachable "gone"
      redis := ⟨[], none, none⟩
      files := Files.empty
      log := none
      time := "" }
    RequestsEndpoints ((run words).run w).calls ∧ Arguments.parse words = .ok (some args) ∧
      Arguments.parse others = .ok (some other) ∧ SameNames args other ∧
      ((run words).run w).result = .ok 1 ∧
      SameButOrder w.time ((run words).run w) ((run others).run w) ∧
      (Event.shownRecords w.time none ((run others).run w).events).count
        ⟨NameCheck.logger, .warning, "Rack 'x' is not an availability zone"⟩ = 1 := by
  intro words others args other w
  have accepted : Arguments.parse words = .ok (some args) := rfl
  have acceptedToo : Arguments.parse others = .ok (some other) := rfl
  have blank : Text.isBlank ' ' = true := rfl
  have again : Text.Rewritten [['1'], ['x']] [['x'], ['1'], ['x']] := .again (by decide)
  have padded : Text.Rewritten [['x'], ['1'], ['x']] [[' '] ++ ['x'] ++ [], ['1'], ['x']] :=
    .padded (by simp [blank])
  have rewritten : Text.Rewritten (Text.splitAt ',' "1,x".toList)
    (Text.splitAt ',' " x,1,x".toList) := again.trans padded
  have same : SameNames args other := {
    config := rfl
    createConfig := rfl
    endpoints := rfl
    validate := rfl
    lists := fun key => by
      cases key with
      | datacenter => exact .kept
      | rack => exact .rewritten rewritten }
  have texts (key : Attribute) : other.list key ≠ some .nothing := by cases key <;> decide
  have requests : RequestsEndpoints ((run words).run w).calls := by decide +kernel
  obtain ⟨asked, settings, locations, accepts, loads, inForce, checked, each⟩ :=
    names_checked_as_sets requests
  cases accepted.symm.trans accepts
  have default : ((Settings.ofFile none).run w).result = .ok .default := rfl
  obtain rfl : settings = .default := Except.ok.inj (loads.symm.trans default)
  have shows : Threshold.named ((Settings.default.text? .logLevel).getD "INFO") ≤
    Level.rank .warning := by decide +kernel
  have unlisted : locations = [] := (NameCheck.inForce_iff Metadata.endpointsUrl).1 inForce
  subst unlisted
  have listed : Listed (args.list .rack) "x" := listed_text_iff.2 (by decide)
  have listedToo : Listed (other.list .rack) "x" := listed_text_iff.2 (by decide)
  have misfits : ¬ NameCheck.Fits [] .rack "x" := by decide
  refine ⟨requests, accepted, acceptedToo, same, ?_,
    checked.alike others other acceptedToo same, ?_⟩
  · exact checked.misfits.2 fun fits => misfits (fits .rack "x" listed)
  · have once := (each others other acceptedToo same.toSameButLists texts).once shows .rack "x"
      listedToo misfits
    have warned : warning [] .rack "x" =
        ⟨NameCheck.logger, .warning, "Rack 'x' is not an availability zone"⟩ := by decide +kernel
    rw [warned] at once
    exact once

end ClusterTopology.CommandLine
