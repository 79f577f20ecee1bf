import ClusterTopology.Proofs.CommandLine.Closing
import ClusterTopology.Proofs.CommandLine.NameLists
import ClusterTopology.Proofs.ErrorStream
import ClusterTopology.Proofs.NameCheck.Warnings

/-!
# The command checks names

How the command comes to a check of names. What it leaves behind until then does not depend on the
lists of names, and is no part of a check. The check makes a request of its own and warns of each
name that does not fit, and after it the verdict is printed and the connections are ended. So the
lists decide only which warnings there are and what the verdict is, and these are the same for the
same names, in whatever way the lists are written.
-/

namespace ClusterTopology

namespace Event

/-- An event that is no part of a check of names, neither its request nor a report of it, and that
does not set up the log. -/
def IsApart : Event → Prop
  | .log record => record.logger ≠ NameCheck.logger
  | .call (.get url _) => url ≠ Metadata.endpointsUrl
  | .logSetup _ => False
  | _ => True

theorem IsApart.isSteady {event : Event} (apart : event.IsApart) : event.IsSteady := by
  cases event with
  | logSetup setup => exact apart
  | _ => trivial

theorem coversReports_isApart : CoversReports IsApart := fun _ other _ _ => other

theorem coversLookups_isApart : CoversLookups IsApart where
  source _ _ := (by decide : Store.logger ≠ NameCheck.logger)
  resolver _ _ := (by decide : Resolver.logger ≠ NameCheck.logger)
  get _ _ := trivial
  getAll _ := trivial

theorem isApart_of_isPreliminary {made : Call} (preliminary : made.IsPreliminary) :
    IsApart (.call made) := by
  cases made with
  | get url timeout => exact preliminary
  | _ => trivial

end Event

/-- Whether calls contain the request of a check of names. -/
def RequestsEndpoints (calls : List Call) : Prop :=
  ∃ timeout, Call.get Metadata.endpointsUrl timeout ∈ calls

/-- Whether a call is the request of a check of names. -/
def Call.isEndpointsRequest : Call → Bool
  | .get url _ => url = Metadata.endpointsUrl
  | _ => false

theorem requestsEndpoints_iff {calls : List Call} :
    RequestsEndpoints calls ↔ calls.any Call.isEndpointsRequest = true := by
  rw [List.any_eq_true]
  constructor
  · rintro ⟨timeout, made⟩
    refine ⟨_, made, ?_⟩
    rw [Call.isEndpointsRequest]
    exact decide_eq_true rfl
  · rintro ⟨call, made, is⟩
    cases call with
    | get url timeout =>
      obtain rfl := of_decide_eq_true is
      exact ⟨timeout, made⟩
    | _ => cases is

instance (calls : List Call) : Decidable (RequestsEndpoints calls) :=
  decidable_of_iff' _ requestsEndpoints_iff

theorem not_requestsEndpoints_of_apart {events : List Event}
    (apart : ∀ event ∈ events, event.IsApart) : ¬ RequestsEndpoints (Event.calls events) := by
  rintro ⟨timeout, made⟩
  exact apart _ (Event.mem_calls.1 made) rfl

theorem not_requestsEndpoints_append {first second : List Call} (none : ¬ RequestsEndpoints first)
    (noneToo : ¬ RequestsEndpoints second) : ¬ RequestsEndpoints (first ++ second) := by
  rintro ⟨timeout, made⟩
  rcases List.mem_append.1 made with early | late
  · exact none ⟨timeout, early⟩
  · exact noneToo ⟨timeout, late⟩

namespace CommandLine

/-- A log that can be set up is set up with the threshold that the level names, and nothing else is
left behind. -/
theorem events_setUpLog_of_ok {level : String} {file : Option String} {w : World}
    (ends : ((setUpLog level file).run w).result = .ok ()) : ∃ names,
      ((setUpLog level file).run w).events = [.logSetup ⟨Threshold.named level, names⟩] := by
  have silent : ((logFile file).run w).events = [] := by
    have nothing : (logFile file).Leaves fun _ => False := leaves_logFile file
    exact List.eq_nil_iff_forall_not_mem.2 (nothing.each w)
  rw [setUpLog] at ends ⊢
  rcases opened : ((logFile file).run w).result with failure | names
  · rw [Effect.run_bind_of_error opened] at ends
    cases ends
  rw [Effect.run_bind_of_ok opened, silent] at ends ⊢
  refine ⟨names, ?_⟩
  rw [Effect.run_bind_of_ok rfl] at ends ⊢
  dsimp only at ends ⊢
  split at ends
  · cases ends
  split at ends
  · cases ends
  · next form styles =>
    rw [if_neg form, if_neg styles]
    rfl

section Serve

variable {snitch : Snitch} {endpoints : List NodeAddress} {args : Arguments} {w : World}

theorem isApart_of_mem_tellingEvents (snitch : Snitch) (endpoints : List NodeAddress) (w : World) :
    ∀ event ∈ tellingEvents snitch endpoints w, event.IsApart := by
  have lookups := leaves_printLabels Event.coversLookups_isApart (fun _ => trivial)
    snitch.resolver endpoints
  exact List.forall_mem_cons.2 ⟨trivial, lookups.run none w⟩

theorem isApart_of_mem_closingEvents (snitch : Snitch) :
    ∀ event ∈ closingEvents snitch, event.IsApart := by
  intro event found
  rw [closingEvents] at found
  split at found
  · rw [List.mem_singleton.1 found]
    trivial
  · cases found

/-- Names are checked only if that is asked for and both lists can be read. -/
theorem exists_names_of_requests
    (requests : RequestsEndpoints ((verdict snitch args).run w).calls) :
    args.validate = true ∧ ∀ key, ∃ list, names (args.list key) = .ok list := by
  by_cases asked : args.validate = true
  · refine ⟨asked, ?_⟩
    rw [verdict, if_pos asked] at requests
    rcases named : names args.datacenters with failure | datacenters
    · rw [named, Effect.run_bind_of_error rfl] at requests
      obtain ⟨timeout, made⟩ := requests
      cases made
    rcases listed : names args.racks with failure | racks
    · rw [named, listed, Effect.run_bind_of_ok rfl, Effect.run_bind_of_error rfl] at requests
      obtain ⟨timeout, made⟩ := requests
      cases made
    · intro key
      cases key with
      | datacenter => exact ⟨datacenters, named⟩
      | rack => exact ⟨racks, listed⟩
  · rw [verdict, if_neg asked] at requests
    obtain ⟨timeout, made⟩ := requests
    cases made

/-- An effect between events that were before it and others that come after it. -/
def framed (before after : List Event) (effect : Effect Nat) (w : World) : Outcome Nat :=
  ⟨(effect.run (w.after before)).result,
    before ++ ((effect.run (w.after before)).events ++ after)⟩

theorem framed_following (first before after : List Event) (effect : Effect Nat) (w : World) :
    (framed before after effect (w.after first)).following first =
      framed (first ++ before) after effect w := by
  simp only [framed, Outcome.following, World.after_append, List.append_assoc]

/-- A snitch that comes to a check of names comes to it after the same events whatever the lists of
names are. -/
theorem serveAndClose_of_requests
    (requests : RequestsEndpoints ((serveAndClose snitch endpoints args).run w).calls) :
    (∀ other, (serveAndClose snitch endpoints other).run w =
      framed (tellingEvents snitch endpoints w) (closingEvents snitch) (verdict snitch other) w) ∧
      args.validate = true ∧ ∀ key, ∃ list, names (args.list key) = .ok list := by
  have silent := not_requestsEndpoints_of_apart (isApart_of_mem_tellingEvents snitch endpoints w)
  have silentToo := not_requestsEndpoints_of_apart (isApart_of_mem_closingEvents snitch)
  obtain ⟨labels, later, -, served, -⟩ | ⟨failure, later, served⟩ := run_serve snitch endpoints w
  · refine ⟨fun other => ?_, ?_⟩
    · rw [run_serveAndClose (served other), List.append_assoc]
      rfl
    · rw [run_serveAndClose (served args), Outcome.calls_mk, Event.calls_append,
        Event.calls_append] at requests
      by_contra unchecked
      exact not_requestsEndpoints_append (not_requestsEndpoints_append silent
        fun checked => unchecked (exists_names_of_requests checked)) silentToo requests
  · rw [run_serveAndClose (served args), Outcome.calls_mk, Event.calls_append] at requests
    exact absurd requests (not_requestsEndpoints_append silent silentToo)

end Serve

/-- How the command comes to a check of names: with what it has been asked for, with settings and a
snitch, and after events that do not depend on the lists of names. -/
structure ComesToNames (words : List String) (w : World) (args : Arguments) (settings : Settings)
    (snitch : Snitch) (before : List Event) : Prop where
  accepted : Arguments.parse words = .ok (some args)
  loads : ((Settings.ofFile args.config).run w).result = .ok settings
  asked : args.validate = true
  named : ∀ key, ∃ list, names (args.list key) = .ok list
  /-- By then the log is set up as the settings tell. -/
  logs : ∃ setup, Event.logAfter none before = some setup ∧
    setup.threshold = Threshold.named ((settings.text? .logLevel).getD "INFO")
  /-- No check has reported anything until then. -/
  apart : ∀ record, .log record ∈ before → record.logger ≠ NameCheck.logger
  goes : ∀ words other, Arguments.parse words = .ok (some other) → SameButLists args other →
    (run words).run w = framed before (closingEvents snitch) (verdict snitch other) w

section Reading

variable {config : Option String} {settings : Settings} {w : World}

theorem Prepared.of_sameButLists {words others : List String} {args other : Arguments}
    {endpoints : List NodeAddress} (prepared : Prepared words w args settings endpoints)
    (accepted : Arguments.parse others = .ok (some other)) (same : SameButLists args other) :
    Prepared others w other settings endpoints where
  accepted := accepted
  serves := by rw [same.createConfig, prepared.serves]
  loads := by rw [same.config, prepared.loads]
  logs := by rw [same.config, prepared.logs]
  named := by rw [same.endpoints, prepared.named]

/-- Reading the settings reports nothing that a check does, and then the log is set up. -/
theorem readingEvents_eq (logs : ((setUpLogOf settings).run
      (w.after ((Settings.ofFile config).run w).events)).result = .ok ()) :
    ∃ setup loading, readingEvents config settings w = loading ++ [.logSetup setup] ∧
      setup.threshold = Threshold.named ((settings.text? .logLevel).getD "INFO") ∧
      ∀ event ∈ loading, event.IsApart := by
  obtain ⟨names, only⟩ := events_setUpLog_of_ok logs
  have loading := Settings.leaves_ofFile_of_reports Event.coversReports_isApart config
  let setup : LogSetup := ⟨Threshold.named ((settings.text? .logLevel).getD "INFO"), names⟩
  exact ⟨setup, _, congrArg _ only, rfl, loading.each w⟩

/-- Once the log is set up it stays so, and no check has reported anything. -/
theorem logAfter_of_read {setup : LogSetup} {loading later : List Event}
    (apart : ∀ event ∈ loading, event.IsApart) (apartToo : ∀ event ∈ later, event.IsApart) :
    Event.logAfter none (loading ++ [.logSetup setup] ++ later) = some setup ∧
      ∀ record, .log record ∈ loading ++ [.logSetup setup] ++ later →
        record.logger ≠ NameCheck.logger := by
  constructor
  · rw [Event.logAfter_append, Event.logAfter_append,
      Event.logAfter_of_steady fun event found => (apartToo event found).isSteady]
    rfl
  · intro record found
    rcases List.mem_append.1 found with early | late
    · rcases List.mem_append.1 early with first | setUp
      · exact apart _ first
      · cases List.mem_singleton.1 setUp
    · exact apartToo _ late

end Reading

/-- The command requests the locations of all clouds only for a check of names. -/
theorem exists_comesToNames {words : List String} {w : World}
    (requests : RequestsEndpoints ((run words).run w).calls) :
    ∃ args settings snitch before, ComesToNames words w args settings snitch before := by
  have starts : ReachesStart words w := by
    by_contra stops
    rw [calls_of_not_reachesStart stops] at requests
    obtain ⟨timeout, made⟩ := requests
    cases made
  obtain ⟨args, settings, endpoints, prepared⟩ := starts
  obtain ⟨setup, loading, read, threshold, apart⟩ := readingEvents_eq prepared.logs
  have runs {words : List String} {other : Arguments}
      (accepted : Arguments.parse words = .ok (some other)) (same : SameButLists args other) :
      (run words).run w = ((runSnitch settings endpoints other).run
        (w.after (readingEvents args.config settings w))).following
          (readingEvents args.config settings w) := by
    rw [run_eq_of_prepared (prepared.of_sameButLists accepted same), same.config]
  have quiet : Event.calls (readingEvents args.config settings w) = [] :=
    Event.calls_of_local isLocal_of_mem_readingEvents
  generalize readingEvents args.config settings w = reading at read runs quiet
  have starting := (Snitch.leaves_ofSettings_of_covers Event.coversReports_isApart
    (fun _ => Event.isApart_of_isPreliminary) settings).each (w.after reading)
  have silent := not_requestsEndpoints_of_apart starting
  rw [runs prepared.accepted (.refl args), Outcome.calls_following, quiet, List.nil_append,
    runSnitch_eq] at requests
  rcases started : ((Snitch.ofSettings settings).run (w.after reading)).result with failure | snitch
  · rw [calls_orRefuse_of_error started (Effect.leaves_emit trivial)] at requests
    exact absurd requests silent
  rw [run_orRefuse_of_ok started, Outcome.calls_following] at requests
  obtain ⟨served, asked, named⟩ := serveAndClose_of_requests
    (by_contra fun unserved => not_requestsEndpoints_append silent unserved requests)
  have telling := isApart_of_mem_tellingEvents snitch endpoints
    ((w.after reading).after ((Snitch.ofSettings settings).run (w.after reading)).events)
  obtain ⟨logs, others⟩ := logAfter_of_read apart (List.forall_mem_append.2 ⟨starting, telling⟩)
  rw [← read] at logs others
  exact ⟨args, settings, snitch, _, {
    accepted := prepared.accepted
    loads := prepared.loads
    asked := asked
    named := named
    logs := ⟨setup, logs, threshold⟩
    apart := others
    goes := fun words other accepted same => by
      rw [runs accepted same, runSnitch_eq, run_orRefuse_of_ok started, served, framed_following,
        framed_following] }⟩

end CommandLine

end ClusterTopology
