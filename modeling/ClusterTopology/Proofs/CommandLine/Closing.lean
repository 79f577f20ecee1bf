import ClusterTopology.Proofs.CommandLine.Report

/-!
# The end of the connections

The command makes no call before it comes to the start of a snitch. From there on it ends the
connections of the client once, after all other calls, whatever happens: a snitch that does not
start ends them itself, and one that has started is closed once all is told or something fails.
A client that was given from outside is left alone by a start.
-/

namespace ClusterTopology

/-- Calls of which the last one ends the connections, and no other does. -/
def ClosesLast (calls : List Call) : Prop :=
  ∃ before, calls = before ++ [.close] ∧ .close ∉ before

theorem ClosesLast.append {first second : List Call} (stays : .close ∉ first)
    (closes : ClosesLast second) : ClosesLast (first ++ second) := by
  obtain ⟨before, rfl, unclosed⟩ := closes
  refine ⟨first ++ before, (List.append_assoc ..).symm, ?_⟩
  rw [List.mem_append, not_or]
  exact ⟨stays, unclosed⟩

namespace Event

/-- Any event but the end of the connections. -/
def KeepsOpen : Event → Prop
  | .call .close => False
  | _ => True

theorem coversLookups_keepsOpen : CoversLookups KeepsOpen :=
  ⟨fun _ _ => trivial, fun _ _ => trivial, fun _ _ => trivial, fun _ => trivial⟩

theorem close_notMem_calls {events : List Event} (stays : ∀ event ∈ events, event.KeepsOpen) :
    .close ∉ calls events := by
  intro found
  exact stays _ (mem_calls.1 found)

end Event

namespace Snitch

/-- What a node asks for in order to learn its label ends no connection. -/
theorem Learns.close_notMem {settings : Settings} {w : World} {calls : List Call}
    {learned : Except Failure (NodeAddress × Placement)}
    (learns : Learns settings w calls learned) :
    .close ∉ calls := by
  cases learns <;> simp

section Start

variable {settings : Settings} {client : Option MetadataClient} {membership : Option Membership}
  {store : Option Store} {w : World} {failure : Failure}

/-- A start that fails has made the calls of its resolver, and then ends its own connections. -/
theorem calls_start_of_error
    (fails : ((start settings client membership store).run w).result = .error failure) :
    ((start settings client membership store).run w).calls =
      ((startResolver settings (client.getD (clientOf settings)) membership store).run w).calls ++
        if client.isNone then [.close] else [] := by
  rw [start, Effect.run_attempt_bind] at fails ⊢
  rcases ends : ((startResolver settings (client.getD (clientOf settings)) membership store).run
    w).result with cause | resolver
  · rw [Outcome.calls_following]
    cases client with
    | none => rfl
    | some given => rfl
  · rw [ends] at fails
    cases fails

theorem close_notMem_startResolver (settings : Settings) (client : MetadataClient)
    (membership : Option Membership) (store : Option Store) (w : World) :
    .close ∉ ((startResolver settings client membership store).run w).calls := by
  have stays : (startResolver settings client membership store).Leaves Event.KeepsOpen :=
    leaves_startResolver (.of_all fun _ => trivial) trivial trivial ..
  exact Event.close_notMem_calls (stays.each w)

/-- A start that fails ends the connections of its own client, and no others. -/
theorem closes_of_start_error
    (fails : ((start settings client membership store).run w).result = .error failure) :
    (client = none → ClosesLast ((start settings client membership store).run w).calls) ∧
      (client ≠ none → .close ∉ ((start settings client membership store).run w).calls) := by
  have stays := close_notMem_startResolver settings (client.getD (clientOf settings)) membership
    store w
  rw [calls_start_of_error fails]
  constructor
  · intro own
    refine ⟨_, ?_, stays⟩
    rw [own]
    rfl
  · intro given
    rw [if_neg (by simpa using given), List.append_nil]
    exact stays

end Start

end Snitch

namespace Settings

theorem leaves_create (text : String) : (create text).Leaves Event.IsLocal := by
  have directories (path : Path) : (makeDirectories path).Leaves Event.IsLocal :=
    (Effect.leaves_ask _).bind fun _ => (Effect.leaves_lift ..).bind fun made =>
      Effect.leaves_forM (fun _ => Effect.leaves_emit trivial) made
  exact (directories _).bind fun _ => (Effect.leaves_ask _).bind fun _ =>
    (Effect.leaves_lift ..).bind fun _ => (Effect.leaves_emit trivial).bind fun _ =>
      Effect.leaves_report (fun _ => trivial) ..

end Settings

namespace CommandLine

theorem leaves_print {kind : Event → Prop} (fits : ∀ line, kind (.out line)) (line : String) :
    (print line).Leaves kind :=
  Effect.leaves_emit (fits _)

section Serve

theorem leaves_printLabels {kind : Event → Prop} (covers : Event.CoversLookups kind)
    (prints : ∀ line, kind (.out line)) (resolver : Resolver) (endpoints : List NodeAddress) :
    (printLabels resolver endpoints).Leaves kind := by
  induction endpoints with
  | nil => exact Session.leaves_pure _
  | cons node rest ih =>
    exact (Resolver.leaves_queryLabel_of_covers covers resolver node).bind fun _ =>
      (Session.leaves_lift (leaves_print prints _)).bind fun _ => ih

theorem leaves_validate (snitch : Snitch) (datacenters racks : List String) :
    (snitch.validate datacenters racks).Leaves Event.KeepsOpen := by
  refine ⟨fun w event found => ?_⟩
  have called := NameCheck.calls_validate snitch.client Metadata.endpointsUrl datacenters racks w
  cases event with
  | call made =>
    have request := Event.mem_calls.2 found
    rw [← Outcome.calls, Snitch.validate, called, List.mem_singleton] at request
    rw [request]
    trivial
  | _ => trivial

theorem leaves_verdict (snitch : Snitch) (args : Arguments) :
    (verdict snitch args).Leaves Event.KeepsOpen := by
  rw [verdict]
  split
  · refine (Effect.leaves_ofExcept _).bind fun datacenters =>
      (Effect.leaves_ofExcept _).bind fun racks => (leaves_validate ..).bind fun fits => ?_
    split
    · exact (leaves_print (fun _ => trivial) _).bind fun _ => Effect.leaves_pure _
    · exact (leaves_print (fun _ => trivial) _).bind fun _ => Effect.leaves_pure _
  · exact Effect.leaves_pure _

theorem leaves_serve (snitch : Snitch) (endpoints : List NodeAddress) (args : Arguments) :
    (serve snitch endpoints args).Leaves Event.KeepsOpen :=
  (Session.leaves_lift (leaves_print (fun _ => trivial) _)).bind fun _ =>
    (leaves_printLabels Event.coversLookups_keepsOpen (fun _ => trivial) ..).bind fun _ =>
      Session.leaves_lift (leaves_verdict snitch args)

/-- A snitch with a client of its own ends its connections after all that is asked of it, whether
that has failed or not. -/
theorem closesLast_serveAndClose {snitch : Snitch} (own : snitch.ownsClient = true)
    (endpoints : List NodeAddress) (args : Arguments) (w : World) :
    ClosesLast ((serveAndClose snitch endpoints args).run w).calls := by
  obtain ⟨result, later, events, served⟩ : ∃ result later events,
      (serve snitch endpoints args).run none w = ⟨.ok (result, later), events⟩ := by
    obtain ⟨labels, later, -, served, -⟩ | ⟨failure, later, served⟩ := run_serve snitch endpoints w
    · exact ⟨_, _, _, served args⟩
    · exact ⟨_, _, _, served args⟩
  have stays := (leaves_serve snitch endpoints args).run none w
  rw [served] at stays
  refine ⟨Event.calls events, ?_, Event.close_notMem_calls stays⟩
  rw [run_serveAndClose served, Outcome.calls_mk, Event.calls_append, closingEvents, if_pos own]
  rfl

end Serve

section OrRefuse

variable {α : Type} {first : Effect α} {expected : Failure → Bool} {tell : Failure → Effect Unit}
  {next : α → Effect Nat} {w : World}

theorem run_orRefuse_of_ok {a : α} (ends : (first.run w).result = .ok a) :
    (orRefuse first expected tell next).run w =
      ((next a).run (w.after (first.run w).events)).following (first.run w).events := by
  rw [orRefuse, Effect.run_attempt_bind, ends]

theorem run_orRefuse_ofExcept {a : α} :
    (orRefuse (Effect.ofExcept (.ok a)) expected tell next).run w = (next a).run w := by
  rw [run_orRefuse_of_ok rfl]
  rfl

theorem calls_orRefuse_of_error {failure : Failure} (ends : (first.run w).result = .error failure)
    (quiet : (tell failure).Leaves Event.IsLocal) :
    ((orRefuse first expected tell next).run w).calls = (first.run w).calls := by
  have silent : (if expected failure then do
      tell failure
      return 2
    else Effect.fail failure : Effect Nat).Leaves Event.IsLocal := by
    split
    · exact quiet.bind fun _ => Effect.leaves_pure _
    · exact Effect.leaves_fail _
  rw [orRefuse, Effect.run_attempt_bind, ends, Outcome.calls_following, Outcome.calls]
  simp only
  rw [Event.calls_of_local (silent.each _), List.append_nil]
  rfl

end OrRefuse

/-- Whatever becomes of a snitch that is started, its connections are ended once and last. -/
theorem closesLast_runSnitch (settings : Settings) (endpoints : List NodeAddress)
    (args : Arguments) (w : World) :
    ClosesLast ((runSnitch settings endpoints args).run w).calls := by
  obtain ⟨enabled, asked⟩ := settings.redisEnabled_eq_bool
  obtain ⟨calls, learned, learns, result, called⟩ := Snitch.run_ofSettings asked w
  have stays : .close ∉
      (if enabled then [Snitch.connectCall settings, .ping] else []) ++ calls := by
    rw [List.mem_append, not_or]
    refine ⟨?_, learns.close_notMem⟩
    cases enabled <;> simp [Snitch.connectCall]
  rw [runSnitch_eq]
  rcases learned with failure | own
  · rw [calls_orRefuse_of_error result (Effect.leaves_emit trivial), called]
    exact ⟨_, rfl, stays⟩
  · rw [Snitch.closing, List.append_nil] at called
    rw [run_orRefuse_of_ok result, Outcome.calls_following, ← Outcome.calls, called]
    exact .append stays (closesLast_serveAndClose rfl ..)

/-- Sets up the log that settings ask for. -/
def setUpLogOf (settings : Settings) : Effect Unit :=
  setUpLog ((settings.text? .logLevel).getD "INFO") (settings.text? .logFile)

/-- All that the command has read before it starts a snitch. -/
structure Prepared (words : List String) (w : World) (args : Arguments) (settings : Settings)
    (endpoints : List NodeAddress) : Prop where
  accepted : Arguments.parse words = .ok (some args)
  serves : args.createConfig.getD "" = ""
  loads : ((Settings.ofFile args.config).run w).result = .ok settings
  logs : ((setUpLogOf settings).run
    (w.after ((Settings.ofFile args.config).run w).events)).result = .ok ()
  named : nodes args.endpoints = .ok endpoints

/-- Whether the command comes to the start of a snitch. -/
def ReachesStart (words : List String) (w : World) : Prop :=
  ∃ args settings endpoints, Prepared words w args settings endpoints

theorem leaves_ofFile (text : Option String) : (Settings.ofFile text).Leaves Event.IsLocal :=
  (Settings.leaves_ofFile text).mono fun _ => Event.IsReport.isLocal

theorem leaves_setUpLogOf (settings : Settings) : (setUpLogOf settings).Leaves Event.IsLocal :=
  leaves_setUpLog (fun _ => trivial) ..

/-- What the command leaves behind while it reads its settings and sets up the log. -/
def readingEvents (config : Option String) (settings : Settings) (w : World) : List Event :=
  let loading := ((Settings.ofFile config).run w).events
  loading ++ ((setUpLogOf settings).run (w.after loading)).events

theorem isLocal_of_mem_readingEvents {config : Option String} {settings : Settings} {w : World} :
    ∀ event ∈ readingEvents config settings w, event.IsLocal :=
  List.forall_mem_append.2
    ⟨(leaves_ofFile config).each w, (leaves_setUpLogOf settings).each _⟩

theorem run_eq_of_prepared {words : List String} {w : World} {args : Arguments}
    {settings : Settings} {endpoints : List NodeAddress}
    (prepared : Prepared words w args settings endpoints) :
    (run words).run w =
      ((runSnitch settings endpoints args).run
        (w.after (readingEvents args.config settings w))).following
          (readingEvents args.config settings w) := by
  obtain ⟨accepted, serves, loads, logs, named⟩ := prepared
  have same : run words = runWith args := by rw [run, accepted]
  rw [same, runWith_eq serves, run_orRefuse_of_ok loads, runConfigured_eq, ← setUpLogOf, named,
    Effect.run_bind_of_ok logs, run_orRefuse_ofExcept, readingEvents, World.after_append]
  simp [Outcome.following]

/-- Once all is read that it takes, the command goes on with the snitch. -/
theorem run_of_prepared {words : List String} {w : World} {args : Arguments} {settings : Settings}
    {endpoints : List NodeAddress} (prepared : Prepared words w args settings endpoints) :
    ∃ before, (∀ event ∈ before, event.IsLocal) ∧
      (run words).run w =
        ((runSnitch settings endpoints args).run (w.after before)).following before :=
  ⟨_, isLocal_of_mem_readingEvents, run_eq_of_prepared prepared⟩

theorem leaves_runWith_of_create {args : Arguments} (creates : args.createConfig.getD "" ≠ "") :
    (runWith args).Leaves Event.IsLocal := by
  unfold runWith
  split
  case h_1 given =>
    rw [given] at creates
    exact absurd rfl creates
  case h_2 given =>
    rw [given] at creates
    exact absurd rfl creates
  case h_3 path _ _ =>
    exact (Settings.leaves_create path).bind fun _ =>
      (leaves_print (fun _ => trivial) _).bind fun _ => Effect.leaves_pure 0

/-- A command that is refused or fails before it comes to the start makes no call. -/
theorem calls_runWith_of_stops {args : Arguments} {w : World}
    (serves : args.createConfig.getD "" = "")
    (stops : ∀ settings endpoints,
      ((Settings.ofFile args.config).run w).result = .ok settings →
      ((setUpLogOf settings).run
        (w.after ((Settings.ofFile args.config).run w).events)).result = .ok () →
      nodes args.endpoints ≠ .ok endpoints) :
    ((runWith args).run w).calls = [] := by
  have loading := Event.calls_of_local ((leaves_ofFile args.config).each w)
  rw [runWith_eq serves]
  rcases loads : ((Settings.ofFile args.config).run w).result with failure | settings
  · rw [calls_orRefuse_of_error loads (Effect.leaves_emit trivial)]
    exact loading
  have logging := Event.calls_of_local ((leaves_setUpLogOf settings).each
    (w.after ((Settings.ofFile args.config).run w).events))
  rw [run_orRefuse_of_ok loads, Outcome.calls_following, loading, runConfigured_eq, ← setUpLogOf]
  rcases logs : ((setUpLogOf settings).run
      (w.after ((Settings.ofFile args.config).run w).events)).result with failure | _
  · rw [Effect.run_bind_of_error logs]
    exact logging
  rw [Effect.run_bind_of_ok logs, Outcome.calls_mk, Event.calls_append, logging]
  rcases named : nodes args.endpoints with failure | endpoints
  · exact calls_orRefuse_of_error rfl (Effect.leaves_emit trivial)
  · exact absurd named (stops settings endpoints loads logs)

/-- Until it comes to the start the command makes no call. -/
theorem calls_of_not_reachesStart {words : List String} {w : World}
    (stops : ¬ ReachesStart words w) : ((run words).run w).calls = [] := by
  rcases parsed : Arguments.parse words with error | _ | args
  · have refuses : (run words).Leaves Event.IsLocal := by
      rw [run, parsed]
      exact (Effect.leaves_emit trivial).bind fun _ => Effect.leaves_pure _
    exact Event.calls_of_local (refuses.each w)
  · have explains : (run words).Leaves Event.IsLocal := by
      rw [run, parsed]
      exact (leaves_print (fun _ => trivial) _).bind fun _ => Effect.leaves_pure _
    exact Event.calls_of_local (explains.each w)
  · have same : run words = runWith args := by rw [run, parsed]
    rw [same]
    by_cases serves : args.createConfig.getD "" = ""
    · refine calls_runWith_of_stops serves fun settings endpoints loads logs named => ?_
      exact stops ⟨args, settings, endpoints, parsed, serves, loads, logs, named⟩
    · exact Event.calls_of_local ((leaves_runWith_of_create serves).each w)

/-- A command that comes to the start of a snitch ends the connections once and after all other
calls, whether it ends with a code or fails; one that does not come to it makes no call. A start
that fails does the same, unless its client was given from outside, which it leaves alone. -/
theorem closed_once_and_last :
    (∀ words w,
      (∀ args settings endpoints, Prepared words w args settings endpoints →
        ∃ before, Event.calls before = [] ∧ (run words).run w =
          ((runSnitch settings endpoints args).run (w.after before)).following before) ∧
      (ReachesStart words w → ClosesLast ((run words).run w).calls) ∧
      (¬ ReachesStart words w → ((run words).run w).calls = [])) ∧
    ∀ settings client membership store w failure,
      ((Snitch.start settings client membership store).run w).result = .error failure →
      (client = none →
        ClosesLast ((Snitch.start settings client membership store).run w).calls) ∧
      (client ≠ none →
        .close ∉ ((Snitch.start settings client membership store).run w).calls) := by
  refine ⟨fun words w => ⟨?_, ?_, calls_of_not_reachesStart⟩, ?_⟩
  · intro args settings endpoints prepared
    obtain ⟨before, inside, same⟩ := run_of_prepared prepared
    exact ⟨before, Event.calls_of_local inside, same⟩
  · rintro ⟨args, settings, endpoints, prepared⟩
    obtain ⟨before, inside, same⟩ := run_of_prepared prepared
    rw [same, Outcome.calls_following, Event.calls_of_local inside]
    exact closesLast_runSnitch ..
  · intro settings client membership store w failure fails
    exact Snitch.closes_of_start_error fails

/-- A value that is no text makes the command fail at the first of two nodes, a node that cannot
be read keeps it from the start, and without a region a snitch does not start. -/
theorem closed_after_garbled_node :
    let w : World := {
      http := fun url => if url = Metadata.regionUrl ∨ url = Metadata.zoneUrl
        then .answer 200 [49] else .unreachable "gone"
      redis := ⟨[("racksentry:gossip:10.0.0.2:7000", [(.text "rack", .bytes [0xff])])], none, none⟩
      files := Files.empty
      log := none
      time := "" }
    let words := ["--endpoint", "10.0.0.2", "--endpoint", "10.0.0.3"]
    let refused := ["--endpoint", "10.0.0.2:x"]
    let away : World := { w with http := fun _ => .unreachable "gone" }
    let client := MetadataClient.default
    let failure : Failure := .metadata (.unreachable Metadata.regionUrl "gone")
    ReachesStart words w ∧ ((run words).run w).result.toOption = none ∧
    ClosesLast ((run words).run w).calls ∧
    ¬ ReachesStart refused w ∧ ((run refused).run w).calls = [] ∧
    ((Snitch.start .default none none none).run away).result = .error failure ∧
    ClosesLast ((Snitch.start .default none none none).run away).calls ∧
    ((Snitch.start .default (some client) none none).run away).result = .error failure ∧
    .close ∉ ((Snitch.start .default (some client) none none).run away).calls := by
  intro w words refused away client failure
  have reaches : ReachesStart words w := by
    refine ⟨⟨none, none, [.text "10.0.0.2", .text "10.0.0.3"], false, none, none⟩, .default,
      [⟨"10.0.0.2", 7000⟩, ⟨"10.0.0.3", 7000⟩], rfl, rfl, rfl, rfl, rfl⟩
  have fails : ((run words).run w).result.toOption = none := by decide +kernel
  have misread : ¬ ReachesStart refused w := by
    rintro ⟨args, settings, endpoints, accepted, -, -, -, named⟩
    cases accepted
    cases named
  have own : ((Snitch.start .default none none none).run away).result = .error failure := rfl
  have given : ((Snitch.start .default (some client) none none).run away).result =
    .error failure := rfl
  have command := closed_once_and_last.1
  have start := closed_once_and_last.2
  exact ⟨reaches, fails, (command words w).2.1 reaches, misread, (command refused w).2.2 misread,
    own, (start _ _ _ _ _ _ own).1 rfl, given, (start _ _ _ _ _ _ given).2 (by simp)⟩

end CommandLine

end ClusterTopology
