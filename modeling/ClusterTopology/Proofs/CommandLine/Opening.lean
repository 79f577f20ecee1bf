import ClusterTopology.CommandLine
import ClusterTopology.Proofs.Snitch.Start
import Mathlib.Data.List.Forall2

/-!
# Before the command tells anything

The command reads its settings, sets up the log, reads the nodes that it is asked for, and starts a
snitch. If one of these is refused in a way that the command knows, it ends with 2, and nothing
was printed or looked up until then. Any other failure leaves the command. Only when all of them
have succeeded does the command tell something.
-/

namespace ClusterTopology

namespace Settings

section Reports

variable {kind : Event → Prop} (reports : Event.CoversReports kind)
include reports

theorem leaves_loadExisting (path : Path) : (loadExisting path).Leaves kind := by
  unfold loadExisting
  refine (Effect.leaves_ask _).bind fun files => ?_
  split
  · split
    · exact (Effect.leaves_emit (reports _ (by decide) ..)).bind fun _ => Effect.leaves_pure _
    · exact Effect.leaves_fail _
  · exact (Effect.leaves_lift ..).bind fun _ =>
      (Effect.leaves_emit (reports _ (by decide) ..)).bind fun _ => Effect.leaves_pure _

theorem leaves_load (text : Option String) : (load text).Leaves kind := by
  -- The equations of `load` are costly to state, because one of its cases is a literal.
  unfold load
  split
  · exact (Effect.leaves_emit (reports _ (by decide) ..)).bind fun _ => Effect.leaves_pure _
  · exact (Effect.leaves_emit (reports _ (by decide) ..)).bind fun _ => Effect.leaves_pure _
  · refine (Effect.leaves_ask _).bind fun files => (Effect.leaves_lift ..).bind fun present => ?_
    split
    · exact leaves_loadExisting reports _
    · exact (Effect.leaves_emit (reports _ (by decide) ..)).bind fun _ => Effect.leaves_pure _

theorem leaves_ofFile_of_reports (text : Option String) : (ofFile text).Leaves kind :=
  (leaves_load reports text).bind fun _ => Effect.leaves_lift ..

end Reports

theorem leaves_ofFile (text : Option String) : (ofFile text).Leaves Event.IsReport :=
  leaves_ofFile_of_reports (.of_all fun _ => trivial) text

end Settings

namespace CommandLine

theorem leaves_logFile {kind : Event → Prop} (file : Option String) :
    (logFile file).Leaves kind := by
  unfold logFile
  split
  · exact Effect.leaves_pure _
  · exact Effect.leaves_pure _
  · exact (Effect.leaves_ask _).bind fun _ => (Effect.leaves_lift ..).bind fun _ =>
      Effect.leaves_pure _

theorem leaves_setUpLog {kind : Event → Prop} (fits : ∀ setup, kind (.logSetup setup))
    (level : String) (file : Option String) : (setUpLog level file).Leaves kind := by
  have last : (do if Threshold.capitals level = stylesConstant then
      Effect.fail (.notLevel stylesText) : Effect Unit).Leaves kind := by
    split
    · exact Effect.leaves_fail _
    · exact Effect.leaves_pure _
  refine (leaves_logFile file).bind fun names => (Effect.leaves_emit (fits _)).bind fun _ => ?_
  dsimp only
  split
  · exact (Effect.leaves_fail _).bind fun _ => last
  · exact last

/-- A value that names a node. -/
def NamesNode (value : OptionValue) (node : NodeAddress) : Prop :=
  ∃ s, value = .text s ∧ NodeAddress.parse s = .ok node

/-- The node that one value names. -/
def node? (value : OptionValue) : Except Failure NodeAddress :=
  match value with
  | .text s => (NodeAddress.parse s).mapError .address
  | .nothing => .error (withoutText "strip")

theorem nodes_cons (value : OptionValue) (values : List OptionValue) :
    nodes (value :: values) =
      (node? value).bind fun node => (nodes values).map fun others => node :: others := by
  rw [nodes, List.mapM_cons]
  rfl

theorem node?_eq_ok {value : OptionValue} {node : NodeAddress} :
    node? value = .ok node ↔ NamesNode value node := by
  cases value with
  | nothing => simp [node?, NamesNode]
  | text s => cases parsed : NodeAddress.parse s <;> simp [node?, NamesNode, parsed]

theorem node?_eq_address {value : OptionValue} {error : AddressError} :
    node? value = .error (.address error) ↔
      ∃ s, value = .text s ∧ NodeAddress.parse s = .error error := by
  cases value with
  | nothing => simp [node?, withoutText]
  | text s => cases parsed : NodeAddress.parse s <;> simp [node?, parsed]

/-- Values name nodes exactly if each of them does. -/
theorem nodes_eq_ok {values : List OptionValue} {endpoints : List NodeAddress} :
    nodes values = .ok endpoints ↔ List.Forall₂ NamesNode values endpoints := by
  induction values generalizing endpoints with
  | nil =>
    rw [List.forall₂_nil_left_iff]
    exact ⟨fun same => (Except.ok.inj same).symm, fun same => same ▸ rfl⟩
  | cons value values ih =>
    rw [nodes_cons, List.forall₂_cons_left_iff]
    simp only [← node?_eq_ok, ← ih]
    rcases node? value with failure | node
    · simp [Except.bind]
    · rcases nodes values with failure | others
      · simp [Except.bind, Except.map]
      · simp [Except.bind, Except.map, eq_comm]

theorem exists_of_namesNode {values : List OptionValue} {endpoints : List NodeAddress} {s : String}
    (named : List.Forall₂ NamesNode values endpoints) (given : .text s ∈ values) :
    ∃ node, NodeAddress.parse s = .ok node := by
  induction named with
  | nil => cases given
  | @cons value node values others first _ ih =>
    rcases List.mem_cons.1 given with rfl | later
    · obtain ⟨t, same, parses⟩ := first
      cases same
      exact ⟨node, parses⟩
    · exact ih later

/-- Values are refused as addresses only for a text that is none. -/
theorem exists_of_nodes_eq_address {values : List OptionValue} {error : AddressError}
    (refused : nodes values = .error (.address error)) :
    ∃ s, .text s ∈ values ∧ NodeAddress.parse s = .error error := by
  induction values with
  | nil => cases refused
  | cons value values ih =>
    rw [nodes_cons] at refused
    rcases named : node? value with failure | node
    · rw [named] at refused
      cases refused
      obtain ⟨s, rfl, fails⟩ := node?_eq_address.1 named
      exact ⟨s, .head _, fails⟩
    · rw [named] at refused
      rcases others : nodes values with failure | nodes
      · rw [others] at refused
        cases refused
        obtain ⟨s, found, fails⟩ := ih others
        exact ⟨s, .tail _ found, fails⟩
      · rw [others] at refused
        cases refused

/-- All that comes before the command tells anything. -/
def opening (args : Arguments) : Effect (Snitch × List NodeAddress) := do
  let settings ← Settings.ofFile args.config
  setUpLog ((settings.text? .logLevel).getD "INFO") (settings.text? .logFile)
  let endpoints ← Effect.ofExcept (nodes args.endpoints)
  let snitch ← Snitch.ofSettings settings
  return (snitch, endpoints)

theorem leaves_opening (args : Arguments) : (opening args).Leaves Event.IsPreliminary := by
  have loads := (Settings.leaves_ofFile args.config).mono fun _ => Event.IsReport.isPreliminary
  have logs (level : String) (file : Option String) :
      (setUpLog level file).Leaves Event.IsPreliminary :=
    leaves_setUpLog (fun _ => trivial) level file
  exact loads.bind fun _ => (logs ..).bind fun _ => (Effect.leaves_ofExcept _).bind
    fun _ => (Snitch.leaves_ofSettings _).bind fun _ => Effect.leaves_pure _

/-- Why the command ends with 2 before it tells anything. -/
inductive Refused (args : Arguments) (w : World) : Prop where
  | settings {failure : Failure}
    (fails : ((Settings.ofFile args.config).run w).result = .error failure)
    (own : failure.isOwn = true)
  | endpoint {s : String} {error : AddressError} (asked : .text s ∈ args.endpoints)
    (fails : NodeAddress.parse s = .error error)
  | address {settings : Settings} {error : AddressError}
    (loads : ((Settings.ofFile args.config).run w).result = .ok settings)
    (fails : NodeAddress.parse (Snitch.addressText settings) = .error error)
  | region {failure : Failure}
    (fails : MetadataClient.textOf Metadata.regionUrl (w.http Metadata.regionUrl) =
      .error failure)
    (known : (failure.isOwn || failure.isBadValue) = true)
  | zone {failure : Failure}
    (fails : MetadataClient.textOf Metadata.zoneUrl (w.http Metadata.zoneUrl) = .error failure)
    (known : (failure.isOwn || failure.isBadValue) = true)

/-- Goes on with what an effect gives. If it fails in an expected way, that is told, and is the
end with 2; any other failure is passed on. -/
def orRefuse {α : Type} (first : Effect α) (expected : Failure → Bool)
    (tell : Failure → Effect Unit) (next : α → Effect Nat) : Effect Nat := do
  match ← first.attempt with
  | .ok a => next a
  | .error failure =>
    if expected failure then
      tell failure
      return 2
    else Effect.fail failure

/-- The ways in which the command goes from a moment on, where `opens` is what is still to be
opened: it refuses, it fails, or it serves what it has opened. -/
inductive Way (args : Arguments) (refused : Prop) (opens : Effect (Snitch × List NodeAddress))
    (w : World) (outcome : Outcome Nat) : Prop where
  | refuses (because : refused) (ends : outcome.result = .ok 2)
    (quiet : ∀ event ∈ outcome.events, event.IsPreliminary)
  | breaks {failure : Failure} (ends : outcome.result = .error failure)
  | serves {snitch : Snitch} {endpoints : List NodeAddress}
    (opened : (opens.run w).result = .ok (snitch, endpoints))
    (is : outcome = ((serveAndClose snitch endpoints args).run
      (w.after (opens.run w).events)).following (opens.run w).events)

namespace Way

variable {α : Type} {args : Arguments} {refused : Prop} {first : Effect α}
  {opens : α → Effect (Snitch × List NodeAddress)} {w : World} {outcome : Outcome Nat}

/-- A way that is taken after something else is a way from there on. -/
theorem after {a : α} (quiet : first.Leaves Event.IsPreliminary)
    (ends : (first.run w).result = .ok a)
    (way : Way args refused (opens a) (w.after (first.run w).events) outcome) :
    Way args refused (first >>= opens) w (outcome.following (first.run w).events) := by
  cases way with
  | refuses because stops later =>
    exact .refuses because stops (List.forall_mem_append.2 ⟨quiet.each w, later⟩)
  | breaks breaks => exact .breaks breaks
  | serves opened is =>
    refine .serves ((congrArg Outcome.result (Effect.run_bind_of_ok ends)).trans opened) ?_
    rw [is, Effect.run_bind_of_ok ends, World.after_append]
    simp [Outcome.following, List.append_assoc]

/-- A failure of what comes first is an end with 2 if it is expected, and else leaves the
command. -/
theorem orRefuse {expected : Failure → Bool} {tell : Failure → Effect Unit}
    {next : α → Effect Nat} (quiet : first.Leaves Event.IsPreliminary)
    (tells : ∀ failure w, ((tell failure).run w).result = .ok ())
    (quietly : ∀ failure, (tell failure).Leaves Event.IsPreliminary)
    (refuses : ∀ failure, (first.run w).result = .error failure → expected failure = true →
      refused)
    (goes : ∀ a, (first.run w).result = .ok a → Way args refused (opens a)
      (w.after (first.run w).events) ((next a).run (w.after (first.run w).events))) :
    Way args refused (first >>= opens) w ((orRefuse first expected tell next).run w) := by
  have run := Effect.run_attempt_bind first (fun ended => match ended with
    | .ok a => next a
    | .error failure =>
      if expected failure then (do tell failure; return 2) else Effect.fail failure) w
  change (CommandLine.orRefuse first expected tell next).run w = _ at run
  rw [run]
  rcases ends : (first.run w).result with failure | a
  · by_cases known : expected failure = true
    · simp only [known, if_true, Effect.run_bind_of_ok (tells failure _), Effect.run_pure,
        List.append_nil]
      exact .refuses (refuses failure ends known) rfl
        (List.forall_mem_append.2 ⟨quiet.each w, (quietly failure).each _⟩)
    · simp only [known]
      exact .breaks rfl
  · exact after quiet ends (goes a ends)

end Way

/-- Whether a failure is that of an address. -/
def isAddress : Failure → Bool
  | .address _ => true
  | _ => false

/-- What is told about a failure on the error stream. -/
def complainOf (failure : Failure) : Effect Unit :=
  complain ("Error: " ++ failure.message)

/-- What is told about a failure of a start. -/
def reportStart (failure : Failure) : Effect Unit :=
  Effect.report "AzureSnitch" .error
    ("Unable to determine local topology: " ++ failure.message)

theorem leaves_complainOf (failure : Failure) :
    (complainOf failure).Leaves Event.IsPreliminary := Effect.leaves_emit trivial

theorem leaves_reportStart (failure : Failure) :
    (reportStart failure).Leaves Event.IsPreliminary := Effect.leaves_emit trivial

theorem runWith_eq {args : Arguments} (serves : args.createConfig.getD "" = "") :
    runWith args = orRefuse (Settings.ofFile args.config) Failure.isOwn complainOf
      fun settings => runConfigured settings args := by
  unfold runWith orRefuse
  rcases given : args.createConfig with _ | path
  · refine congrArg (Bind.bind _) (funext fun ended => ?_)
    cases ended <;> rfl
  · have empty : path = "" := by simpa [given] using serves
    rw [empty]
    refine congrArg (Bind.bind _) (funext fun ended => ?_)
    cases ended <;> rfl

theorem runSnitch_eq (settings : Settings) (endpoints : List NodeAddress) (args : Arguments) :
    runSnitch settings endpoints args = orRefuse (Snitch.ofSettings settings)
      (fun failure => failure.isOwn || failure.isBadValue) reportStart
      fun snitch => serveAndClose snitch endpoints args := by
  unfold runSnitch orRefuse
  refine congrArg (Bind.bind _) (funext fun ended => ?_)
  cases ended <;> rfl

theorem runConfigured_eq (settings : Settings) (args : Arguments) :
    runConfigured settings args = (do
      setUpLog ((settings.text? .logLevel).getD "INFO") (settings.text? .logFile)
      orRefuse (Effect.ofExcept (nodes args.endpoints)) isAddress complainOf
        fun endpoints => runSnitch settings endpoints args) := by
  unfold runConfigured
  congr 1
  funext _
  rcases nodes args.endpoints with failure | endpoints
  · cases failure <;> rfl
  · rfl

/-- A snitch that does not start in a way that the command knows makes it refuse. -/
theorem Refused.of_start {args : Arguments} {w later : World} {settings : Settings}
    {failure : Failure} (loads : ((Settings.ofFile args.config).run w).result = .ok settings)
    (same : later.http = w.http)
    (fails : ((Snitch.ofSettings settings).run later).result = .error failure)
    (known : (failure.isOwn || failure.isBadValue) = true) : Refused args w := by
  obtain ⟨enabled, asked⟩ := settings.redisEnabled_eq_bool
  obtain ⟨calls, learned, learns, result, -⟩ := Snitch.run_ofSettings asked later
  rw [result] at fails
  cases learns.congr same with
  | noAddress refused => exact .address loads refused
  | noRegion _ missing =>
    cases fails
    exact .region missing known
  | noZone _ _ missing =>
    cases fails
    exact .zone missing known
  | label => cases fails

/-- What has been read and learned once all is opened: each value names the node in its place, and
the own address and label are those that settings and services tell. -/
structure Opened (args : Arguments) (w : World) (snitch : Snitch) (endpoints : List NodeAddress) :
    Prop where
  named : List.Forall₂ NamesNode args.endpoints endpoints
  own : ∃ settings region zone, ((Settings.ofFile args.config).run w).result = .ok settings ∧
    NodeAddress.parse (Snitch.addressText settings) = .ok snitch.resolver.localAddress ∧
    MetadataClient.textOf Metadata.regionUrl (w.http Metadata.regionUrl) = .ok region ∧
    MetadataClient.textOf Metadata.zoneUrl (w.http Metadata.zoneUrl) = .ok zone ∧
    snitch.resolver.label = ⟨region ++ Snitch.suffixOf settings, zone⟩

theorem opened_of_opening {args : Arguments} {w : World} {snitch : Snitch}
    {endpoints : List NodeAddress}
    (opens : ((opening args).run w).result = .ok (snitch, endpoints)) :
    Opened args w snitch endpoints := by
  obtain ⟨settings, loads, opens⟩ := Effect.result_bind_eq_ok.1 opens
  obtain ⟨-, -, opens⟩ := Effect.result_bind_eq_ok.1 opens
  obtain ⟨nodes, named, opens⟩ := Effect.result_bind_eq_ok.1 opens
  obtain ⟨made, started, same⟩ := Effect.result_bind_eq_ok.1 opens
  cases same
  refine ⟨nodes_eq_ok.1 named, settings, ?_⟩
  obtain ⟨enabled, asked⟩ := settings.redisEnabled_eq_bool
  obtain ⟨calls, learned, learns, result, -⟩ := Snitch.run_ofSettings asked _
  rw [result] at started
  have learns : Snitch.Learns settings w calls learned := learns.congr (by simp)
  -- Only a label that was learned gives a snitch.
  cases learns with
  | noAddress => cases started
  | noRegion => cases started
  | noZone => cases started
  | label parsed found known =>
    cases started
    exact ⟨_, _, loads, parsed, found, known, rfl⟩

theorem Opened.not_refused {args : Arguments} {w : World} {snitch : Snitch}
    {endpoints : List NodeAddress} (opened : Opened args w snitch endpoints) :
    ¬ Refused args w := by
  obtain ⟨named, settings, region, zone, loads, parsed, found, known, -⟩ := opened
  rintro (⟨fails, -⟩ | ⟨given, fails⟩ | ⟨loadsToo, fails⟩ | ⟨fails, -⟩ | ⟨fails, -⟩)
  · rw [loads] at fails
    cases fails
  · obtain ⟨node, parses⟩ := exists_of_namesNode named given
    rw [parses] at fails
    cases fails
  · rw [loads] at loadsToo
    cases loadsToo
    rw [parsed] at fails
    cases fails
  · rw [found] at fails
    cases fails
  · rw [known] at fails
    cases fails

/-- The command goes one of these ways, whatever it is asked for. -/
theorem way_runWith {args : Arguments} (serves : args.createConfig = none) (w : World) :
    Way args (Refused args w) (opening args) w ((runWith args).run w) := by
  rw [runWith_eq (by rw [serves]; rfl)]
  have loading := (Settings.leaves_ofFile args.config).mono fun _ => Event.IsReport.isPreliminary
  refine Way.orRefuse loading (fun _ _ => rfl) leaves_complainOf
    (fun failure fails own => .settings fails own) fun settings loads => ?_
  have services := w.http_after ((Settings.ofFile args.config).run w).events
  generalize w.after ((Settings.ofFile args.config).run w).events = set at services ⊢
  rw [runConfigured_eq]
  have logging : (setUpLog ((settings.text? .logLevel).getD "INFO")
      (settings.text? .logFile)).Leaves Event.IsPreliminary :=
    leaves_setUpLog (fun _ => trivial) ..
  -- A log that cannot be set up is no way to refuse.
  rcases logs : ((setUpLog ((settings.text? .logLevel).getD "INFO") (settings.text? .logFile)).run
    set).result with failure | _
  · rw [Effect.run_bind_of_error logs]
    exact .breaks rfl
  rw [Effect.run_bind_of_ok logs]
  refine Way.after logging logs (Way.orRefuse (Effect.leaves_ofExcept _) (fun _ _ => rfl)
    leaves_complainOf (fun failure fails known => ?_) fun endpoints named => ?_)
  · cases failure with
    | address error =>
      obtain ⟨s, given, rejected⟩ := exists_of_nodes_eq_address fails
      exact .endpoint given rejected
    | _ => cases known
  · rw [runSnitch_eq]
    refine Way.orRefuse (Snitch.leaves_ofSettings settings) (fun _ _ => rfl) leaves_reportStart
      (fun failure fails known => .of_start loads ?_ fails known)
      fun snitch started => .serves rfl rfl
    rw [World.http_after, World.http_after, services]

end CommandLine

end ClusterTopology
