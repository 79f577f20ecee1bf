import ClusterTopology.Proofs.CommandLine.Opening
import ClusterTopology.Proofs.NameCheck.Validation
import ClusterTopology.Proofs.Resolver.Calls
import ClusterTopology.Proofs.Resolver.Course

/-!
# What the command reports

The command tells nothing until everything that it needs is there. Then it prints one line for the
own node, one for each node that it is asked for, in their order, and, if names are to be
checked, one for the verdict. The label of each node is what the snitch answers in the state that
the questions before it leave behind. The code that the command ends with tells the verdict too.
-/

namespace ClusterTopology

namespace Course

/-- The labels that a snitch gives to nodes one after the other. -/
inductive Labels : Course → List NodeAddress → List Placement → Prop where
  | nil {c : Course} : Labels c [] []
  | cons {c : Course} {node : NodeAddress} {nodes : List NodeAddress} {label : Placement}
    {labels : List Placement}
    (told : Session.ended ((c.snitch.resolver.queryLabel node).run c.saved c.world) = .ok label)
    (others : Labels (c.step (.queryLabel node)) nodes labels) :
    Labels c (node :: nodes) (label :: labels)

theorem queryLabel_ends (c : Course) (node : NodeAddress) :
    ∃ ended later, ((c.snitch.resolver.queryLabel node).run c.saved c.world).result =
      .ok (ended, later) := by
  obtain ⟨failure | datacenter, kept, first⟩ := (c.question .datacenter node).ask_ends c.saved
  · exact ⟨_, _, by rw [run_queryLabel_of_failed first]⟩
  · obtain ⟨ended, last, second⟩ :=
      ((c.query .datacenter node).question .rack node).ask_ends (c.query .datacenter node).saved
    exact ⟨_, _, by rw [run_queryLabel_of_answered first second]⟩

end Course

namespace CommandLine

/-- A line with its end. -/
def terminated (line : String) : String := line ++ "\n"

/-- The lines about nodes, each with its label. -/
def labelLines (endpoints : List NodeAddress) (labels : List Placement) : List String :=
  List.zipWith (fun node label => labelLine node.toText label) endpoints labels

/-- After a label is printed, the rest is printed in the course that the query leaves behind. -/
theorem run_printLabels_cons {c : Course} {node : NodeAddress} {label : Placement}
    {kept : SavedPlacements} (rest : List NodeAddress)
    (ends : ((c.snitch.resolver.queryLabel node).run c.saved c.world).result =
      .ok (.ok label, kept)) :
    (printLabels c.snitch.resolver (node :: rest)).run c.saved c.world =
      ((printLabels (c.step (.queryLabel node)).snitch.resolver rest).run
        (c.step (.queryLabel node)).saved (c.step (.queryLabel node)).world).following
          (((c.snitch.resolver.queryLabel node).run c.saved c.world).events ++
            [.out (terminated (labelLine node.toText label))]) := by
  have saves : (c.step (.queryLabel node)).saved = kept := Session.kept_of_ok ends
  rw [printLabels, Session.run_bind_of_ok ends, Session.run_lift_bind_of_ok rfl, saves]
  -- A printed line leaves the world as it is.
  simp only [Outcome.following, List.append_assoc]
  rfl

/-- Printing labels tells the label of each node, up to the first one that fails. -/
theorem run_printLabels (c : Course) (endpoints : List NodeAddress) :
    (∃ labels later events, c.Labels endpoints labels ∧
      (printLabels c.snitch.resolver endpoints).run c.saved c.world =
        ⟨.ok (.ok (), later), events⟩ ∧
      Event.printed events = String.join ((labelLines endpoints labels).map terminated)) ∨
    ∃ failure later events, (printLabels c.snitch.resolver endpoints).run c.saved c.world =
      ⟨.ok (.error failure, later), events⟩ := by
  induction endpoints generalizing c with
  | nil => exact .inl ⟨[], c.saved, [], .nil, rfl, rfl⟩
  | cons node rest ih =>
    obtain ⟨failure | label, kept, ends⟩ := c.queryLabel_ends node
    · right
      rw [printLabels, Session.run_bind_of_error ends]
      exact ⟨_, _, _, rfl⟩
    rw [run_printLabels_cons rest ends]
    have quiet := Event.printed_of_lookups
      ((Resolver.leaves_queryLabel c.snitch.resolver node).run c.saved c.world)
    obtain ⟨labels, later, events, tells, run, printed⟩ | ⟨failure, later, events, run⟩ :=
      ih (c.step (.queryLabel node))
    · refine .inl ⟨label :: labels, later, _, .cons (Session.ended_of_ok ends) tells,
        by rw [run]; rfl, ?_⟩
      rw [Event.printed_append, Event.printed_append, quiet, printed, Event.printed_out,
        String.empty_append, labelLines, labelLines, List.zipWith_cons_cons, List.map_cons,
        String.join_cons]
    · exact .inr ⟨failure, later, _, by rw [run]; rfl⟩

/-- A name on the list that an option gives, between commas, without the blanks around it. -/
def Listed (option : Option OptionValue) (name : String) : Prop :=
  ∃ list, option = some (.text list) ∧
    ∃ piece ∈ Text.splitAt ',' list.toList, name = String.ofList (Text.trim piece)

theorem mem_names {option : Option OptionValue} {list : List String}
    (given : names option = .ok list) {name : String} : name ∈ list ↔ Listed option name := by
  rcases option with _ | _ | text
  · cases given
    simp [Listed]
  · cases given
    simp [Listed, List.mem_eraseDups, eq_comm]
  · cases given

/-- Whether a name that is listed does not fit. -/
def Misfit (args : Arguments) (locations : Locations) : Prop :=
  ∃ name, Listed args.datacenters name ∧ NameCheck.isDatacenter locations name = false ∨
    Listed args.racks name ∧ NameCheck.isRack name = false

/-- Whether a code is the one for the names that are checked, if they are: 1 if one of them does
not fit, and else 0. -/
def Judges (args : Arguments) (locations : Locations) (code : Nat) : Prop :=
  (args.validate = true ∧ Misfit args locations) ∧ code = 1 ∨
    ¬ (args.validate = true ∧ Misfit args locations) ∧ code = 0

/-- The line about the names, if they are to be checked. -/
def verdictLines (args : Arguments) (code : Nat) : List String :=
  if args.validate then
    [if code = 0 then "Topology names are valid" else "Topology names are not valid for Azure"]
  else []

theorem misfit_iff {args : Arguments} {locations : Locations} {datacenters racks : List String}
    (named : names args.datacenters = .ok datacenters) (listed : names args.racks = .ok racks) :
    Misfit args locations ↔
      (datacenters.all (NameCheck.isDatacenter locations) && racks.all NameCheck.isRack) =
        false := by
  simp only [Misfit, ← mem_names named, ← mem_names listed, Bool.and_eq_false_iff,
    List.all_eq_false, exists_or, Bool.not_eq_true]

/-- The line that tells a verdict. -/
def verdictLine (fits : Bool) : String :=
  if fits then "Topology names are valid" else "Topology names are not valid for Azure"

/-- The code that tells a verdict. -/
def verdictCode (fits : Bool) : Nat := if fits then 0 else 1

theorem verdictCode_eq_zero {fits : Bool} : verdictCode fits = 0 ↔ fits = true := by
  cases fits <;> decide

theorem verdictCode_eq_one {fits : Bool} : verdictCode fits = 1 ↔ fits = false := by
  cases fits <;> decide

/-- Names to be checked are those that are listed, if the lists can be read. -/
theorem run_verdict_of_validated {snitch : Snitch} {args : Arguments} {w : World}
    {datacenters racks : List String} {fits : Bool} {events : List Event}
    (asked : args.validate = true) (named : names args.datacenters = .ok datacenters)
    (listed : names args.racks = .ok racks)
    (checks : (snitch.validate datacenters racks).run w = ⟨.ok fits, events⟩) :
    (verdict snitch args).run w =
      ⟨.ok (verdictCode fits), events ++ [.out (terminated (verdictLine fits))]⟩ := by
  rw [verdict, if_pos asked, named, listed, Effect.run_bind_of_ok rfl, Effect.run_bind_of_ok rfl]
  simp only [Effect.run_ofExcept, World.after_nil, List.nil_append]
  rw [Effect.run_bind_of_ok (congrArg Outcome.result checks), checks]
  cases fits with
  | false => rfl
  | true => rfl

theorem run_verdict {snitch : Snitch} {args : Arguments} {w : World} {locations : Locations}
    {datacenters racks : List String} (asked : args.validate = true)
    (named : names args.datacenters = .ok datacenters) (listed : names args.racks = .ok racks)
    (inForce : NameCheck.InForce (w.http Metadata.endpointsUrl) locations) :
    ∃ code, ((verdict snitch args).run w).result = .ok code ∧
      (Misfit args locations ∧ code = 1 ∨ ¬ Misfit args locations ∧ code = 0) ∧
      ((verdict snitch args).run w).printed = terminated
        (if code = 0 then "Topology names are valid"
        else "Topology names are not valid for Azure") := by
  have checks : (snitch.validate datacenters racks).run w = _ := NameCheck.run_validate inForce
  have quiet : Event.printed ((snitch.validate datacenters racks).run w).events = "" :=
    NameCheck.printed_validate ..
  have run := run_verdict_of_validated asked named listed checks
  rw [checks] at quiet
  dsimp only at quiet
  rw [misfit_iff named listed, run, Outcome.printed_mk, Event.printed_append, quiet]
  rcases datacenters.all (NameCheck.isDatacenter locations) && racks.all NameCheck.isRack with _ | _
  · exact ⟨1, rfl, .inl ⟨rfl, rfl⟩, rfl⟩
  · exact ⟨0, rfl, .inr ⟨by simp, rfl⟩, rfl⟩

/-- The verdict is that of checking the names that are listed against the locations in force, and
the line tells it as the code does. -/
theorem verdict_of_ok {snitch : Snitch} {args : Arguments} {w : World} {locations : Locations}
    {code : Nat} (inForce : NameCheck.InForce (w.http Metadata.endpointsUrl) locations)
    (ends : ((verdict snitch args).run w).result = .ok code) :
    Judges args locations code ∧
      ((verdict snitch args).run w).printed =
        String.join ((verdictLines args code).map terminated) := by
  by_cases asked : args.validate = true
  · -- A list that is no text leaves the command.
    rcases named : names args.datacenters with failure | datacenters
    · rw [verdict, if_pos asked, named] at ends
      cases ends
    rcases listed : names args.racks with failure | racks
    · rw [verdict, if_pos asked, named, listed] at ends
      cases ends
    obtain ⟨found, result, verdict, printed⟩ := run_verdict asked named listed inForce
    rw [result] at ends
    cases ends
    rw [printed, verdictLines, if_pos asked]
    exact ⟨by simpa [Judges, asked] using verdict, by simp⟩
  · rw [verdict, if_neg asked] at ends ⊢
    cases ends
    simp [Judges, asked, verdictLines, Effect.run_pure]

/-- The line about the own node. -/
def localLine (snitch : Snitch) : String :=
  labelLine ("Local node " ++ snitch.resolver.localAddress.toText) snitch.resolver.label

/-- The lines that the command prints. -/
def reportLines (snitch : Snitch) (endpoints : List NodeAddress) (labels : List Placement)
    (args : Arguments) (code : Nat) : List String :=
  localLine snitch :: labelLines endpoints labels ++ verdictLines args code

/-- What is left behind when the labels are told. -/
def tellingEvents (snitch : Snitch) (endpoints : List NodeAddress) (w : World) : List Event :=
  .out (terminated (localLine snitch)) ::
    ((printLabels snitch.resolver endpoints).run none w).events

/-- Serving tells the labels, unless one of them fails, and then comes to the verdict that is asked
for. -/
theorem run_serve (snitch : Snitch) (endpoints : List NodeAddress) (w : World) :
    (∃ labels later, (Course.start snitch w).Labels endpoints labels ∧
      (∀ args, (serve snitch endpoints args).run none w =
        ⟨.ok (((verdict snitch args).run (w.after (tellingEvents snitch endpoints w))).result,
            later),
          tellingEvents snitch endpoints w ++
            ((verdict snitch args).run (w.after (tellingEvents snitch endpoints w))).events⟩) ∧
      Event.printed (tellingEvents snitch endpoints w) = terminated (localLine snitch) ++
        String.join ((labelLines endpoints labels).map terminated)) ∨
    ∃ failure later, ∀ args, (serve snitch endpoints args).run none w =
      ⟨.ok (.error failure, later), tellingEvents snitch endpoints w⟩ := by
  -- The first line leaves the world as it is, so the labels are told in the course from its start.
  have goes (args : Arguments) : (serve snitch endpoints args).run none w =
      ((printLabels snitch.resolver endpoints >>= fun _ => liftM (verdict snitch args)).run none
        w).following [.out (terminated (localLine snitch))] := Session.run_lift_bind_of_ok rfl
  simp only [goes, tellingEvents]
  obtain ⟨labels, later, events, tells, labelled, printed⟩ |
      ⟨failure, later, events, labelled⟩ := run_printLabels (Course.start snitch w) endpoints
  · change (printLabels snitch.resolver endpoints).run none w = _ at labelled
    rw [labelled]
    refine .inl ⟨labels, later, tells, fun args => ?_, ?_⟩
    · rw [Session.run_bind_of_ok (congrArg Outcome.result labelled), labelled, Session.run_lift]
      rfl
    · rw [← List.singleton_append, Event.printed_append, Event.printed_out, printed]
  · change (printLabels snitch.resolver endpoints).run none w = _ at labelled
    refine .inr ⟨failure, later, fun args => ?_⟩
    rw [Session.run_bind_of_error (congrArg Outcome.result labelled), labelled]
    rfl

/-- What ending the connections of a snitch leaves behind. -/
def closingEvents (snitch : Snitch) : List Event :=
  if snitch.ownsClient then [.call .close] else []

theorem run_close (snitch : Snitch) (w : World) :
    snitch.close.run w = ⟨.ok (), closingEvents snitch⟩ := by
  rw [Snitch.close, Snitch.release, closingEvents]
  cases snitch.ownsClient with
  | true => rfl
  | false => rfl

theorem printed_closingEvents (snitch : Snitch) : Event.printed (closingEvents snitch) = "" := by
  rw [closingEvents]
  cases snitch.ownsClient with
  | true => rfl
  | false => rfl

/-- A snitch that was served is closed, and the result is that of serving it. -/
theorem run_serveAndClose {snitch : Snitch} {endpoints : List NodeAddress} {args : Arguments}
    {w : World} {result : Except Failure Nat} {later : SavedPlacements} {events : List Event}
    (served : (serve snitch endpoints args).run none w = ⟨.ok (result, later), events⟩) :
    (serveAndClose snitch endpoints args).run w = ⟨result, events ++ closingEvents snitch⟩ := by
  have first : (serve snitch endpoints args none).run w = ⟨.ok (result, later), events⟩ := served
  rw [serveAndClose, Effect.run_bind_of_ok (congrArg Outcome.result first), first,
    Effect.run_bind_of_ok (congrArg Outcome.result (run_close ..)), run_close]
  simp

/-- What is served is told in full, unless it fails. -/
theorem serveAndClose_of_ok {snitch : Snitch} {endpoints : List NodeAddress} {args : Arguments}
    {w : World} {locations : Locations} {code : Nat}
    (inForce : NameCheck.InForce (w.http Metadata.endpointsUrl) locations)
    (ends : ((serveAndClose snitch endpoints args).run w).result = .ok code) :
    ∃ labels, (Course.start snitch w).Labels endpoints labels ∧ Judges args locations code ∧
      ((serveAndClose snitch endpoints args).run w).printed =
        String.join ((reportLines snitch endpoints labels args code).map terminated) := by
  obtain ⟨labels, later, tells, served, printed⟩ | ⟨failure, later, served⟩ :=
    run_serve snitch endpoints w
  · rw [run_serveAndClose (served args)] at ends ⊢
    rw [← w.http_after (tellingEvents snitch endpoints w)] at inForce
    obtain ⟨judges, told⟩ := verdict_of_ok inForce ends
    refine ⟨labels, tells, judges, ?_⟩
    rw [Outcome.printed] at told
    rw [Outcome.printed_mk, Event.printed_append, Event.printed_append, printed, told,
      printed_closingEvents, reportLines]
    simp [String.append_assoc]
  · rw [run_serveAndClose (served args)] at ends
    cases ends

/-- What the command has told when it ends with a code. -/
structure Reported (args : Arguments) (w : World) (code : Nat) (printed : String)
    (snitch : Snitch) (endpoints : List NodeAddress) (labels : List Placement)
    (locations : Locations) : Prop where
  /-- The snitch has started, and the nodes were read, before anything was told. -/
  opens : ((opening args).run w).result = .ok (snitch, endpoints)
  /-- The nodes are those that were named, and the own label is the one that was fetched. -/
  opened : Opened args w snitch endpoints
  /-- The labels are those that the snitch gives to the nodes one after the other. -/
  told : (Course.start snitch (w.after ((opening args).run w).events)).Labels endpoints labels
  /-- The locations are those in force, if names are checked against them. -/
  inForce : NameCheck.InForce (w.http Metadata.endpointsUrl) locations
  /-- The code tells whether the names fit. -/
  judges : Judges args locations code
  /-- One line tells the own node, one each of the nodes, and the last one the verdict. -/
  prints : printed = String.join ((reportLines snitch endpoints labels args code).map terminated)

/-- When the command ends with a code, it is 2 exactly if something was refused before anything was
told, and then nothing was printed and nothing was looked up; and else all that is asked for was
told, and the code tells whether the names fit. -/
theorem reported_of_returns {words : List String} {args : Arguments} {w : World} {code : Nat}
    (accepted : Arguments.parse words = .ok (some args)) (serves : args.createConfig = none)
    (returns : ((run words).run w).result = .ok code) :
    (code = 2 ↔ Refused args w) ∧
    (Refused args w → ((run words).run w).printed = "" ∧
      ∀ call ∈ ((run words).run w).calls, call.IsPreliminary) ∧
    (¬ Refused args w → ∃ snitch endpoints labels locations,
      Reported args w code ((run words).run w).printed snitch endpoints labels locations) := by
  have same : run words = runWith args := by
    rw [run, accepted]
  rw [same] at returns ⊢
  cases way_runWith serves w with
  | refuses because ends quiet =>
    rw [returns] at ends
    cases ends
    refine ⟨by simp [because], fun _ => ⟨?_, ?_⟩, fun none => absurd because none⟩
    · exact Event.printed_of_no_line fun line found => quiet _ found
    · exact fun call found => quiet _ (Event.mem_calls.1 found)
  | breaks ends =>
    rw [returns] at ends
    cases ends
  | @serves snitch endpoints opens is =>
    have opened := opened_of_opening opens
    have free := opened.not_refused
    have quiet : Event.printed ((opening args).run w).events = "" :=
      Event.printed_of_no_line fun line found => (leaves_opening args).each w _ found
    obtain ⟨locations, inForce⟩ := NameCheck.exists_inForce (w.http Metadata.endpointsUrl)
    have still := inForce
    rw [← w.http_after ((opening args).run w).events] at still
    rw [is] at returns ⊢
    obtain ⟨labels, tells, judges, printed⟩ := serveAndClose_of_ok still returns
    refine ⟨?_, fun because => absurd because free,
      fun _ => ⟨snitch, endpoints, labels, locations, ?_⟩⟩
    · simp only [free, iff_false]
      rcases judges with ⟨-, rfl⟩ | ⟨-, rfl⟩
      · decide
      · decide
    · exact {
        opens := opens
        opened := opened
        told := tells
        inForce := inForce
        judges := judges
        prints := by rw [Outcome.printed_following, quiet, printed, String.empty_append] }

/-- A node that publishes its rack, and a list of racks of which one does not fit. -/
theorem reported_of_misfit :
    let words := ["--endpoint", "10.0.0.2", "--validate", "--racks", "1, x"]
    let args : Arguments :=
      ⟨none, none, [.text "10.0.0.2"], true, none, some (.text "1, x")⟩
    let w : World := {
      http := fun url =>
        if url = Metadata.regionUrl then .answer 200 [101, 97]
        else if url = Metadata.zoneUrl then .answer 200 [49]
        else .unreachable "gone"
      redis := ⟨[("racksentry:gossip:10.0.0.2:7000", [(.text "rack", .text "3")])], none, none⟩
      files := Files.empty
      log := none
      time := "" }
    let printed := "Local node 127.0.0.1:7000: datacenter=ea rack=1\n" ++
      "10.0.0.2:7000: datacenter=UNKNOWN-DC rack=3\nTopology names are not valid for Azure\n"
    Arguments.parse words = .ok (some args) ∧ args.createConfig = none ∧
    ((run words).run w).result = .ok 1 ∧ ((run words).run w).printed = printed ∧
    ¬ Refused args w ∧ ∃ snitch endpoints labels locations,
      Reported args w 1 printed snitch endpoints labels locations := by
  intro words args w printed
  have accepted : Arguments.parse words = .ok (some args) := rfl
  have returns : ((run words).run w).result = .ok 1 := by
    have ends : ((run words).run w).result.toOption = some 1 := by decide +kernel
    rcases result : ((run words).run w).result with failure | code
    · rw [result] at ends
      cases ends
    · rw [result] at ends
      exact congrArg Except.ok (Option.some.inj ends)
  have prints : ((run words).run w).printed = printed := by decide +kernel
  obtain ⟨two, -, told⟩ := reported_of_returns accepted rfl returns
  have free : ¬ Refused args w := fun because => absurd (two.2 because) (by decide)
  rw [prints] at told
  exact ⟨accepted, rfl, returns, prints, free, told free⟩

/-- A request that fails because a value does not fit is known to the command. One that fails in any
other way that the library does not know leaves it. -/
example :
    let w (error : ForeignError) : World := {
      http := fun _ => .failing error
      redis := ⟨[], none, none⟩
      files := Files.empty
      log := none
      time := "" }
    ((run []).run (w ⟨"gone", true⟩)).result.toOption = some 2 ∧
      ((run []).run (w ⟨"gone", false⟩)).result.toOption = none := by
  decide +kernel

end CommandLine

end ClusterTopology
