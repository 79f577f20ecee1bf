import ClusterTopology.Proofs.Resolver.Calls
import ClusterTopology.Proofs.Resolver.History

/-!
# The order of questions

What a resolver has saved depends on the questions before, but while its sources tell the same at
every moment the answers do not: each one is that of a resolver which has just been built and is
asked nothing else. So questions may be asked in any order, again, or not at all, and the other
answers stay. The sources may also fail at every moment.
-/

namespace ClusterTopology

/-- What sources tell: the live state of each attribute of a node, and the record. -/
structure Snapshot where
  state : NodeAddress → Attribute → Except Failure (Option String)
  record : Except Failure Placements

namespace Snapshot

/-- Whether the sources fail, if they do, by being unreadable only when a node is asked for. -/
structure FailsOnlyBySource (s : Snapshot) (node : NodeAddress) : Prop where
  state : ∀ key failure, s.state node key = .error failure → failure.IsSource
  record : ∀ failure, s.record = .error failure → failure.IsSource

/-- The answer of a resolver to a question, by what its sources tell. -/
def answer (s : Snapshot) (r : Resolver) (key : Attribute) (node : NodeAddress) :
    Except Failure String :=
  if node = r.localAddress then .ok (r.label.get key)
  else
    match Failure.excused none (s.state node key) with
    | .ok (some value) => .ok value
    | .ok none => (Failure.excused [] s.record).map fun known =>
        match Entries.get? known node with
        | some placement => placement.get key
        | none => key.unknown
    | .error failure => .error failure

theorem answer_ok {s : Snapshot} {node : NodeAddress} (sources : s.FailsOnlyBySource node)
    (r : Resolver) (key : Attribute) : ∃ text, s.answer r key node = .ok text := by
  rw [answer]
  split
  · exact ⟨_, rfl⟩
  · obtain ⟨value, tells⟩ := Failure.excused_ok none (sources.state key)
    rw [tells]
    rcases value with _ | value
    · obtain ⟨known, loads⟩ := Failure.excused_ok [] sources.record
      rw [loads]
      exact ⟨_, rfl⟩
    · exact ⟨value, rfl⟩

end Snapshot

/-- What the sources of a resolver tell in a world. -/
def Snapshot.of (r : Resolver) (w : World) : Snapshot where
  state node key := (⟨r, w, node, key⟩ : Question).held
  record := r.recordIn w

namespace Question

/-- Whether the sources that a question may ask tell what a snapshot says. -/
structure Shows (q : Question) (s : Snapshot) : Prop where
  state : q.node ≠ q.resolver.localAddress → q.held = s.state q.node q.key
  record : q.IsMiss → q.resolver.recordIn q.loadWorld = s.record

section Shows

variable {q : Question} {s : Snapshot} {saved : SavedPlacements}

theorem answer_eq_settled (shows' : q.Shows s) :
    s.answer q.resolver q.key q.node = q.settled s.record := by
  rw [Snapshot.answer, settled]
  split
  · rfl
  · next other =>
    rw [told_eq_excused, shows'.state other]
    rfl

/-- If nothing was saved but the record, a question is answered by what its sources tell. -/
theorem ended_ask_of_shows (shows' : q.Shows s)
    (current : ∀ known, saved = some known → s.record = .ok known) :
    Session.ended (q.ask saved) = s.answer q.resolver q.key q.node := by
  have record (miss : q.IsMiss) (known : Placements) (held : saved = some known) :
      Failure.excused [] (q.resolver.recordIn q.loadWorld) = .ok known := by
    rw [shows'.record miss, current known held]
    rfl
  rw [ended_ask record, answer_eq_settled shows']
  by_cases miss : q.IsMiss
  · rw [shows'.record miss]
  · exact settled_of_not_miss miss _ _

theorem record_of_yields (shows' : q.Shows s) {known : Placements}
    (yields : q.yields = some known) : s.record = .ok known := by
  have miss : q.IsMiss := by
    by_contra settled
    rw [yields_of_not_miss settled] at yields
    cases yields
  obtain ⟨store, stored, loads⟩ := loaded_of_yields yields
  rw [← shows'.record miss, Resolver.recordIn_of_store stored]
  exact loads

end Shows

theorem shows_of_still {q : Question} (still : q.world.IsStill) :
    q.Shows (.of q.resolver q.world) where
  state _ := rfl
  record _ := by
    have lookups := (Resolver.leaves_liveState q.resolver q.node q.key).each q.world
    rw [run_liveState] at lookups
    rw [loadWorld, still.after lookups]
    rfl

end Question

/-- What is asked of a resolver: one attribute of a node, or its label. -/
inductive Inquiry where
  | part (key : Attribute) (node : NodeAddress)
  | label (node : NodeAddress)
  deriving DecidableEq, Repr

/-- What a resolver says in answer. -/
inductive Answer where
  | text (s : String)
  | label (placement : Placement)
  deriving DecidableEq, Repr

namespace Inquiry

def node : Inquiry → NodeAddress
  | .part _ node => node
  | .label node => node

def put (r : Resolver) : Inquiry → Session SavedPlacements Answer
  | .part key node => do return .text (← r.query node key)
  | .label node => do return .label (← r.queryLabel node)

/-- The step that asks. -/
def step : Inquiry → Step
  | .part key node => .query key node
  | .label node => .queryLabel node

/-- The answer of a resolver by what its sources tell. -/
def answerBy (r : Resolver) (s : Snapshot) : Inquiry → Except Failure Answer
  | .part key node => (s.answer r key node).map .text
  | .label node =>
    (s.answer r .datacenter node).bind fun datacenter =>
      (s.answer r .rack node).map fun rack => .label ⟨datacenter, rack⟩

theorem answerBy_ok {s : Snapshot} {i : Inquiry} (sources : s.FailsOnlyBySource i.node)
    (r : Resolver) : ∃ told, i.answerBy r s = .ok told := by
  cases i with
  | part key node =>
    have unread : s.FailsOnlyBySource node := sources
    obtain ⟨text, tells⟩ := Snapshot.answer_ok unread r key
    exact ⟨.text text, by rw [answerBy, tells]; rfl⟩
  | label node =>
    have unread : s.FailsOnlyBySource node := sources
    obtain ⟨datacenter, first⟩ := Snapshot.answer_ok unread r .datacenter
    obtain ⟨rack, second⟩ := Snapshot.answer_ok unread r .rack
    exact ⟨.label ⟨datacenter, rack⟩, by rw [answerBy, first, second]; rfl⟩

/-- The answer of a resolver that is built in a world and asked nothing before. -/
def firstAnswer (build : Effect Resolver) (w : World) (i : Inquiry) : Except Failure Answer :=
  Session.ended ((do i.put (← build) : Session SavedPlacements Answer).run none w)

end Inquiry

namespace Course

/-- The answer that is given now. -/
def answer (c : Course) (i : Inquiry) : Except Failure Answer :=
  Session.ended ((i.put c.snitch.resolver).run c.saved c.world)

/-- The answers to what is asked one after the other. -/
def answers (c : Course) : List Inquiry → List (Except Failure Answer)
  | [] => []
  | i :: rest => c.answer i :: (c.step i.step).answers rest

/-- Whether the sources told the same at every question of a course. -/
def Shows (c : Course) (s : Snapshot) : Prop :=
  ∀ q ∈ c.history, q.Shows s

/-- Whether nothing is saved but the record. -/
def IsCurrent (c : Course) (s : Snapshot) : Prop :=
  ∀ known, c.saved = some known → s.record = .ok known

section Shows

variable {c later : Course} {s : Snapshot} {asked : List Question}

theorem isCurrent_start (snitch : Snitch) (w : World) : (start snitch w).IsCurrent s := by
  intro known saved
  cases saved

theorem Follows.before (follows : Follows c later asked) (shows' : later.Shows s) : c.Shows s := by
  intro q found
  apply shows'
  rw [follows.history]
  exact List.mem_append_left _ found

theorem Follows.now (follows : Follows c later asked) (shows' : later.Shows s) :
    ∀ q ∈ asked, q.Shows s := by
  intro q found
  apply shows'
  rw [follows.history]
  exact List.mem_append_right _ found

/-- Questions to sources that tell the same save nothing but the record. -/
theorem Follows.isCurrent (follows : Follows c later asked) (current : c.IsCurrent s)
    (shows' : later.Shows s) : later.IsCurrent s := by
  intro known saved
  rw [follows.saved, Option.or_eq_some_iff] at saved
  rcases saved with before | ⟨-, loaded⟩
  · exact current known before
  · obtain ⟨q, found, yields⟩ := List.exists_of_findSome?_eq_some loaded
    exact Question.record_of_yields (follows.now shows' q found) yields

theorem shows_of_run (steps : List Step) (shows' : (c.run steps).Shows s) : c.Shows s := by
  obtain ⟨asked, follows⟩ := c.follows_run steps
  exact follows.before shows'

theorem ended_ask_of_shows (current : c.IsCurrent s) {key : Attribute} {node : NodeAddress}
    (shows' : (c.query key node).Shows s) :
    Session.ended ((c.question key node).ask c.saved) = s.answer c.snitch.resolver key node :=
  Question.ended_ask_of_shows ((c.follows_query key node).now shows' _ (.head _)) current

/-- What is asked is answered by what the sources tell. -/
theorem answer_of_shows (current : c.IsCurrent s) {i : Inquiry}
    (shows' : (c.step i.step).Shows s) : c.answer i = i.answerBy c.snitch.resolver s := by
  cases i with
  | part key node =>
    have ended := ended_ask_of_shows current shows'
    rw [answer, Inquiry.put, Session.ended_bind_pure, Inquiry.answerBy, ← ended]
    rfl
  | label node =>
    rw [answer, Inquiry.put, Session.ended_bind_pure, ended_queryLabel, Inquiry.answerBy]
    obtain ⟨failure | datacenter, last, ends⟩ :=
      (c.question .datacenter node).ask_ends c.saved
    · -- The rack is not asked for, so nothing is known of what its sources tell.
      have alone : (c.query .datacenter node).Shows s := by
        rw [← step_queryLabel_of_failed ends]
        exact shows'
      rw [← ended_ask_of_shows current alone, Session.ended_of_ok ends]
      rfl
    · have both : ((c.query .datacenter node).query .rack node).Shows s := by
        rw [← step_queryLabel_of_answered ends]
        exact shows'
      have first := (follows_query _ .rack node).before both
      have still := (c.follows_query .datacenter node).isCurrent current first
      have second : Session.ended (((c.query .datacenter node).question .rack node).ask
          (c.query .datacenter node).saved) = s.answer c.snitch.resolver .rack node :=
        ended_ask_of_shows still both
      rw [← ended_ask_of_shows current first, Session.ended_of_ok ends, second]
      rcases s.answer c.snitch.resolver .rack node with failure | rack
      · rfl
      · rfl

theorem snitch_step (c : Course) (i : Inquiry) : (c.step i.step).snitch = c.snitch := by
  cases i <;> rfl

/-- Each of many answers is what the sources tell. -/
theorem answers_of_shows {inquiries : List Inquiry} (current : c.IsCurrent s)
    (shows' : (c.run (inquiries.map Inquiry.step)).Shows s) :
    c.answers inquiries = inquiries.map fun i => i.answerBy c.snitch.resolver s := by
  induction inquiries generalizing c with
  | nil => rfl
  | cons i rest ih =>
    have first : (c.step i.step).Shows s := shows_of_run _ shows'
    obtain ⟨asked, follows⟩ := c.follows_step i.step
    rw [answers, answer_of_shows current first, ih (follows.isCurrent current first) shows',
      snitch_step]
    rfl

end Shows

section Still

variable {w : World}

/-- A course in a world that stays as it is. -/
structure Rests (c : Course) (snitch : Snitch) (w : World) : Prop where
  kept : c.snitch = snitch
  world : c.world = w
  told : c.Shows (.of snitch.resolver w)

variable {c : Course} {snitch : Snitch}

theorem Rests.query (rests : c.Rests snitch w) (still : w.IsStill) (key : Attribute)
    (node : NodeAddress) : (c.query key node).Rests snitch w where
  kept := rests.kept
  world := by
    have lookups := (Resolver.leaves_query c.snitch.resolver node key).run c.saved c.world
    show c.world.after ((c.question key node).ask c.saved).events = w
    rw [← rests.world] at still ⊢
    exact still.after lookups
  told := by
    intro q found
    rcases List.mem_append.1 found with before | now
    · exact rests.told q before
    · have unmoved : (c.question key node).world.IsStill := by
        show c.world.IsStill
        rw [rests.world]
        exact still
      rw [List.mem_singleton.1 now, ← rests.kept, ← rests.world]
      exact Question.shows_of_still unmoved

theorem Rests.step (rests : c.Rests snitch w) (still : w.IsStill) (i : Inquiry) :
    (c.step i.step).Rests snitch w := by
  cases i with
  | part key node => exact rests.query still key node
  | label node =>
    have once := rests.query still .datacenter node
    rcases c.step_queryLabel node with stops | goes
    · rw [Inquiry.step, stops]
      exact once
    · rw [Inquiry.step, goes]
      exact once.query still .rack node

/-- In a world that lookups leave as it is, the sources always tell the same. -/
theorem shows_run_of_still (snitch : Snitch) (still : w.IsStill) (inquiries : List Inquiry) :
    ((start snitch w).run (inquiries.map Inquiry.step)).Shows (.of snitch.resolver w) := by
  have run (c : Course) (rests : c.Rests snitch w) :
      (c.run (inquiries.map Inquiry.step)).Rests snitch w := by
    induction inquiries generalizing c with
    | nil => exact rests
    | cons i rest ih => exact ih _ (rests.step still i)
  have begin : (start snitch w).Rests snitch w := by
    refine ⟨rfl, rfl, fun q found => ?_⟩
    cases found
  exact (run _ begin).told

end Still

/-- What a resolver is asked first is answered in the course that begins with it. -/
theorem firstAnswer_eq {build : Effect Resolver} {origin : World} {snitch : Snitch}
    (built : (build.run origin).result = .ok snitch.resolver) (i : Inquiry) :
    i.firstAnswer build origin =
      (start snitch (origin.after (build.run origin).events)).answer i := by
  rw [Inquiry.firstAnswer, Session.run_lift_bind_of_ok built]
  rfl

/-- While its sources tell the same at every question, a resolver answers each one as if it
had just been started and were asked nothing before. So the same question gets the same
answer in every other sequence of questions. It is an answer where the sources fail by being
unreadable only. -/
theorem answers_eq_firstAnswers (localAddress : NodeAddress) (client : MetadataClient)
    (membership : Option Membership) (store : Option Store) (suffix : String) (origin : World)
    (snitch : Snitch) (s : Snapshot) (inquiries : List Inquiry)
    (started : ((Resolver.start localAddress client membership store suffix).run origin).result =
      .ok snitch.resolver) :
    let build := Resolver.start localAddress client membership store suffix
    let c := start snitch (origin.after (build.run origin).events)
    (c.run (inquiries.map Inquiry.step)).Shows s →
    (∀ i ∈ inquiries, (c.step i.step).Shows s) →
    c.answers inquiries = inquiries.map (Inquiry.firstAnswer build origin) ∧
    (∀ i ∈ inquiries, s.FailsOnlyBySource i.node → ∃ told, i.firstAnswer build origin = .ok told) ∧
    ∀ others, (c.run (others.map Inquiry.step)).Shows s →
      ∀ n m : Nat, inquiries[n]? = others[m]? → (c.answers inquiries)[n]? = (c.answers others)[m]? := by
  intro build c same alone
  have current : c.IsCurrent s := isCurrent_start _ _
  refine ⟨?_, ?_, ?_⟩
  · rw [answers_of_shows current same]
    refine List.map_congr_left fun i asked => ?_
    rw [firstAnswer_eq started]
    exact (answer_of_shows current (alone i asked)).symm
  · intro i asked sources
    rw [firstAnswer_eq started, answer_of_shows current (alone i asked)]
    exact Inquiry.answerBy_ok sources _
  · intro others elsewhere n m asked
    rw [answers_of_shows current same, answers_of_shows current elsewhere, List.getElem?_map,
      List.getElem?_map, asked]

/-- While Redis is down, three nodes are told from a record in memory, in any order. -/
theorem same_answers_while_redis_down :
    let recorded : NodeAddress := ⟨"10.0.0.2", 7000⟩
    let unknown : NodeAddress := ⟨"10.0.0.3", 7000⟩
    let own : NodeAddress := ⟨"10.0.0.1", 7000⟩
    let membership : Membership := .redis "r"
    let store : Store := .fallback [.redis "r", .static [(recorded, ⟨"ea-1", "3"⟩)]]
    let build := Resolver.start own MetadataClient.default (some membership) (some store) "-1"
    let w : World := {
      http := fun _ => .answer 200 [49]
      redis := ⟨[], some "down", none⟩
      files := Files.empty
      log := none
      time := "" }
    let snitch : Snitch :=
      ⟨MetadataClient.default, true, ⟨own, ⟨"1-1", "1"⟩, some membership, some store⟩⟩
    let s := Snapshot.of snitch.resolver w
    let c := start snitch (w.after (build.run w).events)
    let inquiries : List Inquiry := [.part .rack recorded, .label unknown, .label own]
    let others : List Inquiry := [.label own, .label unknown, .label unknown, .label recorded]
    (build.run w).result = .ok snitch.resolver ∧
    (c.run (inquiries.map Inquiry.step)).Shows s ∧
    (∀ i ∈ inquiries, (c.step i.step).Shows s) ∧
    (c.run (others.map Inquiry.step)).Shows s ∧
    c.answers inquiries = inquiries.map (Inquiry.firstAnswer build w) ∧
    s.FailsOnlyBySource unknown ∧
    (∃ told, (Inquiry.label unknown).firstAnswer build w = .ok told) ∧
    (c.answers inquiries)[1]? = (c.answers others)[2]? ∧
    (c.answers others).map Except.toOption =
      [some (.label ⟨"1-1", "1"⟩), some (.label ⟨"UNKNOWN-DC", "UNKNOWN-RACK"⟩),
        some (.label ⟨"UNKNOWN-DC", "UNKNOWN-RACK"⟩), some (.label ⟨"ea-1", "3"⟩)] := by
  intro recorded unknown own membership store build w snitch s c inquiries others
  have started : (build.run w).result = .ok snitch.resolver := rfl
  have still : w.IsStill := fun _ => rfl
  have same := shows_run_of_still snitch still inquiries
  have elsewhere := shows_run_of_still snitch still others
  have alone : ∀ i ∈ inquiries, (c.step i.step).Shows s :=
    fun i _ => shows_run_of_still snitch still [i]
  have sources : s.FailsOnlyBySource unknown := by
    refine ⟨fun key failure fails => ?_, fun failure fails => ?_⟩
    · have miss : (⟨snitch.resolver, w, unknown, key⟩ : Question).IsMiss := by
        cases key <;> decide +kernel
      by_contra other
      exact Question.not_miss_of_untold (Question.told_eq_error.2 ⟨fails, other⟩) miss
    · have read : s.record = .ok [(recorded, ⟨"ea-1", "3"⟩)] := rfl
      rw [read] at fails
      cases fails
  obtain ⟨fresh, told, every⟩ :=
    answers_eq_firstAnswers own _ _ _ _ w snitch s inquiries started same alone
  exact ⟨started, same, alone, elsewhere, fresh, sources,
    told _ (by simp [inquiries]) sources, every others elsewhere 1 2 rfl, by decide +kernel⟩

end Course

end ClusterTopology
