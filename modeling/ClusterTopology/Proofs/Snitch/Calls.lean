import ClusterTopology.Proofs.NameCheck.Validation
import ClusterTopology.Proofs.Resolver.Calls
import ClusterTopology.Proofs.Resolver.History
import ClusterTopology.Proofs.Snitch.Start

/-!
# The calls of a snitch

Every call that a snitch makes to Redis or to the metadata services, from its start on. It fetches
its own label once, when it starts. From then on questions only look things up in Redis, if that
has answered at the start, and only a check of names fetches a document.
-/

namespace ClusterTopology

/-- Whether a step leaves the sources of a resolver as they are, whatever else it changes. -/
def Step.KeepsSources (r : Resolver) : Step → Prop
  | .change _ membership store => membership = r.membership ∧ store = r.store
  | _ => True

/-- A snitch whose sources are kept stays the same in all its use. -/
theorem Course.snitch_run {snitch : Snitch} {c : Course} {steps : List Step}
    (is : c.snitch = snitch) (keeps : ∀ s ∈ steps, s.KeepsSources snitch.resolver) :
    (c.run steps).snitch = snitch := by
  induction steps generalizing c with
  | nil => exact is
  | cons s steps ih =>
    refine ih ?_ fun later found => keeps later (.tail _ found)
    have kept := keeps s (.head _)
    cases s with
    | change world membership store =>
      obtain ⟨rfl, rfl⟩ := kept
      rw [← is]
      rfl
    | _ => exact is

namespace Snitch

/-- What is looked up for a question about another node. If Redis is there, it is what the node
publishes; and it is the record too, if the node gives no value or cannot be read, and nothing
was loaded before. -/
def lookups (settings : Settings) (connected : Bool) (q : Question)
    (loaded : Option Placements) : List Call :=
  if connected then
    .hashGet (namespaceOf settings ++ ":gossip:" ++ q.node.toText) q.key.name ::
      if q.isOpen && loaded.isNone then [.hashGetAll (namespaceOf settings ++ ":topology:peers")]
      else []
  else []

theorem leaves_load_of_file {settings : Settings} {store : Store}
    (found : store ∈ storesOf settings false) : store.load.Leaves Event.IsReport := by
  have file : ∃ path, store = .file path := by
    simp only [storesOf, Bool.false_eq_true, if_false, List.nil_append] at found
    split at found
    · cases found
    · cases found
    · exact ⟨_, List.mem_singleton.1 found⟩
  obtain ⟨path, rfl⟩ := file
  rw [Store.load]
  exact Store.leaves_loadFile path

/-- Loading the store is one look at the record if Redis is there, and else no call. -/
theorem calls_load {settings : Settings} {connected : Bool} {store : Store}
    (stored : storeOf settings connected = some store) (w : World) :
    (store.load.run w).calls =
      if connected then [.hashGetAll (namespaceOf settings ++ ":topology:peers")] else [] := by
  have same : store = .fallback (storesOf settings connected) := by
    rw [storeOf] at stored
    split at stored
    · cases stored
    · exact (Option.some.inj stored).symm
  subst same
  rw [Store.load]
  cases connected with
  | true =>
    show ((Store.loadFirst (.redis _ :: storesOf settings false) none false).run w).calls = _
    rw [Store.calls_loadFirst_cons (fun store found => leaves_load_of_file found), Store.load]
    exact Store.calls_loadRedis _ w
  | false =>
    have quiet : (Store.loadFirst (storesOf settings false) none false).Leaves Event.IsReport :=
      Store.leaves_loadFirst (fun _ _ => trivial) (fun store => leaves_load_of_file) none false
    exact Event.calls_of_reports (quiet.each w)

section Question

variable {settings : Settings} {connected : Bool} {q : Question}

theorem loadCalls_eq (stored : q.resolver.store = storeOf settings connected) :
    q.loadCalls =
      if connected then [.hashGetAll (namespaceOf settings ++ ":topology:peers")] else [] := by
  rw [Question.loadCalls, stored]
  rcases same : storeOf settings connected with _ | store
  · cases connected with
    | true => cases same
    | false => rfl
  · exact calls_load same _

/-- A question about another node that is answered looks up just this. -/
theorem calls_ask_of_answered (source : q.resolver.membership = membershipOf settings connected)
    (stored : q.resolver.store = storeOf settings connected)
    (other : q.node ≠ q.resolver.localAddress) {saved later : SavedPlacements} {text : String}
    (answered : (q.ask saved).result = .ok (.ok text, later)) :
    (q.ask saved).calls = lookups settings connected q saved := by
  rw [Question.calls_ask other, loadCalls_eq stored, lookups,
    if_congr (and_congr_left' (Question.isMiss_iff_of_answered other answered)) rfl rfl]
  cases connected with
  | true =>
    have short := Question.isWritable_of_answered other source answered
    have reads : q.reading = Membership.readRedis (namespaceOf settings) q.node q.key := by
      rw [Question.reading, source]
      rfl
    rw [reads, Membership.calls_readRedis short]
    cases saved <;> simp
  | false =>
    have reads : q.reading = pure none := by
      rw [Question.reading, source]
      rfl
    rw [reads]
    simp [Effect.run_pure]

end Question

/-- The calls that what is asked of a snitch makes at some moment. -/
structure CallsAt (settings : Settings) (connected : Bool) (c : Course) : Prop where
  /-- The own node is known without any call. -/
  own : ∀ key, ((c.question key c.snitch.resolver.localAddress).ask c.saved).calls = []
  /-- Another node is looked up, and the record is if that is needed. -/
  other : ∀ key node text later, node ≠ c.snitch.resolver.localAddress →
    ((c.question key node).ask c.saved).result = .ok (.ok text, later) →
    ((c.question key node).ask c.saved).calls =
      lookups settings connected (c.question key node) (Course.firstLoaded c.history)
  /-- A label takes the calls of its datacenter and then those of its rack. -/
  label : ∀ node placement later,
    ((c.snitch.resolver.queryLabel node).run c.saved c.world).result =
      .ok (.ok placement, later) →
    ((c.snitch.resolver.queryLabel node).run c.saved c.world).calls =
      ((c.question .datacenter node).ask c.saved).calls ++
        (((c.query .datacenter node).question .rack node).ask
          (c.query .datacenter node).saved).calls
  /-- A check of names fetches the endpoints document once. -/
  validate : ∀ datacenters racks, ((c.snitch.validate datacenters racks).run c.world).calls =
    [.get Metadata.endpointsUrl (clientOf settings).timeout]
  /-- A check of names against given locations makes no call. -/
  validateAgainst : ∀ locations datacenters racks,
    ((NameCheck.check locations datacenters racks).run c.world).calls = []
  /-- No question fetches a document, whether it is answered or not. -/
  noRequest : ∀ url timeout node,
    (∀ key, .get url timeout ∉ ((c.question key node).ask c.saved).calls) ∧
      .get url timeout ∉ ((c.snitch.resolver.queryLabel node).run c.saved c.world).calls

/-- The calls are these as long as the snitch is as it was made. -/
theorem callsAt {settings : Settings} {connected : Bool} {own : NodeAddress × Placement}
    {c : Course} (is : c.snitch = made settings connected own)
    (follows : c.saved = Course.firstLoaded c.history) : CallsAt settings connected c := by
  have noRequest {α : Type} {session : Session SavedPlacements α}
      (leaves : session.Leaves Event.IsLookup) (url : String) (timeout : Value) :
      .get url timeout ∉ (session.run c.saved c.world).calls := fun made =>
    (leaves.run c.saved c.world _ (Event.mem_calls.1 made)).elim
  constructor
  case own => exact fun key => Question.calls_ask_of_local rfl _
  case other =>
    intro key node text later other answered
    rw [← follows]
    exact calls_ask_of_answered (by rw [Course.question, is]; rfl)
      (by rw [Course.question, is]; rfl) other answered
  case label =>
    intro node placement later answered
    obtain ⟨failure | datacenter, kept, first⟩ :=
      (c.question .datacenter node).ask_ends c.saved
    · rw [Course.run_queryLabel_of_failed first] at answered
      cases answered
    · obtain ⟨ended, last, second⟩ :=
        ((c.query .datacenter node).question .rack node).ask_ends (c.query .datacenter node).saved
      rw [Course.run_queryLabel_of_answered first second]
      exact Event.calls_append ..
  case validate =>
    intro datacenters racks
    rw [Snitch.validate, is]
    exact NameCheck.calls_validate ..
  case validateAgainst => exact fun locations datacenters racks => NameCheck.calls_check ..
  case noRequest =>
    exact fun url timeout node => ⟨fun key => noRequest (Resolver.leaves_query ..) url timeout,
      noRequest (Resolver.leaves_queryLabel ..) url timeout⟩

/-- All calls of a snitch that settings ask for. Its start connects to Redis if that is enabled,
and then learns the own label; it succeeds exactly if all of this can be learned, and else fails
as that does. After the start, whatever becomes of the world and whatever is asked of the snitch,
its calls depend on whether Redis has answered at the start, on the live state at the moment, and
on whether the record was loaded before. -/
theorem calls_of_start_and_use (settings : Settings) (origin : World) :
    ∃ enabled calls learned,
      settings.get .redisEnabled (.bool true) = .bool enabled ∧
      Learns settings origin calls learned ∧
      ((ofSettings settings).run origin).calls =
        (if enabled then [connectCall settings, .ping] else []) ++ calls ++ closing learned ∧
      ((ofSettings settings).run origin).result =
        learned.map (made settings (enabled && origin.redis.pingFailure.isNone)) ∧
      ∀ snitch, ((ofSettings settings).run origin).result = .ok snitch →
        ∀ w steps, (∀ s ∈ steps, Step.KeepsSources snitch.resolver s) →
          CallsAt settings (enabled && origin.redis.pingFailure.isNone)
            ((Course.start snitch w).run steps) := by
  obtain ⟨enabled, asked⟩ := settings.redisEnabled_eq_bool
  obtain ⟨calls, learned, learns, result, called⟩ := run_ofSettings asked origin
  refine ⟨enabled, calls, learned, asked, learns, called, result, ?_⟩
  intro snitch started w steps keeps
  rw [result] at started
  rcases learned with failure | own
  · cases started
  · exact callsAt ((Course.snitch_run rfl keeps).trans (Except.ok.inj started).symm)
      (Course.saved_run snitch w steps)

/-- A snitch without a file, while Redis is away and after it is back: the record is looked up
until it was loaded. -/
theorem calls_of_outage :
    let settings : Settings := ⟨Settings.merge [(Setting.topologyFile.key, .null)], by decide⟩
    let peer : NodeAddress := ⟨"10.0.0.2", 7000⟩
    let w : World := {
      http := fun url => .answer 200 (if url = Metadata.regionUrl then [101, 97] else [49])
      redis := ⟨[], none, none⟩
      files := Files.empty
      log := none
      time := "" }
    let down : World := { w with redis := ⟨[], some "down", none⟩ }
    let snitch : Snitch := ⟨clientOf settings, true, ⟨⟨"127.0.0.1", 7000⟩, ⟨"ea", "1"⟩,
      some (.redis "racksentry"), some (.fallback [.redis "racksentry"])⟩⟩
    let turn (now : World) : List Step :=
      [.change now snitch.resolver.membership snitch.resolver.store, .query .rack peer]
    let c := (Course.start snitch w).run (turn down)
    let d := (Course.start snitch w).run (turn down ++ turn w)
    ((ofSettings settings).run w).result = .ok snitch ∧
    (∀ s ∈ turn down ++ turn w, Step.KeepsSources snitch.resolver s) ∧
    ((c.question .datacenter peer).ask c.saved).result = .ok (.ok "UNKNOWN-DC", none) ∧
    ((c.question .datacenter peer).ask c.saved).calls =
      [.hashGet "racksentry:gossip:10.0.0.2:7000" "datacenter",
        .hashGetAll "racksentry:topology:peers"] ∧
    ((d.question .datacenter peer).ask d.saved).result = .ok (.ok "UNKNOWN-DC", some []) ∧
    ((d.question .datacenter peer).ask d.saved).calls =
      [.hashGet "racksentry:gossip:10.0.0.2:7000" "datacenter"] := by
  intro settings peer w down snitch turn c d
  have text : addressText settings = "127.0.0.1:7000" := rfl
  have parsed : NodeAddress.parse (addressText settings) = .ok ⟨"127.0.0.1", 7000⟩ := by
    rw [text]
    rfl
  have keeps : ∀ s ∈ turn down ++ turn w, Step.KeepsSources snitch.resolver s := by
    simp [turn, Step.KeepsSources]
  have keepsBefore : ∀ s ∈ turn down, Step.KeepsSources snitch.resolver s :=
    fun s found => keeps s (List.mem_append_left _ found)
  have away : ((c.question .datacenter peer).ask c.saved).result =
      .ok (.ok "UNKNOWN-DC", none) := by
    dsimp only [c, turn, down, w, snitch, peer, settings]
    rfl
  have back : ((d.question .datacenter peer).ask d.saved).result =
      .ok (.ok "UNKNOWN-DC", some []) := by
    dsimp only [d, turn, down, w, snitch, peer, settings]
    rfl
  have lookupsAway : lookups settings true (c.question .datacenter peer)
      (Course.firstLoaded c.history) =
      [.hashGet "racksentry:gossip:10.0.0.2:7000" "datacenter",
        .hashGetAll "racksentry:topology:peers"] := by
    dsimp only [c, turn, down, w, snitch, peer, settings]
    rfl
  have lookupsBack : lookups settings true (d.question .datacenter peer)
      (Course.firstLoaded d.history) =
      [.hashGet "racksentry:gossip:10.0.0.2:7000" "datacenter"] := by
    dsimp only [d, turn, down, w, snitch, peer, settings]
    rfl
  obtain ⟨enabled, calls, learned, asked, learns, -, result, use⟩ :=
    calls_of_start_and_use settings w
  cases asked
  have started : ((ofSettings settings).run w).result = .ok snitch := by
    rw [result]
    cases learns with
    | noAddress refused => cases parsed.symm.trans refused
    | noRegion _ missing => cases missing
    | noZone _ _ missing => cases missing
    | label same found known =>
      cases parsed.symm.trans same
      cases found
      cases known
      rfl
  have callsAway := (use snitch started w _ keepsBefore).other .datacenter peer _ _ (by decide) away
  have callsBack := (use snitch started w _ keeps).other .datacenter peer _ _ (by decide) back
  exact ⟨started, keeps, away, callsAway.trans lookupsAway, back, callsBack.trans lookupsBack⟩

end Snitch

end ClusterTopology
