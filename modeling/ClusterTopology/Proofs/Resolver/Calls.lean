import ClusterTopology.Proofs.Address.Keys
import ClusterTopology.Proofs.Events
import ClusterTopology.Proofs.Resolver.Breaks
import ClusterTopology.Proofs.Store.Fallback

/-!
# What is looked up for a question

All that a resolver calls on is Redis, to look up what a node publishes and the record of
placements. The own node is never looked up; another one is, once for each question; and the
record is, if the live state leaves the question open and nothing is saved.
-/

namespace ClusterTopology

/-- A kind of events that comprises all that is left behind when something is looked up: reports of
sources and resolvers, and calls that look something up in Redis. -/
structure Event.CoversLookups (kind : Event → Prop) : Prop where
  source : ∀ level message, kind (.log ⟨Store.logger, level, message⟩)
  resolver : ∀ level message, kind (.log ⟨Resolver.logger, level, message⟩)
  get : ∀ key field, kind (.call (.hashGet key field))
  getAll : ∀ key, kind (.call (.hashGetAll key))

theorem Event.coversLookups_isLookup : CoversLookups IsLookup :=
  ⟨fun _ _ => trivial, fun _ _ => trivial, fun _ _ => trivial, fun _ => trivial⟩

variable {kind : Event → Prop}

namespace Membership

theorem leaves_readRedis (covers : Event.CoversLookups kind) (namespaceName : String)
    (node : NodeAddress) (key : Attribute) : (readRedis namespaceName node key).Leaves kind := by
  refine ⟨fun w event found => ?_⟩
  rw [events_readRedis] at found
  rcases written : node.written with failure | text
  · simp [written] at found
  · rw [written, List.mem_singleton] at found
    rw [found]
    exact covers.get ..

theorem leaves_get (covers : Event.CoversLookups kind) (membership : Membership)
    (node : NodeAddress) (key : Attribute) : (membership.get node key).Leaves kind := by
  cases membership with
  | static states => exact Effect.leaves_pure _
  | redis namespaceName => exact leaves_readRedis covers namespaceName node key

/-- A node that can be written is looked up once, under its text. -/
theorem calls_readRedis {namespaceName : String} {node : NodeAddress} {key : Attribute}
    (short : node.isWritable = true) (w : World) :
    ((readRedis namespaceName node key).run w).calls =
      [.hashGet (namespaceName ++ ":gossip:" ++ node.toText) key.name] := by
  rw [Outcome.calls, events_readRedis, NodeAddress.written_of_isWritable short]
  rfl

end Membership

namespace Store

section Reports

variable (reports : ∀ level message, kind (.log ⟨logger, level, message⟩))
include reports

theorem leaves_decode (source : String) (entries : List (String × Value)) :
    (decode source entries).Leaves kind := by
  refine (Effect.leaves_forM (fun _ => Effect.leaves_emit (reports ..)) _).bind fun _ => ?_
  split
  · exact Effect.leaves_pure _
  · exact (Effect.leaves_ofExcept _).bind fun _ => Effect.leaves_pure _

/-- A file is read without any call. -/
theorem leaves_loadFile_of_reports (path : Path) : (loadFile path).Leaves kind := by
  refine (Effect.leaves_ask _).bind fun files => (Effect.leaves_lift ..).bind fun present => ?_
  split
  · exact (Effect.leaves_emit (reports ..)).bind fun _ => Effect.leaves_pure _
  · refine (Effect.leaves_ofExcept _).bind fun value => ?_
    split
    · exact (leaves_decode reports ..).bind fun _ =>
        (Effect.leaves_emit (reports ..)).bind fun _ => Effect.leaves_pure _
    · exact Effect.leaves_fail _

end Reports

theorem leaves_loadFile (path : Path) : (loadFile path).Leaves Event.IsReport :=
  leaves_loadFile_of_reports (fun _ _ => trivial) path

/-- The hash of placements is looked up once, however that ends. -/
theorem calls_loadRedis (namespaceName : String) (w : World) :
    ((loadRedis namespaceName).run w).calls =
      [.hashGetAll (namespaceName ++ ":topology:peers")] := by
  refine Effect.calls_bind_of_reports (fun _ => (Effect.leaves_ask _).bind fun redis => ?_) w
  split
  · exact Effect.leaves_fail _
  · exact (Effect.leaves_lift ..).bind fun _ => (leaves_decode (fun _ _ => trivial) ..).bind
      fun _ => (Effect.leaves_report (fun _ => trivial) ..).bind fun _ => Effect.leaves_pure _

theorem leaves_loadRedis (covers : Event.CoversLookups kind) (namespaceName : String) :
    (loadRedis namespaceName).Leaves kind := by
  refine (Effect.leaves_emit (covers.getAll _)).bind fun _ => (Effect.leaves_ask _).bind
    fun redis => ?_
  split
  · exact Effect.leaves_fail _
  · exact (Effect.leaves_lift ..).bind fun _ => (leaves_decode covers.source ..).bind fun _ =>
      (Effect.leaves_emit (covers.source ..)).bind fun _ => Effect.leaves_pure _

/-- Stores in turn leave what each of them leaves, and reports. -/
theorem leaves_loadFirst (reports : ∀ level message, kind (.log ⟨logger, level, message⟩))
    {stores : List Store} (each : ∀ store ∈ stores, store.load.Leaves kind)
    (lastError : Option SourceError) (loadedAny : Bool) :
    (loadFirst stores lastError loadedAny).Leaves kind := by
  induction stores generalizing lastError loadedAny with
  | nil =>
    rcases lastError with _ | error <;> rcases loadedAny with _ | _
    case some.false => exact Effect.leaves_fail _
    all_goals exact Effect.leaves_pure _
  | cons store rest ih =>
    have later := ih fun store found => each store (.tail _ found)
    rw [loadFirst]
    refine (each store (.head _)).attempt.bind fun ended => ?_
    split
    · exact later ..
    · exact Effect.leaves_pure _
    · exact (Effect.leaves_emit (reports ..)).bind fun _ => later ..
    · exact Effect.leaves_fail _

mutual

/-- Loading a store, whatever it consists of, only looks something up. -/
theorem leaves_load_of_covers (covers : Event.CoversLookups kind) :
    (store : Store) → store.load.Leaves kind
  | .static placements => by
    rw [load]
    exact Effect.leaves_pure _
  | .redis namespaceName => by
    rw [load]
    exact leaves_loadRedis covers namespaceName
  | .file path => by
    rw [load]
    exact leaves_loadFile_of_reports covers.source path
  | .fallback stores => by
    rw [load]
    exact leaves_loadFirst covers.source (leaves_load_of_mem covers stores) _ _

theorem leaves_load_of_mem (covers : Event.CoversLookups kind) :
    (stores : List Store) → ∀ store ∈ stores, store.load.Leaves kind
  | [], _, found => by cases found
  | first :: _, _, .head _ => leaves_load_of_covers covers first
  | _ :: rest, store, .tail _ found => leaves_load_of_mem covers rest store found

end

theorem leaves_load (store : Store) : store.load.Leaves Event.IsLookup :=
  leaves_load_of_covers Event.coversLookups_isLookup store

/-- Stores that make no call add none to those of the store that is asked first. -/
theorem calls_loadFirst_cons {store : Store} {rest : List Store}
    (quiet : ∀ store ∈ rest, store.load.Leaves Event.IsReport)
    (lastError : Option SourceError) (loadedAny : Bool) (w : World) :
    ((loadFirst (store :: rest) lastError loadedAny).run w).calls = (store.load.run w).calls := by
  have later := leaves_loadFirst (fun _ _ => trivial) quiet
  rw [loadFirst]
  have attempted : (store.load.attempt.run w).calls = (store.load.run w).calls := rfl
  rw [← attempted]
  refine Effect.calls_bind_of_reports (fun ended => ?_) w
  split
  · exact later ..
  · exact Effect.leaves_pure _
  · exact (Effect.leaves_report (fun _ => trivial) ..).bind fun _ => later ..
  · exact Effect.leaves_fail _

end Store

namespace Resolver

section Covers

variable (covers : Event.CoversLookups kind)
include covers

theorem leaves_liveState_of_covers (r : Resolver) (node : NodeAddress) (key : Attribute) :
    (r.liveState node key).Leaves kind := by
  rw [liveState]
  split
  · exact Effect.leaves_pure _
  · refine (Membership.leaves_get covers ..).attempt.bind fun ended => ?_
    split
    · exact Effect.leaves_pure _
    · exact (Effect.leaves_emit (covers.resolver ..)).bind fun _ => Effect.leaves_pure _
    · exact Effect.leaves_fail _

theorem leaves_loadSaved (store : Store) : (loadSaved store).Leaves kind := by
  have report (level : Level) (message : String) :
      (liftM (Effect.report logger level message) : Session SavedPlacements Unit).Leaves kind :=
    Session.leaves_lift (Effect.leaves_emit (covers.resolver ..))
  refine (Session.leaves_lift (Store.leaves_load_of_covers covers store).attempt).bind
    fun ended => ?_
  split
  · exact (Session.leaves_remember _).bind fun _ => (report ..).bind fun _ =>
      Session.leaves_pure _
  · exact (report ..).bind fun _ => Session.leaves_pure _
  · exact Session.leaves_lift (Effect.leaves_fail _)

theorem leaves_saved (r : Resolver) : r.saved.Leaves kind := by
  refine Session.leaves_remembered.bind fun known => ?_
  split
  · exact Session.leaves_pure _
  · split
    · exact Session.leaves_pure _
    · exact leaves_loadSaved covers _

/-- A query only looks something up, also if it fails. -/
theorem leaves_query_of_covers (r : Resolver) (node : NodeAddress) (key : Attribute) :
    (r.query node key).Leaves kind := by
  rw [query]
  split
  · exact Session.leaves_pure _
  · refine (Session.leaves_lift (leaves_liveState_of_covers covers ..)).bind fun told => ?_
    split
    · exact Session.leaves_pure _
    · refine (leaves_saved covers r).bind fun known => ?_
      split
      · exact Session.leaves_pure _
      · exact Session.leaves_pure _

theorem leaves_queryLabel_of_covers (r : Resolver) (node : NodeAddress) :
    (r.queryLabel node).Leaves kind :=
  (leaves_query_of_covers covers ..).bind fun _ => (leaves_query_of_covers covers ..).bind
    fun _ => Session.leaves_pure _

end Covers

theorem leaves_liveState (r : Resolver) (node : NodeAddress) (key : Attribute) :
    (r.liveState node key).Leaves Event.IsLookup :=
  leaves_liveState_of_covers Event.coversLookups_isLookup r node key

theorem leaves_query (r : Resolver) (node : NodeAddress) (key : Attribute) :
    (r.query node key).Leaves Event.IsLookup :=
  leaves_query_of_covers Event.coversLookups_isLookup r node key

theorem leaves_queryLabel (r : Resolver) (node : NodeAddress) :
    (r.queryLabel node).Leaves Event.IsLookup :=
  leaves_queryLabel_of_covers Event.coversLookups_isLookup r node

end Resolver

namespace Question

/-- Whether the live state gives no value, or cannot be read. -/
def isOpen (q : Question) : Bool :=
  match q.held with
  | .ok (some _) => false
  | _ => true

/-- The calls of loading the store. -/
def loadCalls (q : Question) : List Call :=
  match q.resolver.store with
  | none => []
  | some store => (store.load.run q.loadWorld).calls

theorem calls_readEvents (q : Question) :
    Event.calls q.readEvents = (q.reading.run q.world).calls := by
  rw [readEvents, Event.calls_append]
  split
  · exact List.append_nil _
  · exact List.append_nil _

/-- The own node is known without any call. -/
theorem calls_ask_of_local {q : Question} (own : q.node = q.resolver.localAddress)
    (saved : SavedPlacements) : (q.ask saved).calls = [] := by
  rw [ask_of_local own]
  rfl

/-- For another node the live state is read, and the store is loaded if that leaves the question
open while nothing is saved. -/
theorem calls_ask {q : Question} (other : q.node ≠ q.resolver.localAddress)
    (saved : SavedPlacements) :
    (q.ask saved).calls = (q.reading.run q.world).calls ++
      if q.IsMiss ∧ saved = none then q.loadCalls else [] := by
  rw [← calls_readEvents]
  have report (event : Event) (isReport : event.IsReport) : Event.calls [event] = [] :=
    Event.calls_of_reports (by simpa using isReport)
  cases q.case saved with
  | own own => exact absurd own other
  | told _ told =>
    rw [ask_of_told other told, if_neg fun h => not_miss_of_told told h.1]
    exact (List.append_nil _).symm
  | untold _ untold =>
    rw [ask_of_untold other untold, if_neg fun h => not_miss_of_untold untold h.1]
    exact (List.append_nil _).symm
  | saved miss =>
    rw [ask_of_saved miss, if_neg (by simp)]
    exact (List.append_nil _).symm
  | absent miss absent =>
    rw [ask_of_no_store miss absent, if_pos ⟨miss, rfl⟩, loadCalls, absent]
    exact (List.append_nil _).symm
  | loaded miss stored loads =>
    rw [ask_of_loaded miss stored loads, if_pos ⟨miss, rfl⟩, loadCalls, stored]
    simp [Resolver.savedReport, Outcome.calls]
  | outage miss stored fails =>
    rw [ask_of_outage miss stored fails, if_pos ⟨miss, rfl⟩, loadCalls, stored]
    simp [Resolver.storeReport, Outcome.calls]
  | unloadable miss stored fails unread =>
    rw [ask_of_unloadable miss stored fails unread, if_pos ⟨miss, rfl⟩, loadCalls, stored]
    simp [Outcome.calls]

/-- A question about another node that is answered is a miss exactly if it is open. -/
theorem isMiss_iff_of_answered {q : Question} (other : q.node ≠ q.resolver.localAddress)
    {saved later : SavedPlacements} {text : String}
    (answered : (q.ask saved).result = .ok (.ok text, later)) : q.IsMiss ↔ q.isOpen = true := by
  rcases held : q.held with failure | _ | value
  · by_cases source : failure.IsSource
    · obtain ⟨error, rfl⟩ := source
      simp [IsMiss, isOpen, told, held, other]
    · rw [ask_of_untold other (told_eq_error.2 ⟨held, source⟩)] at answered
      cases answered
  · simp [IsMiss, isOpen, told, held, other]
  · simp [IsMiss, isOpen, told, held]

/-- An answer about another node whose source is in Redis took a node that can be written. -/
theorem isWritable_of_answered {q : Question} (other : q.node ≠ q.resolver.localAddress)
    {namespaceName : String} (source : q.resolver.membership = some (.redis namespaceName))
    {saved later : SavedPlacements} {text : String}
    (answered : (q.ask saved).result = .ok (.ok text, later)) : q.node.isWritable = true := by
  by_contra long
  have held : q.held = .error (.unwritable) := by
    rw [Question.held, reading, source]
    exact Membership.result_readRedis_of_unwritable (by simpa using long)
  have untold : q.told = .error (.unwritable) :=
    told_eq_error.2 ⟨held, by simp [Failure.IsSource]⟩
  rw [ask_of_untold other untold] at answered
  cases answered

end Question

end ClusterTopology
