import ClusterTopology.Proofs.Effect
import ClusterTopology.Resolver

/-!
# Questions put to a resolver

A question asks for one attribute of a node, with the sources and the world of
its moment. This module says how each kind of question is answered: about the
own node, about a node with live state, and about a node without, where the
saved placements decide or the store is loaded first.
-/

namespace ClusterTopology

namespace Resolver

/-- The report on live state that cannot be read. -/
def stateReport (node : NodeAddress) (error : SourceError) : Event :=
  .log ⟨logger, .warning,
    "Membership state unavailable for " ++ node.toText ++ ": " ++ error.message⟩

/-- The report on placements that are saved from now on. -/
def savedReport (placements : Placements) : Event :=
  .log ⟨logger, .debug, "Cached " ++ toString placements.length ++ " persisted placements"⟩

/-- The report on a store that cannot be read. -/
def storeReport (error : SourceError) : Event :=
  .log ⟨logger, .warning, "Persisted topology unavailable: " ++ error.message⟩

/-- What a store holds is saved and reported. -/
theorem run_loadSaved_of_ok {store : Store} {placements : Placements} {w : World}
    (saved : SavedPlacements) (h : (store.load.run w).result = .ok placements) :
    (loadSaved store).run saved w =
      ⟨.ok (.ok placements, some placements),
        (store.load.run w).events ++ [savedReport placements]⟩ := by
  have attempted : (store.load.attempt.run w).result = .ok (.ok placements) :=
    congrArg Except.ok h
  rw [loadSaved, Session.run_lift_bind_of_ok attempted, Session.run_bind_of_ok rfl,
    Session.run_lift_bind_of_ok rfl, Session.run_pure]
  rfl

/-- A store that cannot be read holds nothing, and nothing is saved of that. -/
theorem run_loadSaved_of_source {store : Store} {error : SourceError} {w : World}
    (saved : SavedPlacements) (h : (store.load.run w).result = .error (.source error)) :
    (loadSaved store).run saved w =
      ⟨.ok (.ok [], saved), (store.load.run w).events ++ [storeReport error]⟩ := by
  have attempted : (store.load.attempt.run w).result = .ok (.error (.source error)) :=
    congrArg Except.ok h
  rw [loadSaved, Session.run_lift_bind_of_ok attempted,
    Session.run_lift_bind_of_ok rfl, Session.run_pure]
  rfl

theorem run_loadSaved_of_failure {store : Store} {failure : Failure} {w : World}
    (saved : SavedPlacements) (h : (store.load.run w).result = .error failure)
    (other : ¬ failure.IsSource) :
    (loadSaved store).run saved w =
      ⟨.ok (.error failure, saved), (store.load.run w).events⟩ := by
  have attempted : (store.load.attempt.run w).result = .ok (.error failure) :=
    congrArg Except.ok h
  rw [loadSaved, Session.run_lift_bind_of_ok attempted]
  cases failure with
  | source error => exact absurd ⟨error, rfl⟩ other
  | _ =>
    rw [Session.run_lift, Effect.run_fail]
    exact congrArg (Outcome.mk _) (List.append_nil _)

theorem run_saved_of_some (r : Resolver) (known : Placements) (w : World) :
    r.saved.run (some known) w = ⟨.ok (.ok known, some known), []⟩ := by
  rw [saved, Session.run_bind_of_ok rfl]
  rfl

theorem run_saved_of_no_store {r : Resolver} (absent : r.store = none) (w : World) :
    r.saved.run none w = ⟨.ok (.ok [], none), []⟩ := by
  rw [saved, Session.run_bind_of_ok rfl, absent]
  rfl

/-- What loading the placements in a world gives; without a store there are none. -/
def recordIn (r : Resolver) (w : World) : Except Failure Placements :=
  match r.store with
  | none => .ok []
  | some store => (store.load.run w).result

theorem recordIn_of_store {r : Resolver} {store : Store} (stored : r.store = some store)
    (w : World) : r.recordIn w = (store.load.run w).result := by
  rw [recordIn, stored]

theorem recordIn_of_no_store {r : Resolver} (absent : r.store = none) (w : World) :
    r.recordIn w = .ok [] := by
  rw [recordIn, absent]

theorem run_saved_of_store {r : Resolver} {store : Store} (stored : r.store = some store)
    (w : World) : r.saved.run none w = (loadSaved store).run none w := by
  rw [saved, Session.run_bind_of_ok rfl, stored]
  rfl

end Resolver

/-- A question for one attribute of a node, put to a resolver with the sources
that it has at that moment. -/
structure Question where
  resolver : Resolver
  world : World
  node : NodeAddress
  key : Attribute

namespace Question

/-- Reads what the node has published. -/
def reading (q : Question) : Effect (Option String) :=
  match q.resolver.membership with
  | none => pure none
  | some membership => membership.get q.node q.key

/-- What the live state holds about the node at the moment of the question. -/
def held (q : Question) : Except Failure (Option String) :=
  (q.reading.run q.world).result

/-- The same question to a resolver with another store. -/
def withStore (q : Question) (store : Option Store) : Question :=
  { q with resolver := { q.resolver with store } }

/-- What the resolver makes of the live state: a source that cannot be read
tells nothing. -/
def told (q : Question) : Except Failure (Option String) :=
  match q.held with
  | .error (.source _) => .ok none
  | held => held

/-- The events of reading the live state. -/
def readEvents (q : Question) : List Event :=
  (q.reading.run q.world).events ++
    match q.held with
    | .error (.source error) => [Resolver.stateReport q.node error]
    | _ => []

/-- Whether a question about another node is left open by the live state. -/
def IsMiss (q : Question) : Prop :=
  q.node ≠ q.resolver.localAddress ∧ q.told = .ok none

instance (q : Question) : Decidable q.IsMiss :=
  match told : q.told with
  | .ok none => decidable_of_iff (q.node ≠ q.resolver.localAddress) (by simp [IsMiss, told])
  | .ok (some _) => isFalse (by simp [IsMiss, told])
  | .error _ => isFalse (by simp [IsMiss, told])

/-- The world in which the store is loaded for a question. -/
def loadWorld (q : Question) : World :=
  q.world.after q.readEvents

/-- What some placements say in answer to a question. -/
def answerIn (q : Question) (placements : Option Placements) : String :=
  match placements.bind fun known => Entries.get? known q.node with
  | some placement => placement.get q.key
  | none => q.key.unknown

/-- Puts a question to its resolver, which has saved some placements or none. -/
def ask (q : Question) (saved : SavedPlacements) :
    Outcome (Except Failure String × SavedPlacements) :=
  (q.resolver.query q.node q.key).run saved q.world

/-- The live state is read once, and a source error of it is reported. -/
theorem run_liveState (q : Question) :
    (q.resolver.liveState q.node q.key).run q.world = ⟨q.told, q.readEvents⟩ := by
  rcases hm : q.resolver.membership with _ | membership
  · simp [Resolver.liveState, told, held, readEvents, reading, hm, Effect.run_pure]
  · have hr : q.reading = membership.get q.node q.key := by simp [reading, hm]
    simp only [Resolver.liveState, hm, Effect.run_attempt_bind, told, held, readEvents, hr]
    rcases ((membership.get q.node q.key).run q.world).result with failure | value
    · cases failure <;>
        simp [Effect.run_fail, Effect.run_report_bind, Effect.run_pure, Resolver.stateReport,
          Outcome.following]
    · simp [Effect.run_pure, Outcome.following]

theorem ask_of_local {q : Question} (own : q.node = q.resolver.localAddress)
    (saved : SavedPlacements) :
    q.ask saved = ⟨.ok (.ok (q.resolver.label.get q.key), saved), []⟩ := by
  rw [ask, Resolver.query, if_pos own, Session.run_pure]

/-- A question about another node begins with its live state. -/
theorem ask_of_other {q : Question} (other : q.node ≠ q.resolver.localAddress)
    (saved : SavedPlacements) :
    q.ask saved = (q.resolver.resolve q.node q.key).run saved q.world := by
  rw [ask, Resolver.query, if_neg other]

/-- A value of the live state is the answer, whatever is saved or stored. -/
theorem ask_of_told {q : Question} {value : String}
    (other : q.node ≠ q.resolver.localAddress) (told : q.told = .ok (some value))
    (saved : SavedPlacements) :
    q.ask saved = ⟨.ok (.ok value, saved), q.readEvents⟩ := by
  have read := congrArg Outcome.result q.run_liveState
  rw [told] at read
  rw [ask_of_other other, Resolver.resolve, Session.run_lift_bind_of_ok read,
    Session.run_pure, q.run_liveState]
  exact congrArg (Outcome.mk _) (List.append_nil _)

/-- A failure of the live state that is not one of a source is passed on. -/
theorem ask_of_untold {q : Question} {failure : Failure}
    (other : q.node ≠ q.resolver.localAddress) (untold : q.told = .error failure)
    (saved : SavedPlacements) :
    q.ask saved = ⟨.ok (.error failure, saved), q.readEvents⟩ := by
  have read := congrArg Outcome.result q.run_liveState
  rw [untold] at read
  rw [ask_of_other other, Resolver.resolve, Session.run_lift_bind_of_error read,
    q.run_liveState]

/-- A question that the live state leaves open goes to the saved placements. -/
theorem ask_of_miss {q : Question} (miss : q.IsMiss) (saved : SavedPlacements) :
    q.ask saved =
      ((q.resolver.saved >>= fun known => pure (q.answerIn (some known)) :
        Session SavedPlacements String).run saved q.loadWorld).following q.readEvents := by
  have read := congrArg Outcome.result q.run_liveState
  rw [miss.2] at read
  rw [ask_of_other miss.1, Resolver.resolve, Session.run_lift_bind_of_ok read,
    q.run_liveState]
  change ((q.resolver.saved >>= fun known => _).run saved q.loadWorld).following q.readEvents = _
  congr 2
  apply congrArg (q.resolver.saved >>= ·)
  funext known
  rcases found : Entries.get? known q.node with _ | placement
  · simp [answerIn, found]
  · simp [answerIn, found]

/-- The placements that are found for a miss are what it is answered from. -/
theorem ask_of_found {q : Question} (miss : q.IsMiss) {saved later : SavedPlacements}
    {known : Placements} {events : List Event}
    (found : q.resolver.saved.run saved q.loadWorld = ⟨.ok (.ok known, later), events⟩) :
    q.ask saved = ⟨.ok (.ok (q.answerIn (some known)), later), q.readEvents ++ events⟩ := by
  rw [ask_of_miss miss, Session.run_bind_of_ok (congrArg Outcome.result found), found]
  exact congrArg (Outcome.mk _) (congrArg _ (List.append_nil _))

/-- Saved placements answer a miss; the store is not loaded. -/
theorem ask_of_saved {q : Question} (miss : q.IsMiss) (known : Placements) :
    q.ask (some known) = ⟨.ok (.ok (q.answerIn (some known)), some known), q.readEvents⟩ := by
  rw [ask_of_found miss (Resolver.run_saved_of_some ..), List.append_nil]

/-- Without a store nobody knows a node that the live state does not tell. -/
theorem ask_of_no_store {q : Question} (miss : q.IsMiss) (absent : q.resolver.store = none) :
    q.ask none = ⟨.ok (.ok q.key.unknown, none), q.readEvents⟩ := by
  rw [ask_of_found miss (Resolver.run_saved_of_no_store absent _), List.append_nil]
  rfl

/-- A store that loads answers a miss, and what it holds is saved. -/
theorem ask_of_loaded {q : Question} {store : Store} {placements : Placements}
    (miss : q.IsMiss) (stored : q.resolver.store = some store)
    (loads : (store.load.run q.loadWorld).result = .ok placements) :
    q.ask none =
      ⟨.ok (.ok (q.answerIn (some placements)), some placements),
        q.readEvents ++ ((store.load.run q.loadWorld).events ++
          [Resolver.savedReport placements])⟩ := by
  apply ask_of_found miss
  rw [Resolver.run_saved_of_store stored, Resolver.run_loadSaved_of_ok none loads]

/-- A store that cannot be read leaves a miss unanswered, and nothing is saved. -/
theorem ask_of_outage {q : Question} {store : Store} {error : SourceError}
    (miss : q.IsMiss) (stored : q.resolver.store = some store)
    (fails : (store.load.run q.loadWorld).result = .error (.source error)) :
    q.ask none =
      ⟨.ok (.ok q.key.unknown, none),
        q.readEvents ++ ((store.load.run q.loadWorld).events ++
          [Resolver.storeReport error])⟩ := by
  have found : q.resolver.saved.run none q.loadWorld =
      ⟨.ok (.ok [], none), (store.load.run q.loadWorld).events ++
        [Resolver.storeReport error]⟩ := by
    rw [Resolver.run_saved_of_store stored, Resolver.run_loadSaved_of_source none fails]
  exact ask_of_found miss found

theorem ask_of_unloadable {q : Question} {store : Store} {failure : Failure}
    (miss : q.IsMiss) (stored : q.resolver.store = some store)
    (fails : (store.load.run q.loadWorld).result = .error failure)
    (other : ¬ failure.IsSource) :
    q.ask none =
      ⟨.ok (.error failure, none), q.readEvents ++ (store.load.run q.loadWorld).events⟩ := by
  have found : q.resolver.saved.run none q.loadWorld =
      ⟨.ok (.error failure, none), (store.load.run q.loadWorld).events⟩ := by
    rw [Resolver.run_saved_of_store stored,
      Resolver.run_loadSaved_of_failure none fails other]
  rw [ask_of_miss miss, Session.run_bind_of_error (congrArg Outcome.result found), found]
  rfl

/-- Whether the sources of a question fail, if they do, by being unreadable only. -/
def FailsOnlyBySource (q : Question) : Prop :=
  (∀ failure, q.held = .error failure → failure.IsSource) ∧
  ∀ store failure, q.resolver.store = some store →
    (store.load.run q.loadWorld).result = .error failure → failure.IsSource

theorem told_eq_excused (q : Question) : q.told = Failure.excused none q.held := by
  unfold told
  rcases q.held with failure | value
  · cases failure <;> rfl
  · rfl

/-- A value that is held is told, also an empty one. -/
theorem told_of_held {q : Question} {value : String} (held : q.held = .ok (some value)) :
    q.told = .ok (some value) := by
  rw [told, held]

/-- Only a failure of the live state other than by an unreadable source is passed on. -/
theorem told_eq_error {q : Question} {failure : Failure} :
    q.told = .error failure ↔ q.held = .error failure ∧ ¬ failure.IsSource := by
  rcases held : q.held with cause | value
  · by_cases source : cause.IsSource
    · obtain ⟨error, rfl⟩ := source
      have silent : q.told = .ok none := by rw [told, held]
      simp only [silent, reduceCtorEq, false_iff, not_and, Except.error.injEq]
      rintro rfl other
      exact other ⟨error, rfl⟩
    · have passed : q.told = .error cause := by
        rw [told, held]
        cases cause with
        | source error => exact absurd ⟨error, rfl⟩ source
        | _ => rfl
      simp only [passed, Except.error.injEq, iff_self_and]
      rintro rfl
      exact source
  · simp [told, held]

theorem not_miss_of_told {q : Question} {value : String} (told : q.told = .ok (some value)) :
    ¬ q.IsMiss := fun miss => by simp [miss.2] at told

theorem not_miss_of_untold {q : Question} {failure : Failure} (untold : q.told = .error failure) :
    ¬ q.IsMiss := fun miss => by simp [miss.2] at untold

/-- The ways in which a question can go, by what is saved before it. -/
inductive Case (q : Question) : SavedPlacements → Prop where
  | own {saved} (own : q.node = q.resolver.localAddress) : Case q saved
  | told {saved value} (other : q.node ≠ q.resolver.localAddress)
      (told : q.told = .ok (some value)) : Case q saved
  | untold {saved failure} (other : q.node ≠ q.resolver.localAddress)
      (untold : q.told = .error failure) : Case q saved
  | saved {known} (miss : q.IsMiss) : Case q (some known)
  | absent (miss : q.IsMiss) (absent : q.resolver.store = none) : Case q none
  | loaded {store placements} (miss : q.IsMiss) (stored : q.resolver.store = some store)
      (loads : (store.load.run q.loadWorld).result = .ok placements) : Case q none
  | outage {store error} (miss : q.IsMiss) (stored : q.resolver.store = some store)
      (fails : (store.load.run q.loadWorld).result = .error (.source error)) : Case q none
  | unloadable {store failure} (miss : q.IsMiss) (stored : q.resolver.store = some store)
      (fails : (store.load.run q.loadWorld).result = .error failure)
      (other : ¬ failure.IsSource) : Case q none

/-- Every question goes one of these ways. -/
theorem case (q : Question) (saved : SavedPlacements) : q.Case saved := by
  by_cases own : q.node = q.resolver.localAddress
  · exact .own own
  rcases told : q.told with failure | _ | value
  · exact .untold own told
  · have miss : q.IsMiss := ⟨own, told⟩
    rcases saved with _ | known
    · rcases stored : q.resolver.store with _ | store
      · exact .absent miss stored
      rcases fails : (store.load.run q.loadWorld).result with failure | placements
      · by_cases source : failure.IsSource
        · obtain ⟨error, rfl⟩ := source
          exact .outage miss stored fails
        · exact .unloadable miss stored fails source
      · exact .loaded miss stored fails
    · exact .saved miss
  · exact .told own told

/-- A question always ends, with an answer or a failure, and leaves a memory. -/
theorem ask_ends (q : Question) (saved : SavedPlacements) :
    ∃ ended later, (q.ask saved).result = .ok (ended, later) := by
  cases q.case saved with
  | own own => exact ⟨_, _, by rw [ask_of_local own]⟩
  | told other told => exact ⟨_, _, by rw [ask_of_told other told]⟩
  | untold other untold => exact ⟨_, _, by rw [ask_of_untold other untold]⟩
  | saved miss => exact ⟨_, _, by rw [ask_of_saved miss]⟩
  | absent miss absent => exact ⟨_, _, by rw [ask_of_no_store miss absent]⟩
  | loaded miss stored loads => exact ⟨_, _, by rw [ask_of_loaded miss stored loads]⟩
  | outage miss stored fails => exact ⟨_, _, by rw [ask_of_outage miss stored fails]⟩
  | unloadable miss stored fails other =>
    exact ⟨_, _, by rw [ask_of_unloadable miss stored fails other]⟩

/-- The placements that a question has loaded if nothing is saved before it. -/
def yields (q : Question) : Option Placements :=
  if q.IsMiss then
    q.resolver.store.bind fun store => (store.load.run q.loadWorld).result.toOption
  else none

theorem yields_of_not_miss {q : Question} (settled : ¬ q.IsMiss) : q.yields = none :=
  if_neg settled

theorem loaded_of_yields {q : Question} {known : Placements} (yields : q.yields = some known) :
    ∃ store, q.resolver.store = some store ∧
      (store.load.run q.loadWorld).result = .ok known := by
  rw [Question.yields] at yields
  split at yields
  · obtain ⟨store, stored, loads⟩ := Option.bind_eq_some_iff.1 yields
    refine ⟨store, stored, ?_⟩
    rcases ends : (store.load.run q.loadWorld).result with failure | placements
    · simp [ends, Except.toOption] at loads
    · simpa [ends, Except.toOption] using loads
  · cases yields

/-- What is saved stays saved; else a question saves what it has loaded. -/
theorem kept_ask (q : Question) (saved : SavedPlacements) :
    Session.kept saved (q.ask saved) = saved.or q.yields := by
  cases q.case saved with
  | own own =>
    rw [ask_of_local own, yields_of_not_miss fun miss => miss.1 own]
    simp [Session.kept]
  | told other told =>
    rw [ask_of_told other told, yields_of_not_miss (not_miss_of_told told)]
    simp [Session.kept]
  | untold other untold =>
    rw [ask_of_untold other untold, yields_of_not_miss (not_miss_of_untold untold)]
    simp [Session.kept]
  | saved miss =>
    rw [ask_of_saved miss]
    rfl
  | absent miss absent =>
    rw [ask_of_no_store miss absent]
    simp [Session.kept, yields, absent]
  | loaded miss stored loads =>
    rw [ask_of_loaded miss stored loads]
    simp [Session.kept, yields, miss, stored, loads, Except.toOption]
  | outage miss stored fails =>
    rw [ask_of_outage miss stored fails]
    simp [Session.kept, yields, stored, fails, Except.toOption]
  | unloadable miss stored fails other =>
    rw [ask_of_unloadable miss stored fails other]
    simp [Session.kept, yields, stored, fails, Except.toOption]

/-- A miss is answered from what is saved, else from what it has loaded. -/
theorem result_ask_of_miss {q : Question} (miss : q.IsMiss) (sources : q.FailsOnlyBySource)
    (saved : SavedPlacements) :
    (q.ask saved).result = .ok (.ok (q.answerIn (saved.or q.yields)), saved.or q.yields) := by
  cases q.case saved with
  | own own => exact absurd own miss.1
  | told _ told => exact absurd miss (not_miss_of_told told)
  | untold _ untold => exact absurd miss (not_miss_of_untold untold)
  | saved _ => rw [ask_of_saved miss, Option.some_or]
  | absent _ absent =>
    rw [ask_of_no_store miss absent]
    simp [yields, absent, answerIn]
  | loaded _ stored loads =>
    rw [ask_of_loaded miss stored loads]
    simp [yields, miss, stored, loads, Except.toOption]
  | outage _ stored fails =>
    rw [ask_of_outage miss stored fails]
    simp [yields, stored, fails, Except.toOption, answerIn]
  | unloadable _ stored fails other => exact absurd (sources.2 _ _ stored fails) other

/-- While nothing is saved, a miss has the store loaded once, and reports on that. -/
theorem events_ask_of_miss {q : Question} (miss : q.IsMiss) (sources : q.FailsOnlyBySource)
    {store : Store} (stored : q.resolver.store = some store) :
    ∃ report, (q.ask none).events =
      q.readEvents ++ ((store.load.run q.loadWorld).events ++ [report]) := by
  rcases fails : (store.load.run q.loadWorld).result with failure | placements
  · obtain ⟨error, rfl⟩ := sources.2 _ _ stored fails
    rw [ask_of_outage miss stored fails]
    exact ⟨_, rfl⟩
  · rw [ask_of_loaded miss stored fails]
    exact ⟨_, rfl⟩

/-- The answer to a question where the store holds a record or fails to tell it, whether
the record is loaded for the question or was saved before. -/
def settled (q : Question) (record : Except Failure Placements) : Except Failure String :=
  if q.node = q.resolver.localAddress then .ok (q.resolver.label.get q.key)
  else
    match q.told with
    | .ok (some value) => .ok value
    | .ok none => (Failure.excused [] record).map fun known => q.answerIn (some known)
    | .error failure => .error failure

theorem settled_of_miss {q : Question} (miss : q.IsMiss) (record : Except Failure Placements) :
    q.settled record =
      (Failure.excused [] record).map fun known => q.answerIn (some known) := by
  rw [settled, if_neg miss.1, miss.2]

/-- The record matters only to a question that the live state leaves open. -/
theorem settled_of_not_miss {q : Question} (settles : ¬ q.IsMiss)
    (record other : Except Failure Placements) : q.settled record = q.settled other := by
  rw [settled, settled]
  by_cases own : q.node = q.resolver.localAddress
  · rw [if_pos own, if_pos own]
  · rcases told : q.told with failure | _ | value
    · rfl
    · exact absurd ⟨own, told⟩ settles
    · rfl

/-- The same question at another moment is answered alike if the live state and the store
tell the same. -/
theorem settled_congr {q q' : Question} {record record' : Except Failure Placements}
    (resolver : q.resolver = q'.resolver) (node : q.node = q'.node) (key : q.key = q'.key)
    (told : q.told = q'.told) (same : Failure.excused [] record = Failure.excused [] record') :
    q.settled record = q'.settled record' := by
  rw [settled, settled, resolver, node, key, told, same]
  simp only [answerIn, node, key]

/-- If nothing was saved but what the store holds, a question is answered as if the store
were loaded for it. -/
theorem ended_ask {q : Question} {saved : SavedPlacements}
    (current : q.IsMiss → ∀ known, saved = some known →
      Failure.excused [] (q.resolver.recordIn q.loadWorld) = .ok known) :
    Session.ended (q.ask saved) = q.settled (q.resolver.recordIn q.loadWorld) := by
  cases q.case saved with
  | own own =>
    rw [ask_of_local own, settled, if_pos own]
    rfl
  | told other told =>
    rw [ask_of_told other told, settled, if_neg other, told]
    rfl
  | untold other untold =>
    rw [ask_of_untold other untold, settled, if_neg other, untold]
    rfl
  | saved miss =>
    rw [ask_of_saved miss, settled_of_miss miss, current miss _ rfl]
    rfl
  | absent miss absent =>
    rw [ask_of_no_store miss absent, settled_of_miss miss, Resolver.recordIn_of_no_store absent]
    rfl
  | loaded miss stored loads =>
    rw [ask_of_loaded miss stored loads, settled_of_miss miss, Resolver.recordIn_of_store stored,
      loads]
    rfl
  | outage miss stored fails =>
    rw [ask_of_outage miss stored fails, settled_of_miss miss, Resolver.recordIn_of_store stored,
      fails]
    rfl
  | unloadable miss stored fails other =>
    rw [ask_of_unloadable miss stored fails other, settled_of_miss miss,
      Resolver.recordIn_of_store stored, fails, Failure.excused_of_other other]
    rfl

end Question

end ClusterTopology
