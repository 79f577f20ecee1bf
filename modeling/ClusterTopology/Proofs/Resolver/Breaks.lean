import ClusterTopology.Proofs.Resolver.Course
import ClusterTopology.Proofs.Store.Breaks

/-!
# Questions without an answer

Sources that cannot be read never keep a question about another node from being
answered. What they hold can: a published value that is no text, and the data
that a store trips over while nothing is saved; and so can a node whose address
is too long to be written. A question is answered exactly if none of this is in
its way; else it fails, and what is saved stays.
-/

namespace ClusterTopology

namespace Membership

/-- Whether a hash of published values cannot tell one as text: the node's address cannot
be written, or the value is bytes that are no text. -/
def Garbles (membership : Membership) (w : World) (node : NodeAddress) (key : Attribute) : Prop :=
  match membership with
  | .static _ => False
  | .redis namespaceName =>
    node.isWritable = false ∨
      w.redis.failure = none ∧ ∃ value,
        Entries.get? (w.redis.hash (stateKey namespaceName node)) (.text key.name) = some value ∧
          value.IsGarbled

section Redis

variable {namespaceName : String} {w : World} {node : NodeAddress} {key : Attribute}

theorem result_readRedis_of_unwritable (long : node.isWritable = false) :
    ((readRedis namespaceName node key).run w).result =
      .error (.unwritable) := by
  rw [readRedis, if_neg (by simp [long]), Effect.run_fail]

theorem result_readRedis_of_failure {reason : String} (short : node.isWritable = true)
    (down : w.redis.failure = some reason) :
    ((readRedis namespaceName node key).run w).result =
      .error (.source (.membership node reason)) := by
  rw [readRedis, if_pos short, Effect.run_bind_of_ok rfl, Effect.run_bind_of_ok rfl]
  simp only [World.redis_after, down, Effect.run_fail]

theorem result_readRedis_of_missing (short : node.isWritable = true)
    (up : w.redis.failure = none)
    (missing : Entries.get? (w.redis.hash (stateKey namespaceName node)) (.text key.name) = none) :
    ((readRedis namespaceName node key).run w).result = .ok none := by
  rw [readRedis, if_pos short, Effect.run_bind_of_ok rfl, Effect.run_bind_of_ok rfl]
  simp only [World.redis_after, up, missing, Effect.run_pure]

/-- A value that is there is told as text. -/
theorem result_readRedis_of_found {value : Datum} (short : node.isWritable = true)
    (up : w.redis.failure = none)
    (found : Entries.get? (w.redis.hash (stateKey namespaceName node)) (.text key.name) =
      some value) :
    ((readRedis namespaceName node key).run w).result =
      (value.decode.mapError Failure.undecodable).map some := by
  rw [readRedis, if_pos short, Effect.run_bind_of_ok rfl, Effect.run_bind_of_ok rfl]
  simp only [World.redis_after, up, found]
  rcases value.decode with error | text
  · rfl
  · rfl

/-- What a node publishes in Redis depends on its own hash and on whether the server can be
read, and on nothing else in the world. -/
theorem excused_readRedis_congr {w' : World}
    (availability : w.redis.failure.isSome = w'.redis.failure.isSome)
    (state : w.redis.hash (stateKey namespaceName node) =
      w'.redis.hash (stateKey namespaceName node)) :
    Failure.excused none ((readRedis namespaceName node key).run w).result =
      Failure.excused none ((readRedis namespaceName node key).run w').result := by
  rcases short : node.isWritable with _ | _
  · rw [result_readRedis_of_unwritable short, result_readRedis_of_unwritable short]
  rcases up : w.redis.failure with _ | reason
  · have up' : w'.redis.failure = none := by simpa [up] using availability
    rcases found : Entries.get? (w.redis.hash (stateKey namespaceName node)) (.text key.name)
      with _ | value
    · rw [result_readRedis_of_missing short up found]
      rw [state] at found
      rw [result_readRedis_of_missing short up' found]
    · rw [result_readRedis_of_found short up found]
      rw [state] at found
      rw [result_readRedis_of_found short up' found]
  · rw [up] at availability
    obtain ⟨reason', down⟩ := Option.isSome_iff_exists.1 availability.symm
    rw [result_readRedis_of_failure short up, result_readRedis_of_failure short down]
    rfl

theorem trips_readRedis_iff : (readRedis namespaceName node key).Trips w ↔
    (Membership.redis namespaceName).Garbles w node key := by
  rw [Garbles]
  rcases short : node.isWritable with _ | _
  · have trips : (readRedis namespaceName node key).Trips w :=
      Effect.trips_of_error (result_readRedis_of_unwritable short) (by simp [Failure.IsSource])
    simp [trips]
  rcases up : w.redis.failure with _ | reason
  · rcases found : Entries.get? (w.redis.hash (stateKey namespaceName node)) (.text key.name)
      with _ | value
    · have keeps : ¬ (readRedis namespaceName node key).Trips w :=
        Effect.not_trips_of_ok (result_readRedis_of_missing short up found)
      simp [keeps]
    have result := result_readRedis_of_found short up found
    rcases decoded : value.decode with error | text
    · rw [decoded] at result
      have trips := Effect.trips_of_error result (by simp [Failure.IsSource])
      simp [trips, Datum.IsGarbled, decoded]
    · rw [decoded] at result
      have keeps : ¬ (readRedis namespaceName node key).Trips w := Effect.not_trips_of_ok result
      simp [keeps, Datum.IsGarbled, decoded]
  · have keeps : ¬ (readRedis namespaceName node key).Trips w :=
      Effect.not_trips_of_source (result_readRedis_of_failure short up)
    simp [keeps]

end Redis

/-- Reading the live state fails otherwise than by an unreadable source exactly if the
hash cannot tell the value. -/
theorem trips_get_iff {membership : Membership} {w : World} {node : NodeAddress}
    {key : Attribute} : (membership.get node key).Trips w ↔ membership.Garbles w node key := by
  cases membership with
  | static states =>
    have keeps : ¬ ((Membership.static states).get node key).Trips w :=
      Effect.not_trips_of_ok rfl
    simp [keeps, Garbles]
  | redis namespaceName => exact trips_readRedis_iff

end Membership

namespace Question

/-- What keeps a question from being answered, by what is saved before it. -/
inductive Breaks (q : Question) : SavedPlacements → Prop where
  | state {saved : SavedPlacements} {membership : Membership}
      (other : q.node ≠ q.resolver.localAddress)
      (source : q.resolver.membership = some membership)
      (garbled : membership.Garbles q.world q.node q.key) : Breaks q saved
  | store {store : Store} (miss : q.IsMiss) (stored : q.resolver.store = some store)
      (breaks : store.Breaks q.loadWorld) : Breaks q none

/-- The live state fails a question exactly if it cannot tell what it holds. -/
theorem untold_iff (q : Question) : (∃ failure, q.told = .error failure) ↔
    ∃ membership, q.resolver.membership = some membership ∧
      membership.Garbles q.world q.node q.key := by
  have trips : (∃ failure, q.told = .error failure) ↔ q.reading.Trips q.world := by
    constructor
    · rintro ⟨failure, untold⟩
      exact ⟨failure, told_eq_error.1 untold⟩
    · rintro ⟨failure, fails⟩
      exact ⟨failure, told_eq_error.2 fails⟩
  rw [trips]
  rcases source : q.resolver.membership with _ | membership
  · have keeps : ¬ q.reading.Trips q.world := by
      rw [reading, source]
      exact Effect.not_trips_of_ok rfl
    simp [keeps]
  · rw [reading, source]
    simp [Membership.trips_get_iff]

/-- A question that breaks fails, and what is saved stays. -/
theorem Breaks.ask {q : Question} {saved : SavedPlacements} (breaks : q.Breaks saved) :
    ∃ failure, ¬ failure.IsSource ∧ (q.ask saved).result = .ok (.error failure, saved) := by
  cases breaks with
  | state other source garbled =>
    obtain ⟨failure, untold⟩ := q.untold_iff.2 ⟨_, source, garbled⟩
    exact ⟨failure, (told_eq_error.1 untold).2, by rw [ask_of_untold other untold]⟩
  | store miss stored breaks =>
    obtain ⟨failure, fails, other⟩ := (Store.trips_load_iff _ _).2 breaks
    exact ⟨failure, other, by rw [ask_of_unloadable miss stored fails other]⟩

/-- A question that does not break is answered. -/
theorem ask_of_not_breaks {q : Question} {saved : SavedPlacements} (whole : ¬ q.Breaks saved) :
    ∃ text later, (q.ask saved).result = .ok (.ok text, later) := by
  cases q.case saved with
  | own own => exact ⟨_, _, by rw [ask_of_local own]⟩
  | told other told => exact ⟨_, _, by rw [ask_of_told other told]⟩
  | untold other untold =>
    obtain ⟨membership, source, garbled⟩ := q.untold_iff.1 ⟨_, untold⟩
    exact absurd (.state other source garbled) whole
  | saved miss => exact ⟨_, _, by rw [ask_of_saved miss]⟩
  | absent miss absent => exact ⟨_, _, by rw [ask_of_no_store miss absent]⟩
  | loaded miss stored loads => exact ⟨_, _, by rw [ask_of_loaded miss stored loads]⟩
  | outage miss stored fails => exact ⟨_, _, by rw [ask_of_outage miss stored fails]⟩
  | unloadable miss stored fails other =>
    have breaks := (Store.trips_load_iff _ _).1 ⟨_, fails, other⟩
    exact absurd (.store miss stored breaks) whole

theorem answered_iff (q : Question) (saved : SavedPlacements) :
    (∃ text later, (q.ask saved).result = .ok (.ok text, later)) ↔ ¬ q.Breaks saved := by
  constructor
  · rintro ⟨text, later, answered⟩ breaks
    obtain ⟨failure, -, fails⟩ := breaks.ask
    rw [answered] at fails
    cases fails
  · exact ask_of_not_breaks

end Question

namespace Course

/-- In every course, whatever its snitch, its world and its memory are, a query for one
attribute of a node gives a text unless the data of its sources breaks it; then it fails
otherwise than by an unreadable source, and what is saved stays. A query for a label
gives one unless one of its two questions breaks. -/
theorem answered_iff_not_breaks (c : Course) (node : NodeAddress) :
    (∀ key,
      ((∃ text later, ((c.snitch.resolver.query node key).run c.saved c.world).result =
        .ok (.ok text, later)) ↔ ¬ (c.question key node).Breaks c.saved) ∧
      ((c.question key node).Breaks c.saved → ∃ failure, ¬ failure.IsSource ∧
        ((c.snitch.resolver.query node key).run c.saved c.world).result =
          .ok (.error failure, c.saved))) ∧
    ((∃ label later, ((c.snitch.resolver.queryLabel node).run c.saved c.world).result =
        .ok (.ok label, later)) ↔
      ¬ (c.question .datacenter node).Breaks c.saved ∧
        ¬ ((c.query .datacenter node).question .rack node).Breaks
          (c.query .datacenter node).saved) := by
  refine ⟨fun key => ⟨(c.question key node).answered_iff c.saved, Question.Breaks.ask⟩, ?_⟩
  rw [← Question.answered_iff, ← Question.answered_iff]
  -- The rack is asked for only if the datacenter was answered, with what that has saved.
  obtain ⟨failure | datacenter, later, first⟩ := (c.question .datacenter node).ask_ends c.saved
  · rw [run_queryLabel_of_failed first]
    simp [first]
  obtain ⟨ended, last, second⟩ :=
    ((c.query .datacenter node).question .rack node).ask_ends (c.query .datacenter node).saved
  rw [run_queryLabel_of_answered first second]
  cases ended with
  | error failure => simp [second, Except.map]
  | ok rack => simp [first, second, Except.map]

/-- A published value that is a single byte, which no text begins with. -/
example :
    let node : NodeAddress := ⟨"n", 7000⟩
    let resolver : Resolver := ⟨⟨"m", 7000⟩, ⟨"ea", "1"⟩, some (.redis "r"), none⟩
    let w : World := {
      http := fun _ => .unreachable ""
      redis := ⟨[("r:gossip:n:7000", [(.text "rack", .bytes [0xff])])], none, none⟩
      files := Files.empty
      log := none
      time := "" }
    ((resolver.query node .rack).run none w).result =
      .ok (.error (.undecodable ⟨0, 1, 0xff, .start⟩), none) := by
  rfl

end Course

end ClusterTopology
