import ClusterTopology.Proofs.Address.Keys
import ClusterTopology.Proofs.Resolver.Breaks
import Mathlib.Data.List.Forall2

/-!
# What other nodes publish

A resolver that has both its sources in Redis, under one namespace, is used
twice. All that differs between the two uses, at any moment, is what nodes other
than a certain one publish; the hash of placements and whether Redis can be read
stay as they were. Then every query about that node ends alike in both: its own
hash is the same, and whatever was saved is what the hash of placements tells.
The questions about other nodes may be answered differently, and one use may
load the placements earlier than the other.
-/

namespace ClusterTopology

/-- Two servers that differ in nothing but what nodes other than one publish in a
namespace. -/
structure Redis.SameBut (namespaceName : String) (node : NodeAddress) (r r' : Redis) : Prop where
  availability : r.failure.isSome = r'.failure.isSome
  hash : ∀ key, (∀ other, other ≠ node → key ≠ Membership.stateKey namespaceName other) →
    r.hash key = r'.hash key

namespace Redis.SameBut

variable {namespaceName : String} {node : NodeAddress} {r r' : Redis}

/-- The hash of the node is the same on both servers. -/
theorem state (same : SameBut namespaceName node r r') :
    r.hash (Membership.stateKey namespaceName node) =
      r'.hash (Membership.stateKey namespaceName node) := by
  apply same.hash
  intro other different shared
  exact different (Membership.stateKey_inj.1 shared).symm

/-- The hash of placements is the same on both servers. -/
theorem peers (same : SameBut namespaceName node r r') :
    r.hash (Store.peersKey namespaceName) = r'.hash (Store.peersKey namespaceName) := by
  apply same.hash
  intro other _ shared
  exact Store.stateKey_ne_peersKey shared.symm

/-- What another node publishes changes nothing else. -/
theorem of_insert {other : NodeAddress} (different : other ≠ node) (r : Redis)
    (field value : Datum) :
    SameBut namespaceName node r
      (r.insert (Membership.stateKey namespaceName other) field value) where
  availability := rfl
  hash := by
    intro key apart
    have elsewhere : Membership.stateKey namespaceName other ≠ key :=
      (apart other different).symm
    rw [Redis.hash, Redis.hash, Redis.insert, Entries.get?_insert,
      if_neg (by simpa using elsewhere)]

end Redis.SameBut

/-- Whether a step leaves both sources in Redis under a namespace, and leaves the hash of
placements and the availability of the server as they are in a world. -/
def Step.Keeps (namespaceName : String) (origin : World) : Step → Prop
  | .change w membership store =>
    membership = some (.redis namespaceName) ∧ store = some (.redis namespaceName) ∧
      w.redis.failure.isSome = origin.redis.failure.isSome ∧
      w.redis.hash (Store.peersKey namespaceName) =
        origin.redis.hash (Store.peersKey namespaceName)
  | _ => True

/-- What happens at one moment of two uses: the same step in both, or changes to worlds
that differ in nothing but what nodes other than one publish. -/
inductive Step.Alike (namespaceName : String) (node : NodeAddress) : Step → Step → Prop
  | same {s : Step} (inside : ∀ w membership store, s ≠ .change w membership store) :
    Alike namespaceName node s s
  | change {w w' : World} {membership : Option Membership} {store : Option Store}
    (same : Redis.SameBut namespaceName node w.redis w'.redis) :
    Alike namespaceName node (.change w membership store) (.change w' membership store)

theorem Step.Alike.keeps {namespaceName : String} {node : NodeAddress} {origin : World}
    {s s' : Step} (alike : Alike namespaceName node s s') (keeps : s.Keeps namespaceName origin) :
    s'.Keeps namespaceName origin := by
  cases alike with
  | same _ => exact keeps
  | change same =>
    obtain ⟨membership, store, availability, peers⟩ := keeps
    exact ⟨membership, store, same.availability.symm.trans availability,
      same.peers.symm.trans peers⟩

namespace Course

variable {namespaceName : String} {node : NodeAddress} {origin : World} {c c' : Course}

/-- Only changes from outside change the snitch or the server. -/
theorem step_of_inside {s : Step} (inside : ∀ w membership store, s ≠ .change w membership store) :
    (c.step s).snitch = c.snitch ∧ (c.step s).world.redis = c.world.redis := by
  cases s with
  | change w membership store => exact absurd rfl (inside w membership store)
  | _ => exact ⟨rfl, World.redis_after ..⟩

theorem redis_query (c : Course) (key : Attribute) (node : NodeAddress) :
    (c.query key node).world.redis = c.world.redis :=
  World.redis_after ..

theorem redis_perform {α : Type} (c : Course) (effect : Effect α) :
    (c.perform effect).world.redis = c.world.redis :=
  World.redis_after ..

/-- A course with both sources in Redis, where the hash of placements and the availability
of the server are those of a world, and where nothing is saved but what that hash tells. -/
structure Steady (namespaceName : String) (origin : World) (c : Course) : Prop where
  membership : c.snitch.resolver.membership = some (.redis namespaceName)
  store : c.snitch.resolver.store = some (.redis namespaceName)
  availability : c.world.redis.failure.isSome = origin.redis.failure.isSome
  peers : c.world.redis.hash (Store.peersKey namespaceName) =
    origin.redis.hash (Store.peersKey namespaceName)
  saved : ∀ known, c.saved = some known →
    Failure.excused [] ((Store.loadRedis namespaceName).run origin).result = .ok known

namespace Steady

/-- What is loaded for a question is what the hash of placements tells. -/
theorem loads (steady : Steady namespaceName origin c) (q : Question)
    (now : q.world = c.world) :
    Failure.excused [] ((Store.redis namespaceName).load.run q.loadWorld).result =
      Failure.excused [] ((Store.loadRedis namespaceName).run origin).result := by
  rw [Store.load]
  apply Store.excused_loadRedis_congr
  · rw [Question.loadWorld, World.redis_after, now, steady.availability]
  · rw [Question.loadWorld, World.redis_after, now, steady.peers]

theorem query (steady : Steady namespaceName origin c) (key : Attribute) (node : NodeAddress) :
    Steady namespaceName origin (c.query key node) where
  membership := steady.membership
  store := steady.store
  availability := by rw [redis_query, steady.availability]
  peers := by rw [redis_query, steady.peers]
  saved := by
    intro known saved
    have keeps : (c.query key node).saved = c.saved.or (c.question key node).yields :=
      Question.kept_ask ..
    rw [keeps, Option.or_eq_some_iff] at saved
    -- What this question has loaded is what the unchanged hash tells.
    rcases saved with before | ⟨-, yields⟩
    · exact steady.saved known before
    · obtain ⟨store, stored, loads⟩ := Question.loaded_of_yields yields
      have same : store = .redis namespaceName := Option.some.inj (stored.symm.trans steady.store)
      rw [← steady.loads (c.question key node) rfl, ← same, loads]
      rfl

theorem perform {α : Type} (steady : Steady namespaceName origin c) (effect : Effect α) :
    Steady namespaceName origin (c.perform effect) where
  membership := steady.membership
  store := steady.store
  availability := by rw [redis_perform, steady.availability]
  peers := by rw [redis_perform, steady.peers]
  saved := steady.saved

/-- A steady course stays steady by a step that leaves the placements alone. -/
theorem step (steady : Steady namespaceName origin c) {s : Step}
    (keeps : s.Keeps namespaceName origin) : Steady namespaceName origin (c.step s) := by
  cases s with
  | query key node => exact steady.query key node
  | queryLabel node =>
    rcases c.step_queryLabel node with stops | goes
    · rw [stops]
      exact steady.query .datacenter node
    · rw [goes]
      exact (steady.query .datacenter node).query .rack node
  | validate datacenters racks => exact steady.perform _
  | validateAgainst locations datacenters racks => exact steady.perform _
  | close => exact steady.perform _
  | change w membership store =>
    obtain ⟨inRedis, stored, availability, peers⟩ := keeps
    exact ⟨inRedis, stored, availability, peers, steady.saved⟩

/-- A question in a steady course is answered from the live state and from what the hash of
placements tells, whether that was saved or not. -/
theorem ended_ask (steady : Steady namespaceName origin c) (key : Attribute)
    (node : NodeAddress) :
    Session.ended ((c.question key node).ask c.saved) =
      (c.question key node).settled ((Store.loadRedis namespaceName).run origin).result := by
  have record : (c.question key node).resolver.recordIn (c.question key node).loadWorld =
      ((Store.redis namespaceName).load.run (c.question key node).loadWorld).result :=
    Resolver.recordIn_of_store steady.store _
  have current : ∀ known, c.saved = some known → Failure.excused []
      ((c.question key node).resolver.recordIn (c.question key node).loadWorld) = .ok known := by
    intro known saved
    rw [record, steady.loads _ rfl, steady.saved known saved]
  rw [Question.ended_ask fun _ => current, record]
  exact Question.settled_congr rfl rfl rfl rfl (steady.loads _ rfl)

end Steady

/-- Two courses with one snitch, on servers that differ in nothing but what nodes other
than one publish. -/
structure Twins (namespaceName : String) (node : NodeAddress) (c c' : Course) : Prop where
  snitch : c.snitch = c'.snitch
  redis : Redis.SameBut namespaceName node c.world.redis c'.world.redis

namespace Twins

theorem step (twins : Twins namespaceName node c c') {s s' : Step}
    (alike : s.Alike namespaceName node s') :
    Twins namespaceName node (c.step s) (c'.step s') := by
  cases alike with
  | same inside =>
    obtain ⟨snitch, redis⟩ := c.step_of_inside inside
    obtain ⟨snitch', redis'⟩ := c'.step_of_inside inside
    refine ⟨by rw [snitch, snitch', twins.snitch], ?_⟩
    rw [redis, redis']
    exact twins.redis
  | change same =>
    refine ⟨?_, same⟩
    simp only [Course.step, twins.snitch]

theorem query (twins : Twins namespaceName node c c') (key : Attribute) (asked : NodeAddress) :
    Twins namespaceName node (c.query key asked) (c'.query key asked) := by
  refine ⟨twins.snitch, ?_⟩
  rw [redis_query, redis_query]
  exact twins.redis

/-- The live state says the same about the node in both courses. -/
theorem told (twins : Twins namespaceName node c c') (steady : Steady namespaceName origin c)
    (key : Attribute) : (c.question key node).told = (c'.question key node).told := by
  have source : c'.snitch.resolver.membership = some (.redis namespaceName) := by
    rw [← twins.snitch, steady.membership]
  have reading : (c.question key node).reading =
      Membership.readRedis namespaceName node key := by
    rw [Question.reading, question, steady.membership]
    rfl
  have reading' : (c'.question key node).reading =
      Membership.readRedis namespaceName node key := by
    rw [Question.reading, question, source]
    rfl
  rw [Question.told_eq_excused, Question.told_eq_excused, Question.held, Question.held, reading,
    reading']
  exact Membership.excused_readRedis_congr twins.redis.availability twins.redis.state

/-- A question about the node is answered alike in both courses. -/
theorem ended_ask (twins : Twins namespaceName node c c') (steady : Steady namespaceName origin c)
    (steady' : Steady namespaceName origin c') (key : Attribute) :
    Session.ended ((c.question key node).ask c.saved) =
      Session.ended ((c'.question key node).ask c'.saved) := by
  rw [steady.ended_ask, steady'.ended_ask]
  exact Question.settled_congr (congrArg Snitch.resolver twins.snitch) rfl rfl
    (twins.told steady key) rfl

end Twins

/-- Runs of alike steps lead twins to twins, and steady courses to steady ones. -/
theorem twins_run {steps steps' : List Step} (twins : Twins namespaceName node c c')
    (steady : Steady namespaceName origin c) (steady' : Steady namespaceName origin c')
    (alike : List.Forall₂ (Step.Alike namespaceName node) steps steps')
    (keeps : ∀ s ∈ steps, s.Keeps namespaceName origin) :
    Twins namespaceName node (c.run steps) (c'.run steps') ∧
      Steady namespaceName origin (c.run steps) ∧
      Steady namespaceName origin (c'.run steps') := by
  -- Along the pairs of steps; what a step needs is that both courses are steady before it.
  induction alike generalizing c c' with
  | nil => exact ⟨twins, steady, steady'⟩
  | @cons s s' rest rest' now later ih =>
    have kept : s.Keeps namespaceName origin := keeps s List.mem_cons_self
    apply ih (twins.step now) (steady.step kept) (steady'.step (now.keeps kept))
    intro t found
    exact keeps t (List.mem_cons_of_mem _ found)

/-- A resolver with both its sources in one namespace gives the same answers about a node
after any two runs that differ, at every moment, in nothing but what other nodes publish,
while the hash of placements and the availability of the server stay. -/
theorem ended_after_runs {snitch : Snitch} {w w' : World} {steps steps' : List Step}
    (membership : snitch.resolver.membership = some (.redis namespaceName))
    (store : snitch.resolver.store = some (.redis namespaceName))
    (same : Redis.SameBut namespaceName node w.redis w'.redis)
    (alike : List.Forall₂ (Step.Alike namespaceName node) steps steps')
    (keeps : ∀ s ∈ steps, s.Keeps namespaceName w) :
    let c := (start snitch w).run steps
    let c' := (start snitch w').run steps'
    (∀ key,
      Session.ended ((c.snitch.resolver.query node key).run c.saved c.world) =
        Session.ended ((c'.snitch.resolver.query node key).run c'.saved c'.world)) ∧
    Session.ended ((c.snitch.resolver.queryLabel node).run c.saved c.world) =
      Session.ended ((c'.snitch.resolver.queryLabel node).run c'.saved c'.world) := by
  intro c c'
  have beginning : Steady namespaceName w (start snitch w) :=
    ⟨membership, store, rfl, rfl, fun _ saved => by cases saved⟩
  have beginning' : Steady namespaceName w (start snitch w') :=
    ⟨membership, store, same.availability.symm, same.peers.symm, fun _ saved => by cases saved⟩
  have pair : Twins namespaceName node (start snitch w) (start snitch w') := ⟨rfl, same⟩
  obtain ⟨twins, steady, steady'⟩ := twins_run pair beginning beginning' alike keeps
  refine ⟨twins.ended_ask steady steady', ?_⟩
  -- The rack is asked for in the courses that the questions for the datacenter leave behind.
  have datacenters := twins.ended_ask steady steady' .datacenter
  have racks := (twins.query .datacenter node).ended_ask (steady.query .datacenter node)
    (steady'.query .datacenter node) .rack
  rw [ended_queryLabel, ended_queryLabel, datacenters, racks]

/-- Addresses are written alike only if they are one, so nodes share no hash within a
namespace, namespaces share no hash of placements, and none of those is one of these. So
what other nodes publish makes no difference to the answers about a node, in any two runs
of a resolver in which it is all that differs. -/
theorem isolated :
    (∀ a b : NodeAddress, a.isWritable = true → b.isWritable = true →
      ∃ s t, a.written = .ok s ∧ b.written = .ok t ∧ (s = t ↔ a = b)) ∧
    (∀ name a b, Membership.stateKey name a = Membership.stateKey name b ↔ a = b) ∧
    (∀ name other, Store.peersKey name = Store.peersKey other ↔ name = other) ∧
    (∀ name other a, Membership.stateKey name a ≠ Store.peersKey other) ∧
    ∀ (namespaceName : String) (node : NodeAddress) (snitch : Snitch) (w w' : World)
      (steps steps' : List Step),
      snitch.resolver.membership = some (.redis namespaceName) →
      snitch.resolver.store = some (.redis namespaceName) →
      Redis.SameBut namespaceName node w.redis w'.redis →
      List.Forall₂ (Step.Alike namespaceName node) steps steps' →
      (∀ s ∈ steps, s.Keeps namespaceName w) →
      let c := (start snitch w).run steps
      let c' := (start snitch w').run steps'
      (∀ key,
        Session.ended ((c.snitch.resolver.query node key).run c.saved c.world) =
          Session.ended ((c'.snitch.resolver.query node key).run c'.saved c'.world)) ∧
      Session.ended ((c.snitch.resolver.queryLabel node).run c.saved c.world) =
        Session.ended ((c'.snitch.resolver.queryLabel node).run c'.saved c'.world) := by
  refine ⟨?_, ?_, ?_, ?_, ?_⟩
  · intro a b short shortOther
    exact NodeAddress.written_inj short shortOther
  · intro name a b
    exact Membership.stateKey_inj
  · intro name other
    exact Store.peersKey_inj
  · intro name other a
    exact Store.stateKey_ne_peersKey
  · intro namespaceName node snitch w w' steps steps' membership store same alike keeps
    exact ended_after_runs membership store same alike keeps

/-- Another node publishes a byte that is no text: the query for it fails, and the placements
are loaded only for the next one, which is answered as if they had been saved. -/
theorem isolated_from_garbled_node :
    let node : NodeAddress := ⟨"10.0.0.2", 7000⟩
    let other : NodeAddress := ⟨"10.0.0.3", 7000⟩
    let membership : Membership := .redis "r"
    let store : Store := .redis "r"
    let snitch : Snitch := ⟨MetadataClient.default, true,
      ⟨⟨"10.0.0.1", 7000⟩, ⟨"ea", "1"⟩, some membership, some store⟩⟩
    let peers : Entries Datum Datum := [(.text "10.0.0.2", .text "\x7b\"rack\":\"3\"\x7d")]
    let redis : Redis := ⟨[("r:topology:peers", peers)], none, none⟩
    let w : World := {
      http := fun _ => .unreachable ""
      redis
      files := Files.empty
      log := none
      time := "" }
    let garbled : World :=
      { w with redis := redis.insert (Membership.stateKey "r" other) (.text "rack") (.bytes [0xff]) }
    let steps (after : World) : List Step :=
      [.query .rack other, .change after (some membership) (some store)]
    let c := (start snitch w).run (steps w)
    let c' := (start snitch garbled).run (steps garbled)
    (∃ s t, node.written = .ok s ∧ other.written = .ok t ∧ (s = t ↔ node = other)) ∧
    Redis.SameBut "r" node w.redis garbled.redis ∧
    List.Forall₂ (Step.Alike "r" node) (steps w) (steps garbled) ∧
    (∀ s ∈ steps w, s.Keeps "r" w) ∧
    c.saved = some [(node, ⟨"", "3"⟩)] ∧ c'.saved = none ∧
    Session.ended ((c.snitch.resolver.query node .rack).run c.saved c.world) =
      Session.ended ((c'.snitch.resolver.query node .rack).run c'.saved c'.world) := by
  intro node other membership store snitch peers redis w garbled steps c c'
  have same : Redis.SameBut "r" node w.redis garbled.redis :=
    .of_insert (by decide) redis _ _
  have alike : List.Forall₂ (Step.Alike "r" node) (steps w) (steps garbled) :=
    .cons (.same (by simp)) (.cons (.change same) .nil)
  have keeps : ∀ s ∈ steps w, s.Keeps "r" w := by
    simp [steps, Step.Keeps, membership, store]
  have saved : c.saved = some [(node, ⟨"", "3"⟩)] := by decide +kernel
  have unsaved : c'.saved = none := by decide +kernel
  have answers := isolated.2.2.2.2 "r" node snitch w garbled (steps w) (steps garbled) rfl rfl
    same alike keeps
  exact ⟨isolated.1 node other (by decide) (by decide), same, alike, keeps, saved, unsaved,
    answers.1 .rack⟩

end Course

end ClusterTopology
