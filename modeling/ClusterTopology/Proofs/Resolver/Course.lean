import ClusterTopology.Proofs.Resolver.Question
import ClusterTopology.Snitch

/-!
# A snitch in use

A course is a snitch with its world, what it has saved, and the questions that
were put to it so far. Steps are taken in any order: queries, checks of names,
the end of the connections, and changes of everything outside. The history is
only written down; nothing that is answered reads it.
-/

namespace ClusterTopology

/-- A snitch while it is in use, with all questions that it was asked, oldest
first. -/
structure Course where
  snitch : Snitch
  world : World
  saved : SavedPlacements
  history : List Question

/-- What happens to a snitch in use. -/
inductive Step where
  | query (key : Attribute) (node : NodeAddress)
  | queryLabel (node : NodeAddress)
  | validate (datacenters racks : List String)
  | validateAgainst (locations : Locations) (datacenters racks : List String)
  | close
  /-- Everything outside becomes something else: the services, Redis with its hashes
  and its faults, the files, and what sources hold in memory. -/
  | change (world : World) (membership : Option Membership) (store : Option Store)

namespace Course

/-- The snitch is there, and nothing has been asked. -/
def start (snitch : Snitch) (w : World) : Course :=
  ⟨snitch, w, none, []⟩

/-- The question that a query puts now. -/
def question (c : Course) (key : Attribute) (node : NodeAddress) : Question :=
  ⟨c.snitch.resolver, c.world, node, key⟩

/-- The course after questions that ended in an outcome. -/
def advance {α : Type} (c : Course) (asked : List Question)
    (outcome : Outcome (Except Failure α × SavedPlacements)) : Course where
  snitch := c.snitch
  world := c.world.after outcome.events
  saved := Session.kept c.saved outcome
  history := c.history ++ asked

/-- The course after one attribute of a node was asked for. -/
def query (c : Course) (key : Attribute) (node : NodeAddress) : Course :=
  c.advance [c.question key node] ((c.question key node).ask c.saved)

/-- The questions that a query for a label puts: the second one only if the first
one is answered. -/
def labelQuestions (c : Course) (node : NodeAddress) : List Question :=
  match ((c.question .datacenter node).ask c.saved).result with
  | .ok (.ok _, _) =>
    [c.question .datacenter node, (c.query .datacenter node).question .rack node]
  | _ => [c.question .datacenter node]

/-- The course after an effect that asks nothing. -/
def perform {α : Type} (c : Course) (effect : Effect α) : Course :=
  { c with world := c.world.after (effect.run c.world).events }

/-- The course after one step. -/
def step (c : Course) : Step → Course
  | .query key node => c.query key node
  | .queryLabel node =>
    c.advance (c.labelQuestions node) ((c.snitch.resolver.queryLabel node).run c.saved c.world)
  | .validate datacenters racks => c.perform (c.snitch.validate datacenters racks)
  | .validateAgainst locations datacenters racks =>
    c.perform (NameCheck.check locations datacenters racks)
  | .close => c.perform c.snitch.close
  | .change world membership store =>
    { c with
      snitch := { c.snitch with resolver := { c.snitch.resolver with membership, store } }
      world }

/-- The course after steps. -/
def run (c : Course) (steps : List Step) : Course :=
  steps.foldl step c

/-- What holds of a course and is kept by every step holds after any run. -/
theorem run_induction {motive : Course → Prop} {c : Course} (start : motive c)
    (next : ∀ c s, motive c → motive (c.step s)) (steps : List Step) :
    motive (c.run steps) := by
  induction steps generalizing c with
  | nil => exact start
  | cons s steps ih => exact ih (next c s start)

/-- The memory after a question that ended with one. -/
theorem saved_query {c : Course} {key : Attribute} {node : NodeAddress}
    {ended : Except Failure String} {later : SavedPlacements}
    (ends : ((c.question key node).ask c.saved).result = .ok (ended, later)) :
    (c.query key node).saved = later :=
  Session.kept_of_ok ends

/-- Once the datacenter is answered, the rack is asked for in the course that this
question leaves behind. -/
theorem run_queryLabel_of_answered {c : Course} {node : NodeAddress} {datacenter : String}
    {later last : SavedPlacements} {ended : Except Failure String}
    (answered : ((c.question .datacenter node).ask c.saved).result =
      .ok (.ok datacenter, later))
    (finishes : (((c.query .datacenter node).question .rack node).ask
      (c.query .datacenter node).saved).result = .ok (ended, last)) :
    (c.snitch.resolver.queryLabel node).run c.saved c.world =
      ⟨.ok (ended.map fun rack => ⟨datacenter, rack⟩, last),
        ((c.question .datacenter node).ask c.saved).events ++
          (((c.query .datacenter node).question .rack node).ask
            (c.query .datacenter node).saved).events⟩ := by
  have first : ((c.snitch.resolver.query node .datacenter).run c.saved c.world).result =
      .ok (.ok datacenter, later) := answered
  have second : ((c.snitch.resolver.query node .rack).run later
      (c.world.after ((c.question .datacenter node).ask c.saved).events)).result =
      .ok (ended, last) := by
    rw [saved_query answered] at finishes
    exact finishes
  rw [Resolver.queryLabel, Session.run_bind_of_ok first, Session.run_bind_pure,
    saved_query answered]
  rw [Outcome.mk.injEq]
  exact ⟨congrArg (Except.map _) second, rfl⟩

/-- A datacenter that cannot be told ends the query for the label. -/
theorem run_queryLabel_of_failed {c : Course} {node : NodeAddress} {failure : Failure}
    {later : SavedPlacements}
    (failed : ((c.question .datacenter node).ask c.saved).result =
      .ok (.error failure, later)) :
    (c.snitch.resolver.queryLabel node).run c.saved c.world =
      ⟨.ok (.error failure, later), ((c.question .datacenter node).ask c.saved).events⟩ := by
  have first : ((c.snitch.resolver.query node .datacenter).run c.saved c.world).result =
      .ok (.error failure, later) := failed
  rw [Resolver.queryLabel, Session.run_bind_of_error first]
  rfl

/-- A label is told if its datacenter is, and then its rack in the course after that. -/
theorem ended_queryLabel (c : Course) (node : NodeAddress) :
    Session.ended ((c.snitch.resolver.queryLabel node).run c.saved c.world) =
      (Session.ended ((c.question .datacenter node).ask c.saved)).bind fun datacenter =>
        (Session.ended (((c.query .datacenter node).question .rack node).ask
          (c.query .datacenter node).saved)).map fun rack => ⟨datacenter, rack⟩ := by
  obtain ⟨failure | datacenter, later, ends⟩ :=
    (c.question .datacenter node).ask_ends c.saved
  · rw [run_queryLabel_of_failed ends, Session.ended_of_ok ends]
    rfl
  · obtain ⟨ended, last, finishes⟩ :=
      ((c.query .datacenter node).question .rack node).ask_ends (c.query .datacenter node).saved
    rw [run_queryLabel_of_answered ends finishes, Session.ended_of_ok ends,
      Session.ended_of_ok finishes]
    rfl

/-- Once its datacenter is answered, a label is asked for as that and then as its rack. -/
theorem step_queryLabel_of_answered {c : Course} {node : NodeAddress} {datacenter : String}
    {later : SavedPlacements}
    (answered : ((c.question .datacenter node).ask c.saved).result =
      .ok (.ok datacenter, later)) :
    c.step (.queryLabel node) = (c.query .datacenter node).query .rack node := by
  obtain ⟨ended, last, finishes⟩ :=
    ((c.query .datacenter node).question .rack node).ask_ends (c.query .datacenter node).saved
  -- The query as a whole and the two queries in turn leave the same behind.
  have keeps : ((c.query .datacenter node).query .rack node).saved = last :=
    saved_query finishes
  have world : ((c.query .datacenter node).query .rack node).world =
      c.world.after (((c.question .datacenter node).ask c.saved).events ++
        (((c.query .datacenter node).question .rack node).ask
          (c.query .datacenter node).saved).events) :=
    (World.after_append ..).symm
  rw [step, run_queryLabel_of_answered answered finishes, labelQuestions, answered, advance,
    ← world, Session.kept_of_ok rfl, ← keeps]
  simp [query, advance]

theorem step_queryLabel_of_failed {c : Course} {node : NodeAddress} {failure : Failure}
    {later : SavedPlacements}
    (failed : ((c.question .datacenter node).ask c.saved).result =
      .ok (.error failure, later)) :
    c.step (.queryLabel node) = c.query .datacenter node := by
  rw [step, run_queryLabel_of_failed failed, labelQuestions, failed]
  simp only [query, advance, Session.kept, failed]

/-- A label is asked for as its datacenter, and then perhaps as its rack. -/
theorem step_queryLabel (c : Course) (node : NodeAddress) :
    c.step (.queryLabel node) = c.query .datacenter node ∨
      c.step (.queryLabel node) = (c.query .datacenter node).query .rack node := by
  obtain ⟨failure | datacenter, later, ends⟩ :=
    (c.question .datacenter node).ask_ends c.saved
  · exact .inl (step_queryLabel_of_failed ends)
  · exact .inr (step_queryLabel_of_answered ends)

end Course

end ClusterTopology
