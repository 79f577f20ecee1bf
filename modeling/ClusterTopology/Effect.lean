import ClusterTopology.Failure
import ClusterTopology.World

/-!
# Effects

An effect reads the world, ends with a result or a failure, and leaves events
behind, also when it fails. One effect after another sees the world that the
first one's events leave behind. A `Session` is an effect with a memory that
outlives failures.
-/

namespace ClusterTopology

/-- How an effect ends. -/
structure Outcome (α : Type) where
  result : Except Failure α
  events : List Event

/-- Something that is done in the world. -/
def Effect (α : Type) : Type := World → Outcome α

namespace Effect

variable {α β : Type}

/-- Carries an effect out. -/
def run (effect : Effect α) (w : World) : Outcome α := effect w

/-- Nothing is done. -/
def pure (a : α) : Effect α := fun _ => ⟨.ok a, []⟩

/-- One effect after another, unless the first one fails. -/
def bind (first : Effect α) (next : α → Effect β) : Effect β := fun w =>
  let before := first w
  match before.result with
  | .ok a =>
    let after := next a (w.after before.events)
    ⟨after.result, before.events ++ after.events⟩
  | .error failure => ⟨.error failure, before.events⟩

instance : Monad Effect where
  pure := Effect.pure
  bind := Effect.bind

/-- Stops with a failure. -/
def fail (failure : Failure) : Effect α := fun _ => ⟨.error failure, []⟩

/-- Goes on with a result, or stops with its failure. -/
def ofExcept (result : Except Failure α) : Effect α := fun _ => ⟨result, []⟩

/-- Something that depends on the world. -/
def ask (question : World → α) : Effect α := fun w => ⟨.ok (question w), []⟩

/-- Leaves an event behind. -/
def emit (event : Event) : Effect Unit := fun _ => ⟨.ok (), [event]⟩

/-- Reports something. -/
def report (logger : String) (level : Level) (message : String) : Effect Unit :=
  emit (.log ⟨logger, level, message⟩)

/-- An effect whose failure is part of the result. -/
def attempt (effect : Effect α) : Effect (Except Failure α) := fun w =>
  let done := effect w
  ⟨.ok done.result, done.events⟩

/-- An effect that ends with an error of its own kind is one that fails. -/
def lift {ε : Type} (cause : ε → Failure) (result : Except ε α) : Effect α :=
  ofExcept (result.mapError cause)

theorem run_pure (a : α) (w : World) : (Pure.pure a : Effect α).run w = ⟨.ok a, []⟩ := rfl

theorem run_fail (failure : Failure) (w : World) :
    (fail failure : Effect α).run w = ⟨.error failure, []⟩ := rfl

theorem run_ask (question : World → α) (w : World) :
    (ask question).run w = ⟨.ok (question w), []⟩ := rfl

theorem run_emit (event : Event) (w : World) : (emit event).run w = ⟨.ok (), [event]⟩ := rfl

theorem run_attempt (effect : Effect α) (w : World) :
    effect.attempt.run w = ⟨.ok (effect.run w).result, (effect.run w).events⟩ := rfl

/-- After a result the next effect goes on, in the world left behind. -/
theorem run_bind_of_ok {first : Effect α} {next : α → Effect β} {w : World} {a : α}
    (ends : (first.run w).result = .ok a) :
    (first >>= next).run w =
      ⟨((next a).run (w.after (first.run w).events)).result,
        (first.run w).events ++ ((next a).run (w.after (first.run w).events)).events⟩ := by
  show Effect.bind first next w = _
  unfold Effect.bind
  change (first w).result = _ at ends
  simp only [ends]
  rfl

/-- After a failure nothing more is done. -/
theorem run_bind_of_error {first : Effect α} {next : α → Effect β} {w : World}
    {failure : Failure} (ends : (first.run w).result = .error failure) :
    (first >>= next).run w = ⟨.error failure, (first.run w).events⟩ := by
  show Effect.bind first next w = _
  unfold Effect.bind
  change (first w).result = _ at ends
  simp only [ends]
  rfl

end Effect

/-- An effect with a memory. The memory is kept also when the effect fails. -/
def Session (σ α : Type) : Type := σ → Effect (Except Failure α × σ)

namespace Session

variable {σ α β : Type}

/-- Nothing is done and nothing is remembered. -/
def pure (a : α) : Session σ α := fun memory => Effect.pure (.ok a, memory)

/-- One session after another, unless the first one fails. -/
def bind (first : Session σ α) (next : α → Session σ β) : Session σ β := fun memory =>
  Effect.bind (first memory) fun ended =>
    match ended.1 with
    | .ok a => next a ended.2
    | .error failure => Effect.pure (.error failure, ended.2)

instance : Monad (Session σ) where
  pure := Session.pure
  bind := Session.bind

/-- What is remembered. -/
def remembered : Session σ σ := fun memory => Effect.pure (.ok memory, memory)

/-- Remembers something else from now on. -/
def remember (memory : σ) : Session σ Unit := fun _ => Effect.pure (.ok (), memory)

/-- An effect that leaves the memory alone. -/
def ofEffect (effect : Effect α) : Session σ α := fun memory =>
  Effect.bind effect.attempt fun result => Effect.pure (result, memory)

instance : MonadLift Effect (Session σ) := ⟨ofEffect⟩

end Session

end ClusterTopology
