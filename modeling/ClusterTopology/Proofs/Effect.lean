import ClusterTopology.Effect

/-!
# Carrying out sessions

A session that is carried out always ends with a memory, whether it fails or
not. The laws of this module say what one session after another leaves behind,
so that later proofs peel a session apart step by step and never unfold it.
-/

namespace ClusterTopology

/-- Whether a failure is one that a resolver lives with: a source that cannot be read. -/
def Failure.IsSource (failure : Failure) : Prop :=
  ∃ error, failure = .source error

/-- A result where a source that cannot be read counts as one that holds `nothing`. -/
def Failure.excused {α : Type} (nothing : α) (result : Except Failure α) : Except Failure α :=
  match result with
  | .error (.source _) => .ok nothing
  | result => result

theorem Failure.excused_of_other {α : Type} {failure : Failure} (other : ¬ failure.IsSource)
    {nothing : α} : excused nothing (.error failure) = .error failure := by
  cases failure with
  | source error => exact absurd ⟨error, rfl⟩ other
  | _ => rfl

theorem Failure.excused_ok {α : Type} (nothing : α) {result : Except Failure α}
    (sources : ∀ failure, result = .error failure → failure.IsSource) :
    ∃ a, excused nothing result = .ok a := by
  rcases result with failure | a
  · obtain ⟨error, rfl⟩ := sources failure rfl
    exact ⟨nothing, rfl⟩
  · exact ⟨a, rfl⟩

section MapError

variable {ε δ α : Type}

@[simp]
theorem mapError_ok (cause : ε → δ) (a : α) :
    (Except.ok a : Except ε α).mapError cause = .ok a := rfl

@[simp]
theorem mapError_error (cause : ε → δ) (error : ε) :
    (Except.error error : Except ε α).mapError cause = .error (cause error) := rfl

end MapError

namespace Outcome

variable {α : Type}

/-- An outcome with events that were left behind before it. -/
def following (outcome : Outcome α) (events : List Event) : Outcome α :=
  ⟨outcome.result, events ++ outcome.events⟩

@[simp]
theorem result_following (outcome : Outcome α) (events : List Event) :
    (outcome.following events).result = outcome.result := rfl

end Outcome

namespace Effect

variable {α β : Type}

@[simp]
theorem run_ofExcept (result : Except Failure α) (w : World) :
    (ofExcept result).run w = ⟨result, []⟩ := rfl

@[simp]
theorem run_report (logger : String) (level : Level) (message : String) (w : World) :
    (report logger level message).run w = ⟨.ok (), [.log ⟨logger, level, message⟩]⟩ := rfl

theorem result_lift_eq_ok {ε : Type} {cause : ε → Failure} {result : Except ε α} {w : World}
    {a : α} : ((lift cause result).run w).result = .ok a ↔ result = .ok a := by
  rw [lift, run_ofExcept]
  cases result with
  | error error => simp
  | ok value => simp

/-- An effect after another gives a result exactly if both do, the second one in
the world that the first one leaves behind. -/
theorem result_bind_eq_ok {first : Effect α} {next : α → Effect β} {w : World} {b : β} :
    ((first >>= next).run w).result = .ok b ↔
      ∃ a, (first.run w).result = .ok a ∧
        ((next a).run (w.after (first.run w).events)).result = .ok b := by
  rcases ends : (first.run w).result with failure | a
  · rw [run_bind_of_error ends]
    simp
  · rw [run_bind_of_ok ends]
    simp

/-- An attempted effect hands its result on and never fails. -/
theorem run_attempt_bind (effect : Effect α) (next : Except Failure α → Effect β) (w : World) :
    (effect.attempt >>= next).run w =
      ((next (effect.run w).result).run (w.after (effect.run w).events)).following
        (effect.run w).events :=
  run_bind_of_ok rfl

theorem run_ask_bind (question : World → α) (next : α → Effect β) (w : World) :
    (ask question >>= next).run w = (next (question w)).run w := by
  rw [run_bind_of_ok rfl]
  rfl

theorem run_lift_bind_ok {ε : Type} (cause : ε → Failure) (a : α) (next : α → Effect β)
    (w : World) : (lift cause (.ok a) >>= next).run w = (next a).run w := by
  rw [run_bind_of_ok rfl]
  rfl

theorem run_lift_bind_error {ε : Type} (cause : ε → Failure) (error : ε) (next : α → Effect β)
    (w : World) :
    (lift cause (.error error) >>= next).run w = ⟨.error (cause error), []⟩ :=
  run_bind_of_error rfl

/-- After a report the next effect goes on, in the world that shows the report. -/
theorem run_report_bind (logger : String) (level : Level) (message : String)
    (next : Unit → Effect β) (w : World) :
    (report logger level message >>= next).run w =
      ((next ()).run (w.after [.log ⟨logger, level, message⟩])).following
        [.log ⟨logger, level, message⟩] :=
  run_bind_of_ok rfl

theorem run_forM_report (logger : String) (level : Level) (messages : List String) (w : World) :
    (messages.forM (report logger level)).run w =
      ⟨.ok (), messages.map fun message => .log ⟨logger, level, message⟩⟩ := by
  induction messages generalizing w with
  | nil => rfl
  | cons message messages ih =>
    show ((report logger level message >>= fun _ => messages.forM (report logger level)).run w) = _
    rw [run_report_bind, ih]
    rfl

/-- A report on a result follows what the effect leaves behind; there is none on a
failure. -/
theorem run_bind_report (effect : Effect α) (logger : String) (level : Level)
    (message : α → String) (w : World) :
    (do
      let a ← effect
      report logger level (message a)
      return a : Effect α).run w =
      ⟨(effect.run w).result, (effect.run w).events ++
        match (effect.run w).result with
        | .ok a => [.log ⟨logger, level, message a⟩]
        | .error _ => []⟩ := by
  rcases ends : (effect.run w).result with failure | a
  · rw [run_bind_of_error ends]
    simp only [List.append_nil]
  · rw [run_bind_of_ok ends, run_report_bind]
    rfl

end Effect

namespace Session

variable {σ α β : Type}

/-- Carries a session out with a memory in a world. -/
def run (session : Session σ α) (memory : σ) (w : World) : Outcome (Except Failure α × σ) :=
  Effect.run (session memory) w

/-- The memory that a session leaves behind, where `memory` is the one before. -/
def kept (memory : σ) (outcome : Outcome (Except Failure α × σ)) : σ :=
  match outcome.result with
  | .ok (_, later) => later
  | .error _ => memory

theorem kept_of_ok {memory later : σ} {ended : Except Failure α}
    {outcome : Outcome (Except Failure α × σ)} (h : outcome.result = .ok (ended, later)) :
    kept memory outcome = later := by
  simp [kept, h]

/-- How a session ends, whatever it leaves behind. -/
def ended (outcome : Outcome (Except Failure α × σ)) : Except Failure α :=
  match outcome.result with
  | .ok (ending, _) => ending
  | .error failure => .error failure

theorem ended_of_ok {later : σ} {ending : Except Failure α}
    {outcome : Outcome (Except Failure α × σ)} (h : outcome.result = .ok (ending, later)) :
    ended outcome = ending := by
  simp [ended, h]

@[simp]
theorem run_pure (a : α) (memory : σ) (w : World) :
    (Pure.pure a : Session σ α).run memory w = ⟨.ok (.ok a, memory), []⟩ := rfl

@[simp]
theorem run_lift (effect : Effect α) (memory : σ) (w : World) :
    (liftM effect : Session σ α).run memory w =
      ⟨.ok ((effect.run w).result, memory), (effect.run w).events⟩ := by
  have attempted : (effect.attempt.run w).result = .ok (effect.run w).result := rfl
  change Effect.run (effect.attempt >>= fun result => Pure.pure (result, memory)) w = _
  rw [Effect.run_bind_of_ok attempted, Effect.run_attempt, Effect.run_pure]
  simp

/-- After a result the next session goes on, with the memory left behind. -/
theorem run_bind_of_ok {first : Session σ α} {next : α → Session σ β} {memory later : σ}
    {w : World} {a : α} (ends : (first.run memory w).result = .ok (.ok a, later)) :
    (first >>= next).run memory w =
      ((next a).run later (w.after (first.run memory w).events)).following
        (first.run memory w).events :=
  Effect.run_bind_of_ok ends

theorem run_bind_of_error {first : Session σ α} {next : α → Session σ β} {memory later : σ}
    {w : World} {failure : Failure}
    (ends : (first.run memory w).result = .ok (.error failure, later)) :
    (first >>= next).run memory w =
      ⟨.ok (.error failure, later), (first.run memory w).events⟩ := by
  have stops : (first >>= next).run memory w = _ := Effect.run_bind_of_ok ends
  rw [stops]
  exact congrArg (Outcome.mk _) (List.append_nil _)

/-- A session whose answer is only turned into something else. -/
theorem run_bind_pure (session : Session σ α) (turn : α → β) (memory : σ) (w : World) :
    (session >>= fun a => Pure.pure (turn a)).run memory w =
      ⟨(session.run memory w).result.map fun ended => (ended.1.map turn, ended.2),
        (session.run memory w).events⟩ := by
  rcases ends : (session.run memory w).result with failure | ⟨failure | a, later⟩
  · exact Effect.run_bind_of_error ends
  · rw [run_bind_of_error ends]
    rfl
  · rw [run_bind_of_ok ends, run_pure]
    exact congrArg (Outcome.mk _) (List.append_nil _)

theorem ended_bind_pure (session : Session σ α) (turn : α → β) (memory : σ) (w : World) :
    ended ((session >>= fun a => Pure.pure (turn a)).run memory w) =
      (ended (session.run memory w)).map turn := by
  rw [run_bind_pure, ended, ended]
  rcases (session.run memory w).result with failure | ⟨ending, later⟩
  · rfl
  · rfl

/-- After an effect that gives a result the next session goes on, with the same
memory. -/
theorem run_lift_bind_of_ok {effect : Effect α} {next : α → Session σ β} {memory : σ}
    {w : World} {a : α} (ends : (effect.run w).result = .ok a) :
    ((liftM effect : Session σ α) >>= next).run memory w =
      ((next a).run memory (w.after (effect.run w).events)).following
        (effect.run w).events := by
  have lifted : ((liftM effect : Session σ α).run memory w).result = .ok (.ok a, memory) := by
    rw [run_lift, ends]
  rw [run_bind_of_ok lifted, run_lift]

theorem run_lift_bind_of_error {effect : Effect α} {next : α → Session σ β} {memory : σ}
    {w : World} {failure : Failure} (ends : (effect.run w).result = .error failure) :
    ((liftM effect : Session σ α) >>= next).run memory w =
      ⟨.ok (.error failure, memory), (effect.run w).events⟩ := by
  have lifted : ((liftM effect : Session σ α).run memory w).result =
      .ok (.error failure, memory) := by
    rw [run_lift, ends]
  rw [run_bind_of_error lifted, run_lift]

end Session

end ClusterTopology
