import ClusterTopology.Proofs.Effect

/-!
# What is left behind

Kinds of events, and which effects leave only events of one kind behind. An effect that is put
together from parts does so if its parts do. The calls and the lines that an effect leaves are
those of its parts, in order, and reports are neither.
-/

namespace ClusterTopology

namespace Event

/-- An event that only the log shows. -/
def IsReport : Event → Prop
  | .log _ => True
  | _ => False

/-- A report, or a call that looks something up in Redis. -/
def IsLookup : Event → Prop
  | .log _ => True
  | .call (.hashGet _ _) => True
  | .call (.hashGetAll _) => True
  | _ => False

/-- An event that reaches no service. -/
def IsLocal : Event → Prop
  | .call _ => False
  | _ => True

theorem IsReport.isLookup {event : Event} (report : event.IsReport) : event.IsLookup := by
  cases event with
  | log record => trivial
  | _ => exact report.elim

theorem IsReport.isLocal {event : Event} (report : event.IsReport) : event.IsLocal := by
  cases event with
  | call made => exact report.elim
  | _ => trivial

@[simp]
theorem calls_nil : calls [] = [] := rfl

@[simp]
theorem calls_call (made : Call) (events : List Event) :
    calls (.call made :: events) = made :: calls events := rfl

@[simp]
theorem calls_log (record : LogRecord) (events : List Event) :
    calls (.log record :: events) = calls events := rfl

@[simp]
theorem calls_append (first second : List Event) :
    calls (first ++ second) = calls first ++ calls second := List.filterMap_append

theorem mem_calls {made : Call} {events : List Event} :
    made ∈ calls events ↔ .call made ∈ events := by
  rw [calls, List.mem_filterMap]
  constructor
  · rintro ⟨event, found, same⟩
    cases event with
    | call other =>
      cases same
      exact found
    | _ => cases same
  · exact fun found => ⟨.call made, found, rfl⟩

theorem calls_of_local {events : List Event} (inside : ∀ event ∈ events, event.IsLocal) :
    calls events = [] := by
  refine List.eq_nil_iff_forall_not_mem.2 fun made found => ?_
  exact inside _ (mem_calls.1 found)

theorem calls_of_reports {events : List Event} (reports : ∀ event ∈ events, event.IsReport) :
    calls events = [] :=
  calls_of_local fun event found => (reports event found).isLocal

@[simp]
theorem printed_nil : printed [] = "" := rfl

@[simp]
theorem printed_append (first second : List Event) :
    printed (first ++ second) = printed first ++ printed second := by
  rw [printed, List.map_append, String.join_append]
  rfl

@[simp]
theorem printed_out (line : String) : printed [.out line] = line := by
  simp [printed]

theorem printed_of_no_line {events : List Event} (silent : ∀ line, .out line ∉ events) :
    printed events = "" := by
  induction events with
  | nil => rfl
  | cons event rest ih =>
    have later := ih fun line found => silent line (.tail _ found)
    rw [← List.singleton_append, printed_append, later]
    cases event with
    | out line => exact absurd (.head _) (silent line)
    | _ => rfl

theorem printed_of_lookups {events : List Event} (lookups : ∀ event ∈ events, event.IsLookup) :
    printed events = "" :=
  printed_of_no_line fun _ found => lookups _ found

end Event

/-- Whether reports leave the files of a world alone. -/
def World.IsStill (w : World) : Prop :=
  ∀ record, w.filesAfterRecord record = w.files

/-- A world whose log is written to no file stays as it is while things are looked up. -/
theorem World.IsStill.after {w : World} (still : w.IsStill) {events : List Event}
    (lookups : ∀ event ∈ events, event.IsLookup) : w.after events = w := by
  induction events with
  | nil => rfl
  | cons event rest ih =>
    have same : w.step event = w := by
      cases event with
      | log record =>
        show { w with files := w.filesAfterRecord record } = w
        rw [still record]
      | call made => rfl
      | _ => exact (lookups _ (.head _)).elim
    rw [World.after_cons, same]
    exact ih fun event found => lookups event (.tail _ found)

namespace Outcome

variable {α : Type}

/-- The calls that are left behind, in order. -/
def calls (outcome : Outcome α) : List Call := Event.calls outcome.events

/-- The text that is printed. -/
def printed (outcome : Outcome α) : String := Event.printed outcome.events

@[simp]
theorem calls_mk (result : Except Failure α) (events : List Event) :
    calls ⟨result, events⟩ = Event.calls events := rfl

@[simp]
theorem calls_following (outcome : Outcome α) (events : List Event) :
    (outcome.following events).calls = Event.calls events ++ outcome.calls := Event.calls_append ..

@[simp]
theorem printed_mk (result : Except Failure α) (events : List Event) :
    printed ⟨result, events⟩ = Event.printed events := rfl

@[simp]
theorem printed_following (outcome : Outcome α) (events : List Event) :
    (outcome.following events).printed = Event.printed events ++ outcome.printed :=
  Event.printed_append ..

end Outcome

namespace Effect

variable {α β : Type} {kind : Event → Prop}

/-- An effect that leaves only events of a kind behind, in every world. -/
structure Leaves (kind : Event → Prop) (effect : Effect α) : Prop where
  each : ∀ w, ∀ event ∈ (effect.run w).events, kind event

theorem Leaves.mono {other : Event → Prop} {effect : Effect α} (leaves : effect.Leaves kind)
    (wider : ∀ event, kind event → other event) : effect.Leaves other :=
  ⟨fun w event found => wider event (leaves.each w event found)⟩

theorem leaves_pure (a : α) : (Pure.pure a : Effect α).Leaves kind :=
  ⟨fun _ _ found => by cases found⟩

theorem leaves_fail (failure : Failure) : (fail failure : Effect α).Leaves kind :=
  ⟨fun _ _ found => by cases found⟩

theorem leaves_ask (question : World → α) : (ask question).Leaves kind :=
  ⟨fun _ _ found => by cases found⟩

theorem leaves_ofExcept (result : Except Failure α) : (ofExcept result).Leaves kind :=
  ⟨fun _ _ found => by cases found⟩

theorem leaves_lift {ε : Type} (cause : ε → Failure) (result : Except ε α) :
    (lift cause result).Leaves kind := leaves_ofExcept _

theorem leaves_emit {event : Event} (fits : kind event) : (emit event).Leaves kind := by
  refine ⟨fun w other found => ?_⟩
  cases List.mem_singleton.1 found
  exact fits

theorem leaves_report (fits : ∀ record, kind (.log record)) (logger : String) (level : Level)
    (message : String) : (report logger level message).Leaves kind :=
  leaves_emit (fits _)

theorem Leaves.attempt {effect : Effect α} (leaves : effect.Leaves kind) :
    effect.attempt.Leaves kind := ⟨leaves.each⟩

/-- One effect after another leaves events of a kind if both do. -/
theorem Leaves.bind {first : Effect α} {next : α → Effect β} (now : first.Leaves kind)
    (later : ∀ a, (next a).Leaves kind) : (first >>= next).Leaves kind := by
  refine ⟨fun w event found => ?_⟩
  rcases ends : (first.run w).result with failure | a
  · rw [run_bind_of_error ends] at found
    exact now.each w event found
  · rw [run_bind_of_ok ends] at found
    rcases List.mem_append.1 found with early | late
    · exact now.each w event early
    · exact (later a).each _ event late

theorem leaves_forM {next : α → Effect Unit} (each : ∀ a, (next a).Leaves kind)
    (items : List α) : (items.forM next).Leaves kind := by
  induction items with
  | nil => exact leaves_pure ()
  | cons item items ih => exact (each item).bind fun _ => ih

/-- What makes no call adds none to those made before it. -/
theorem calls_bind_of_reports {first : Effect α} {next : α → Effect β}
    (later : ∀ a, (next a).Leaves Event.IsReport) (w : World) :
    ((first >>= next).run w).calls = (first.run w).calls := by
  rcases ends : (first.run w).result with failure | a
  · rw [run_bind_of_error ends]
    rfl
  · have quiet := Event.calls_of_reports ((later a).each (w.after (first.run w).events))
    rw [run_bind_of_ok ends, Outcome.calls_mk, Event.calls_append, quiet]
    exact List.append_nil _

end Effect

namespace Session

variable {σ α β : Type} {kind : Event → Prop}

/-- A session that leaves only events of a kind behind, with every memory. -/
structure Leaves (kind : Event → Prop) (session : Session σ α) : Prop where
  each : ∀ memory, Effect.Leaves kind (session memory)

theorem Leaves.run {session : Session σ α} (leaves : session.Leaves kind) (memory : σ)
    (w : World) : ∀ event ∈ (session.run memory w).events, kind event :=
  (leaves.each memory).each w

theorem Leaves.mono {other : Event → Prop} {session : Session σ α} (leaves : session.Leaves kind)
    (wider : ∀ event, kind event → other event) : session.Leaves other :=
  ⟨fun memory => (leaves.each memory).mono wider⟩

theorem leaves_pure (a : α) : (Pure.pure a : Session σ α).Leaves kind :=
  ⟨fun _ => Effect.leaves_pure _⟩

theorem leaves_remembered : (remembered : Session σ σ).Leaves kind :=
  ⟨fun _ => Effect.leaves_pure _⟩

theorem leaves_remember (memory : σ) : (remember memory).Leaves kind :=
  ⟨fun _ => Effect.leaves_pure _⟩

theorem leaves_lift {effect : Effect α} (leaves : effect.Leaves kind) :
    (liftM effect : Session σ α).Leaves kind := by
  refine ⟨fun memory => ?_⟩
  change Effect.Leaves kind (effect.attempt >>= fun result => Pure.pure (result, memory))
  exact leaves.attempt.bind fun _ => Effect.leaves_pure _

theorem Leaves.bind {first : Session σ α} {next : α → Session σ β} (now : first.Leaves kind)
    (later : ∀ a, (next a).Leaves kind) : (first >>= next).Leaves kind := by
  refine ⟨fun memory => (now.each memory).bind fun ended => ?_⟩
  obtain ⟨failure | a, kept⟩ := ended
  · exact Effect.leaves_pure _
  · exact (later a).each kept

end Session

end ClusterTopology
