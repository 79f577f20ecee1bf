import ClusterTopology.Proofs.Settings.Loaded
import ClusterTopology.Proofs.Snitch.Calls

/-!
# How long a snitch waits

Accepted settings have a timeout, which is a number and, unless it is the number that is none, a
positive one. The client of a snitch takes it over and never changes it, so every request from the
start of the snitch on waits that long.
-/

namespace ClusterTopology

/-- An ordered number above zero. -/
def Value.IsPositive (value : Value) : Prop :=
  ∃ amount, value.amount? = some amount ∧ .ofInt 0 < amount

/-- A timeout is positive unless it is the number that is none. -/
theorem Setting.isPositive_iff {t : Value} (takes : Setting.metadataTimeout.Accepts t) :
    t.IsPositive ↔ t ≠ .float .nan := by
  obtain ⟨⟨n, rfl⟩ | ⟨x, rfl⟩, above⟩ := takes
  · exact iff_of_true ⟨_, rfl, lt_of_not_ge (above _ rfl)⟩ (by simp)
  · rcases amounts : (Value.float x).amount? with _ | amount
    · have nan : x = .nan := Number.Binary64.amount?_eq_none_iff.1 amounts
      refine iff_of_false ?_ (by simp [nan])
      rintro ⟨amount, found, -⟩
      rw [amounts] at found
      cases found
    · refine iff_of_true ⟨amount, amounts, lt_of_not_ge (above _ amounts)⟩ ?_
      intro same
      cases same
      cases amounts

/-- A call that, if it is a request, waits for its reply as long as `t` says. -/
def Call.WaitsFor (t : Value) : Call → Prop
  | .get _ timeout => timeout = t
  | _ => True

namespace Course

/-- The calls of a step. -/
def callsOf (c : Course) : Step → List Call
  | .query key node => ((c.question key node).ask c.saved).calls
  | .queryLabel node => ((c.snitch.resolver.queryLabel node).run c.saved c.world).calls
  | .validate datacenters racks => ((c.snitch.validate datacenters racks).run c.world).calls
  | .validateAgainst locations datacenters racks =>
    ((NameCheck.check locations datacenters racks).run c.world).calls
  | .close => (c.snitch.close.run c.world).calls
  | .change _ _ _ => []

/-- The calls of a run, step by step. -/
def callsIn (c : Course) : List Step → List Call
  | [] => []
  | s :: steps => c.callsOf s ++ (c.step s).callsIn steps

/-- A snitch keeps its client, even if its sources become others. -/
theorem client_step (c : Course) (s : Step) : (c.step s).snitch.client = c.snitch.client := by
  cases s <;> rfl

variable {t : Value}

theorem waitsFor_of_lookups {events : List Event} (lookups : ∀ event ∈ events, event.IsLookup) :
    ∀ made ∈ Event.calls events, made.WaitsFor t := by
  intro made found
  have lookup := lookups _ (Event.mem_calls.1 found)
  cases made with
  | get url timeout => exact lookup.elim
  | _ => trivial

/-- Of all steps only a check of names makes a request, and that one is made by the client. -/
theorem waitsFor_of_mem_callsOf {c : Course} (waits : c.snitch.client.timeout = t) (s : Step) :
    ∀ made ∈ c.callsOf s, made.WaitsFor t := by
  cases s with
  | query key node =>
    exact waitsFor_of_lookups ((Resolver.leaves_query ..).run c.saved c.world)
  | queryLabel node =>
    exact waitsFor_of_lookups ((Resolver.leaves_queryLabel ..).run c.saved c.world)
  | validate datacenters racks =>
    intro made found
    rw [callsOf, Snitch.validate, NameCheck.calls_validate, List.mem_singleton] at found
    rw [found]
    exact waits
  | validateAgainst locations datacenters racks =>
    intro made found
    rw [callsOf, NameCheck.calls_check] at found
    cases found
  | close =>
    intro made found
    rw [callsOf, Snitch.close, Snitch.release] at found
    split at found
    · cases List.mem_singleton.1 found
      trivial
    · cases found
  | change world membership store =>
    intro made found
    cases found

theorem waitsFor_of_mem_callsIn {c : Course} (waits : c.snitch.client.timeout = t)
    (steps : List Step) : ∀ made ∈ c.callsIn steps, made.WaitsFor t := by
  -- The client is what stays: a step may change the world and both sources, but not its timeout.
  induction steps generalizing c with
  | nil =>
    intro made found
    cases found
  | cons s steps ih =>
    intro made found
    rcases List.mem_append.1 found with now | later
    · exact waitsFor_of_mem_callsOf waits s made now
    · exact ih ((congrArg MetadataClient.timeout (c.client_step s)).trans waits) made later

end Course

namespace Snitch

theorem Learns.waitsFor {settings : Settings} {w : World} {calls : List Call}
    {learned : Except Failure (NodeAddress × Placement)}
    (learns : Learns settings w calls learned) :
    ∀ made ∈ calls, made.WaitsFor (clientOf settings).timeout := by
  cases learns with
  | noAddress => simp
  | noRegion => simp [Call.WaitsFor]
  | noZone => simp [Call.WaitsFor]
  | label => simp [Call.WaitsFor]

theorem waitsFor_of_mem_start (settings : Settings) (origin : World) :
    ∀ made ∈ ((ofSettings settings).run origin).calls,
      made.WaitsFor (clientOf settings).timeout := by
  obtain ⟨enabled, asked⟩ := settings.redisEnabled_eq_bool
  obtain ⟨calls, learned, learns, -, called⟩ := run_ofSettings asked origin
  intro made found
  rw [called, List.mem_append, List.mem_append] at found
  rcases found with (connects | asks) | closes
  · cases enabled with
    | true =>
      rcases List.mem_pair.1 connects with rfl | rfl
      · trivial
      · trivial
    | false => cases connects
  · exact learns.waitsFor made asks
  · cases learned with
    | ok own => cases closes
    | error failure =>
      cases List.mem_singleton.1 closes
      trivial

/-- The client of a snitch that settings ask for is theirs. -/
theorem client_of_started {settings : Settings} {origin : World} {snitch : Snitch}
    (started : ((ofSettings settings).run origin).result = .ok snitch) :
    snitch.client = clientOf settings := by
  obtain ⟨enabled, asked⟩ := settings.redisEnabled_eq_bool
  obtain ⟨calls, learned, -, result, -⟩ := run_ofSettings asked origin
  rw [result] at started
  cases learned with
  | error failure => cases started
  | ok own =>
    cases started
    rfl

/-- The timeout of settings is their value, as that is a number. -/
theorem timeout_clientOf {settings : Settings} {t : Value}
    (given : Entries.get? settings.entries Setting.metadataTimeout.key = some t)
    (number : t.IsNumber) : (clientOf settings).timeout = t := by
  show settings.get .metadataTimeout _ = t
  rw [Settings.get, Settings.getKey, given]
  rcases number with ⟨n, rfl⟩ | ⟨x, rfl⟩
  · rfl
  · rfl

/-- Accepted settings have a timeout, a number that is positive unless it is the one that is none.
Every request of the snitch that they ask for waits that long: those of its start, and those of
whatever is done with it afterwards. -/
theorem waits_of_accepted {settings : Settings} (accepted : settings.Accepted) :
    ∃ t, Entries.get? settings.entries Setting.metadataTimeout.key = some t ∧ t.IsNumber ∧
      (t.IsPositive ↔ t ≠ .float .nan) ∧
      ∀ origin, (∀ made ∈ ((ofSettings settings).run origin).calls, made.WaitsFor t) ∧
        ∀ snitch, ((ofSettings settings).run origin).result = .ok snitch →
          ∀ w steps, ∀ made ∈ (Course.start snitch w).callsIn steps, made.WaitsFor t := by
  obtain ⟨t, given, takes⟩ := accepted.exists_value .metadataTimeout
  have waits : (clientOf settings).timeout = t := timeout_clientOf given takes.1
  refine ⟨t, given, takes.1, Setting.isPositive_iff takes, fun origin => ⟨?_, ?_⟩⟩
  · rw [← waits]
    exact waitsFor_of_mem_start settings origin
  · intro snitch started w steps
    refine Course.waitsFor_of_mem_callsIn ?_ steps
    show snitch.client.timeout = t
    rw [client_of_started started, waits]

/-- A timeout that is the number that is none is accepted, is not positive, and is what the snitch
waits. -/
theorem waits_of_nan :
    let settings : Settings :=
      ⟨Settings.merge [(Setting.metadataTimeout.key, .float .nan)], by decide⟩
    Settings.ofConfig (.map [(Setting.metadataTimeout.key, .float .nan)]) = .ok settings ∧
    ¬ (Value.float .nan).IsPositive ∧
    ∀ origin, ∀ made ∈ ((ofSettings settings).run origin).calls,
      made.WaitsFor (.float .nan) := by
  intro settings
  have makes : Settings.ofConfig (.map [(Setting.metadataTimeout.key, .float .nan)]) =
      .ok settings := rfl
  obtain ⟨t, given, -, positive, waits⟩ := waits_of_accepted (.config makes)
  have same : t = .float .nan := (Option.some.inj given).symm
  subst same
  exact ⟨makes, fun above => positive.1 above rfl, fun origin => (waits origin).1⟩

end Snitch

end ClusterTopology
