import ClusterTopology.Proofs.Events
import ClusterTopology.Proofs.Resolver.Start

/-!
# How a snitch starts

Settings decide whether Redis is connected to, and which sources the snitch has. Then three steps
must succeed one after the other: the own address is read, the region is fetched, and the zone
is. The first step that fails ends the start with its failure, and the steps after it are not
taken.
-/

namespace ClusterTopology

namespace Settings

/-- The value of a setting keeps all the rules for it. -/
theorem holds_of_get? (settings : Settings) {setting : Setting} {value : Value}
    (given : Entries.get? settings.entries setting.key = some value) :
    ∀ rule ∈ setting.rules, rule.holds value = true := by
  have listed : setting ∈ Setting.byName := by cases setting <;> decide
  have kept := List.flatMap_eq_nil_iff.1 settings.sound setting listed
  rw [given] at kept
  have unbroken := List.filter_eq_nil_iff.1 (List.map_eq_nil_iff.1 kept)
  intro rule found
  simpa using unbroken rule found

/-- Whether Redis is enabled is told by a truth value. -/
theorem redisEnabled_eq_bool (settings : Settings) :
    ∃ enabled, settings.get .redisEnabled (.bool true) = .bool enabled := by
  rw [get, getKey]
  rcases given : Entries.get? settings.entries Setting.redisEnabled.key with _ | value
  · exact ⟨true, rfl⟩
  · have boolean : (Rule.kinds [.boolean]).holds value = true :=
      settings.holds_of_get? given _ (.head _)
    rcases value with ⟨_ | enabled | _ | _ | _ | _ | _ | _⟩ | _ | _ | _ | _ | _
    case scalar.bool => exact ⟨enabled, rfl⟩
    all_goals cases boolean

end Settings

/-- A call that can be made before anything is asked of a snitch: it looks nothing up in Redis, and
it is no request for the endpoints document. -/
def Call.IsPreliminary : Call → Prop
  | .get url _ => url ≠ Metadata.endpointsUrl
  | .hashGet _ _ => False
  | .hashGetAll _ => False
  | _ => True

/-- An event from before anything is asked of a snitch: nothing is printed. -/
def Event.IsPreliminary : Event → Prop
  | .call made => made.IsPreliminary
  | .out _ => False
  | _ => True

theorem Event.IsReport.isPreliminary {event : Event} (report : event.IsReport) :
    event.IsPreliminary := by
  cases event with
  | log record => trivial
  | _ => exact report.elim

/-- A kind of events that comprises all reports but those of the checks of names. -/
def Event.CoversReports (kind : Event → Prop) : Prop :=
  ∀ logger, logger ≠ NameCheck.logger → ∀ level message, kind (.log ⟨logger, level, message⟩)

theorem Event.CoversReports.of_all {kind : Event → Prop} (all : ∀ record, kind (.log record)) :
    CoversReports kind := fun _ _ _ _ => all _

theorem MetadataClient.leaves_fetch {kind : Event → Prop} (reports : Event.CoversReports kind)
    (client : MetadataClient) {url : String} (fits : kind (.call (.get url client.timeout))) :
    (client.fetch url).Leaves kind :=
  (Effect.leaves_emit (reports _ (by decide) ..)).bind fun _ => (Effect.leaves_emit fits).bind
    fun _ => (Effect.leaves_ask _).bind fun _ => Effect.leaves_ofExcept _

namespace Resolver

theorem leaves_start {kind : Event → Prop} (reports : Event.CoversReports kind)
    {client : MetadataClient} (region : kind (.call (.get Metadata.regionUrl client.timeout)))
    (zone : kind (.call (.get Metadata.zoneUrl client.timeout))) (localAddress : NodeAddress)
    (membership : Option Membership) (store : Option Store) (suffix : String) :
    (start localAddress client membership store suffix).Leaves kind :=
  (client.leaves_fetch reports region).bind fun _ => (client.leaves_fetch reports zone).bind
    fun _ => (Effect.leaves_emit (reports _ (by decide) ..)).bind fun _ => Effect.leaves_pure _

variable {localAddress : NodeAddress} {client : MetadataClient} {membership : Option Membership}
  {store : Option Store} {suffix : String} {w : World}

/-- Without a region there is no resolver, and the zone is not asked for. -/
theorem run_start_of_no_region {failure : Failure}
    (missing : MetadataClient.textOf Metadata.regionUrl (w.http Metadata.regionUrl) =
      .error failure) :
    ((start localAddress client membership store suffix).run w).result = .error failure ∧
      ((start localAddress client membership store suffix).run w).calls =
        [.get Metadata.regionUrl client.timeout] := by
  have fails := congrArg Outcome.result (client.run_fetch Metadata.regionUrl w)
  rw [missing] at fails
  rw [start, Effect.run_bind_of_error fails, MetadataClient.run_fetch]
  exact ⟨rfl, rfl⟩

theorem run_start_of_no_zone {region : String} {failure : Failure}
    (found : MetadataClient.textOf Metadata.regionUrl (w.http Metadata.regionUrl) = .ok region)
    (missing : MetadataClient.textOf Metadata.zoneUrl (w.http Metadata.zoneUrl) =
      .error failure) :
    ((start localAddress client membership store suffix).run w).result = .error failure ∧
      ((start localAddress client membership store suffix).run w).calls =
        [.get Metadata.regionUrl client.timeout, .get Metadata.zoneUrl client.timeout] := by
  have first := congrArg Outcome.result (client.run_fetch Metadata.regionUrl w)
  rw [found] at first
  have second (later : World) (same : later.http = w.http) :
      ((client.fetch Metadata.zoneUrl).run later).result = .error failure := by
    rw [MetadataClient.run_fetch, same, missing]
  rw [start, Effect.run_bind_of_ok first,
    Effect.run_bind_of_error (second _ (World.http_after ..))]
  simp [MetadataClient.run_fetch, Outcome.calls]

theorem run_start_of_found {region zone : String}
    (found : MetadataClient.textOf Metadata.regionUrl (w.http Metadata.regionUrl) = .ok region)
    (known : MetadataClient.textOf Metadata.zoneUrl (w.http Metadata.zoneUrl) = .ok zone) :
    ((start localAddress client membership store suffix).run w).result =
        .ok ⟨localAddress, ⟨region ++ suffix, zone⟩, membership, store⟩ ∧
      ((start localAddress client membership store suffix).run w).calls =
        [.get Metadata.regionUrl client.timeout, .get Metadata.zoneUrl client.timeout] := by
  refine ⟨result_start_eq_ok.2 ⟨region, zone, found, known, rfl⟩, ?_⟩
  have first := congrArg Outcome.result (client.run_fetch Metadata.regionUrl w)
  rw [found] at first
  have second (later : World) (same : later.http = w.http) :
      ((client.fetch Metadata.zoneUrl).run later).result = .ok zone := by
    rw [MetadataClient.run_fetch, same, known]
  rw [start, Effect.run_bind_of_ok first, Effect.run_bind_of_ok (second _ (World.http_after ..)),
    Effect.run_report_bind]
  simp [MetadataClient.run_fetch, Outcome.calls, Outcome.following, Effect.run_pure]

end Resolver

namespace Snitch

/-- The text of the own address. -/
def addressText (settings : Settings) : String :=
  (settings.text? .broadcastAddress).getD ""

/-- The text that comes after the region in the name of the own datacenter. -/
def suffixOf (settings : Settings) : String :=
  (settings.text? .suffix).getD ""

/-- The namespace of all keys in Redis. -/
def namespaceOf (settings : Settings) : String :=
  (settings.text? .redisNamespace).getD Membership.defaultNamespace

/-- The call that connects to Redis. -/
def connectCall (settings : Settings) : Call :=
  .connect (entry settings.entries .redisHost (.text "localhost"))
    (entry settings.entries .redisPort (.int 6379))
    (entry settings.entries .redisPassword .null)
    (entry settings.entries .redisDatabase (.int 0))

/-- The source of live state, given whether Redis is there. -/
def membershipOf (settings : Settings) (connected : Bool) : Option Membership :=
  if connected then some (.redis (namespaceOf settings)) else none

/-- The store of placements, given whether Redis is there. -/
def storeOf (settings : Settings) (connected : Bool) : Option Store :=
  if (storesOf settings connected).isEmpty then none
  else some (.fallback (storesOf settings connected))

/-- The snitch of a node that has learned its address and its label. -/
def made (settings : Settings) (connected : Bool) (own : NodeAddress × Placement) : Snitch :=
  ⟨clientOf settings, true,
    ⟨own.1, own.2, membershipOf settings connected, storeOf settings connected⟩⟩

/-- How a node learns its address and its label: the requests for it, and how that ends. -/
inductive Learns (settings : Settings) (w : World) :
    List Call → Except Failure (NodeAddress × Placement) → Prop where
  | noAddress {error : AddressError}
    (refused : NodeAddress.parse (addressText settings) = .error error) :
    Learns settings w [] (.error (.address error))
  | noRegion {node : NodeAddress} {failure : Failure}
    (parsed : NodeAddress.parse (addressText settings) = .ok node)
    (missing : MetadataClient.textOf Metadata.regionUrl (w.http Metadata.regionUrl) =
      .error failure) :
    Learns settings w [.get Metadata.regionUrl (clientOf settings).timeout] (.error failure)
  | noZone {node : NodeAddress} {region : String} {failure : Failure}
    (parsed : NodeAddress.parse (addressText settings) = .ok node)
    (found : MetadataClient.textOf Metadata.regionUrl (w.http Metadata.regionUrl) = .ok region)
    (missing : MetadataClient.textOf Metadata.zoneUrl (w.http Metadata.zoneUrl) =
      .error failure) :
    Learns settings w
      [.get Metadata.regionUrl (clientOf settings).timeout,
        .get Metadata.zoneUrl (clientOf settings).timeout]
      (.error failure)
  | label {node : NodeAddress} {region zone : String}
    (parsed : NodeAddress.parse (addressText settings) = .ok node)
    (found : MetadataClient.textOf Metadata.regionUrl (w.http Metadata.regionUrl) = .ok region)
    (known : MetadataClient.textOf Metadata.zoneUrl (w.http Metadata.zoneUrl) = .ok zone) :
    Learns settings w
      [.get Metadata.regionUrl (clientOf settings).timeout,
        .get Metadata.zoneUrl (clientOf settings).timeout]
      (.ok (node, ⟨region ++ suffixOf settings, zone⟩))

/-- The services alone decide what a node learns. -/
theorem Learns.congr {settings : Settings} {w w' : World} {calls : List Call}
    {learned : Except Failure (NodeAddress × Placement)} (learns : Learns settings w calls learned)
    (same : w.http = w'.http) : Learns settings w' calls learned := by
  cases learns with
  | noAddress refused => exact .noAddress refused
  | noRegion parsed missing => exact .noRegion parsed (same ▸ missing)
  | noZone parsed found missing => exact .noZone parsed (same ▸ found) (same ▸ missing)
  | label parsed found known => exact .label parsed (same ▸ found) (same ▸ known)

theorem startResolver_eq (settings : Settings) (client : MetadataClient)
    (membership : Option Membership) (store : Option Store) :
    startResolver settings client membership store =
      Effect.lift Failure.address (NodeAddress.parse (addressText settings)) >>= fun node =>
        Resolver.start node client membership store (suffixOf settings) := rfl

theorem leaves_startResolver {kind : Event → Prop} (reports : Event.CoversReports kind)
    {client : MetadataClient} (region : kind (.call (.get Metadata.regionUrl client.timeout)))
    (zone : kind (.call (.get Metadata.zoneUrl client.timeout))) (settings : Settings)
    (membership : Option Membership) (store : Option Store) :
    (startResolver settings client membership store).Leaves kind :=
  (Effect.leaves_lift ..).bind fun _ => Resolver.leaves_start reports region zone ..

/-- The resolver of a snitch is made of what the node learns. -/
theorem run_startResolver (settings : Settings) (membership : Option Membership)
    (store : Option Store) (w : World) :
    ∃ calls learned, Learns settings w calls learned ∧
      ((startResolver settings (clientOf settings) membership store).run w).result =
        learned.map (fun own => ⟨own.1, own.2, membership, store⟩) ∧
      ((startResolver settings (clientOf settings) membership store).run w).calls = calls := by
  rw [startResolver_eq]
  rcases parsed : NodeAddress.parse (addressText settings) with error | node
  · exact ⟨[], _, .noAddress parsed, rfl, rfl⟩
  · have goes : (Effect.lift Failure.address (.ok node) >>= fun node => Resolver.start node
          (clientOf settings) membership store (suffixOf settings)).run w =
        (Resolver.start node (clientOf settings) membership store (suffixOf settings)).run w :=
      Effect.run_bind_of_ok rfl
    rw [goes]
    rcases region : MetadataClient.textOf Metadata.regionUrl (w.http Metadata.regionUrl)
      with failure | name
    · exact ⟨_, _, .noRegion parsed region, Resolver.run_start_of_no_region region⟩
    rcases zone : MetadataClient.textOf Metadata.zoneUrl (w.http Metadata.zoneUrl)
      with failure | rack
    · exact ⟨_, _, .noZone parsed region zone, Resolver.run_start_of_no_zone region zone⟩
    · exact ⟨_, _, .label parsed region zone, Resolver.run_start_of_found region zone⟩

/-- What is done with the connections of a client once the start has ended. -/
def closing : Except Failure (NodeAddress × Placement) → List Call
  | .ok _ => []
  | .error _ => [.close]

theorem run_start (settings : Settings) (connected : Bool) (w : World) :
    ∃ calls learned, Learns settings w calls learned ∧
      ((start settings none (membershipOf settings connected) (storeOf settings connected)).run
        w).result = learned.map (made settings connected) ∧
      ((start settings none (membershipOf settings connected) (storeOf settings connected)).run
        w).calls = calls ++ closing learned := by
  obtain ⟨calls, learned, learns, result, called⟩ := run_startResolver settings
    (membershipOf settings connected) (storeOf settings connected) w
  refine ⟨calls, learned, learns, ?_⟩
  rw [start, Effect.run_attempt_bind]
  simp only [Option.getD_none, Option.isNone_none, result, Outcome.result_following,
    Outcome.calls_following]
  rw [← Outcome.calls, called]
  rcases learned with failure | own
  · exact ⟨rfl, rfl⟩
  · exact ⟨rfl, rfl⟩

/-- Connecting to Redis is two calls; the test of the connection tells whether it is there. -/
theorem run_connect (settings : Settings) (w : World) :
    ((connect settings.entries).run w).result = .ok w.redis.pingFailure.isNone ∧
      ((connect settings.entries).run w).calls = [connectCall settings, .ping] := by
  rw [connect, Effect.run_bind_of_ok rfl, Effect.run_bind_of_ok rfl, Effect.run_bind_of_ok rfl]
  simp only [World.redis_after]
  rcases w.redis.pingFailure with _ | reason
  · exact ⟨rfl, rfl⟩
  · exact ⟨rfl, rfl⟩

/-- Starting a snitch connects to Redis if settings ask for it, and then goes on as the node
learns what it needs; whether Redis has answered decides which sources the snitch has. -/
theorem run_ofSettings {settings : Settings} {enabled : Bool}
    (asked : settings.get .redisEnabled (.bool true) = .bool enabled) (w : World) :
    ∃ calls learned, Learns settings w calls learned ∧
      ((ofSettings settings).run w).result =
        learned.map (made settings (enabled && w.redis.pingFailure.isNone)) ∧
      ((ofSettings settings).run w).calls =
        (if enabled then [connectCall settings, .ping] else []) ++ calls ++ closing learned := by
  have wants : wantsRedis settings = enabled := by
    rw [wantsRedis, asked]
    cases enabled <;> rfl
  -- Whatever is done first, the services stay as they are.
  have goes {first : Effect Bool} (same : ofSettings settings = first >>= fun connected =>
        start settings none (membershipOf settings connected) (storeOf settings connected))
      (answers : (first.run w).result = .ok (enabled && w.redis.pingFailure.isNone)) :
      ∃ calls learned, Learns settings w calls learned ∧
        ((ofSettings settings).run w).result =
          learned.map (made settings (enabled && w.redis.pingFailure.isNone)) ∧
        ((ofSettings settings).run w).calls =
          (first.run w).calls ++ calls ++ closing learned := by
    obtain ⟨calls, learned, learns, result, called⟩ := run_start settings
      (enabled && w.redis.pingFailure.isNone) (w.after (first.run w).events)
    refine ⟨calls, learned, learns.congr (World.http_after ..), ?_⟩
    rw [same, Effect.run_bind_of_ok answers]
    refine ⟨result, ?_⟩
    rw [Outcome.calls_mk, Event.calls_append, List.append_assoc]
    exact congrArg _ called
  cases enabled with
  | true =>
    obtain ⟨answers, called⟩ := run_connect settings w
    have same : ofSettings settings = connect settings.entries >>= fun connected =>
        start settings none (membershipOf settings connected) (storeOf settings connected) := by
      rw [ofSettings, if_pos wants]
      rfl
    obtain ⟨calls, learned, learns, result, all⟩ := goes same answers
    rw [called] at all
    exact ⟨calls, learned, learns, result, all⟩
  | false =>
    have same : ofSettings settings = (pure false : Effect Bool) >>= fun connected =>
        start settings none (membershipOf settings connected) (storeOf settings connected) := by
      rw [ofSettings, if_neg (by simp [wants])]
      rfl
    exact goes same rfl

section Covers

variable {kind : Event → Prop} (reports : Event.CoversReports kind)
  (calls : ∀ made : Call, made.IsPreliminary → kind (.call made))
include reports calls

theorem leaves_connect (config : List (Scalar × Value)) : (connect config).Leaves kind := by
  refine (Effect.leaves_emit (calls _ (by trivial))).bind fun _ =>
    (Effect.leaves_emit (calls _ (by trivial))).bind fun _ =>
      (Effect.leaves_ask _).bind fun redis => ?_
  split
  · exact (Effect.leaves_emit (reports _ (by decide) ..)).bind fun _ => Effect.leaves_pure _
  · exact (Effect.leaves_emit (reports _ (by decide) ..)).bind fun _ => Effect.leaves_pure _

theorem leaves_start (settings : Settings) (client : Option MetadataClient)
    (membership : Option Membership) (store : Option Store) :
    (start settings client membership store).Leaves kind := by
  have region : Metadata.regionUrl ≠ Metadata.endpointsUrl := by decide
  have zone : Metadata.zoneUrl ≠ Metadata.endpointsUrl := by decide
  have resolves :
      (startResolver settings (client.getD (clientOf settings)) membership store).Leaves kind :=
    leaves_startResolver reports (calls _ region) (calls _ zone) ..
  refine resolves.attempt.bind fun ended => ?_
  split
  · exact Effect.leaves_pure _
  · refine Effect.Leaves.bind ?_ fun _ => Effect.leaves_fail _
    rw [release]
    split
    · exact Effect.leaves_emit (calls _ (by trivial))
    · exact Effect.leaves_pure _

/-- What starting a snitch leaves behind is preliminary to all that is asked of it. -/
theorem leaves_ofSettings_of_covers (settings : Settings) : (ofSettings settings).Leaves kind := by
  rw [ofSettings]
  split
  · exact (leaves_connect reports calls _).bind fun _ => leaves_start reports calls ..
  · exact (Effect.leaves_pure _).bind fun _ => leaves_start reports calls ..

end Covers

/-- Starting a snitch is preliminary to all that is asked of it. -/
theorem leaves_ofSettings (settings : Settings) :
    (ofSettings settings).Leaves Event.IsPreliminary :=
  leaves_ofSettings_of_covers (.of_all fun _ => trivial) (fun _ => id) settings

end Snitch

end ClusterTopology
