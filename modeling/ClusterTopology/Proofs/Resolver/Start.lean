import ClusterTopology.Proofs.Effect
import ClusterTopology.Snitch

/-!
# How a resolver starts

A resolver that has started knows the region and the zone that were fetched
for it, and keeps the sources that it was given. A snitch that has started
holds such a resolver.
-/

namespace ClusterTopology

/-- Fetching a document is one request; the reply alone decides the result. -/
theorem MetadataClient.run_fetch (client : MetadataClient) (url : String) (w : World) :
    (client.fetch url).run w =
      ⟨textOf url (w.http url),
        [.log ⟨"MetadataClient", .debug, "Querying metadata endpoint " ++ url⟩,
          .call (.get url client.timeout)]⟩ := by
  rw [fetch, Effect.run_report_bind, Effect.run_bind_of_ok rfl, Effect.run_bind_of_ok rfl,
    Effect.run_ofExcept]
  simp [Outcome.following, Effect.run_emit, Effect.run_ask, World.http_step]

/-- A resolver starts exactly if region and zone can be fetched, and they are its
label. -/
theorem Resolver.result_start_eq_ok {localAddress : NodeAddress} {client : MetadataClient}
    {membership : Option Membership} {store : Option Store} {suffix : String} {origin : World}
    {r : Resolver} :
    ((start localAddress client membership store suffix).run origin).result = .ok r ↔
      ∃ region zone,
        MetadataClient.textOf Metadata.regionUrl (origin.http Metadata.regionUrl) = .ok region ∧
        MetadataClient.textOf Metadata.zoneUrl (origin.http Metadata.zoneUrl) = .ok zone ∧
        r = ⟨localAddress, ⟨region ++ suffix, zone⟩, membership, store⟩ := by
  simp only [start, Effect.result_bind_eq_ok, MetadataClient.run_fetch, World.http_after,
    Effect.run_report, Effect.run_pure]
  constructor
  · rintro ⟨region, hregion, zone, hzone, -, -, same⟩
    exact ⟨region, zone, hregion, hzone, (Except.ok.inj same).symm⟩
  · rintro ⟨region, zone, hregion, hzone, rfl⟩
    exact ⟨region, hregion, zone, hzone, (), trivial, rfl⟩

/-- The resolver of a snitch that has started has started itself, with the settings'
suffix and in the same world. -/
theorem Snitch.resolver_of_start {settings : Settings} {client : Option MetadataClient}
    {membership : Option Membership} {store : Option Store} {origin : World} {snitch : Snitch}
    (started : ((start settings client membership store).run origin).result = .ok snitch) :
    ∃ localAddress,
      NodeAddress.parse ((settings.text? .broadcastAddress).getD "") = .ok localAddress ∧
      ((Resolver.start localAddress (client.getD (clientOf settings)) membership store
        ((settings.text? .suffix).getD "")).run origin).result = .ok snitch.resolver := by
  rw [start, Effect.run_attempt_bind, Outcome.result_following] at started
  rcases resolved : ((startResolver settings (client.getD (clientOf settings)) membership
    store).run origin).result with failure | resolver
  · rw [resolved] at started
    obtain ⟨-, -, fails⟩ := Effect.result_bind_eq_ok.1 started
    cases fails
  · rw [resolved] at started
    obtain ⟨localAddress, parsed, begun⟩ := Effect.result_bind_eq_ok.1 resolved
    cases started
    exact ⟨localAddress, Effect.result_lift_eq_ok.1 parsed, begun⟩

end ClusterTopology
