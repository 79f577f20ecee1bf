import ClusterTopology.Proofs.Resolver.History
import ClusterTopology.Proofs.Store.Fallback

/-!
# Outages of a fallback

A resolver saves what its fallback loads unless the load fails, and that is so
exactly when none of the stores could be read. Such an outage is forgotten: the
next question that is left open asks the stores again, and the placements of
the first store that has any answer from then on. A store that is read and
holds nothing counts as an answer; beside one, the outage of the others is
saved as an empty record.
-/

namespace ClusterTopology

namespace Question

/-- Whether the store of a question is a fallback of which no store can be read. -/
def MeetsOutage (q : Question) : Prop :=
  ∃ stores, q.resolver.store = some (.fallback stores) ∧ stores ≠ [] ∧
    ∀ ending ∈ Store.endings stores q.loadWorld, ∃ error, ending = .error (.source error)

/-- Whether the store of a question is a fallback in which the first store that has
placements has these. -/
def Finds (q : Question) (placements : Placements) : Prop :=
  ∃ stores, q.resolver.store = some (.fallback stores) ∧ placements ≠ [] ∧
    .ok placements ∈ Store.endings stores q.loadWorld

theorem MeetsOutage.fails {q : Question} (outage : q.MeetsOutage) :
    ∃ store error, q.resolver.store = some store ∧
      (store.load.run q.loadWorld).result = .error (.source error) := by
  obtain ⟨stores, stored, nonempty, fails⟩ := outage
  obtain ⟨error, -, result⟩ := Store.result_loadFirst_of_outage none nonempty fails
  exact ⟨.fallback stores, error, stored, by rw [Store.load]; exact result⟩

/-- An outage loads nothing, and leaves a question unanswered. -/
theorem MeetsOutage.ask {q : Question} (outage : q.MeetsOutage) (miss : q.IsMiss) :
    q.yields = none ∧ (q.ask none).result = .ok (.ok q.key.unknown, none) := by
  obtain ⟨store, error, stored, fails⟩ := outage.fails
  constructor
  · simp [Question.yields, stored, fails, Except.toOption]
  · rw [ask_of_outage miss stored fails]

/-- What a fallback finds is what the store as a whole loads. -/
theorem Finds.loads {q : Question} {placements : Placements} (finds : q.Finds placements) :
    ∃ store, q.resolver.store = some store ∧
      (store.load.run q.loadWorld).result = .ok placements := by
  obtain ⟨stores, stored, filled, found⟩ := finds
  have result := Store.result_loadFirst_of_filled none false filled found
  exact ⟨.fallback stores, stored, by rw [Store.load]; exact result⟩

/-- A question that is left open loads what its fallback finds, and is answered from
it. -/
theorem Finds.ask {q : Question} {placements : Placements} (finds : q.Finds placements)
    (miss : q.IsMiss) : q.yields = some placements ∧
      (q.ask none).result = .ok (.ok (q.answerIn (some placements)), some placements) := by
  obtain ⟨store, stored, loads⟩ := finds.loads
  constructor
  · simp [Question.yields, miss, stored, loads, Except.toOption]
  · rw [ask_of_loaded miss stored loads]

/-- Of a fallback, only an outage or another failure loads nothing. -/
theorem yields_eq_none {q : Question} {stores : List Store} (miss : q.IsMiss)
    (stored : q.resolver.store = some (.fallback stores)) :
    q.yields = none ↔ q.MeetsOutage ∨
      ∃ failure, .error failure ∈ Store.endings stores q.loadWorld ∧ ¬ failure.IsSource := by
  have outage : q.MeetsOutage ↔ stores ≠ [] ∧
      ∀ ending ∈ Store.endings stores q.loadWorld, ∃ error, ending = .error (.source error) := by
    simp [MeetsOutage, stored]
  rw [outage, ← Store.result_load_fallback_eq_error]
  rcases result : ((Store.fallback stores).load.run q.loadWorld).result with failure | found
  · simp [yields, stored, result, Except.toOption]
  · simp [yields, miss, stored, result, Except.toOption]

end Question

namespace Course

/-- The questions that steps put in a course. -/
def asked (c : Course) (steps : List Step) : List Question :=
  (c.run steps).history.drop c.history.length

theorem follows_asked (c : Course) (steps : List Step) :
    Follows c (c.run steps) (c.asked steps) := by
  obtain ⟨asked, follows⟩ := c.follows_run steps
  have same : c.asked steps = asked := by
    rw [Course.asked, follows.history, List.drop_left]
  rw [same]
  exact follows

theorem saved_run_of_quiet {c : Course} {steps : List Step}
    (quiet : ∀ q ∈ c.asked steps, ¬ q.IsMiss) : (c.run steps).saved = c.saved := by
  have nothing : firstLoaded (c.asked steps) = none :=
    List.findSome?_eq_none_iff.2 fun q found => Question.yields_of_not_miss (quiet q found)
  rw [(c.follows_asked steps).saved, nothing, Option.or_none]

/-- What is saved stays, and answers every question that is left open. -/
theorem result_ask_of_kept {c : Course} {known : Placements} (saved : c.saved = some known)
    (steps : List Step) (key : Attribute) (node : NodeAddress)
    (miss : ((c.run steps).question key node).IsMiss) :
    (((c.run steps).question key node).ask (c.run steps).saved).result =
      .ok (.ok (((c.run steps).question key node).answerIn (some known)), some known) := by
  have kept : (c.run steps).saved = some known := by
    rw [(c.follows_asked steps).saved, saved, Option.some_or]
  rw [kept, Question.ask_of_saved miss]

/-- A course in which nothing is saved, and in which the next question that is left open
asks the stores: what they find then answers it, and all later ones. -/
structure Retries (c : Course) : Prop where
  unsaved : c.saved = none
  again : ∀ between key node placements,
    (∀ q ∈ c.asked between, ¬ q.IsMiss) →
    let next := c.run between
    (next.question key node).IsMiss → (next.question key node).Finds placements →
    ((next.question key node).ask next.saved).result =
      .ok (.ok ((next.question key node).answerIn (some placements)), some placements) ∧
    ∀ later key' node' placement,
      let after := (next.query key node).run later
      (after.question key' node').IsMiss → Entries.get? placements node' = some placement →
      ((after.question key' node').ask after.saved).result =
        .ok (.ok (placement.get key'), some placements)

theorem retries_of_unsaved {c : Course} (unsaved : c.saved = none) : c.Retries where
  unsaved := unsaved
  again := by
    intro between key node placements quiet next miss finds
    have still : next.saved = none := by rw [saved_run_of_quiet quiet, unsaved]
    have answers := (finds.ask miss).2
    rw [← still] at answers
    refine ⟨answers, ?_⟩
    intro later key' node' placement after left recorded
    rw [result_ask_of_kept (saved_query answers) later key' node' left]
    simp [Question.answerIn, question, recorded]

/-- After any run in which nothing has been saved, a question that is left open saves
nothing exactly if none of the stores of its fallback could be read, or one fails in a way
that ends the query. After such an outage it is answered as unknown, and the stores are
asked again at the next question that is left open. -/
theorem outage_never_saved (snitch : Snitch) (w : World) (steps : List Step) (key : Attribute)
    (node : NodeAddress) (stores : List Store)
    (unsaved : ((start snitch w).run steps).saved = none)
    (miss : (((start snitch w).run steps).question key node).IsMiss)
    (stored : ((start snitch w).run steps).snitch.resolver.store = some (.fallback stores)) :
    let c := (start snitch w).run steps
    let q := c.question key node
    ((c.query key node).saved = none ↔ q.MeetsOutage ∨
      ∃ failure, .error failure ∈ Store.endings stores q.loadWorld ∧ ¬ failure.IsSource) ∧
    (q.MeetsOutage →
      (q.ask c.saved).result = .ok (.ok key.unknown, none) ∧ (c.query key node).Retries) := by
  intro c q
  have saves : (c.query key node).saved = q.yields := by
    rw [(c.follows_query key node).saved, unsaved, Option.none_or, firstLoaded_singleton]
  refine ⟨?_, fun outage => ⟨?_, ?_⟩⟩
  · rw [saves]
    exact Question.yields_eq_none miss stored
  · rw [unsaved, (outage.ask miss).2]
    rfl
  · exact retries_of_unsaved (by rw [saves, (outage.ask miss).1])

/-- Two stores that cannot be read, when they are asked for the first time. -/
theorem outage_of_two_never_saved :
    let node : NodeAddress := ⟨"n", 7000⟩
    let stores : List Store := [.redis "r", .redis "s"]
    let resolver : Resolver := ⟨⟨"m", 7000⟩, ⟨"ea", "1"⟩, none, some (.fallback stores)⟩
    let w : World := {
      http := fun _ => .unreachable ""
      redis := ⟨[], some "down", none⟩
      files := Files.empty
      log := none
      time := "" }
    let c := start ⟨MetadataClient.default, true, resolver⟩ w
    c.saved = none ∧ (c.question .rack node).IsMiss ∧
    c.snitch.resolver.store = some (.fallback stores) ∧ (c.question .rack node).MeetsOutage ∧
    ((c.question .rack node).ask c.saved).result = .ok (.ok "UNKNOWN-RACK", none) ∧
    (c.query .rack node).Retries := by
  intro node stores resolver w c
  have miss : (c.question .rack node).IsMiss := by decide
  have outage : (c.question .rack node).MeetsOutage := by
    refine ⟨stores, rfl, by simp [stores], fun ending found => ?_⟩
    have fails : Store.endings stores (c.question .rack node).loadWorld =
        [.error (.source (.recordsInRedis "down")),
          .error (.source (.recordsInRedis "down"))] := rfl
    rw [fails] at found
    simp at found
    exact ⟨_, found⟩
  exact ⟨rfl, miss, rfl, outage,
    (outage_never_saved _ w [] .rack node stores rfl miss rfl).2 outage⟩

/-- An outage beside a store that is read and holds nothing: the empty record is saved, and
the placement that the store has after its recovery is not found. -/
theorem outage_beside_missing_file_saved :
    let node : NodeAddress := ⟨"n", 7000⟩
    let file : Store := .file ⟨"", ["p"]⟩
    let stores : List Store := [.redis "r", file]
    let resolver : Resolver := ⟨⟨"m", 7000⟩, ⟨"ea", "1"⟩, none, some (.fallback stores)⟩
    let down : World := {
      http := fun _ => .unreachable ""
      redis := ⟨[], some "down", none⟩
      files := Files.empty
      log := none
      time := "" }
    let peers : Entries Datum Datum := [(.text "n", .text "\x7b\"rack\":\"3\"\x7d")]
    let up : World := { down with redis := ⟨[("r:topology:peers", peers)], none, none⟩ }
    let c := start ⟨MetadataClient.default, true, resolver⟩ down
    let d := (c.query .rack node).run [.change up none (some (.fallback stores))]
    (c.question .rack node).IsMiss ∧
    ((Store.redis "r").load.run down).result = .error (.source (.recordsInRedis "down")) ∧
    (file.load.run down).result.toOption = some [] ∧
    (c.query .rack node).saved = some [] ∧
    ((Store.redis "r").load.run up).result.toOption = some [(node, ⟨"", "3"⟩)] ∧
    (d.question .rack node).IsMiss ∧
    ((d.question .rack node).ask d.saved).result = .ok (.ok "UNKNOWN-RACK", some []) := by
  intro node file stores resolver down peers up c d
  have saves : (c.query .rack node).saved = some [] := by decide +kernel
  have miss : (d.question .rack node).IsMiss := by decide +kernel
  exact ⟨by decide, rfl, by decide +kernel, saves, by decide +kernel, miss,
    result_ask_of_kept saves _ .rack node miss⟩

end Course

end ClusterTopology
