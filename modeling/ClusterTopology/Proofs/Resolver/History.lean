import ClusterTopology.Proofs.Resolver.Course
import ClusterTopology.Proofs.Resolver.Start

/-!
# Answers from the history

What a resolver has saved is the outcome of the first load in its history that
worked. This is kept by every step, so each answer in a course is a function of
the history and of the moment: the own label, else what the membership holds,
else what those placements say.
-/

namespace ClusterTopology

namespace Course

/-- The placements that the first load of a history that worked has given. -/
def firstLoaded (history : List Question) : Option Placements :=
  history.findSome? Question.yields

@[simp]
theorem firstLoaded_nil : firstLoaded [] = none := rfl

@[simp]
theorem firstLoaded_singleton (q : Question) : firstLoaded [q] = q.yields := by
  rcases yields : q.yields with _ | placements
  · simp [firstLoaded, yields]
  · simp [firstLoaded, yields]

theorem firstLoaded_append (first second : List Question) :
    firstLoaded (first ++ second) = (firstLoaded first).or (firstLoaded second) :=
  List.findSome?_append

/-- The history of a course grows by the questions of its steps, and what is saved
follows the history: it stays, or is what the new questions have loaded first. -/
structure Follows (c later : Course) (asked : List Question) : Prop where
  history : later.history = c.history ++ asked
  saved : later.saved = c.saved.or (firstLoaded asked)

/-- Nothing is asked where history and memory stay. -/
theorem Follows.of_same {c later : Course} (history : later.history = c.history)
    (saved : later.saved = c.saved) : Follows c later [] :=
  ⟨by simp [history], by simp [saved]⟩

theorem Follows.trans {a b c : Course} {first second : List Question} (h : Follows a b first)
    (k : Follows b c second) : Follows a c (first ++ second) where
  history := by rw [k.history, h.history, List.append_assoc]
  saved := by rw [k.saved, h.saved, firstLoaded_append, Option.or_assoc]

theorem follows_query (c : Course) (key : Attribute) (node : NodeAddress) :
    Follows c (c.query key node) [c.question key node] where
  history := rfl
  saved := by
    rw [firstLoaded_singleton, ← Question.kept_ask]
    rfl

/-- Queries alone ask and save anything; all other steps leave that alone. -/
theorem follows_step (c : Course) (s : Step) : ∃ asked, Follows c (c.step s) asked := by
  cases s with
  | query key node => exact ⟨_, c.follows_query key node⟩
  | queryLabel node =>
    rcases c.step_queryLabel node with stops | goes
    · rw [stops]
      exact ⟨_, c.follows_query .datacenter node⟩
    · rw [goes]
      exact ⟨_, (c.follows_query .datacenter node).trans (follows_query _ .rack node)⟩
  | validate datacenters racks => exact ⟨[], .of_same rfl rfl⟩
  | validateAgainst locations datacenters racks => exact ⟨[], .of_same rfl rfl⟩
  | close => exact ⟨[], .of_same rfl rfl⟩
  | change world membership store => exact ⟨[], .of_same rfl rfl⟩

/-- Any run follows the course that it begins with. -/
theorem follows_run (c : Course) (steps : List Step) : ∃ asked, Follows c (c.run steps) asked := by
  induction steps generalizing c with
  | nil => exact ⟨[], .of_same rfl rfl⟩
  | cons s steps ih =>
    obtain ⟨first, now⟩ := c.follows_step s
    obtain ⟨second, later⟩ := ih (c.step s)
    exact ⟨first ++ second, now.trans later⟩

/-- After any run, what is saved is what the history has loaded first. -/
theorem saved_run (snitch : Snitch) (w : World) (steps : List Step) :
    ((start snitch w).run steps).saved = firstLoaded ((start snitch w).run steps).history := by
  obtain ⟨asked, follows⟩ := (start snitch w).follows_run steps
  rw [follows.saved, follows.history]
  rfl

/-- A run changes neither the own address nor the own label. -/
theorem own_run (c : Course) (steps : List Step) :
    (c.run steps).snitch.resolver.localAddress = c.snitch.resolver.localAddress ∧
      (c.run steps).snitch.resolver.label = c.snitch.resolver.label := by
  apply run_induction
    (motive := fun d => d.snitch.resolver.localAddress = c.snitch.resolver.localAddress ∧
      d.snitch.resolver.label = c.snitch.resolver.label) ⟨rfl, rfl⟩
  intro d s h
  cases s <;> exact h

/-- How a question is answered after a history, by a node with a label, where
`saved` is what the resolver has saved. -/
structure AnsweredFrom (history : List Question) (saved : SavedPlacements) (label : Placement)
    (q : Question) : Prop where
  /-- A question is about the own node, is told by the live state, or is left open. -/
  covered : q.node = q.resolver.localAddress ∨ (∃ value, q.held = .ok (some value)) ∨ q.IsMiss
  /-- The own node has the own label, and no source is asked. -/
  own : q.node = q.resolver.localAddress →
    q.ask saved = ⟨.ok (.ok (label.get q.key), saved), []⟩
  /-- Another node has what the membership holds, be it empty, whatever is stored or
  saved. -/
  live : q.node ≠ q.resolver.localAddress → ∀ value, q.held = .ok (some value) →
    ∀ store known, (q.withStore store).ask known =
      ⟨.ok (.ok value, known), q.readEvents⟩
  /-- A question that is left open is answered from the placements that were loaded
  first, at this question if not before, and these are saved. -/
  recorded : q.IsMiss → (q.ask saved).result =
    .ok (.ok (q.answerIn (firstLoaded (history ++ [q]))), firstLoaded (history ++ [q]))
  /-- What was loaded once stays, and no store is asked again. -/
  settled : q.IsMiss → ∀ known, firstLoaded history = some known →
    firstLoaded (history ++ [q]) = some known ∧
      ∀ store, (q.withStore store).ask saved =
        ⟨.ok (.ok (q.answerIn (some known)), some known), q.readEvents⟩
  /-- Before that every question that is left open has the store loaded, once. -/
  loads : q.IsMiss → firstLoaded history = none → ∀ store, q.resolver.store = some store →
    firstLoaded (history ++ [q]) = (store.load.run q.loadWorld).result.toOption ∧
      ∃ report, (q.ask saved).events =
        q.readEvents ++ ((store.load.run q.loadWorld).events ++ [report])

/-- A question whose sources fail by being unreadable only is answered from the
history. -/
theorem answeredFrom {history : List Question} {q : Question}
    (sources : q.FailsOnlyBySource) :
    AnsweredFrom history (firstLoaded history) q.resolver.label q where
  covered := by
    by_cases own : q.node = q.resolver.localAddress
    · exact .inl own
    rcases held : q.held with failure | _ | value
    · obtain ⟨error, rfl⟩ := sources.1 failure held
      exact .inr (.inr ⟨own, by simp [Question.told, held]⟩)
    · exact .inr (.inr ⟨own, by simp [Question.told, held]⟩)
    · exact .inr (.inl ⟨value, rfl⟩)
  own own := Question.ask_of_local own _
  live other value held store known :=
    Question.ask_of_told (q := q.withStore store) other (Question.told_of_held held) known
  recorded miss := by
    rw [firstLoaded_append, firstLoaded_singleton]
    exact Question.result_ask_of_miss miss sources _
  settled miss known loaded := by
    refine ⟨by rw [firstLoaded_append, loaded]; rfl, fun store => ?_⟩
    rw [loaded]
    exact Question.ask_of_saved (q := q.withStore store) miss known
  loads miss unloaded store stored := by
    refine ⟨by simp [firstLoaded_append, unloaded, Question.yields, miss, stored], ?_⟩
    rw [unloaded]
    exact Question.events_ask_of_miss miss sources stored

/-- After any run of any steps, every question whose sources fail by being unreadable
only is answered from the history of the run; the own label is made of what was fetched
at the start, and a label is the pair of the answers to its two questions. -/
theorem answered_after_run {localAddress : NodeAddress} {client : MetadataClient}
    {membership : Option Membership} {store : Option Store} {suffix : String}
    {origin : World} {snitch : Snitch}
    (started : ((Resolver.start localAddress client membership store suffix).run
      origin).result = .ok snitch.resolver)
    (w : World) (steps : List Step) (key : Attribute) (node : NodeAddress)
    (sources : (((start snitch w).run steps).question key node).FailsOnlyBySource) :
    let c := (start snitch w).run steps
    c.snitch.resolver.localAddress = localAddress ∧
    (∃ region zone,
      MetadataClient.textOf Metadata.regionUrl (origin.http Metadata.regionUrl) = .ok region ∧
      MetadataClient.textOf Metadata.zoneUrl (origin.http Metadata.zoneUrl) = .ok zone ∧
      AnsweredFrom c.history c.saved ⟨region ++ suffix, zone⟩ (c.question key node)) ∧
    ∀ datacenter rack later last,
      ((c.question .datacenter node).ask c.saved).result = .ok (.ok datacenter, later) →
      (((c.query .datacenter node).question .rack node).ask later).result =
        .ok (.ok rack, last) →
      ((c.snitch.resolver.queryLabel node).run c.saved c.world).result =
        .ok (.ok ⟨datacenter, rack⟩, last) := by
  intro c
  obtain ⟨region, zone, hregion, hzone, made⟩ := Resolver.result_start_eq_ok.1 started
  obtain ⟨address, label⟩ := (start snitch w).own_run steps
  refine ⟨?_, ⟨region, zone, hregion, hzone, ?_⟩, ?_⟩
  · rw [address, start, made]
  · have saves : c.saved = firstLoaded c.history := saved_run snitch w steps
    have same : (c.question key node).resolver.label = ⟨region ++ suffix, zone⟩ := by
      rw [question, label, start, made]
    rw [saves, ← same]
    exact answeredFrom sources
  · intro datacenter rack later last first second
    rw [← saved_query first] at second
    rw [run_queryLabel_of_answered first second]
    rfl

/-- An outage, a load and an emptied store: the first load that worked goes on to answer. -/
theorem answered_after_outage :
    let peer : NodeAddress := ⟨"10.0.0.2", 7000⟩
    let resolver : Resolver := ⟨⟨"10.0.0.1", 7000⟩, ⟨"ea" ++ "-1", "1"⟩, none, some (.redis "r")⟩
    let w : World := {
      http := fun url => .answer 200 (if url = Metadata.regionUrl then [101, 97] else [49])
      redis := ⟨[], some "down", none⟩
      files := Files.empty
      log := none
      time := "" }
    let steps : List Step := [
      .query .rack peer,
      .change w none (some (.static [(peer, ⟨"eb", ""⟩)])),
      .queryLabel peer,
      .change w none (some (.static []))]
    let c := (start ⟨MetadataClient.default, false, resolver⟩ w).run steps
    ((Resolver.start ⟨"10.0.0.1", 7000⟩ MetadataClient.default none (some (.redis "r")) "-1").run
      w).result = .ok resolver ∧
    (c.question .rack peer).FailsOnlyBySource ∧
    firstLoaded c.history = some [(peer, ⟨"eb", ""⟩)] ∧
    ∃ region zone,
      MetadataClient.textOf Metadata.regionUrl (w.http Metadata.regionUrl) = .ok region ∧
      MetadataClient.textOf Metadata.zoneUrl (w.http Metadata.zoneUrl) = .ok zone ∧
      AnsweredFrom c.history c.saved ⟨region ++ "-1", zone⟩ (c.question .rack peer) := by
  intro peer resolver w steps c
  have started : ((Resolver.start ⟨"10.0.0.1", 7000⟩ MetadataClient.default none
      (some (.redis "r")) "-1").run w).result = .ok resolver :=
    Resolver.result_start_eq_ok.2 ⟨"ea", "1", rfl, rfl, rfl⟩
  have sources : (c.question .rack peer).FailsOnlyBySource := by
    refine ⟨fun failure fails => ?_, fun store failure stored fails => ?_⟩
    · cases fails
    · cases stored
      cases fails
  exact ⟨started, sources, rfl, (answered_after_run started w steps .rack peer sources).2.1⟩

end Course

end ClusterTopology
