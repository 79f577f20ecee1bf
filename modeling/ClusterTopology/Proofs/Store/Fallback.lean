import ClusterTopology.Proofs.Effect
import ClusterTopology.Store

/-!
# Stores in order

A fallback asks its stores one after the other. `Store.endings` lists how those
that are asked end, up to the first one that has placements, and the laws of
this module read the outcome of the whole off that list.
-/

namespace ClusterTopology

namespace Store

/-- The report on a store that is passed over because it cannot be read. -/
def passReport (store : Store) (error : SourceError) : Event :=
  .log ⟨logger, .warning, store.kindName ++ " unavailable: " ++ error.message⟩

/-- How the stores end that are asked in turn: up to the first one that has
placements, or fails otherwise than by being unreadable. -/
def endings : List Store → World → List (Except Failure Placements)
  | [], _ => []
  | store :: rest, w =>
    match (store.load.run w).result with
    | .ok [] => .ok [] :: endings rest (w.after (store.load.run w).events)
    | .ok placements => [.ok placements]
    | .error (.source error) =>
      .error (.source error) ::
        endings rest (w.after ((store.load.run w).events ++ [passReport store error]))
    | .error failure => [.error failure]

section Cons

variable {store : Store} {rest : List Store} {w : World}
  {lastError : Option SourceError} {loadedAny : Bool}

theorem endings_of_empty (empty : (store.load.run w).result = .ok []) :
    endings (store :: rest) w =
      .ok [] :: endings rest (w.after (store.load.run w).events) := by
  rw [endings, empty]

theorem endings_of_filled {entry : NodeAddress × Placement} {entries : Placements}
    (filled : (store.load.run w).result = .ok (entry :: entries)) :
    endings (store :: rest) w = [.ok (entry :: entries)] := by
  rw [endings, filled]

theorem endings_of_source {error : SourceError}
    (fails : (store.load.run w).result = .error (.source error)) :
    endings (store :: rest) w =
      .error (.source error) ::
        endings rest (w.after ((store.load.run w).events ++ [passReport store error])) := by
  rw [endings, fails]

theorem endings_of_failure {failure : Failure}
    (fails : (store.load.run w).result = .error failure) (other : ¬ failure.IsSource) :
    endings (store :: rest) w = [.error failure] := by
  rw [endings, fails]
  cases failure with
  | source error => exact absurd ⟨error, rfl⟩ other
  | _ => rfl

theorem run_loadFirst_of_empty (empty : (store.load.run w).result = .ok []) :
    (loadFirst (store :: rest) lastError loadedAny).run w =
      ((loadFirst rest lastError true).run (w.after (store.load.run w).events)).following
        (store.load.run w).events := by
  rw [loadFirst, Effect.run_attempt_bind, empty]

theorem run_loadFirst_of_filled {entry : NodeAddress × Placement} {entries : Placements}
    (filled : (store.load.run w).result = .ok (entry :: entries)) :
    (loadFirst (store :: rest) lastError loadedAny).run w =
      ⟨.ok (entry :: entries), (store.load.run w).events⟩ := by
  rw [loadFirst, Effect.run_attempt_bind, filled]
  exact congrArg (Outcome.mk _) (List.append_nil _)

theorem run_loadFirst_of_source {error : SourceError}
    (fails : (store.load.run w).result = .error (.source error)) :
    (loadFirst (store :: rest) lastError loadedAny).run w =
      ((loadFirst rest (some error) loadedAny).run
        (w.after ((store.load.run w).events ++ [passReport store error]))).following
        ((store.load.run w).events ++ [passReport store error]) := by
  rw [loadFirst, Effect.run_attempt_bind, fails]
  simp only [Effect.run_report_bind, World.after_append]
  simp [Outcome.following, passReport]

theorem run_loadFirst_of_failure {failure : Failure}
    (fails : (store.load.run w).result = .error failure) (other : ¬ failure.IsSource) :
    (loadFirst (store :: rest) lastError loadedAny).run w =
      ⟨.error failure, (store.load.run w).events⟩ := by
  rw [loadFirst, Effect.run_attempt_bind, fails]
  cases failure with
  | source error => exact absurd ⟨error, rfl⟩ other
  | _ => exact congrArg (Outcome.mk _) (List.append_nil _)

end Cons

/-- Each store that is asked ends in one of four ways, and only after two of them the
next one is asked. -/
theorem ending_cases (result : Except Failure Placements) :
    result = .ok [] ∨ (∃ entry entries, result = .ok (entry :: entries)) ∨
      (∃ error, result = .error (.source error)) ∨
      ∃ failure, result = .error failure ∧ ¬ failure.IsSource := by
  rcases result with failure | _ | ⟨entry, entries⟩
  · by_cases source : failure.IsSource
    · obtain ⟨error, rfl⟩ := source
      exact .inr (.inr (.inl ⟨error, rfl⟩))
    · exact .inr (.inr (.inr ⟨failure, rfl, source⟩))
  · exact .inl rfl
  · exact .inr (.inl ⟨entry, entries, rfl⟩)

theorem result_loadFirst_of_filled {stores : List Store} {w : World} {placements : Placements}
    (lastError : Option SourceError) (loadedAny : Bool) (filled : placements ≠ [])
    (found : .ok placements ∈ endings stores w) :
    ((loadFirst stores lastError loadedAny).run w).result = .ok placements := by
  induction stores generalizing w lastError loadedAny with
  | nil => simp [endings] at found
  | cons store rest ih =>
    obtain empty | ⟨entry, entries, has⟩ | ⟨error, fails⟩ | ⟨failure, fails, other⟩ :=
      ending_cases (store.load.run w).result
    · rw [endings_of_empty empty, List.mem_cons] at found
      rw [run_loadFirst_of_empty empty, Outcome.result_following]
      rcases found with same | later
      · exact absurd (Except.ok.inj same) filled
      · exact ih lastError true later
    · rw [endings_of_filled has, List.mem_singleton] at found
      rw [run_loadFirst_of_filled has, found]
    · rw [endings_of_source fails, List.mem_cons] at found
      rw [run_loadFirst_of_source fails, Outcome.result_following]
      rcases found with same | later
      · cases same
      · exact ih (some error) loadedAny later
    · rw [endings_of_failure fails other, List.mem_singleton] at found
      cases found

/-- If a store could be read but none has placements, there are none. -/
theorem result_loadFirst_of_empty {stores : List Store} {w : World}
    (lastError : Option SourceError) (loadedAny : Bool)
    (passed : ∀ ending ∈ endings stores w,
      ending = .ok [] ∨ ∃ error, ending = .error (.source error))
    (read : loadedAny = true ∨ .ok [] ∈ endings stores w) :
    ((loadFirst stores lastError loadedAny).run w).result = .ok [] := by
  -- `loadedAny` carries over what was read before; an empty store turns it on for good.
  induction stores generalizing w lastError loadedAny with
  | nil =>
    have any : loadedAny = true := by simpa [endings] using read
    rw [any]
    cases lastError <;> rfl
  | cons store rest ih =>
    obtain empty | ⟨entry, entries, has⟩ | ⟨error, fails⟩ | ⟨failure, fails, other⟩ :=
      ending_cases (store.load.run w).result
    · rw [endings_of_empty empty] at passed
      rw [run_loadFirst_of_empty empty, Outcome.result_following]
      exact ih lastError true (fun ending found => passed ending (.tail _ found)) (.inl rfl)
    · rw [endings_of_filled has] at passed
      obtain same | ⟨error, same⟩ := passed _ (.head _)
      · cases same
      · cases same
    · rw [endings_of_source fails] at passed read
      rw [run_loadFirst_of_source fails, Outcome.result_following]
      refine ih (some error) loadedAny (fun ending found => passed ending (.tail _ found)) ?_
      simpa using read
    · rw [endings_of_failure fails other] at passed
      obtain same | ⟨error, same⟩ := passed _ (.head _)
      · cases same
      · exact absurd ⟨error, Except.error.inj same⟩ other

/-- If no store could be read, the fault of the last one is the result. -/
theorem result_loadFirst_of_outage {stores : List Store} {w : World}
    (lastError : Option SourceError) (nonempty : stores ≠ [])
    (outage : ∀ ending ∈ endings stores w, ∃ error, ending = .error (.source error)) :
    ∃ error, (endings stores w).getLast? = some (.error (.source error)) ∧
      ((loadFirst stores lastError false).run w).result = .error (.source error) := by
  -- Each fault takes the place of the one before it, so that the last one is left.
  induction stores generalizing w lastError with
  | nil => exact absurd rfl nonempty
  | cons store rest ih =>
    obtain empty | ⟨entry, entries, has⟩ | ⟨error, fails⟩ | ⟨failure, fails, other⟩ :=
      ending_cases (store.load.run w).result
    · rw [endings_of_empty empty] at outage
      obtain ⟨error, same⟩ := outage _ (.head _)
      cases same
    · rw [endings_of_filled has] at outage
      obtain ⟨error, same⟩ := outage _ (.head _)
      cases same
    · rw [endings_of_source fails] at outage ⊢
      rw [run_loadFirst_of_source fails, Outcome.result_following]
      cases rest with
      | nil => exact ⟨error, rfl, rfl⟩
      | cons next others =>
        obtain ⟨last, ends, result⟩ := ih (some error) (by simp)
          (fun ending found => outage ending (.tail _ found))
        exact ⟨last, by simp [List.getLast?_cons, ends], result⟩
    · rw [endings_of_failure fails other] at outage
      obtain ⟨error, same⟩ := outage _ (.head _)
      exact absurd ⟨error, Except.error.inj same⟩ other

/-- A fallback loads if one of its stores could be read and none fails otherwise than
by being unreadable. -/
theorem result_load_fallback_of_read {stores : List Store} {w : World} {read : Placements}
    (sources : ∀ failure, .error failure ∈ endings stores w → failure.IsSource)
    (found : .ok read ∈ endings stores w) :
    ∃ placements, ((fallback stores).load.run w).result = .ok placements := by
  rw [load]
  by_cases filled : ∃ placements, placements ≠ [] ∧ .ok placements ∈ endings stores w
  · obtain ⟨placements, filled, has⟩ := filled
    exact ⟨placements, result_loadFirst_of_filled none false filled has⟩
  · have empty : ∀ placements, .ok placements ∈ endings stores w → placements = [] := by
      intro placements has
      cases placements with
      | nil => rfl
      | cons entry entries => exact absurd ⟨_, List.cons_ne_nil entry entries, has⟩ filled
    refine ⟨[], result_loadFirst_of_empty none false ?_ (.inr (empty read found ▸ found))⟩
    intro ending has
    cases ending with
    | error failure =>
      obtain ⟨error, rfl⟩ := sources failure has
      exact .inr ⟨error, rfl⟩
    | ok placements => exact .inl (congrArg Except.ok (empty placements has))

theorem result_loadFirst_of_failure {stores : List Store} {w : World} {failure : Failure}
    (lastError : Option SourceError) (loadedAny : Bool) (other : ¬ failure.IsSource)
    (found : .error failure ∈ endings stores w) :
    ((loadFirst stores lastError loadedAny).run w).result = .error failure := by
  induction stores generalizing w lastError loadedAny with
  | nil => simp [endings] at found
  | cons store rest ih =>
    obtain empty | ⟨entry, entries, has⟩ | ⟨error, fails⟩ | ⟨cause, fails, foreign⟩ :=
      ending_cases (store.load.run w).result
    · rw [endings_of_empty empty, List.mem_cons] at found
      rw [run_loadFirst_of_empty empty, Outcome.result_following]
      rcases found with same | later
      · cases same
      · exact ih lastError true later
    · rw [endings_of_filled has, List.mem_singleton] at found
      cases found
    · rw [endings_of_source fails, List.mem_cons] at found
      rw [run_loadFirst_of_source fails, Outcome.result_following]
      rcases found with same | later
      · exact absurd ⟨error, Except.error.inj same⟩ other
      · exact ih (some error) loadedAny later
    · rw [endings_of_failure fails foreign, List.mem_singleton] at found
      rw [run_loadFirst_of_failure fails foreign, found]

/-- A fallback fails exactly if there are stores and none of them could be read, or if one
of those that are asked fails otherwise. -/
theorem result_load_fallback_eq_error {stores : List Store} {w : World} :
    (∃ failure, ((fallback stores).load.run w).result = .error failure) ↔
      (stores ≠ [] ∧ ∀ ending ∈ endings stores w, ∃ error, ending = .error (.source error)) ∨
        ∃ failure, .error failure ∈ endings stores w ∧ ¬ failure.IsSource := by
  constructor
  · rintro ⟨failure, fails⟩
    by_cases foreign : ∃ failure, .error failure ∈ endings stores w ∧ ¬ failure.IsSource
    · exact .inr foreign
    have sources : ∀ cause, .error cause ∈ endings stores w → cause.IsSource :=
      fun cause found => Classical.byContradiction fun other => foreign ⟨cause, found, other⟩
    refine .inl ⟨?_, fun ending found => ?_⟩
    · rintro rfl
      rw [load] at fails
      cases fails
    · cases ending with
      | error cause =>
        obtain ⟨error, rfl⟩ := sources cause found
        exact ⟨error, rfl⟩
      | ok read =>
        obtain ⟨placements, loads⟩ := result_load_fallback_of_read sources found
        rw [loads] at fails
        cases fails
  · rw [load]
    rintro (⟨nonempty, outage⟩ | ⟨failure, found, other⟩)
    · obtain ⟨error, -, fails⟩ := result_loadFirst_of_outage none nonempty outage
      exact ⟨_, fails⟩
    · exact ⟨failure, result_loadFirst_of_failure none false other found⟩

end Store

end ClusterTopology
