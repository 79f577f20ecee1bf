import ClusterTopology.Proofs.Resolver.Calls
import ClusterTopology.Proofs.Store.Breaks

/-!
# Fallbacks within fallbacks

However fallbacks stand within each other, the stores at their ends are asked one after the
other, each once, until one of them has placements. So a tree of fallbacks answers as one
fallback over all these stores, and makes the same calls.
-/

namespace ClusterTopology

namespace Store

mutual

/-- The stores of a tree that are no fallbacks, from left to right. -/
def leaves : Store → List Store
  | .static placements => [.static placements]
  | .redis namespaceName => [.redis namespaceName]
  | .file path => [.file path]
  | .fallback stores => leavesAll stores

def leavesAll : List Store → List Store
  | [] => []
  | store :: rest => leaves store ++ leavesAll rest

end

mutual

/-- Whether every fallback in a tree has a store to ask. -/
def Branching : Store → Prop
  | .static _ => True
  | .redis _ => True
  | .file _ => True
  | .fallback stores => stores ≠ [] ∧ BranchingAll stores

def BranchingAll : List Store → Prop
  | [] => True
  | store :: rest => Branching store ∧ BranchingAll rest

end

mutual

/-- How the leaves of a tree end that are asked in a world, each in the world of its moment. -/
def leafEndings : Store → World → List (Except Failure Placements)
  | .static placements, w => [((static placements).load.run w).result]
  | .redis namespaceName, w => [((redis namespaceName).load.run w).result]
  | .file path, w => [((file path).load.run w).result]
  | .fallback stores, w => leafEndingsFirst stores w

def leafEndingsFirst : List Store → World → List (Except Failure Placements)
  | [], _ => []
  | store :: rest, w =>
    leafEndings store w ++
      match passed? store w with
      | some next => leafEndingsFirst rest next
      | none => []

end

def IsLeaf (store : Store) : Prop :=
  ∀ stores, store ≠ .fallback stores

section Leaf

variable {leaf : Store}

theorem IsLeaf.leaves_eq (single : leaf.IsLeaf) : leaf.leaves = [leaf] := by
  cases leaf with
  | fallback stores => exact absurd rfl (single stores)
  | _ => rw [leaves]

theorem IsLeaf.branching (single : leaf.IsLeaf) : leaf.Branching := by
  cases leaf with
  | fallback stores => exact absurd rfl (single stores)
  | _ => trivial

theorem leavesAll_of_isLeaf {stores : List Store} (single : ∀ store ∈ stores, store.IsLeaf) :
    leavesAll stores = stores := by
  induction stores with
  | nil => rfl
  | cons store rest ih =>
    rw [leavesAll, (single store (.head _)).leaves_eq,
      ih fun other found => single other (.tail _ found)]
    rfl

theorem branchingAll_of_isLeaf {stores : List Store} (single : ∀ store ∈ stores, store.IsLeaf) :
    BranchingAll stores := by
  induction stores with
  | nil => trivial
  | cons store rest ih =>
    exact ⟨(single store (.head _)).branching, ih fun other found => single other (.tail _ found)⟩

mutual

theorem isLeaf_of_mem_leaves : (store : Store) → ∀ leaf ∈ store.leaves, leaf.IsLeaf
  | .static _, leaf, found => by
    rw [leaves, List.mem_singleton] at found
    simp [found, IsLeaf]
  | .redis _, leaf, found => by
    rw [leaves, List.mem_singleton] at found
    simp [found, IsLeaf]
  | .file _, leaf, found => by
    rw [leaves, List.mem_singleton] at found
    simp [found, IsLeaf]
  | .fallback stores, leaf, found => by
    rw [leaves] at found
    exact isLeaf_of_mem_leavesAll stores leaf found

theorem isLeaf_of_mem_leavesAll : (stores : List Store) → ∀ leaf ∈ leavesAll stores, leaf.IsLeaf
  | [], leaf, found => by cases found
  | store :: rest, leaf, found => by
    rw [leavesAll, List.mem_append] at found
    rcases found with first | later
    · exact isLeaf_of_mem_leaves store leaf first
    · exact isLeaf_of_mem_leavesAll rest leaf later

end

end Leaf

/-- Whether a store is passed over that ends so: it has no placements, or cannot be read. -/
def Passes (ending : Except Failure Placements) : Prop :=
  ending = .ok [] ∨ ∃ error, ending = .error (.source error)

/-- Stores that are loaded from left to right, each once and each in the world that those before
it leave behind, up to the first one that is not passed over. Between them there are only
reports on stores that cannot be read. -/
inductive Consults : List Store → World → List (Except Failure Placements) → List Event → Prop
  | done {w} : Consults [] w [] []
  | report {stores w ends store error events}
    (later : Consults stores (w.after [passReport store error]) ends events) :
    Consults stores w ends (passReport store error :: events)
  | pass {store rest w ends events} (passes : Passes (store.load.run w).result)
    (later : Consults rest (w.after (store.load.run w).events) ends events) :
    Consults (store :: rest) w ((store.load.run w).result :: ends)
      ((store.load.run w).events ++ events)
  | stop {store rest w} (stops : ¬ Passes (store.load.run w).result) :
    Consults (store :: rest) w [(store.load.run w).result] (store.load.run w).events

namespace Consults

variable {first second : List Store} {w : World} {ends more : List (Except Failure Placements)}
  {events others : List Event}

/-- After stores that are all passed over the next ones are loaded. -/
theorem append (now : Consults first w ends events) (passed : ∀ ending ∈ ends, Passes ending)
    (later : Consults second (w.after events) more others) :
    Consults (first ++ second) w (ends ++ more) (events ++ others) := by
  induction now with
  | done => exact later
  | report _ ih => exact .report (ih passed later)
  | pass passes _ ih =>
    rw [World.after_append] at later
    rw [List.append_assoc]
    exact .pass passes (ih (fun ending found => passed ending (.tail _ found)) later)
  | stop stops => exact absurd (passed _ (.head _)) stops

/-- After a store that is not passed over no other one is loaded. -/
theorem widen (now : Consults first w ends events) (stopped : ¬ ∀ ending ∈ ends, Passes ending) :
    Consults (first ++ second) w ends events := by
  induction now with
  | done =>
    refine absurd (fun ending found => ?_) stopped
    cases found
  | report _ ih => exact .report (ih stopped)
  | pass passes _ ih =>
    refine .pass passes (ih fun passed => stopped fun ending found => ?_)
    rcases List.mem_cons.1 found with rfl | later
    · exact passes
    · exact passed ending later
  | stop stops => exact .stop stops

end Consults

theorem endings_cases (ends : List (Except Failure Placements)) :
    (∃ placements, placements ≠ [] ∧ .ok placements ∈ ends) ∨
      (∃ failure, ¬ failure.IsSource ∧ .error failure ∈ ends) ∨
      ((∀ ending ∈ ends, Passes ending) ∧ .ok [] ∈ ends) ∨
      ∀ ending ∈ ends, ∃ error, ending = .error (.source error) := by
  by_cases passed : ∀ ending ∈ ends, Passes ending
  · by_cases empty : .ok [] ∈ ends
    · exact .inr (.inr (.inl ⟨passed, empty⟩))
    · refine .inr (.inr (.inr fun ending found => ?_))
      rcases passed ending found with rfl | source
      · exact absurd found empty
      · exact source
  · push Not at passed
    obtain ⟨ending, found, stops⟩ := passed
    obtain rfl | ⟨entry, entries, rfl⟩ | source | ⟨failure, rfl, other⟩ := ending_cases ending
    · exact absurd (.inl rfl) stops
    · exact .inl ⟨_, List.cons_ne_nil entry entries, found⟩
    · exact absurd (.inr source) stops
    · exact .inr (.inl ⟨failure, other, found⟩)

/-- What comes of stores that end so, where `lastError` and `loadedAny` tell of those before. -/
structure Settles (lastError : Option SourceError) (loadedAny : Bool)
    (ends : List (Except Failure Placements)) (result : Except Failure Placements) : Prop where
  filled : ∀ placements, placements ≠ [] → .ok placements ∈ ends → result = .ok placements
  failed : ∀ failure, ¬ failure.IsSource → .error failure ∈ ends → result = .error failure
  empty : (∀ ending ∈ ends, Passes ending) → loadedAny = true ∨ .ok [] ∈ ends → result = .ok []
  outage : loadedAny = false → (∀ ending ∈ ends, ∃ error, ending = .error (.source error)) →
    result = (ends.getLast?.or (lastError.map fun error => .error (.source error))).getD (.ok [])

namespace Settles

variable {ends more : List (Except Failure Placements)} {result : Except Failure Placements}
  {lastError : Option SourceError} {loadedAny : Bool}

theorem single (result : Except Failure Placements) : Settles none false [result] result where
  filled _ _ found := (List.mem_singleton.1 found).symm
  failed _ _ found := (List.mem_singleton.1 found).symm
  empty _ read := by
    rcases read with any | found
    · cases any
    · exact (List.mem_singleton.1 found).symm
  outage _ _ := rfl

section NonEmpty

variable (nonempty : ends ≠ [])

include nonempty

theorem getLast_of_outage (settles : Settles none false ends result)
    (outage : ∀ ending ∈ ends, ∃ error, ending = .error (.source error)) :
    ends.getLast? = some result ∧ ∃ error, result = .error (.source error) := by
  have last := List.getLast?_eq_some_getLast nonempty
  have same := settles.outage rfl outage
  rw [last] at same
  have same : result = ends.getLast nonempty := same
  rw [same]
  exact ⟨last, outage _ (List.getLast_mem nonempty)⟩

theorem of_empty (settles : Settles none false ends (.ok [])) :
    (∀ ending ∈ ends, Passes ending) ∧ .ok [] ∈ ends := by
  obtain ⟨placements, filled, found⟩ | ⟨failure, other, found⟩ | read | outage :=
    endings_cases ends
  · exact absurd (Except.ok.inj (settles.filled _ filled found)).symm filled
  · cases settles.failed _ other found
  · exact read
  · obtain ⟨-, error, same⟩ := settles.getLast_of_outage nonempty outage
    cases same

theorem of_source {error : SourceError}
    (settles : Settles none false ends (.error (.source error))) :
    (∀ ending ∈ ends, ∃ error, ending = .error (.source error)) ∧
      ends.getLast? = some (.error (.source error)) := by
  obtain ⟨placements, filled, found⟩ | ⟨failure, other, found⟩ | ⟨passed, found⟩ | outage :=
    endings_cases ends
  · cases settles.filled _ filled found
  · exact absurd ⟨error, (Except.error.inj (settles.failed _ other found)).symm⟩ other
  · cases settles.empty passed (.inr found)
  · exact ⟨outage, (settles.getLast_of_outage nonempty outage).1⟩

/-- Stores that are all passed over are passed over as a whole. -/
theorem passes (settles : Settles none false ends result)
    (passed : ∀ ending ∈ ends, Passes ending) : Passes result := by
  by_cases empty : .ok [] ∈ ends
  · exact .inl (settles.empty passed (.inr empty))
  · have outage : ∀ ending ∈ ends, ∃ error, ending = .error (.source error) := by
      intro ending found
      rcases passed ending found with rfl | source
      · exact absurd found empty
      · exact source
    exact .inr (settles.getLast_of_outage nonempty outage).2

/-- A store that is not passed over settles what comes of it and those after it. -/
theorem of_stop (settles : Settles none false ends result) (stops : ¬ Passes result) :
    Settles lastError loadedAny ends result where
  filled := settles.filled
  failed := settles.failed
  empty passed _ := absurd (settles.passes nonempty passed) stops
  outage _ all := absurd (.inr (settles.getLast_of_outage nonempty all).2) stops

/-- After stores without placements at least one could be read. -/
theorem append_empty (settles : Settles none false ends (.ok []))
    (later : Settles lastError true more result) :
    Settles lastError loadedAny (ends ++ more) result where
  filled placements filled found := by
    rcases List.mem_append.1 found with now | after
    · exact absurd (Except.ok.inj (settles.filled _ filled now)).symm filled
    · exact later.filled _ filled after
  failed failure other found := by
    rcases List.mem_append.1 found with now | after
    · cases settles.failed _ other now
    · exact later.failed _ other after
  empty passed _ := by
    refine later.empty (fun ending found => passed ending ?_) (.inl rfl)
    exact List.mem_append_right _ found
  outage _ all := by
    obtain ⟨error, same⟩ := all _ (List.mem_append_left _ (settles.of_empty nonempty).2)
    cases same

/-- After stores that could not be read the last fault is the one to tell. -/
theorem append_source {error : SourceError}
    (settles : Settles none false ends (.error (.source error)))
    (later : Settles (some error) loadedAny more result) :
    Settles lastError loadedAny (ends ++ more) result := by
  obtain ⟨outage, last⟩ := settles.of_source nonempty
  refine ⟨?_, ?_, ?_, ?_⟩
  · intro placements filled found
    rcases List.mem_append.1 found with now | after
    · cases settles.filled _ filled now
    · exact later.filled _ filled after
  · intro failure other found
    rcases List.mem_append.1 found with now | after
    · exact absurd ⟨error, (Except.error.inj (settles.failed _ other now)).symm⟩ other
    · exact later.failed _ other after
  · intro passed read
    refine later.empty (fun ending found => passed ending (List.mem_append_right _ found)) ?_
    rcases read with any | found
    · exact .inl any
    · rcases List.mem_append.1 found with now | after
      · obtain ⟨error, same⟩ := outage _ now
        cases same
      · exact .inr after
  · intro unread all
    rw [later.outage unread fun ending found => all ending (List.mem_append_right _ found),
      List.getLast?_append, last]
    rcases more.getLast? with _ | ending
    · rfl
    · rfl

end NonEmpty

end Settles

mutual

theorem leafEndings_ne_nil : (store : Store) → store.Branching → ∀ w, leafEndings store w ≠ []
  | .static _, _, _ => by simp [leafEndings]
  | .redis _, _, _ => by simp [leafEndings]
  | .file _, _, _ => by simp [leafEndings]
  | .fallback stores, branching, w => by
    rw [leafEndings]
    exact leafEndingsFirst_ne_nil stores branching.2 branching.1 w

theorem leafEndingsFirst_ne_nil : (stores : List Store) → BranchingAll stores → stores ≠ [] →
    ∀ w, leafEndingsFirst stores w ≠ []
  | [], _, nonempty, _ => absurd rfl nonempty
  | store :: _, branching, _, w => by
    rw [leafEndingsFirst]
    exact List.append_ne_nil_of_left_ne_nil (leafEndings_ne_nil store branching.1 w) _

end

/-- How an outcome comes from stores that are asked one after the other. -/
structure Runs (stores : List Store) (lastError : Option SourceError) (loadedAny : Bool) (w : World)
    (ends : List (Except Failure Placements)) (outcome : Outcome Placements) : Prop where
  consults : Consults stores w ends outcome.events
  settles : Settles lastError loadedAny ends outcome.result

theorem runs_of_isLeaf {store : Store} (w : World) :
    Runs [store] none false w [(store.load.run w).result] (store.load.run w) where
  consults := by
    by_cases passes : Passes (store.load.run w).result
    · have once : Consults [store] w _ _ := .pass passes .done
      rw [List.append_nil] at once
      exact once
    · exact .stop passes
  settles := .single _

theorem runs_nil (w : World) (lastError : Option SourceError) (loadedAny : Bool) :
    Runs [] lastError loadedAny w [] ((loadFirst [] lastError loadedAny).run w) := by
  have stays : ((loadFirst [] lastError loadedAny).run w).events = [] := by
    rcases lastError with _ | error <;> rcases loadedAny with _ | _ <;> rfl
  refine ⟨stays ▸ .done, ?_, ?_, ?_, ?_⟩
  · intro _ _ found
    cases found
  · intro _ _ found
    cases found
  · intro _ read
    have any : loadedAny = true := by simpa using read
    rw [any]
    cases lastError <;> rfl
  · intro unread _
    rw [unread]
    cases lastError <;> rfl

section Cons

variable {store : Store} {rest : List Store} {w : World} {lastError : Option SourceError}
  {loadedAny : Bool} {ends more : List (Except Failure Placements)}

theorem Runs.cons_of_empty (now : Runs store.leaves none false w ends (store.load.run w))
    (nonempty : ends ≠ []) (empty : (store.load.run w).result = .ok [])
    (later : Runs (leavesAll rest) lastError true (w.after (store.load.run w).events) more
      ((loadFirst rest lastError true).run (w.after (store.load.run w).events))) :
    Runs (leavesAll (store :: rest)) lastError loadedAny w (ends ++ more)
      ((loadFirst (store :: rest) lastError loadedAny).run w) := by
  have settles := now.settles
  rw [empty] at settles
  rw [run_loadFirst_of_empty empty, leavesAll]
  exact ⟨now.consults.append (settles.of_empty nonempty).1 later.consults,
    settles.append_empty nonempty later.settles⟩

theorem Runs.cons_of_source {error : SourceError}
    (now : Runs store.leaves none false w ends (store.load.run w)) (nonempty : ends ≠ [])
    (fails : (store.load.run w).result = .error (.source error))
    (later : Runs (leavesAll rest) (some error) loadedAny
      (w.after ((store.load.run w).events ++ [passReport store error])) more
      ((loadFirst rest (some error) loadedAny).run
        (w.after ((store.load.run w).events ++ [passReport store error])))) :
    Runs (leavesAll (store :: rest)) lastError loadedAny w (ends ++ more)
      ((loadFirst (store :: rest) lastError loadedAny).run w) := by
  have settles := now.settles
  rw [fails] at settles
  have passed : ∀ ending ∈ ends, Passes ending :=
    fun ending found => .inr ((settles.of_source nonempty).1 ending found)
  have consults := later.consults
  rw [World.after_append] at consults
  rw [run_loadFirst_of_source fails, leavesAll]
  refine ⟨?_, settles.append_source nonempty later.settles⟩
  have whole := now.consults.append passed (.report consults)
  simpa [Outcome.following, World.after_append] using whole

theorem Runs.cons_of_stop {outcome : Outcome Placements}
    (now : Runs store.leaves none false w ends outcome) (nonempty : ends ≠ [])
    (stops : ¬ Passes outcome.result) :
    Runs (leavesAll (store :: rest)) lastError loadedAny w ends outcome := by
  rw [leavesAll]
  refine ⟨now.consults.widen fun passed => stops ?_, now.settles.of_stop nonempty stops⟩
  exact now.settles.passes nonempty passed

end Cons

mutual

/-- A tree of fallbacks is a run over its leaves. -/
theorem runs_load : (store : Store) → store.Branching → (w : World) →
    Runs store.leaves none false w (leafEndings store w) (store.load.run w)
  | .static _, _, w => by
    rw [leaves, leafEndings]
    exact runs_of_isLeaf w
  | .redis _, _, w => by
    rw [leaves, leafEndings]
    exact runs_of_isLeaf w
  | .file _, _, w => by
    rw [leaves, leafEndings]
    exact runs_of_isLeaf w
  | .fallback stores, branching, w => by
    rw [leaves, leafEndings, load]
    exact runs_loadFirst stores branching.2 w none false

theorem runs_loadFirst : (stores : List Store) → BranchingAll stores → (w : World) →
    (lastError : Option SourceError) → (loadedAny : Bool) →
    Runs (leavesAll stores) lastError loadedAny w (leafEndingsFirst stores w)
      ((loadFirst stores lastError loadedAny).run w)
  | [], _, w, lastError, loadedAny => by
    rw [leavesAll, leafEndingsFirst]
    exact runs_nil w lastError loadedAny
  | store :: rest, branching, w, lastError, loadedAny => by
    have now := runs_load store branching.1 w
    have nonempty := leafEndings_ne_nil store branching.1 w
    rw [leafEndingsFirst]
    obtain empty | ⟨entry, entries, filled⟩ | ⟨error, fails⟩ | ⟨failure, fails, other⟩ :=
      ending_cases (store.load.run w).result
    · simp only [passed?, empty]
      exact now.cons_of_empty nonempty empty (runs_loadFirst rest branching.2 _ _ _)
    · have same : (loadFirst (store :: rest) lastError loadedAny).run w = store.load.run w := by
        rw [run_loadFirst_of_filled filled, ← filled]
      have stops : ¬ Passes (store.load.run w).result := by simp [Passes, filled]
      simp only [passed?, filled, List.append_nil]
      rw [same]
      exact now.cons_of_stop nonempty stops
    · simp only [passed?, fails]
      exact now.cons_of_source nonempty fails (runs_loadFirst rest branching.2 _ _ _)
    · have same : (loadFirst (store :: rest) lastError loadedAny).run w = store.load.run w := by
        rw [run_loadFirst_of_failure fails other, ← fails]
      have stops : ¬ Passes (store.load.run w).result := by
        rw [fails]
        rintro (same | ⟨error, same⟩)
        · cases same
        · exact other ⟨error, Except.error.inj same⟩
      have last : passed? store w = none := by
        rw [passed?, fails]
        cases failure with
        | source error => exact absurd ⟨error, rfl⟩ other
        | _ => rfl
      simp only [last, List.append_nil]
      rw [same]
      exact now.cons_of_stop nonempty stops

end

/-- The calls of a store that is no fallback, whatever the world. -/
def leafCalls : Store → List Call
  | .redis namespaceName => [.hashGetAll (peersKey namespaceName)]
  | _ => []

theorem IsLeaf.calls_load {leaf : Store} (single : leaf.IsLeaf) (w : World) :
    (leaf.load.run w).calls = leaf.leafCalls := by
  cases leaf with
  | static placements => rfl
  | redis namespaceName =>
    rw [load]
    exact calls_loadRedis namespaceName w
  | file path =>
    rw [load]
    exact Event.calls_of_reports ((leaves_loadFile path).each w)
  | fallback stores => exact absurd rfl (single stores)

theorem Consults.calls_eq {stores : List Store} {w : World}
    {ends : List (Except Failure Placements)}
    {events : List Event} (consults : Consults stores w ends events)
    (single : ∀ store ∈ stores, store.IsLeaf) :
    Event.calls events = (stores.take ends.length).flatMap leafCalls := by
  induction consults with
  | done => rfl
  | report _ ih => exact ih single
  | @pass store rest w ends events _ _ ih =>
    have now : Event.calls (store.load.run w).events = store.leafCalls :=
      (single store (.head _)).calls_load w
    rw [Event.calls_append, now, ih fun other found => single other (.tail _ found)]
    rfl
  | @stop store rest w _ =>
    have now : Event.calls (store.load.run w).events = store.leafCalls :=
      (single store (.head _)).calls_load w
    rw [now]
    exact (List.append_nil _).symm

/-- Endings of so many stores up to the first one that is not passed over, if there is one. -/
inductive Reaches : Nat → List (Except Failure Placements) → Prop
  | done : Reaches 0 []
  | pass {n ending ends} (passes : Passes ending) (later : Reaches n ends) :
    Reaches (n + 1) (ending :: ends)
  | stop {n ending} (stops : ¬ Passes ending) : Reaches (n + 1) [ending]

theorem Consults.reaches {stores : List Store} {w : World} {ends : List (Except Failure Placements)}
    {events : List Event} (consults : Consults stores w ends events) :
    Reaches stores.length ends := by
  induction consults with
  | done => exact .done
  | report _ ih => exact ih
  | pass passes _ ih => exact .pass passes ih
  | stop stops => exact .stop stops

/-- Whether stores end alike in two runs as far as both go. -/
def EndAlike (ends others : List (Except Failure Placements)) : Prop :=
  ∀ (n : Nat) (a b : Except Failure Placements),
    ends[n]? = some a → others[n]? = some b → a = b

namespace Reaches

variable {n : Nat} {ends others : List (Except Failure Placements)}

theorem length_of_passes (reaches : Reaches n ends) (passed : ∀ ending ∈ ends, Passes ending) :
    ends.length = n := by
  induction reaches with
  | done => rfl
  | pass _ _ ih => rw [List.length_cons, ih fun ending found => passed ending (.tail _ found)]
  | stop stops => exact absurd (passed _ (.head _)) stops

/-- Runs over as many stores that end alike as far as both go are equally long. -/
theorem unique (reaches : Reaches n ends) (other : Reaches n others)
    (agree : EndAlike ends others) :
    ends = others := by
  induction reaches generalizing others with
  | done =>
    cases other
    rfl
  | pass passes _ ih =>
    cases other with
    | pass _ later =>
      rw [agree 0 _ _ rfl rfl, ih later fun n => agree (n + 1)]
    | stop stops =>
      rw [agree 0 _ _ rfl rfl] at passes
      exact absurd passes stops
  | stop stops =>
    cases other with
    | pass passes _ =>
      rw [agree 0 _ _ rfl rfl] at stops
      exact absurd passes stops
    | stop _ => rw [agree 0 _ _ rfl rfl]

end Reaches

/-- What comes of stores is told by how they end. -/
theorem Settles.unique {ends : List (Except Failure Placements)} {a b : Except Failure Placements}
    (first : Settles none false ends a) (second : Settles none false ends b) : a = b := by
  obtain ⟨placements, filled, found⟩ | ⟨failure, other, found⟩ | ⟨passed, found⟩ | outage :=
    endings_cases ends
  · rw [first.filled _ filled found, second.filled _ filled found]
  · rw [first.failed _ other found, second.failed _ other found]
  · rw [first.empty passed (.inr found), second.empty passed (.inr found)]
  · rw [first.outage rfl outage, second.outage rfl outage]

/-- A store answers by its leaves: they are loaded in order, each once, up to the first one that
is not passed over. Placements of that one are the answer; without any there are none if a leaf
could be read, and else the last fault is told. -/
structure AnswersByLeaves (store : Store) (w : World) : Prop where
  consults : Consults store.leaves w (store.leafEndings w) (store.load.run w).events
  calls : (store.load.run w).calls =
    (store.leaves.take (store.leafEndings w).length).flatMap leafCalls
  filled : ∀ placements, placements ≠ [] → .ok placements ∈ store.leafEndings w →
    (store.load.run w).result = .ok placements
  failed : ∀ failure, ¬ failure.IsSource → .error failure ∈ store.leafEndings w →
    (store.load.run w).result = .error failure
  all : (∀ ending ∈ store.leafEndings w, Passes ending) →
    (store.leafEndings w).length = store.leaves.length
  empty : (∀ ending ∈ store.leafEndings w, Passes ending) → .ok [] ∈ store.leafEndings w →
    (store.load.run w).result = .ok []
  outage : (∀ ending ∈ store.leafEndings w, ∃ error, ending = .error (.source error)) →
    (store.leafEndings w).getLast? = some (store.load.run w).result

theorem answersByLeaves {store : Store} (branching : store.Branching) (w : World) :
    store.AnswersByLeaves w := by
  have runs := runs_load store branching w
  have nonempty := leafEndings_ne_nil store branching w
  exact {
    consults := runs.consults
    calls := runs.consults.calls_eq (isLeaf_of_mem_leaves store)
    filled := runs.settles.filled
    failed := runs.settles.failed
    all := runs.consults.reaches.length_of_passes
    empty := fun passed found => runs.settles.empty passed (.inr found)
    outage := fun outage => (runs.settles.getLast_of_outage nonempty outage).1 }

/-- The leaves of a tree as one fallback. -/
def flat (store : Store) : Store := .fallback store.leaves

theorem leaves_flat (store : Store) : store.flat.leaves = store.leaves := by
  rw [flat, leaves]
  exact leavesAll_of_isLeaf (isLeaf_of_mem_leaves store)

theorem branching_flat {store : Store} (branching : store.Branching) (w : World) :
    store.flat.Branching := by
  refine ⟨fun none => ?_, branchingAll_of_isLeaf (isLeaf_of_mem_leaves store)⟩
  have reaches := (runs_load store branching w).consults.reaches
  rw [none] at reaches
  have stopped := leafEndings_ne_nil store branching w
  cases h : store.leafEndings w with
  | nil => exact stopped h
  | cons ending ends =>
    rw [h] at reaches
    cases reaches

/-- In a world that reports leave as it is, every store ends as it does there. -/
theorem Consults.ends_eq {stores : List Store} {w : World} {ends : List (Except Failure Placements)}
    {events : List Event} (consults : Consults stores w ends events) (still : w.IsStill) :
    ends = (stores.take ends.length).map fun store => (store.load.run w).result := by
  induction consults with
  | done => rfl
  | @report stores w ends store error events _ ih =>
    have same : w.after [passReport store error] = w :=
      still.after (by simp [passReport, Event.IsLookup])
    rw [same] at ih
    exact ih still
  | @pass store rest w ends events _ _ ih =>
    have same : w.after (store.load.run w).events = w := still.after ((leaves_load store).each w)
    rw [same] at ih
    exact congrArg (List.cons _) (ih still)
  | stop _ => rfl

theorem endAlike_of_still {store : Store} {w : World} (branching : store.Branching)
    (still : w.IsStill) : EndAlike (store.leafEndings w) (store.flat.leafEndings w) := by
  have tree := (runs_load store branching w).consults.ends_eq still
  have flat := (runs_load _ (branching_flat branching w) w).consults.ends_eq still
  rw [leaves_flat] at flat
  intro n a b first second
  rw [tree, List.getElem?_map, List.getElem?_take] at first
  rw [flat, List.getElem?_map, List.getElem?_take] at second
  split at first
  · split at second
    · exact Option.some.inj (first.symm.trans second)
    · cases second
  · cases first

/-- However fallbacks stand within each other, the answer is the one of the leaves. Where the
leaves end alike it is the answer of one fallback over them, which asks the same ones and makes
the same calls. -/
theorem answers_as_flat (store : Store) (w : World) (branching : store.Branching) :
    store.AnswersByLeaves w ∧ store.flat.AnswersByLeaves w ∧
    (EndAlike (store.leafEndings w) (store.flat.leafEndings w) →
      store.flat.leafEndings w = store.leafEndings w ∧
      (store.flat.load.run w).result = (store.load.run w).result ∧
      (store.flat.load.run w).calls = (store.load.run w).calls) := by
  have tree := answersByLeaves branching w
  have flat := answersByLeaves (branching_flat branching w) w
  refine ⟨tree, flat, fun agree => ?_⟩
  have reaches := flat.consults.reaches
  rw [leaves_flat] at reaches
  have same := tree.consults.reaches.unique reaches agree
  have settles := (runs_load _ (branching_flat branching w) w).settles
  rw [← same] at settles
  refine ⟨same.symm, settles.unique (runs_load store branching w).settles, ?_⟩
  rw [flat.calls, tree.calls, leaves_flat, same]

/-- Two stores in Redis that are down, one without placements, and one with a placement in front
of a store that is not asked. -/
theorem answers_as_flat_while_redis_down :
    let placed : Placements := [(⟨"n", 7000⟩, ⟨"ea", "1"⟩)]
    let store : Store := .fallback [.fallback [.redis "r"],
      .fallback [.static [], .fallback [.redis "s", .static placed]], .redis "t"]
    let w : World := {
      http := fun _ => .unreachable ""
      redis := ⟨[], some "down", none⟩
      files := Files.empty
      log := none
      time := "" }
    store.Branching ∧ store.AnswersByLeaves w ∧
    EndAlike (store.leafEndings w) (store.flat.leafEndings w) ∧
    (store.load.run w).result = .ok placed ∧ (store.flat.load.run w).result = .ok placed ∧
    (store.load.run w).calls = [.hashGetAll "r:topology:peers", .hashGetAll "s:topology:peers"] := by
  intro placed store w
  have branching : store.Branching := by simp [store, Branching, BranchingAll]
  have alike := endAlike_of_still (w := w) branching fun _ => rfl
  obtain ⟨tree, -, flat⟩ := answers_as_flat store w branching
  have loads : (store.load.run w).result = .ok placed := rfl
  exact ⟨branching, tree, alike, loads, (flat alike).2.1.trans loads, rfl⟩

end Store

end ClusterTopology
