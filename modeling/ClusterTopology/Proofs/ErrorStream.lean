import ClusterTopology.Proofs.Events
import Mathlib.Data.List.Perm.Basic

/-!
# What the error stream shows

How the log is set up when an event is left behind decides whether the event is shown. So events are
taken together with their moments, and the error stream shows what they show one after the other.
Events that do not set up the log share one moment; in another order they show their lines in
another order.
-/

namespace ClusterTopology.Event

/-- How the log is set up after an event. -/
def nextLog (now : Option LogSetup) : Event → Option LogSetup
  | .logSetup setup => some setup
  | _ => now

/-- How the log is set up after events. -/
def logAfter (now : Option LogSetup) (events : List Event) : Option LogSetup :=
  events.foldl nextLog now

/-- Events, each with the log as it is when the event is left behind. -/
def moments : Option LogSetup → List Event → List (Option LogSetup × Event)
  | _, [] => []
  | now, event :: rest => (now, event) :: moments (nextLog now event) rest

/-- What each event shows on the error stream, in order. -/
def shownLines (time : String) (now : Option LogSetup) (events : List Event) : List String :=
  (moments now events).map fun moment => shown time moment.1 moment.2

/-- The record that is shown with an event, if there is one. -/
def shownRecord? (time : String) (now : Option LogSetup) (event : Event) : Option LogRecord :=
  if shown time now event = "" then none else event.record?

/-- The records that the error stream shows, in order. -/
def shownRecords (time : String) (now : Option LogSetup) (events : List Event) : List LogRecord :=
  (moments now events).filterMap fun moment => shownRecord? time moment.1 moment.2

/-- Whether a record is severe enough to be shown, while a log is set up or not. -/
def isShown (now : Option LogSetup) (record : LogRecord) : Bool :=
  match now with
  | some setup => setup.shows record
  | none => Level.rank .warning ≤ record.level.rank

/-- An event after which the log is set up as before. -/
def IsSteady : Event → Prop
  | .logSetup _ => False
  | _ => True

theorem IsReport.isSteady {event : Event} (report : event.IsReport) : event.IsSteady := by
  cases event with
  | log record => trivial
  | _ => exact report.elim

theorem nextLog_of_isSteady {event : Event} (steady : event.IsSteady) (now : Option LogSetup) :
    nextLog now event = now := by
  cases event with
  | logSetup setup => exact steady.elim
  | _ => rfl

section Shown

variable {time : String} {now : Option LogSetup} {events first second : List Event}
  {record : LogRecord}

theorem shown_log_eq_empty_iff :
    shown time now (.log record) = "" ↔ isShown now record = false := by
  have line : record.line time ≠ "" := by simp [LogRecord.line]
  cases now with
  | none => simp [shown, isShown]
  | some setup => simp [shown, isShown, line]

theorem shownRecord?_log :
    shownRecord? time now (.log record) = if isShown now record then some record else none := by
  rw [shownRecord?, record?]
  rcases shows : isShown now record with _ | _
  · exact if_pos (shown_log_eq_empty_iff.2 shows)
  · exact if_neg fun silent => by cases shows.symm.trans (shown_log_eq_empty_iff.1 silent)

/-- The error stream shows what the events show one after the other. -/
theorem complained_eq_join (time : String) (now : Option LogSetup) (events : List Event) :
    complained time now events = String.join (shownLines time now events) := by
  induction events generalizing now with
  | nil => exact String.join_nil.symm
  | cons event rest ih =>
    have next : complained time now (event :: rest) =
        shown time now event ++ complained time (nextLog now event) rest := by
      cases event with
      | logSetup setup => exact String.empty_append.symm
      | _ => rfl
    rw [next, ih]
    simp only [shownLines, moments, List.map_cons, String.join_cons]

theorem logAfter_append : logAfter now (first ++ second) = logAfter (logAfter now first) second :=
  List.foldl_append

theorem moments_append :
    moments now (first ++ second) = moments now first ++ moments (logAfter now first) second := by
  induction first generalizing now with
  | nil => rfl
  | cons event rest ih => exact congrArg _ ih

theorem shownLines_append : shownLines time now (first ++ second) =
    shownLines time now first ++ shownLines time (logAfter now first) second := by
  rw [shownLines, moments_append, List.map_append, shownLines, shownLines]

theorem shownRecords_append : shownRecords time now (first ++ second) =
    shownRecords time now first ++ shownRecords time (logAfter now first) second := by
  rw [shownRecords, moments_append, List.filterMap_append, shownRecords, shownRecords]

theorem logAfter_of_steady (steady : ∀ event ∈ events, event.IsSteady) :
    logAfter now events = now := by
  induction events with
  | nil => rfl
  | cons event rest ih =>
    rw [logAfter, List.foldl_cons, nextLog_of_isSteady (steady _ (.head _))]
    exact ih fun event found => steady event (.tail _ found)

theorem moments_of_steady (steady : ∀ event ∈ events, event.IsSteady) :
    moments now events = events.map fun event => (now, event) := by
  induction events with
  | nil => rfl
  | cons event rest ih =>
    rw [moments, nextLog_of_isSteady (steady _ (.head _)), List.map_cons,
      ih fun event found => steady event (.tail _ found)]

theorem map_snd_moments (now : Option LogSetup) (events : List Event) :
    (moments now events).map Prod.snd = events := by
  induction events generalizing now with
  | nil => rfl
  | cons event rest ih => exact congrArg _ (ih _)

/-- What is shown has been reported. -/
theorem log_mem_of_mem_shownRecords (found : record ∈ shownRecords time now events) :
    .log record ∈ events := by
  obtain ⟨⟨moment, event⟩, among, is⟩ := List.mem_filterMap.1 found
  have left : event ∈ events := by
    rw [← map_snd_moments now events]
    exact List.mem_map_of_mem among
  rw [shownRecord?, Option.ite_none_left_eq_some] at is
  cases event with
  | log other =>
    cases is.2
    exact left
  | _ => cases is.2

/-- Of reports those are shown that are severe enough. -/
theorem shownRecords_reports (records : List LogRecord) :
    shownRecords time now (records.map .log) = records.filter (isShown now) := by
  have steady : ∀ event ∈ records.map Event.log, event.IsSteady := by
    intro event found
    obtain ⟨record, -, rfl⟩ := List.mem_map.1 found
    trivial
  rw [shownRecords, moments_of_steady steady, List.map_map, List.filterMap_map,
    ← List.filterMap_eq_filter]
  refine List.filterMap_congr fun record _ => ?_
  exact shownRecord?_log

/-- Events that do not set up the log show the same lines in another order. -/
theorem shownLines_perm {middle other : List Event} (steady : ∀ event ∈ middle, event.IsSteady)
    (same : middle.Perm other) :
    (shownLines time now (first ++ (middle ++ second))).Perm
      (shownLines time now (first ++ (other ++ second))) := by
  have steadyToo : ∀ event ∈ other, event.IsSteady := fun event found =>
    steady event (same.mem_iff.2 found)
  simp only [shownLines_append, logAfter_of_steady steady, logAfter_of_steady steadyToo]
  refine (List.Perm.append_right _ ?_).append_left _
  rw [shownLines, shownLines, moments_of_steady steady, moments_of_steady steadyToo]
  exact (same.map _).map _

end Shown

end ClusterTopology.Event
