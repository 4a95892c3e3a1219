import CrowAgent.Core.JournalHistory
import CrowAgent.Desktop.JournalView
import CrowAgent.Lib.JsonRead
import CrowAgent.Lib.JsonText
import CrowAgent.Lib.Rfc3339

/-!
# The runs of the journal

The desktop lists the runs of the journal with what it counts of their events, newest first by the
text of the last event's time.

* `buildLocalRunJournal_shows`: the summaries are right, and they are newest first exactly when the
  texts of the runs' last events are in the order of the times.
-/

namespace CrowAgent

open Json

/-! ## The view -/

def OffsetDateTime.moment (time : OffsetDateTime) : Rfc3339.Moment :=
  ⟨time.unixNanoseconds, time.offsetSeconds⟩

/-- `format(&Rfc3339)`. -/
def rfc3339Text (time : OffsetDateTime) : Option String := time.moment.text.map String.ofList

structure LocalArenaSchedule : Type where
  startsAt : String
  endsAt : String
  decisionIntervalSeconds : UInt32
  deriving DecidableEq, Repr

structure LocalRunSummary : Type where
  runId : String
  arenaId : String
  state : String
  startedAt : String
  latestAt : String
  arenaStartsAt : Option String
  arenaEndsAt : Option String
  decisionIntervalSeconds : Option UInt32
  isolatedLeverage : Option UInt8
  eventCount : Nat
  cycleCount : Nat
  orderCount : Nat
  fillCount : Nat
  allReceipted : Bool
  deriving DecidableEq, Repr

structure LocalRunEvent : Type where
  sequence : UInt64
  cycleId : Option String
  eventType : String
  occurredAt : String
  receipted : Bool
  details : Json

structure LocalRunJournal : Type where
  runs : List LocalRunSummary
  selectedRunId : Option String
  events : List LocalRunEvent

/-- The schedules of the arenas that have one. -/
abbrev Schedules : Type := Uuid → Option LocalArenaSchedule

/-- What the first event of a run makes, before it is counted. -/
def LocalRunSummary.ofFirst (schedules : Schedules) (event : RunEventEnvelopeV1)
    (occurredAt : String) : LocalRunSummary :=
  let schedule := schedules event.arenaId
  { runId := event.runId.hyphenated
    arenaId := event.arenaId.hyphenated
    state := "running"
    startedAt := occurredAt
    latestAt := occurredAt
    arenaStartsAt := schedule.map (·.startsAt)
    arenaEndsAt := schedule.map (·.endsAt)
    decisionIntervalSeconds := schedule.map (·.decisionIntervalSeconds)
    isolatedLeverage := none
    eventCount := 0
    cycleCount := 0
    orderCount := 0
    fillCount := 0
    allReceipted := true }

def decisionCooldownOf (payload : Json) : Option UInt32 :=
  (payload.get? "decision_cooldown_seconds").bind toU32?

def isolatedLeverageOf (payload : Json) : Option UInt8 :=
  (payload.get? "isolated_leverage").bind toU8?

def fillsOf (payload : Json) : Nat :=
  match payload.get? "fills" with
  | some (.array fills) => fills.length
  | _ => 0

/-- The match on the type of an event. -/
def LocalRunSummary.applyEvent (summary : LocalRunSummary) (event : RunEventEnvelopeV1) :
    LocalRunSummary :=
  if event.eventType = "run_started" then
    { summary with
      state := "running"
      decisionIntervalSeconds :=
        (decisionCooldownOf event.payload).or summary.decisionIntervalSeconds
      isolatedLeverage := isolatedLeverageOf event.payload }
  else if event.eventType = "run_resumed" then { summary with state := "running" }
  else if event.eventType = "run_paused" then { summary with state := "paused" }
  else if event.eventType = "run_stopped" then { summary with state := "stopped" }
  else if event.eventType = "run_settings_changed" then
    { summary with
      decisionIntervalSeconds := decisionCooldownOf event.payload
      isolatedLeverage := isolatedLeverageOf event.payload }
  else if event.eventType = "cycle_started" then
    { summary with cycleCount := summary.cycleCount + 1 }
  else if event.eventType = "order_submitted" then
    { summary with orderCount := summary.orderCount + 1 }
  else if event.eventType = "fill" then
    { summary with fillCount := summary.fillCount + fillsOf event.payload }
  else summary

/-- An event is counted in the summary of its run. -/
def LocalRunSummary.countEvent (summary : LocalRunSummary) (event : RunEventEnvelopeV1)
    (occurredAt : String) : LocalRunSummary :=
  { summary with
    eventCount := summary.eventCount + 1
    latestAt := occurredAt
    allReceipted := summary.allReceipted && event.serverReceipt.isSome }.applyEvent event

/-- The body of the loop, for an event whose time has a text. -/
def countRunEvent (schedules : Schedules) (runs : List LocalRunSummary)
    (event : RunEventEnvelopeV1) (occurredAt : String) : List LocalRunSummary :=
  match runs.findIdx? (·.runId = event.runId.hyphenated) with
  | some index => runs.modify index (·.countEvent event occurredAt)
  | none => runs ++ [(LocalRunSummary.ofFirst schedules event occurredAt).countEvent event occurredAt]

/-- The loop; `none` stands for a time that cannot be formatted. -/
def summarizeRuns (prims : Primitives) (schedules : Schedules) (runs : List LocalRunSummary) :
    List RunEventEnvelopeV1 → Option (List LocalRunSummary)
  | [] => some runs
  | event :: events => do
    let occurredAt ← prims.rfc3339 event.occurredAt
    summarizeRuns prims schedules (countRunEvent schedules runs event occurredAt) events

def LocalRunEvent.ofEvent (prims : Primitives) (event : RunEventEnvelopeV1) :
    Option LocalRunEvent := do
  let occurredAt ← prims.rfc3339 event.occurredAt
  return {
    sequence := event.sequence
    cycleId := event.cycleId.map (·.hyphenated)
    eventType := event.eventType
    occurredAt
    receipted := event.serverReceipt.isSome
    details := sanitizeJournalPayload event.eventType event.payload }

/-- The events of a run. -/
def runEvents (events : List RunEventEnvelopeV1) (runId : String) : List RunEventEnvelopeV1 :=
  events.filter (·.runId.hyphenated = runId)

/-- The events of the selected run, if there is one. -/
def shownEvents (prims : Primitives) (publicEvents : List RunEventEnvelopeV1) :
    Option String → Option (List LocalRunEvent)
  | some selected => (runEvents publicEvents selected).mapM (LocalRunEvent.ofEvent prims)
  | none => some []

def buildLocalRunJournal (prims : Primitives) (publicEvents : List RunEventEnvelopeV1)
    (requestedRunId : Option String) (schedules : Schedules) : Option LocalRunJournal := do
  let runs ← summarizeRuns prims schedules [] publicEvents
  let runs := runs.insertionSort fun left right => right.latestAt ≤ left.latestAt
  let selectedRunId := (requestedRunId.filter fun requested =>
    runs.any (·.runId = requested)).or (runs.head?.map (·.runId))
  let events ← shownEvents prims publicEvents selectedRunId
  return { runs, selectedRunId, events }

/-! ## One summary -/

variable {prims : Primitives} {schedules : Schedules} {summary : LocalRunSummary}
  {event first last : RunEventEnvelopeV1} {events others : List RunEventEnvelopeV1}
  {runs : List LocalRunSummary} {occurredAt : String} {text : RunEventEnvelopeV1 → String}

/-- The state an event of the lifecycle sets. -/
def stateSetBy (event : RunEventEnvelopeV1) : Option String :=
  if event.eventType = "run_started" ∨ event.eventType = "run_resumed" then some "running"
  else if event.eventType = "run_paused" then some "paused"
  else if event.eventType = "run_stopped" then some "stopped"
  else none

/-- The state set by the last event of the lifecycle. -/
def lifecycleState (events : List RunEventEnvelopeV1) : String :=
  (events.filterMap stateSetBy).getLast?.getD "running"

theorem lifecycleState_append_singleton (events : List RunEventEnvelopeV1)
    (event : RunEventEnvelopeV1) :
    lifecycleState (events ++ [event]) = (stateSetBy event).getD (lifecycleState events) := by
  unfold lifecycleState
  rw [List.filterMap_append, List.getLast?_append]
  cases set : stateSetBy event <;> simp [set]

@[simp] theorem countEvent_runId :
    (summary.countEvent event occurredAt).runId = summary.runId := by
  unfold LocalRunSummary.countEvent LocalRunSummary.applyEvent
  split_ifs <;> rfl

@[simp] theorem countEvent_eventCount :
    (summary.countEvent event occurredAt).eventCount = summary.eventCount + 1 := by
  unfold LocalRunSummary.countEvent LocalRunSummary.applyEvent
  split_ifs <;> rfl

@[simp] theorem countEvent_latestAt :
    (summary.countEvent event occurredAt).latestAt = occurredAt := by
  unfold LocalRunSummary.countEvent LocalRunSummary.applyEvent
  split_ifs <;> rfl

theorem countEvent_state :
    (summary.countEvent event occurredAt).state = (stateSetBy event).getD summary.state := by
  unfold LocalRunSummary.countEvent LocalRunSummary.applyEvent stateSetBy
  by_cases started : event.eventType = "run_started"
  · simp only [started, if_true, true_or, Option.getD_some]
  by_cases resumed : event.eventType = "run_resumed"
  · simp only [resumed, String.reduceEq, if_false, if_true, or_true, Option.getD_some]
  by_cases paused : event.eventType = "run_paused"
  · simp only [paused, String.reduceEq, if_false, if_true, or_self, Option.getD_some]
  by_cases stopped : event.eventType = "run_stopped"
  · simp only [stopped, String.reduceEq, if_false, if_true, or_self, Option.getD_some]
  simp only [started, resumed, paused, stopped, if_false, or_self, Option.getD_none]
  split_ifs <;> rfl

/-- The summary of a run from its first event and the others. -/
def summarize (text : RunEventEnvelopeV1 → String) (schedules : Schedules)
    (first : RunEventEnvelopeV1) (others : List RunEventEnvelopeV1) : LocalRunSummary :=
  (first :: others).foldl (fun summary event => summary.countEvent event (text event))
    (LocalRunSummary.ofFirst schedules first (text first))

theorem summarize_append_singleton :
    summarize text schedules first (others ++ [event]) =
      (summarize text schedules first others).countEvent event (text event) := by
  rw [summarize, ← List.cons_append, List.foldl_append]
  rfl

/-- What a summary says of the events of its run. -/
structure SumsUp (text : RunEventEnvelopeV1 → String) (events : List RunEventEnvelopeV1)
    (summary : LocalRunSummary) : Prop where
  eventCount : summary.eventCount = events.length
  latestAt : ∀ last, events.getLast? = some last → summary.latestAt = text last
  state : summary.state = lifecycleState events

theorem sumsUp_summarize (text : RunEventEnvelopeV1 → String) (schedules : Schedules)
    (first : RunEventEnvelopeV1) (others : List RunEventEnvelopeV1) :
    SumsUp text (first :: others) (summarize text schedules first others) := by
  induction others using List.reverseRecOn with
  | nil =>
    refine ⟨countEvent_eventCount, fun last isLast => ?_, ?_⟩
    · rw [← Option.some.inj isLast]
      exact countEvent_latestAt
    · exact countEvent_state.trans (lifecycleState_append_singleton [] first).symm
  | append_singleton others event ih =>
    rw [summarize_append_singleton]
    refine ⟨?_, fun last isLast => ?_, ?_⟩
    · rw [countEvent_eventCount, ih.eventCount, List.length_cons, List.length_cons,
        List.length_append, List.length_singleton, Nat.add_right_comm]
    · rw [← List.cons_append, List.getLast?_append, List.getLast?_singleton, Option.some_or,
        Option.some.injEq] at isLast
      rw [countEvent_latestAt, isLast]
    · rw [countEvent_state, ih.state, ← List.cons_append, lifecycleState_append_singleton]

@[simp] theorem summarize_runId : (summarize text schedules first others).runId =
    first.runId.hyphenated := by
  induction others using List.reverseRecOn with
  | nil => exact countEvent_runId
  | append_singleton others event ih => rw [summarize_append_singleton, countEvent_runId, ih]

/-! ## All summaries -/

/-- The summaries of some events: one for each run, of all its events. -/
structure Summarized (text : RunEventEnvelopeV1 → String) (schedules : Schedules)
    (events : List RunEventEnvelopeV1) (runs : List LocalRunSummary) : Prop where
  once : (runs.map (·.runId)).Nodup
  all : ∀ event ∈ events, ∃ summary ∈ runs, summary.runId = event.runId.hyphenated
  each : ∀ summary ∈ runs, ∃ first others, runEvents events summary.runId = first :: others ∧
    summary = summarize text schedules first others
  total : (runs.map (·.eventCount)).sum = events.length

theorem runEvents_append_singleton (events : List RunEventEnvelopeV1) (event : RunEventEnvelopeV1)
    (runId : String) :
    runEvents (events ++ [event]) runId =
      runEvents events runId ++ if event.runId.hyphenated = runId then [event] else [] := by
  rw [runEvents, runEvents, List.filter_append, List.filter_singleton]
  by_cases own : event.runId.hyphenated = runId
  · simp [own]
  · simp [own]

/-- An event is counted in the summary of its run, or makes one at the end. -/
theorem countRunEvent_cases (schedules : Schedules) (runs : List LocalRunSummary)
    (event : RunEventEnvelopeV1) (occurredAt : String) :
    (∃ before summary after, runs = before ++ summary :: after ∧
        summary.runId = event.runId.hyphenated ∧
        countRunEvent schedules runs event occurredAt =
          before ++ summary.countEvent event occurredAt :: after) ∨
      (∀ summary ∈ runs, summary.runId ≠ event.runId.hyphenated) ∧
        countRunEvent schedules runs event occurredAt = runs ++
          [(LocalRunSummary.ofFirst schedules event occurredAt).countEvent event occurredAt] := by
  unfold countRunEvent
  cases found : runs.findIdx? (·.runId = event.runId.hyphenated) with
  | none =>
    refine .inr ⟨fun summary mem => ?_, rfl⟩
    simpa using List.findIdx?_eq_none_iff.mp found summary mem
  | some index =>
    obtain ⟨inside, own, -⟩ := List.findIdx?_eq_some_iff_getElem.mp found
    refine .inl ⟨runs.take index, runs[index], runs.drop (index + 1), ?_, by simpa using own, ?_⟩
    · rw [← List.drop_eq_getElem_cons inside, List.take_append_drop]
    · exact List.modify_eq_take_cons_drop inside

/-- Another event leaves the events of the other runs. -/
theorem runEvents_of_other (events : List RunEventEnvelopeV1)
    (other : summary.runId ≠ event.runId.hyphenated) :
    runEvents (events ++ [event]) summary.runId = runEvents events summary.runId := by
  rw [runEvents_append_singleton, if_neg other.symm, List.append_nil]

/-- An event of a run that has a summary. -/
theorem Summarized.count {before after : List LocalRunSummary}
    (summarized : Summarized text schedules events (before ++ summary :: after))
    (own : summary.runId = event.runId.hyphenated) :
    Summarized text schedules (events ++ [event])
      (before ++ summary.countEvent event (text event) :: after) := by
  have once := summarized.once
  rw [List.map_append, List.map_cons] at once
  have apart : ∀ other ∈ before ++ after, other.runId ≠ event.runId.hyphenated := by
    intro other mem same
    have notIn := List.nodup_middle.mp once
    rw [← List.map_append, List.nodup_cons] at notIn
    exact notIn.1 (List.mem_map.mpr ⟨other, mem, same.trans own.symm⟩)
  refine ⟨?_, fun event' mem => ?_, fun other mem => ?_, ?_⟩
  · rwa [List.map_append, List.map_cons, countEvent_runId]
  · rcases List.mem_append.mp mem with old | new
    · obtain ⟨other, memOther, same⟩ := summarized.all event' old
      rcases List.mem_append.mp memOther with inBefore | inAfter
      · exact ⟨other, List.mem_append_left _ inBefore, same⟩
      · rcases List.mem_cons.mp inAfter with rfl | inAfter
        · exact ⟨_, List.mem_append_right _ List.mem_cons_self, countEvent_runId.trans same⟩
        · exact ⟨other, List.mem_append_right _ (List.mem_cons_of_mem _ inAfter), same⟩
    · rw [List.mem_singleton.mp new]
      exact ⟨_, List.mem_append_right _ List.mem_cons_self, countEvent_runId.trans own⟩
  · rcases List.mem_append.mp mem with inBefore | inAfter
    · rw [runEvents_of_other events (apart other (List.mem_append_left _ inBefore))]
      exact summarized.each other (List.mem_append_left _ inBefore)
    · rcases List.mem_cons.mp inAfter with rfl | inAfter
      · obtain ⟨first, others, isRun, isSummary⟩ :=
          summarized.each summary (List.mem_append_right _ List.mem_cons_self)
        refine ⟨first, others ++ [event], ?_, ?_⟩
        · rw [countEvent_runId, runEvents_append_singleton, isRun, if_pos own.symm]
          rfl
        · rw [summarize_append_singleton, ← isSummary]
      · rw [runEvents_of_other events (apart other (List.mem_append_right _ inAfter))]
        exact summarized.each other (List.mem_append_right _ (List.mem_cons_of_mem _ inAfter))
  · have total := summarized.total
    rw [List.map_append, List.map_cons, List.sum_append, List.sum_cons] at total ⊢
    rw [countEvent_eventCount, List.length_append, List.length_singleton]
    omega

/-- The first event of a run. -/
theorem Summarized.add (summarized : Summarized text schedules events runs)
    (noOwn : ∀ summary ∈ runs, summary.runId ≠ event.runId.hyphenated) :
    Summarized text schedules (events ++ [event])
      (runs ++ [summarize text schedules event []]) := by
  have noEvents : runEvents events event.runId.hyphenated = [] :=
    List.filter_eq_nil_iff.mpr fun event' mem same => by
      obtain ⟨summary, memSummary, isRun⟩ := summarized.all event' mem
      exact noOwn summary memSummary (isRun.trans (of_decide_eq_true same))
  refine ⟨?_, fun event' mem => ?_, fun other mem => ?_, ?_⟩
  · rw [List.map_append, List.map_singleton, summarize_runId]
    refine List.nodup_append.mpr ⟨summarized.once, List.nodup_singleton _, ?_⟩
    rintro id mem other isNew rfl
    obtain ⟨summary, memSummary, rfl⟩ := List.mem_map.mp mem
    exact noOwn summary memSummary (List.mem_singleton.mp isNew)
  · rcases List.mem_append.mp mem with old | new
    · obtain ⟨summary, memSummary, same⟩ := summarized.all event' old
      exact ⟨summary, List.mem_append_left _ memSummary, same⟩
    · rw [List.mem_singleton.mp new]
      exact ⟨_, List.mem_append_right _ List.mem_cons_self, summarize_runId⟩
  · rcases List.mem_append.mp mem with old | new
    · rw [runEvents_of_other events (noOwn other old)]
      exact summarized.each other old
    · rw [List.mem_singleton.mp new]
      refine ⟨event, [], ?_, rfl⟩
      rw [summarize_runId, runEvents_append_singleton, noEvents, if_pos rfl]
      rfl
  · have counted : (summarize text schedules event []).eventCount = 1 := countEvent_eventCount
    rw [List.map_append, List.sum_append, List.map_singleton, List.sum_singleton, summarized.total,
      counted, List.length_append, List.length_singleton]

/-- **Step.**  The summaries take in another event. -/
theorem Summarized.countRunEvent (summarized : Summarized text schedules events runs)
    (event : RunEventEnvelopeV1) :
    Summarized text schedules (events ++ [event])
      (countRunEvent schedules runs event (text event)) := by
  rcases countRunEvent_cases schedules runs event (text event) with
    ⟨before, summary, after, rfl, own, counted⟩ | ⟨noOwn, added⟩
  · rw [counted]
    exact summarized.count own
  · rw [added]
    exact summarized.add noOwn

/-- **Run.**  Events whose times have texts are summarized. -/
theorem Summarized.summarizeRuns (summarized : Summarized text schedules events runs)
    (printed : ∀ event ∈ others, prims.rfc3339 event.occurredAt = some (text event)) :
    ∃ runs', summarizeRuns prims schedules runs others = some runs' ∧
      Summarized text schedules (events ++ others) runs' := by
  induction others generalizing events runs with
  | nil => exact ⟨runs, rfl, by rwa [List.append_nil]⟩
  | cons event others ih =>
    rw [List.forall_mem_cons] at printed
    obtain ⟨runs', ok, next⟩ := ih (summarized.countRunEvent event) printed.2
    refine ⟨runs', ?_, by rwa [List.append_assoc] at next⟩
    rw [CrowAgent.summarizeRuns, printed.1]
    exact ok

/-! ## The order of texts -/

/-- The text of a time that can be formatted. -/
theorem moment_text {time : OffsetDateTime} {printed : String}
    (isText : rfc3339Text time = some printed) : time.moment.text = some printed.toList := by
  obtain ⟨characters, written, rfl⟩ := Option.map_eq_some_iff.mp isText
  rw [written, String.toList_ofList]

theorem rfc3339Text_lt_iff {a b : OffsetDateTime} {textA textB : String}
    (printedA : rfc3339Text a = some textA) (printedB : rfc3339Text b = some textB) :
    textA < textB ↔ a.moment.Before b.moment :=
  String.lt_iff_toList_lt.trans
    (Rfc3339.Moment.text_lt_iff (moment_text printedA) (moment_text printedB))

theorem unixNanoseconds_of_rfc3339Text {a b : OffsetDateTime} {printed : String}
    (printedA : rfc3339Text a = some printed) (printedB : rfc3339Text b = some printed) :
    a.unixNanoseconds = b.unixNanoseconds :=
  congrArg (·.unixNanoseconds)
    (Rfc3339.Moment.text_injective (moment_text printedA) (moment_text printedB))

/-- The events of the journal have times with texts. -/
theorem exists_text_of_publicEvents {journal : EncryptedJournal}
    (ok : journal.publicEvents prims = .ok events) (mem : event ∈ events) :
    ∃ occurredAt, prims.rfc3339 event.occurredAt = some occurredAt := by
  have verified := (EncryptedJournal.scanned_of_scanEvents ok).verified event mem
  obtain ⟨value, sorted, -⟩ := RunEventEnvelopeV1.eventSha256_of_verify verified
  obtain ⟨occurredAt, isText, -⟩ := RunEventEnvelopeV1.sortedUnsigned_eq_some.mp sorted
  exact ⟨occurredAt, isText⟩

/-! ## The order of runs -/

/-- The last event of a run. -/
def IsLast (events : List RunEventEnvelopeV1) (runId : String) (event : RunEventEnvelopeV1) : Prop :=
  (runEvents events runId).getLast? = some event

/-- Of the last events of two runs, the one that is printed as the smaller text is not the later
one. -/
def PrintedInOrder (events : List RunEventEnvelopeV1) : Prop :=
  ∀ a b, IsLast events a.runId.hyphenated a → IsLast events b.runId.hyphenated b →
    a.occurredAt.moment.Before b.occurredAt.moment →
      a.occurredAt.unixNanoseconds ≤ b.occurredAt.unixNanoseconds

/-- The runs are in the order of their last events, newest first. -/
def NewestFirst (events : List RunEventEnvelopeV1) (runs : List LocalRunSummary) : Prop :=
  runs.Pairwise fun newer older => ∀ a b, IsLast events newer.runId a →
    IsLast events older.runId b → b.occurredAt.unixNanoseconds ≤ a.occurredAt.unixNanoseconds

theorem IsLast.mem {runId : String} (isLast : IsLast events runId event) :
    event ∈ events ∧ event.runId.hyphenated = runId := by
  obtain ⟨mem, own⟩ := List.mem_filter.mp (List.mem_of_getLast? isLast)
  exact ⟨mem, of_decide_eq_true own⟩

/-- The summary of a run has the time of its last event. -/
theorem Summarized.latestAt (summarized : Summarized text schedules events runs)
    (mem : summary ∈ runs) (isLast : IsLast events summary.runId event) :
    summary.latestAt = text event := by
  obtain ⟨first, others, isRun, isSummary⟩ := summarized.each summary mem
  unfold IsLast at isLast
  rw [isRun] at isLast
  rw [isSummary]
  exact (sumsUp_summarize text schedules first others).latestAt event isLast

theorem Summarized.exists_isLast (summarized : Summarized text schedules events runs)
    (mem : summary ∈ runs) : ∃ event, IsLast events summary.runId event := by
  obtain ⟨first, others, isRun, -⟩ := summarized.each summary mem
  exact ⟨_, (congrArg List.getLast? isRun).trans (List.getLast?_eq_some_getLast (by simp))⟩

/-- Summaries in the order of their texts are newest first exactly when the texts are in the order
of the times. -/
theorem Summarized.newestFirst_iff (summarized : Summarized text schedules events runs)
    (printed : ∀ event ∈ events, rfc3339Text event.occurredAt = some (text event))
    {sorted : List LocalRunSummary} (perm : sorted.Perm runs)
    (ordered : sorted.Pairwise fun left right => right.latestAt ≤ left.latestAt) :
    NewestFirst events sorted ↔ PrintedInOrder events := by
  have printedLast : ∀ {runId : String} {event : RunEventEnvelopeV1}, IsLast events runId event →
      rfc3339Text event.occurredAt = some (text event) := fun isLast => printed _ isLast.mem.1
  constructor
  · intro newest a b lastA lastB before
    obtain ⟨summaryA, memA, runA⟩ := summarized.all a lastA.mem.1
    obtain ⟨summaryB, memB, runB⟩ := summarized.all b lastB.mem.1
    rw [← runA] at lastA
    rw [← runB] at lastB
    have less := (rfc3339Text_lt_iff (printedLast lastA) (printedLast lastB)).mpr before
    rw [← summarized.latestAt memA lastA, ← summarized.latestAt memB lastB] at less
    obtain ⟨i, insideI, isA⟩ := List.mem_iff_getElem.mp (perm.mem_iff.mpr memA)
    obtain ⟨j, insideJ, isB⟩ := List.mem_iff_getElem.mp (perm.mem_iff.mpr memB)
    rcases Nat.lt_trichotomy i j with first | same | second
    · have le := List.pairwise_iff_getElem.mp ordered i j insideI insideJ first
      rw [isA, isB] at le
      exact absurd less (String.not_lt.mpr le)
    · subst same
      rw [← isA, ← isB] at less
      exact absurd less (lt_irrefl _)
    · have le := List.pairwise_iff_getElem.mp newest j i insideJ insideI second
      rw [isA, isB] at le
      exact le b a lastB lastA
  · intro inOrder
    refine ordered.imp_of_mem ?_
    intro newer older memNewer memOlder le a b lastA lastB
    rw [summarized.latestAt (perm.mem_iff.mp memNewer) lastA,
      summarized.latestAt (perm.mem_iff.mp memOlder) lastB] at le
    rcases le.lt_or_eq with less | same
    · refine inOrder b a ?_ ?_
        ((rfc3339Text_lt_iff (printedLast lastB) (printedLast lastA)).mp less)
      · rw [lastB.mem.2]
        exact lastB
      · rw [lastA.mem.2]
        exact lastA
    · have textB := printedLast lastB
      rw [same] at textB
      exact (unixNanoseconds_of_rfc3339Text textB (printedLast lastA)).le

/-! ## The journal view -/

/-- One summary for each run, with the number of its events and the state its last lifecycle event
sets. -/
structure ShowsRuns (events : List RunEventEnvelopeV1) (view : LocalRunJournal) : Prop where
  once : (view.runs.map (·.runId)).Nodup
  all : ∀ runId, (∃ summary ∈ view.runs, summary.runId = runId) ↔
    ∃ event ∈ events, event.runId.hyphenated = runId
  total : (view.runs.map (·.eventCount)).sum = events.length
  eventCount : ∀ summary ∈ view.runs, summary.eventCount = (runEvents events summary.runId).length
  state : ∀ summary ∈ view.runs, summary.state = lifecycleState (runEvents events summary.runId)

/-- Runs are newest first, and the newest one is selected when none is requested. -/
structure ShowsNewest (events : List RunEventEnvelopeV1) (requestedRunId : Option String)
    (view : LocalRunJournal) : Prop where
  ordered : NewestFirst events view.runs
  selected : requestedRunId = none → events ≠ [] →
    ∃ last, view.selectedRunId = some last.runId.hyphenated ∧
      IsLast events last.runId.hyphenated last ∧
      ∀ event, IsLast events event.runId.hyphenated event →
        event.occurredAt.unixNanoseconds ≤ last.occurredAt.unixNanoseconds

theorem Summarized.showsRuns (summarized : Summarized text schedules events runs)
    {view : LocalRunJournal} (perm : view.runs.Perm runs) : ShowsRuns events view where
  once := (perm.map _).nodup_iff.mpr summarized.once
  all := fun runId => by
    constructor
    · rintro ⟨summary, mem, rfl⟩
      obtain ⟨event, isLast⟩ := summarized.exists_isLast (perm.mem_iff.mp mem)
      exact ⟨event, isLast.mem⟩
    · rintro ⟨event, mem, rfl⟩
      obtain ⟨summary, mem, same⟩ := summarized.all event mem
      exact ⟨summary, perm.mem_iff.mpr mem, same⟩
  total := (perm.map _).sum_nat.trans summarized.total
  eventCount := fun summary mem => by
    obtain ⟨first, others, isRun, isSummary⟩ := summarized.each summary (perm.mem_iff.mp mem)
    rw [isRun, isSummary]
    exact (sumsUp_summarize text schedules first others).eventCount
  state := fun summary mem => by
    obtain ⟨first, others, isRun, isSummary⟩ := summarized.each summary (perm.mem_iff.mp mem)
    rw [isRun, isSummary]
    exact (sumsUp_summarize text schedules first others).state

/-- The first of the runs that are newest first is the newest. -/
theorem Summarized.selected (summarized : Summarized text schedules events runs)
    {sorted : List LocalRunSummary} (perm : sorted.Perm runs) (newest : NewestFirst events sorted)
    (nonempty : events ≠ []) :
    ∃ last, sorted.head?.map (·.runId) = some last.runId.hyphenated ∧
      IsLast events last.runId.hyphenated last ∧
      ∀ event, IsLast events event.runId.hyphenated event →
        event.occurredAt.unixNanoseconds ≤ last.occurredAt.unixNanoseconds := by
  obtain ⟨event, mem⟩ := List.exists_mem_of_ne_nil events nonempty
  cases sorted with
  | nil =>
    obtain ⟨summary, memSummary, -⟩ := summarized.all event mem
    exact absurd (perm.mem_iff.mpr memSummary) List.not_mem_nil
  | cons head rest =>
    obtain ⟨last, isLast⟩ := summarized.exists_isLast (perm.mem_iff.mp List.mem_cons_self)
    have own := isLast.mem.2
    refine ⟨last, congrArg some own.symm, by rwa [own], fun event isLastEvent => ?_⟩
    obtain ⟨summary, memSummary, run⟩ := summarized.all event isLastEvent.mem.1
    rw [← run] at isLastEvent
    rcases List.mem_cons.mp (perm.mem_iff.mpr memSummary) with rfl | inRest
    · rw [Option.some.inj (isLastEvent.symm.trans isLast)]
    · exact List.rel_of_pairwise_cons newest inRest last event isLast isLastEvent

/-- The events of the selected run can be shown. -/
theorem exists_shownEvents
    (printed : ∀ event ∈ events, ∃ t, prims.rfc3339 event.occurredAt = some t)
    (selected : Option String) : ∃ shown, shownEvents prims events selected = some shown := by
  cases selected with
  | none => exact ⟨[], rfl⟩
  | some selected =>
    have printed : ∀ event ∈ runEvents events selected,
        ∃ t, prims.rfc3339 event.occurredAt = some t :=
      fun event mem => printed event (List.mem_filter.mp mem).1
    change ∃ shown, (runEvents events selected).mapM (LocalRunEvent.ofEvent prims) = some shown
    generalize runEvents events selected = others at printed
    induction others with
    | nil => exact ⟨[], rfl⟩
    | cons event others ih =>
      rw [List.forall_mem_cons] at printed
      obtain ⟨⟨occurredAt, isText⟩, rest⟩ := printed
      obtain ⟨shown, isShown⟩ := ih rest
      rw [List.mapM_cons, isShown, LocalRunEvent.ofEvent, isText]
      exact ⟨_, rfl⟩

/-- The view of a journal: the summaries of its events in the order of their texts. -/
theorem exists_view {journal : EncryptedJournal} (prints : prims.rfc3339 = rfc3339Text)
    (ok : journal.publicEvents prims = .ok events) (requestedRunId : Option String)
    (schedules : Schedules) :
    ∃ (text : RunEventEnvelopeV1 → String) (runs : List LocalRunSummary) (view : LocalRunJournal),
      buildLocalRunJournal prims events requestedRunId schedules = some view ∧
      Summarized text schedules events runs ∧
      (∀ event ∈ events, rfc3339Text event.occurredAt = some (text event)) ∧
      view.runs.Perm runs ∧
      (view.runs.Pairwise fun left right => right.latestAt ≤ left.latestAt) ∧
      (requestedRunId = none → view.selectedRunId = view.runs.head?.map (·.runId)) := by
  have printed : ∀ event ∈ events,
      prims.rfc3339 event.occurredAt = some ((prims.rfc3339 event.occurredAt).getD "") := by
    intro event mem
    obtain ⟨occurredAt, isText⟩ := exists_text_of_publicEvents ok mem
    rw [isText, Option.getD_some]
  have start : Summarized (fun event => (prims.rfc3339 event.occurredAt).getD "") schedules [] [] :=
    ⟨List.nodup_nil, nofun, nofun, rfl⟩
  obtain ⟨runs, summaries, summarized⟩ := start.summarizeRuns printed
  rw [List.nil_append] at summarized
  have total : Std.Total fun left right : LocalRunSummary => right.latestAt ≤ left.latestAt :=
    ⟨fun left right => String.le_total right.latestAt left.latestAt⟩
  have trans : IsTrans LocalRunSummary fun left right => right.latestAt ≤ left.latestAt :=
    ⟨fun _ _ _ le le' => String.le_trans le' le⟩
  have perm := List.perm_insertionSort
    (fun left right : LocalRunSummary => right.latestAt ≤ left.latestAt) runs
  have ordered := List.pairwise_insertionSort
    (fun left right : LocalRunSummary => right.latestAt ≤ left.latestAt) runs
  unfold buildLocalRunJournal
  rw [summaries]
  dsimp only [bind, Option.bind]
  generalize runs.insertionSort (fun left right => right.latestAt ≤ left.latestAt) = sorted
    at perm ordered ⊢
  obtain ⟨shown, isShown⟩ := exists_shownEvents (fun event mem => exists_text_of_publicEvents ok mem)
    ((requestedRunId.filter fun requested => sorted.any (·.runId = requested)).or
      (sorted.head?.map (·.runId)))
  rw [isShown]
  refine ⟨_, runs, _, rfl, summarized, fun event mem => ?_, perm, ordered, ?_⟩
  · rw [← prints, ← printed event mem]
  · rintro rfl
    rfl

/-- **Runs.**  For every journal the view has its summaries, and the runs are newest first, with
the newest selected when none is requested, exactly when their last events are printed in order. -/
theorem buildLocalRunJournal_shows {journal : EncryptedJournal}
    (prints : prims.rfc3339 = rfc3339Text) (ok : journal.publicEvents prims = .ok events)
    (requestedRunId : Option String) (schedules : Schedules) :
    ∃ view, buildLocalRunJournal prims events requestedRunId schedules = some view ∧
      ShowsRuns events view ∧ (ShowsNewest events requestedRunId view ↔ PrintedInOrder events) := by
  obtain ⟨text, runs, view, built, summarized, printed, perm, ordered, selected⟩ :=
    exists_view prints ok requestedRunId schedules
  have newest := summarized.newestFirst_iff printed perm ordered
  refine ⟨view, built, summarized.showsRuns perm, fun shows => newest.mp shows.ordered,
    fun inOrder => ⟨newest.mpr inOrder, fun isNone nonempty => ?_⟩⟩
  rw [selected isNone]
  exact summarized.selected perm (newest.mpr inOrder) nonempty

/-! ## Two runs -/

def laterDigest : FixedBytes 32 :=
  .ofNat 32 0x5d793c1370ce3d1979aee1ee185315f6d93cabab2ffdf9cc081af9207e20654d

def laterSignature : FixedBytes 64 :=
  .ofNat 64 (0x6027b69fa7255cd990e1bca506296f048d0891fc6ee34308798607c29fe24f3a * 2 ^ 256 +
    0x43623ca468721f29a214fcc12752b4262e93bee3a8172c2eaf4ab67314568f0e)

def laterSignatureText : String :=
  "YCe2n6clXNmQ4bylBilvBI0Ikfxu40MIeYYHwp_iTzpDYjykaHIfKaIU_MEnUrQmLpO-46gXLC6vSrZzFFaPDg"

/-- The digests and the signatures of the first events of two runs, as the crates compute them.  The
messages are told apart by the first character of the arena. -/
def twoRunPrimitives : Primitives :=
  { samplePrimitives with
    sha256 := fun message => if message[13]? = some 54 then laterDigest else sampleDigest
    rfc3339 := rfc3339Text
    base64Decode := fun text =>
      if text = sampleKeyText then some sampleKey.val
      else if text = sampleSignatureText then some sampleSignature.val
      else if text = laterSignatureText then some laterSignature.val
      else none
    verifies := fun key digest signature => key = sampleKey &&
      (digest = sampleDigest.val && signature = sampleSignature ||
        digest = laterDigest.val && signature = laterSignature) }

/-- Another run, of another arena, that starts half a second after the sample. -/
def laterStarted : RunEventEnvelopeV1 :=
  { sampleStarted with
    eventId := ⟨.ofNat 16 0x55555555555555555555555555555555⟩
    arenaId := ⟨.ofNat 16 0x66666666666666666666666666666666⟩
    runId := ⟨.ofNat 16 0x44444444444444444444444444444444⟩
    occurredAt := ⟨1767571200500000000, 0⟩
    eventSha256 := "5d793c1370ce3d1979aee1ee185315f6d93cabab2ffdf9cc081af9207e20654d"
    deviceSignature := laterSignatureText }

/-- A message begins with the first field of the value. -/
theorem jsonBytes_front (prims : Primitives) (key value : String) (rest : List (String × Json)) :
    ∃ back, prims.jsonBytes (.object ((key, .string value) :: rest)) =
      utf8 (String.ofList (('\x7b' :: quoted key ++ [':', '"']) ++
        value.toList.flatMap escapeChar ++ back)) := by
  rw [Primitives.jsonBytes, compact, compactFields_cons, compact]
  refine ⟨['"'] ++ (if rest = [] then [] else ',' :: compactFields prims.floatText rest) ++
    ['\x7d'], congrArg (fun text => utf8 (String.ofList text)) ?_⟩
  simp [quoted]

/-- The first character of the arena in a message. -/
theorem message_getElem? {c : Char} {cs : List Char} {byte : UInt8}
    (isText : prims.rfc3339 event.occurredAt = some occurredAt)
    (arena : event.arenaId.hyphenated.toList = c :: cs) (plain : escapeChar c = [c])
    (front : (utf8 (String.ofList ('\x7b' :: quoted "arena_id" ++ [':', '"', c])))[13]? =
      some byte) :
    ∃ message, event.message prims = .ok message ∧ message[13]? = some byte := by
  have sorted := RunEventEnvelopeV1.sortedUnsigned_eq_some.mpr ⟨occurredAt, isText, rfl⟩
  obtain ⟨unsigned, isUnsigned, isSorted⟩ := Option.map_eq_some_iff.mp sorted
  refine ⟨prims.jsonBytes (sortJson unsigned), ?_, ?_⟩
  · rw [RunEventEnvelopeV1.message, isUnsigned]
    rfl
  · obtain ⟨back, isBack⟩ := jsonBytes_front prims "arena_id" event.arenaId.hyphenated _
    have split : '\x7b' :: quoted "arena_id" ++ [':', '"'] ++ (c :: cs).flatMap escapeChar ++ back =
        ('\x7b' :: quoted "arena_id" ++ [':', '"', c]) ++ (cs.flatMap escapeChar ++ back) := by
      simp [plain]
    rw [isSorted, isBack, arena, split, utf8_append]
    exact List.getElem?_append_left (List.getElem?_eq_some_iff.mp front).1 |>.trans front

/-- An event whose hash and signature are of the digest of its message. -/
theorem verify_of_digest {message : Bytes} {digest : FixedBytes 32}
    (protocol : event.protocol = harnessProtocolV1) (isMessage : event.message prims = .ok message)
    (isDigest : prims.sha256 message = digest) (hash : Hex.encode digest.val = event.eventSha256)
    (signed : verifySignature prims event.devicePublicKey event.deviceSignature digest.val = .ok ()) :
    event.verify prims = .ok () := by
  simp only [RunEventEnvelopeV1.verify, protocol, ne_eq, not_true_eq_false, if_false, isMessage,
    bind, Except.bind, isDigest, hash]
  exact signed

theorem verify_sampleStarted_twoRuns : sampleStarted.verify twoRunPrimitives = .ok () := by
  have isText : twoRunPrimitives.rfc3339 sampleStarted.occurredAt = some "2026-01-05T00:00:00Z" := by
    decide
  obtain ⟨message, isMessage, arena⟩ := message_getElem? isText
    (show _ = '1' :: _ from rfl) (by decide) (show _ = some 49 by decide)
  refine verify_of_digest rfl isMessage (if_neg ?_) (by decide) (by decide)
  rw [arena]
  decide

theorem verify_laterStarted : laterStarted.verify twoRunPrimitives = .ok () := by
  have isText : twoRunPrimitives.rfc3339 laterStarted.occurredAt =
      some "2026-01-05T00:00:00.5Z" := by decide
  obtain ⟨message, isMessage, arena⟩ := message_getElem? isText
    (show _ = '6' :: _ from rfl) (by decide) (show _ = some 54 by decide)
  exact verify_of_digest rfl isMessage (if_pos arena) (by decide) (by decide)

def twoRunJournal : EncryptedJournal where
  rows := [EventRow.ofEvent sampleStarted .null, EventRow.ofEvent laterStarted .null]
  secrets := []

/-- Rows of runs that are told apart by their first characters. -/
theorem rowLe_ofEvent {first second : RunEventEnvelopeV1} {c d : Char} {cs ds : List Char}
    (isFirst : first.runId.hyphenated.toList = c :: cs)
    (isSecond : second.runId.hyphenated.toList = d :: ds) (lt : c < d) :
    EncryptedJournal.rowLe (EventRow.ofEvent first .null) (EventRow.ofEvent second .null) := by
  refine .inl (String.lt_iff_toList_lt.mpr ?_)
  change first.runId.hyphenated.toList < second.runId.hyphenated.toList
  rw [isFirst, isSecond]
  exact List.Lex.rel lt

/-- A scan of two rows that are in order. -/
theorem publicEvents_pair {journal : EncryptedJournal} {first second : RunEventEnvelopeV1}
    (rows : journal.rows = [EventRow.ofEvent first .null, EventRow.ofEvent second .null])
    (ordered : EncryptedJournal.rowLe (EventRow.ofEvent first .null) (EventRow.ofEvent second .null))
    (readFirst : EncryptedJournal.readEnvelope prims (EventRow.ofEvent first .null) = .ok first)
    (readSecond : EncryptedJournal.readEnvelope prims (EventRow.ofEvent second .null) = .ok second)
    (starts : EncryptedJournal.continues none first = true)
    (continues : EncryptedJournal.continues
      (some (first.runId, first.sequence, first.eventSha256)) second = true) :
    journal.publicEvents prims = .ok [{ first with
      serverReceipt := (EventRow.ofEvent first .null).serverReceipt }, { second with
      serverReceipt := (EventRow.ofEvent second .null).serverReceipt }] := by
  simp [EncryptedJournal.publicEvents, rows, EncryptedJournal.scanEvents, ordered, readFirst,
    readSecond, starts, continues, bind, Except.bind, pure, Except.pure]

theorem publicEvents_twoRunJournal :
    twoRunJournal.publicEvents twoRunPrimitives = .ok [sampleStarted, laterStarted] := by
  have ordered : EncryptedJournal.rowLe (EventRow.ofEvent sampleStarted .null)
      (EventRow.ofEvent laterStarted .null) :=
    rowLe_ofEvent (show _ = '2' :: _ from rfl) (show _ = '4' :: _ from rfl) (by decide)
  have starts : EncryptedJournal.continues none sampleStarted = true := by decide
  have startsToo : EncryptedJournal.continues (some (sampleStarted.runId, sampleStarted.sequence,
      sampleStarted.eventSha256)) laterStarted = true := by decide
  exact publicEvents_pair rfl ordered
    (EncryptedJournal.readEnvelope_of_verify rfl verify_sampleStarted_twoRuns)
    (EncryptedJournal.readEnvelope_of_verify rfl verify_laterStarted) starts startsToo

/-- Both runs have a summary. -/
theorem buildLocalRunJournal_twoRuns :
    ∃ view, buildLocalRunJournal twoRunPrimitives [sampleStarted, laterStarted] none
      (fun _ => none) = some view ∧ ShowsRuns [sampleStarted, laterStarted] view := by
  obtain ⟨view, built, shows, -⟩ :=
    buildLocalRunJournal_shows rfl publicEvents_twoRunJournal none (fun _ => none)
  exact ⟨view, built, shows⟩

theorem isLast_sampleStarted : IsLast [sampleStarted, laterStarted]
    sampleStarted.runId.hyphenated sampleStarted := by
  have apart : laterStarted.runId.hyphenated ≠ sampleStarted.runId.hyphenated := by decide
  simp [IsLast, runEvents, apart]

theorem isLast_laterStarted : IsLast [sampleStarted, laterStarted]
    laterStarted.runId.hyphenated laterStarted := by
  have apart : sampleStarted.runId.hyphenated ≠ laterStarted.runId.hyphenated := by decide
  simp [IsLast, runEvents, apart]

/-- The run with the later event is listed last. -/
theorem twoRuns_not_newest :
    ¬∀ prims journal events requestedRunId schedules, prims.rfc3339 = rfc3339Text →
      EncryptedJournal.publicEvents prims journal = .ok events →
        ∃ view, buildLocalRunJournal prims events requestedRunId schedules = some view ∧
          ShowsRuns events view ∧ ShowsNewest events requestedRunId view := by
  intro all
  obtain ⟨view, built, -, shows⟩ := all twoRunPrimitives twoRunJournal _ none (fun _ => none) rfl
    publicEvents_twoRunJournal
  obtain ⟨text, runs, view', built', summarized, printed, perm, ordered, -⟩ :=
    @exists_view twoRunPrimitives _ twoRunJournal rfl publicEvents_twoRunJournal none (fun _ => none)
  obtain rfl := Option.some.inj (built.symm.trans built')
  have inOrder := (summarized.newestFirst_iff printed perm ordered).mp shows.ordered
  -- `.5Z` is smaller than `Z`
  have before : laterStarted.occurredAt.moment.Before sampleStarted.occurredAt.moment := by
    decide
  exact absurd (inOrder _ _ isLast_laterStarted isLast_sampleStarted before) (by decide)

end CrowAgent
