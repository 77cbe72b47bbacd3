/-
# Work on the device

T1 is refreshed whenever the agent is heard, and after work on the device, so that
such work is not taken for silence. The poll whose callback ends an operation does
not refresh it: T1 goes on from the last refresh before.

The timestamp is not all there is to see of this. Every refresh shows in the calls
of a run, and the timestamp is the last of them.
-/

import PldmLib.FirmwareDevice.Report

namespace PldmLib.FirmwareDevice

open PldmLib.Machine PldmLib.Protocol PldmLib.Message

/-! ## The clock of a run -/

/-- The clock over a run: its value at the return of each callback. -/
def clock (events : List FdEvent) : List PldmFdTime :=
  events.flatMap fun event => event.log.map Invocation.time

/-- The calls that pass on a message of the agent. -/
def FdOperation.isAgentMessage : FdOperation → Bool
  | .request _ _ => true
  | .handleResponse _ => true
  | _ => false

/-- When messages of the agent refreshed T1. Their handlers read the clock for
nothing else. -/
def agentHeard (events : List FdEvent) : List PldmFdTime :=
  (events.filter fun event => event.input.operation.isAgentMessage).flatMap
    fun event => readings event.log

/-- The callbacks that may take long. -/
def Callback.isOperation : Callback → Bool
  | .verify _ _ => true
  | .apply _ _ => true
  | _ => false

/-- When the verify and apply callbacks in a log returned. -/
def operationTimes (log : List Invocation) : List PldmFdTime :=
  (log.filter fun invocation => invocation.callback.isOperation).map Invocation.time

/-- When the verify and apply callbacks of a run returned. -/
def workReturned (events : List FdEvent) : List PldmFdTime :=
  events.flatMap fun event => operationTimes event.log

/-- The reading by which a poll decides about the timeout. -/
def FdEvent.checkTime (event : FdEvent) : PldmFdTime := event.input.ops.now 0

/-- A timeout comes more than T1 after the agent was heard and after the device
was working. -/
def Timely (before : List FdEvent) (event : FdEvent) : Prop :=
  TimesOut event →
    (∀ heard ∈ agentHeard before, heard + event.before.fdT1Timeout < event.checkTime) ∧
      ∀ returned ∈ workReturned before, returned + event.before.fdT1Timeout < event.checkTime

/-! ## The timeouts that come too early -/

/-- When a call refreshed T1. A poll does so if it was at work and sent nothing; the
handlers of the agent's messages read the clock for nothing else. -/
def FdEvent.refreshed (event : FdEvent) : Option PldmFdTime :=
  match event.input.operation, event.output.outcome with
  | .fdProgress _, .ok (.length 0) => (readings event.log).getLast?
  | .fdProgress _, _ => none
  | _, _ => (readings event.log).getLast?

/-- When a call of a run last refreshed T1. -/
def lastRefresh (events : List FdEvent) : PldmFdTime :=
  (events.filterMap FdEvent.refreshed).getLast?.getD 0

/-- A poll whose verify or apply callback returned at this time, and which handed
over the report. -/
def EndsWork (event : FdEvent) (returned : PldmFdTime) : Prop :=
  event.sent ≠ none ∧ returned ∈ workReturned [event]

/-- A poll that comes after the end of an operation, with no refresh of T1 since: no
more than T1 after the callback returned, but more than T1 after the last refresh
before it. -/
structure CaughtWorking (before : List FdEvent) (event : FdEvent) : Prop where
  poll : ∃ payload, event.input.operation = .fdProgress payload
  operation : event.before.state = .verify ∨ event.before.state = .apply
  cancels : event.input.ops.cancelUpdateComponent event.before.updateComp = .ok ()
  ended : ∃ earlier ending since returned, before = earlier ++ ending :: since ∧
    EndsWork ending returned ∧ (∀ later ∈ since, later.refreshed = none) ∧
    lastRefresh earlier + event.before.fdT1Timeout < event.checkTime ∧
    event.checkTime ≤ returned + event.before.fdT1Timeout

section Stamps

variable {pre post between : FdInternal} {log : List Invocation} {ops : FdOps}
  {payload : List UInt8}

/-- A call that reads the clock for T1 alone, and what it does to the timestamp. -/
def Stamped (log : List Invocation) (pre post : FdInternal) : Prop :=
  readings log = [] ∧ post.fdT1UpdateTs = pre.fdT1UpdateTs ∨ readings log = [post.fdT1UpdateTs]

theorem Stamped.of_touched (touched : Touched log pre between)
    (same : post.fdT1UpdateTs = between.fdT1UpdateTs) : Stamped log pre post := by
  cases touched with
  | kept unread => exact .inl ⟨unread, same⟩
  | refreshed time read => exact .inr (by rw [read, same]; rfl)

theorem RequestStep.stamped {handler : Handler} {outcome : Outcome MsgHandlerError ℕ}
    (step : RequestStep ops payload pre handler outcome post log) : Stamped log pre post := by
  cases step with
  | quiet touched idle spared => exact .of_touched touched rfl
  | sizeRecorded state touched idle => exact .of_touched touched rfl
  | updateStarted state decoded sized touched idle => exact .of_touched touched (by simp; rfl)
  | tableComplete state touched idle => exact .of_touched touched (by simp)
  | componentRecorded state decoded touched idle => exact .of_touched touched rfl
  | componentAccepted state decoded read idle =>
      exact .inr (by rw [read]; simp [FdContext.enterDownload]; rfl)
  | activated state unread idle => exact .inl ⟨unread, by simp [FdContext.enterActivate]⟩
  | cancelRefused _ _ _ touched => exact .of_touched touched rfl
  | cancelLost _ _ _ _ touched => exact .of_touched touched rfl
  | componentCancelled _ _ _ unread => exact .inl ⟨unread, by simp⟩
  | updateCancelled _ _ _ touched => exact .of_touched touched (by simp)

theorem ResponseStep.stamped {outcome : Outcome MsgHandlerError PUnit}
    (step : ResponseStep ops payload pre outcome post log) : Stamped log pre post := by
  cases step with
  | ignored unexpected => exact .inl ⟨rfl, rfl⟩
  | acknowledged accepted active complete success =>
      refine .inr ?_
      rw [advance_fdT1UpdateTs]
      rfl
  | _ => exact .inr rfl

/-- A poll sets the timestamp to a reading of its own, or not at all. -/
theorem PollStep.stamped {profile : Profile} {outcome : Outcome MsgHandlerError ℕ}
    {sent : Option FdRequest}
    (step : PollStep profile ops payload pre outcome post log sent) :
    post.fdT1UpdateTs = pre.fdT1UpdateTs ∨ post.fdT1UpdateTs ∈ log.map Invocation.time := by
  cases step with
  | operationPending state passed complete ran unfinished =>
      exact .inr (by simp [FdInternal.setFdT1UpdateTs])
  | _ => exact .inl (by simp)

/-- The verify and the apply callback run in polls of their own states, until the
operation is over. -/
theorem operation_of_isOperation {profile : Profile} {input : FdInput} {output : FdOutput}
    {sent : Option FdRequest} (step : FdStep profile pre input output sent)
    {invocation : Invocation} (member : invocation ∈ output.log)
    (operates : invocation.callback.isOperation = true) :
    (pre.state = .verify ∨ pre.state = .apply) ∧ pre.req.complete = false := by
  have hwork : invocation.callback.isWork = true := by
    cases hcallback : invocation.callback <;>
      simp [hcallback, Callback.isOperation] at operates <;> rfl
  have hworks : invocation.callback ∈ works output.log :=
    (mem_works hwork).mp (List.mem_map_of_mem member)
  have hother {callback : Callback} (other : callback.isOperation = false)
      (same : invocation.callback = callback) : False := by
    rw [same, other] at operates
    cases operates
  cases step with
  | request step =>
      rcases step.works_eq with hnone | ⟨_, _, _, _, hcancel⟩
      · simp [hnone] at hworks
      · rw [hcancel, List.mem_singleton] at hworks
        exact (hother rfl hworks).elim
  | poll step =>
      rcases step.works_eq with hnone | ⟨_, _, _, _, _, hcancel⟩ | ⟨_, _, _, _, _, hquery⟩ |
        ⟨kind, state, _, unfinished, _⟩
      · simp [hnone] at hworks
      · rw [hcancel, List.mem_singleton] at hworks
        exact (hother rfl hworks).elim
      · rw [hquery, List.mem_singleton] at hworks
        exact (hother rfl hworks).elim
      · refine ⟨?_, unfinished⟩
        rw [state]
        cases kind with
        | verify => exact .inl rfl
        | apply => exact .inr rfl
  | response step =>
      rcases step.works_eq _ hworks with ⟨_, _, _, same⟩ | ⟨_, same⟩
      · exact (hother rfl same).elim
      · exact (hother rfl same).elim
  | touch => simp [works_cons] at hworks
  | query reads => simp at hworks

theorem FdStep.of_operationTimes {profile : Profile} {input : FdInput} {output : FdOutput}
    {sent : Option FdRequest} (step : FdStep profile pre input output sent)
    {returned : PldmFdTime} (worked : returned ∈ operationTimes output.log) :
    (pre.state = .verify ∨ pre.state = .apply) ∧ pre.req.complete = false := by
  simp only [operationTimes, List.mem_map, List.mem_filter] at worked
  obtain ⟨invocation, ⟨member, operates⟩, _⟩ := worked
  exact operation_of_isOperation step member (by simpa using operates)

/-- No message of the agent was heard after the timestamp, and in a download no
operation returned after it. -/
structure UpToDate (events : List FdEvent) (state : FdInternal) : Prop where
  heard : ∀ time ∈ agentHeard events, time ≤ state.fdT1UpdateTs
  returned : state.state = .download → ∀ time ∈ workReturned events, time ≤ state.fdT1UpdateTs

theorem mem_clock_of_agentHeard {events : List FdEvent} {time : PldmFdTime}
    (member : time ∈ agentHeard events) : time ∈ clock events := by
  simp only [agentHeard, readings, List.mem_flatMap, List.mem_filter, List.mem_map] at member
  obtain ⟨event, ⟨hevent, _⟩, invocation, ⟨hinvocation, _⟩, htime⟩ := member
  exact List.mem_flatMap.mpr ⟨event, hevent, List.mem_map.mpr ⟨invocation, hinvocation, htime⟩⟩

theorem mem_clock_of_workReturned {events : List FdEvent} {time : PldmFdTime}
    (member : time ∈ workReturned events) : time ∈ clock events := by
  simp only [workReturned, operationTimes, List.mem_flatMap, List.mem_filter,
    List.mem_map] at member
  obtain ⟨event, hevent, invocation, ⟨hinvocation, _⟩, htime⟩ := member
  exact List.mem_flatMap.mpr ⟨event, hevent, List.mem_map.mpr ⟨invocation, hinvocation, htime⟩⟩

theorem clock_append (events : List FdEvent) (event : FdEvent) :
    clock (events ++ [event]) = clock events ++ event.log.map Invocation.time := by
  simp [clock]

theorem workReturned_append (events : List FdEvent) (event : FdEvent) :
    workReturned (events ++ [event]) = workReturned events ++ operationTimes event.log := by
  simp [workReturned]

theorem workReturned_singleton (event : FdEvent) :
    workReturned [event] = operationTimes event.log := by
  simp [workReturned]

theorem agentHeard_append (events : List FdEvent) (event : FdEvent) :
    agentHeard (events ++ [event]) = agentHeard events ++
      if event.input.operation.isAgentMessage then readings event.log else [] := by
  cases hmessage : event.input.operation.isAgentMessage <;> simp [agentHeard, hmessage]

theorem mem_times_of_readings {log : List Invocation} {time : PldmFdTime}
    (read : readings log = [time]) : time ∈ log.map Invocation.time := by
  have hmember : time ∈ readings log := by simp [read]
  simp only [readings, List.mem_map, List.mem_filter] at hmember
  obtain ⟨invocation, ⟨hinvocation, _⟩, htime⟩ := hmember
  exact List.mem_map.mpr ⟨invocation, hinvocation, htime⟩

/-- A timestamp that moves moves to a reading of the call. -/
theorem FdStep.stamped {profile : Profile} {input : FdInput} {output : FdOutput}
    {sent : Option FdRequest} (step : FdStep profile pre input output sent) :
    output.internal.fdT1UpdateTs = pre.fdT1UpdateTs ∨
      output.internal.fdT1UpdateTs ∈ output.log.map Invocation.time := by
  cases step with
  | request step =>
      rcases step.stamped with ⟨_, same⟩ | read
      · exact .inl same
      · exact .inr (mem_times_of_readings read)
  | poll step => exact step.stamped
  | response step =>
      rcases step.stamped with ⟨_, same⟩ | read
      · exact .inl same
      · exact .inr (mem_times_of_readings read)
  | touch => exact .inr (by simp [FdInternal.setFdT1UpdateTs])
  | query reads => exact .inl rfl

/-- What a message of the agent reads off the clock becomes the timestamp. -/
theorem FdStep.readings_of_agentMessage {profile : Profile} {input : FdInput}
    {output : FdOutput} {sent : Option FdRequest} (step : FdStep profile pre input output sent)
    (message : input.operation.isAgentMessage = true) :
    ∀ time ∈ readings output.log, time = output.internal.fdT1UpdateTs := by
  intro time member
  cases step with
  | request step =>
      rcases step.stamped with ⟨unread, _⟩ | read
      · simp [unread] at member
      · simpa [read] using member
  | response step =>
      rcases step.stamped with ⟨unread, _⟩ | read
      · simp [unread] at member
      · simpa [read] using member
  | query reads => simp [readings] at member
  | poll step => cases message
  | touch => cases message

/-- The step lemma: a timestamp that moves moves to the present. -/
theorem upToDate_step {profile : Profile} {events : List FdEvent} {input : FdInput}
    {output : FdOutput} {sent : Option FdRequest}
    (step : FdStep profile pre input output sent)
    (monotone : (clock (events ++ [⟨pre, input, output⟩])).Pairwise (· ≤ ·))
    (upToDate : UpToDate events pre) :
    UpToDate (events ++ [⟨pre, input, output⟩]) output.internal := by
  rw [clock_append, List.pairwise_append] at monotone
  obtain ⟨_, _, hlater⟩ := monotone
  -- Whatever the timestamp was before, it has not moved back.
  have hforward : ∀ time ∈ clock events, time ≤ pre.fdT1UpdateTs →
      time ≤ output.internal.fdT1UpdateTs := by
    intro time member past
    rcases step.stamped with same | moved
    · rwa [same]
    · exact hlater time member _ moved
  refine ⟨fun time member => ?_, fun downloading time member => ?_⟩
  · rw [agentHeard_append, List.mem_append] at member
    rcases member with earlier | now
    · exact hforward time (mem_clock_of_agentHeard earlier) (upToDate.heard time earlier)
    · split at now
      · next message => exact (step.readings_of_agentMessage message time now).le
      · cases now
  · rw [workReturned_append, List.mem_append] at member
    rcases member with earlier | now
    · have hclock := mem_clock_of_workReturned earlier
      by_cases already : pre.state = .download
      · exact hforward time hclock (upToDate.returned already time earlier)
      · obtain ⟨_, _, start, _, _, _, read, _, hpost⟩ :=
          step.of_movesToDownload ⟨already, downloading⟩
        have hstamp : output.internal.fdT1UpdateTs = start := by
          rw [hpost]
          simp [FdContext.enterDownload]
          rfl
        rw [hstamp]
        exact hlater time hclock start (mem_times_of_readings read)
    · obtain ⟨hoperation, _⟩ := step.of_operationTimes now
      by_cases already : pre.state = .download
      · simp [already] at hoperation
      · obtain ⟨_, _, _, _, _, ready, _⟩ := step.of_movesToDownload ⟨already, downloading⟩
        simp [ready] at hoperation

/-- The run lemma. -/
theorem upToDate_of_trace {profile : Profile} {events : List FdEvent} {state : FdInternal}
    (trace : FdTrace profile events state) (monotone : (clock events).Pairwise (· ≤ ·)) :
    UpToDate events state := by
  refine (FdRun.induct trace Coherent.init (fun events state =>
    (clock events).Pairwise (· ≤ ·) → UpToDate events state) ?_ ?_).1 monotone
  · exact fun _ => ⟨by simp [agentHeard], by simp [workReturned]⟩
  · intro events pre input output sent _ ih step _ _ monotone
    refine upToDate_step step monotone (ih ?_)
    rw [clock_append, List.pairwise_append] at monotone
    exact monotone.1

end Stamps

/-! ## The timestamp is the last refresh -/

section Refreshes

variable {profile : Profile} {pre : FdInternal} {input : FdInput} {output : FdOutput}
  {sent : Option FdRequest}

/-- A call that refreshes T1 sets the timestamp, and no other does. -/
theorem FdStep.fdT1UpdateTs_eq (step : FdStep profile pre input output sent) :
    output.internal.fdT1UpdateTs =
      (FdEvent.refreshed ⟨pre, input, output⟩).getD pre.fdT1UpdateTs := by
  have hstamped {post : FdInternal} {log : List Invocation} (stamped : Stamped log pre post) :
      post.fdT1UpdateTs = (readings log).getLast?.getD pre.fdT1UpdateTs := by
    rcases stamped with ⟨unread, same⟩ | read
    · rw [unread, same]
      rfl
    · rw [read]
      rfl
  cases step with
  | request step => exact hstamped step.stamped
  | response step => exact hstamped step.stamped
  | touch => rfl
  | query reads => rcases reads with rfl | rfl | rfl <;> rfl
  | poll step =>
      cases step with
      | dataRequested => simp [FdEvent.refreshed, Outcome.map]
      | operationPending =>
          simp [FdEvent.refreshed, Outcome.map, FdEvent.log, readings,
            FdInternal.setFdT1UpdateTs]
      | @operationReported kind =>
          cases kind <;> simp [FdEvent.refreshed, Outcome.map, OperationKind.messageLength]
      | @reportRepeated kind => cases kind <;> rfl
      | timedOut => simp [FdEvent.refreshed, Outcome.map]
      | operationUnsent => simp [FdEvent.refreshed, Outcome.map]
      | _ => rfl

/-- The run lemma. -/
theorem fdT1UpdateTs_of_trace {events : List FdEvent} {state : FdInternal}
    (trace : FdTrace profile events state) : state.fdT1UpdateTs = lastRefresh events := by
  refine System.Trace.latest (fun events state input reached prior live => ?_) trace
  rw [fdSystem_next live]
  exact (FdTrace.step prior input).fdT1UpdateTs_eq

theorem lastRefresh_append {earlier later : List FdEvent}
    (unheard : ∀ event ∈ later, event.refreshed = none) :
    lastRefresh (earlier ++ later) = lastRefresh earlier := by
  have hnone : later.filterMap FdEvent.refreshed = [] := by
    rw [List.filterMap_eq_nil_iff]
    exact unheard
  rw [lastRefresh, List.filterMap_append, hnone, List.append_nil, lastRefresh]

theorem mem_clock_of_refreshed {event : FdEvent} {time : PldmFdTime}
    (refreshed : event.refreshed = some time) : time ∈ clock [event] := by
  have hlast : (readings event.log).getLast? = some time := by
    unfold FdEvent.refreshed at refreshed
    split at refreshed
    · exact refreshed
    · cases refreshed
    · exact refreshed
  have hmember := List.mem_of_getLast? hlast
  simp only [readings, List.mem_map, List.mem_filter] at hmember
  obtain ⟨invocation, ⟨hinvocation, _⟩, rfl⟩ := hmember
  simpa [clock] using ⟨invocation, hinvocation, rfl⟩

/-- A refresh comes after all that was read before. -/
theorem le_lastRefresh {earlier later : List FdEvent} {event : FdEvent} {time : PldmFdTime}
    (monotone : (clock (earlier ++ later)).Pairwise (· ≤ ·)) (past : time ∈ clock earlier)
    (member : event ∈ later) (refreshes : event.refreshed ≠ none) :
    time ≤ lastRefresh (earlier ++ later) := by
  have hrefreshed : later.filterMap FdEvent.refreshed ≠ [] := by
    intro hnone
    rw [List.filterMap_eq_nil_iff] at hnone
    exact refreshes (hnone event member)
  obtain ⟨last, hlast⟩ := Option.ne_none_iff_exists'.mp
    (mt List.getLast?_eq_none_iff.mp hrefreshed)
  have hlastRefresh : lastRefresh (earlier ++ later) = last := by
    rw [lastRefresh, List.filterMap_append, List.getLast?_append, hlast]
    rfl
  obtain ⟨call, hcall, htime⟩ := List.mem_filterMap.mp (List.mem_of_getLast? hlast)
  have hclock : last ∈ clock later := by
    have hread := mem_clock_of_refreshed htime
    simp only [clock, List.flatMap_cons, List.flatMap_nil, List.append_nil] at hread
    exact List.mem_flatMap.mpr ⟨call, hcall, hread⟩
  rw [clock, List.flatMap_append, List.pairwise_append] at monotone
  rw [hlastRefresh]
  exact monotone.2.2 time past last hclock

/-! ## The end of an operation -/

/-- A device at work has reported the end of it, and waits for the answer. -/
def AwaitsAgent (internal : FdInternal) : Prop :=
  internal.state.isInitiator = true → internal.req.state = .sent ∧ internal.req.complete = true

/-- The step lemma: nothing but a message of the agent ends the waiting. -/
theorem awaitsAgent_step (step : FdStep profile pre input output sent) (waits : AwaitsAgent pre)
    (unheard : FdEvent.refreshed ⟨pre, input, output⟩ = none) : AwaitsAgent output.internal := by
  have hunfinished (unfinished : pre.req.complete = false)
      (active : pre.state.isInitiator = true) : False := by
    rw [(waits active).2] at unfinished
    cases unfinished
  have hdownload (state : pre.state = .download) : pre.state.isInitiator = true := by
    rw [state]
    rfl
  have hkind {kind : OperationKind} (state : pre.state = kind.state) :
      pre.state.isInitiator = true := by
    rw [state]
    exact kind.state_isInitiator
  cases step with
  | request step =>
      intro active
      cases step with
      | quiet touched => exact touched.req ▸ waits (touched.state ▸ active)
      | sizeRecorded _ touched => exact touched.req ▸ waits (touched.state ▸ active)
      | componentRecorded _ _ touched => exact touched.req ▸ waits (touched.state ▸ active)
      | componentAccepted _ _ read => simp [FdEvent.refreshed, FdEvent.log, read] at unheard
      | cancelRefused _ _ _ touched => exact touched.req ▸ waits (touched.state ▸ active)
      | cancelLost _ _ _ _ touched => exact touched.req ▸ waits (touched.state ▸ active)
      | _ => simp [FdContext.enterActivate, FirmwareDeviceState.isInitiator] at active
  | poll step =>
      cases step with
      | timedOut =>
          intro active
          simp [FirmwareDeviceState.isInitiator] at active
      | transferReported => exact fun _ => ⟨rfl, rfl⟩
      | operationReported => exact fun _ => ⟨rfl, rfl⟩
      | reportRepeated => exact fun _ => ⟨rfl, rfl⟩
      | rangeUnknown state _ unfinished => exact (hunfinished unfinished (hdownload state)).elim
      | rangeRefused state _ unfinished => exact (hunfinished unfinished (hdownload state)).elim
      | rangeOverflowed state _ unfinished => exact (hunfinished unfinished (hdownload state)).elim
      | dataUnsent state _ unfinished => exact (hunfinished unfinished (hdownload state)).elim
      | dataRequested state _ unfinished => exact (hunfinished unfinished (hdownload state)).elim
      | operationFailed state _ unfinished => exact (hunfinished unfinished (hkind state)).elim
      | operationPending state _ unfinished => exact (hunfinished unfinished (hkind state)).elim
      | operationUnsent state _ unfinished => exact (hunfinished unfinished (hkind state)).elim
      | _ => exact waits
  | response step =>
      cases step with
      | ignored => exact waits
      | _ => cases unheard
  | touch => cases unheard
  | query => exact waits

/-- The run lemma. -/
theorem waits_of_run {events : List FdEvent} {origin state : FdInternal}
    (run : FdRun profile origin events state) (coherent : Coherent origin)
    (waits : AwaitsAgent origin) (unheard : ∀ event ∈ events, event.refreshed = none) :
    AwaitsAgent state := by
  refine (run.induct coherent (fun events state =>
    (∀ event ∈ events, event.refreshed = none) → AwaitsAgent state) ?_ ?_).1 unheard
  · exact fun _ => waits
  · intro events pre input output sent _ ih step _ _ unheard
    obtain ⟨hevents, hevent⟩ := forall_mem_concat.mp unheard
    exact awaitsAgent_step step (ih hevents) hevent

/-- The poll that ends an operation waits from then on, without a refresh. -/
theorem FdStep.of_endsWork (step : FdStep profile pre input output sent)
    (hands : sent = FdEvent.sent ⟨pre, input, output⟩) {returned : PldmFdTime}
    (ends : EndsWork ⟨pre, input, output⟩ returned) :
    FdEvent.refreshed ⟨pre, input, output⟩ = none ∧ AwaitsAgent output.internal := by
  obtain ⟨sends, worked⟩ := ends
  rw [← hands] at sends
  rw [workReturned_singleton] at worked
  obtain ⟨hoperation, _⟩ := step.of_operationTimes worked
  cases step with
  | poll step =>
      cases step with
      | transferReported => exact ⟨rfl, fun _ => ⟨rfl, rfl⟩⟩
      | dataRequested state => simp [state] at hoperation
      | @operationReported kind =>
          refine ⟨?_, fun _ => ⟨rfl, rfl⟩⟩
          cases kind <;> simp [FdEvent.refreshed, Outcome.map, OperationKind.messageLength]
      | @reportRepeated kind =>
          refine ⟨?_, fun _ => ⟨rfl, rfl⟩⟩
          cases kind <;> rfl
      | _ => exact absurd rfl sends
  | _ => exact absurd rfl sends

/-- The log of the poll that ends an operation has the return of its callback. -/
theorem operationTimes_reported (kind : OperationKind) (ops : FdOps) (pre : FdInternal)
    (component : FirmwareComponent) (returned later : PldmFdTime) :
    operationTimes (gates ops pre ++ [⟨kind.callback ops component, returned⟩, ⟨.now, later⟩]) =
      [returned] := by
  unfold gates listened
  split <;> cases kind <;> rfl

/-- An operation that is over ended in this call, or before. -/
theorem endsWork_or_complete (step : FdStep profile pre input output sent)
    (hands : sent = FdEvent.sent ⟨pre, input, output⟩) {kind : OperationKind}
    (complete : Complete kind output.internal) :
    (∃ returned, EndsWork ⟨pre, input, output⟩ returned ∧
      workReturned [⟨pre, input, output⟩] = [returned]) ∨
    Complete kind pre ∧ workReturned [⟨pre, input, output⟩] = [] := by
  have hidle (ended : Complete kind pre) : workReturned [⟨pre, input, output⟩] = [] := by
    rw [List.eq_nil_iff_forall_not_mem]
    intro time member
    rw [workReturned_singleton] at member
    obtain ⟨_, unfinished⟩ := step.of_operationTimes member
    rw [ended.complete] at unfinished
    cases unfinished
  rcases KeepsReport.step step complete with ⟨id, result, sends, _⟩ | ⟨_, ended, _⟩
  · obtain ⟨hstate, _⟩ := step.of_reports kind sends
    cases step with
    | poll inner =>
        cases inner with
        | operationReported =>
            simp only [EndsWork, ← hands, workReturned_singleton, FdEvent.log,
              operationTimes_reported]
            exact .inl ⟨_, ⟨Option.some_ne_none _, List.mem_singleton_self _⟩, rfl⟩
        | reportRepeated _ _ ended => exact .inr ⟨⟨hstate, ended⟩, hidle ⟨hstate, ended⟩⟩
        | transferReported => cases kind <;> simp [OperationKind.command] at sends
        | _ => cases sends
    | _ => cases sends
  · exact .inr ⟨ended, hidle ended⟩

/-- The run lemma: an operation that is over has ended in some call, and nothing has
been done since. -/
theorem endsWork_of_trace {events : List FdEvent} {state : FdInternal}
    (trace : FdTrace profile events state) {kind : OperationKind}
    (complete : Complete kind state) :
    ∃ earlier ending since returned, events = earlier ++ ending :: since ∧
      EndsWork ending returned ∧ workReturned (ending :: since) = [returned] := by
  refine (FdRun.induct trace Coherent.init (fun events state => Complete kind state →
    ∃ earlier ending since returned, events = earlier ++ ending :: since ∧
      EndsWork ending returned ∧ workReturned (ending :: since) = [returned])
    ?_ ?_).1 complete
  · intro complete
    cases complete.complete
  · intro events pre input output sent _ ih step _ hands complete
    rcases endsWork_or_complete step hands complete with
      ⟨returned, ends, worked⟩ | ⟨ended, idle⟩
    · exact ⟨events, _, [], returned, rfl, ends, worked⟩
    · obtain ⟨earlier, ending, since, returned, rfl, ends, worked⟩ := ih ended
      refine ⟨earlier, ending, since ++ [⟨pre, input, output⟩], returned, by simp, ends, ?_⟩
      rw [← List.cons_append, workReturned, List.flatMap_append]
      show workReturned (ending :: since) ++ workReturned [_] = _
      rw [worked, idle, List.append_nil]

end Refreshes

/-- The same in a run. -/
theorem EndsWork.waits {profile : Profile} {events : List FdEvent} {ending : FdEvent}
    {returned : PldmFdTime} (ends : EndsWork ending returned)
    (prior : FdTrace profile events ending.before)
    (hending : ending = fdEvent profile ending.before ending.input) :
    ending.refreshed = none ∧ AwaitsAgent ending.after := by
  obtain ⟨before, input, output⟩ := ending
  obtain rfl : output = fdStep profile before input := congrArg Event.output hending
  exact (FdTrace.step prior input).of_endsWork rfl ends

/-- A device that is caught working is waiting, and its timestamp is from before the
operation ended. -/
theorem CaughtWorking.silent {profile : Profile} {before : List FdEvent} {state : FdInternal}
    (trace : FdTrace profile before state) {input : FdInput}
    (caught : CaughtWorking before (fdEvent profile state input)) :
    state.state.isInitiator = true ∧ silent input.ops state = true := by
  obtain ⟨earlier, ending, since, returned, split, ends, unheard, late, _⟩ := caught.ended
  have hactive : state.state.isInitiator = true := by
    rcases caught.operation with hstate | hstate <;> rw [show state.state = _ from hstate] <;> rfl
  subst split
  obtain ⟨prior, hending, through, rest⟩ := FdRun.cut trace
  obtain ⟨unrefreshed, waits⟩ := ends.waits prior hending
  have hwaits := waits_of_run rest (FdTrace.coherent through) waits unheard
  have hlast : lastRefresh (earlier ++ ending :: since) = lastRefresh earlier :=
    lastRefresh_append (List.forall_mem_cons.mpr ⟨unrefreshed, unheard⟩)
  refine ⟨hactive, silent_iff.mpr ⟨(hwaits hactive).1, ?_⟩⟩
  rw [fdT1UpdateTs_of_trace trace, hlast]
  exact late

/-- The slot of an outstanding operation is complete. -/
theorem FdTrace.complete_of_sent {profile : Profile} {events : List FdEvent} {state : FdInternal}
    (trace : FdTrace profile events state) {kind : OperationKind}
    (hstate : state.state = kind.state) (sent : state.req.state = .sent) : Complete kind state := by
  refine ⟨hstate, ?_⟩
  by_contra unfinished
  have hslot := trace.coherent.slot (by rw [hstate]; exact kind.state_isInitiator)
  rw [hstate] at hslot
  exact hslot.not_sent (by simpa using unfinished) sent

/-- A poll that times out no more than T1 after some work was done catches the device
working. -/
theorem caughtWorking_of_recent {profile : Profile} {before : List FdEvent}
    {state : FdInternal} (trace : FdTrace profile before state)
    (monotone : (clock before).Pairwise (· ≤ ·)) {input : FdInput} {kind : OperationKind}
    (poll : ∃ payload, input.operation = .fdProgress payload) (hstate : state.state = kind.state)
    (cancels : input.ops.cancelUpdateComponent state.updateComp = .ok ())
    (silence : silent input.ops state = true) {worked : PldmFdTime}
    (member : worked ∈ workReturned before)
    (recent : input.ops.now 0 ≤ worked + state.fdT1Timeout) :
    CaughtWorking before (fdEvent profile state input) := by
  obtain ⟨sent, late⟩ := silent_iff.mp silence
  rw [fdT1UpdateTs_of_trace trace] at late
  obtain ⟨earlier, ending, since, returned, rfl, ends, hworked⟩ :=
    endsWork_of_trace trace (trace.complete_of_sent hstate sent)
  have hending := mem_clock_of_workReturned ends.2
  -- The operation was the last work done.
  have hlast : worked ∈ clock (earlier ++ [ending]) ∧ worked ≤ returned := by
    rw [workReturned, List.flatMap_append, List.mem_append] at member
    rw [clock, List.flatMap_append, List.mem_append]
    rcases member with past | now
    · have hpast := mem_clock_of_workReturned past
      refine ⟨.inl hpast, ?_⟩
      rw [clock, List.flatMap_append, List.pairwise_append] at monotone
      refine monotone.2.2 worked hpast returned ?_
      simp only [clock, List.flatMap_cons, List.flatMap_nil, List.append_nil] at hending
      exact List.mem_flatMap.mpr ⟨ending, by simp, hending⟩
    · obtain rfl : worked = returned := List.mem_singleton.mp (hworked ▸ now)
      exact ⟨.inr hending, le_rfl⟩
  obtain ⟨hpast, hreturned⟩ := hlast
  have hunheard : ∀ later ∈ since, later.refreshed = none := by
    intro later hlater
    by_contra refreshes
    rw [List.append_cons] at monotone late
    have hcovered := le_lastRefresh monotone hpast hlater refreshes
    exact absurd (late.trans_le recent)
      (Nat.not_lt.mpr (Nat.add_le_add_right hcovered _))
  obtain ⟨prior, hevent, _, _⟩ := FdRun.cut trace
  obtain ⟨unrefreshed, _⟩ := ends.waits prior hevent
  rw [lastRefresh_append (List.forall_mem_cons.mpr ⟨unrefreshed, hunheard⟩)] at late
  refine ⟨poll, ?_, cancels, earlier, ending, since, returned, rfl, ends, hunheard, late, ?_⟩
  · show state.state = .verify ∨ state.state = .apply
    rw [hstate]
    cases kind with
    | verify => exact .inl rfl
    | apply => exact .inr rfl
  · exact recent.trans (Nat.add_le_add_right hreturned _)

/-- The step lemma: a timeout that comes too early catches the device working. -/
theorem timely_iff_not_caughtWorking {profile : Profile} {before : List FdEvent}
    {state : FdInternal} (trace : FdTrace profile before state)
    (monotone : (clock before).Pairwise (· ≤ ·)) (input : FdInput) :
    Timely before (fdEvent profile state input) ↔
      ¬ CaughtWorking before (fdEvent profile state input) := by
  have hstamps := upToDate_of_trace trace monotone
  rw [Timely, timesOut_iff trace]
  constructor
  · intro timely caught
    obtain ⟨active, silence⟩ := caught.silent trace
    have htimeout := timely ⟨caught.poll, active, silence, caught.cancels⟩
    obtain ⟨earlier, ending, since, returned, rfl, ⟨_, worked⟩, _, _, recent⟩ := caught.ended
    have hworked : returned ∈ workReturned (earlier ++ ending :: since) := by
      rw [workReturned_singleton] at worked
      exact List.mem_flatMap.mpr ⟨ending, by simp, worked⟩
    exact absurd (htimeout.2 returned hworked) (Nat.not_lt.mpr recent)
  · rintro uncaught ⟨poll, active, silence, cancels⟩
    obtain ⟨_, late⟩ := silent_iff.mp silence
    -- Whatever is covered by the timestamp is more than T1 ago.
    have hcovered {time : PldmFdTime} (past : time ≤ state.fdT1UpdateTs) :
        time + state.fdT1Timeout < input.ops.now 0 :=
      Nat.lt_of_le_of_lt (Nat.add_le_add_right past _) late
    refine ⟨fun time member => hcovered (hstamps.heard time member),
      fun returned member => ?_⟩
    by_contra recent
    have hcaught {kind : OperationKind} (hstate : state.state = kind.state) : False :=
      uncaught (caughtWorking_of_recent trace monotone poll hstate cancels silence member
        (Nat.not_lt.mp recent))
    cases hstate : state.state with
    | download => exact recent (hcovered (hstamps.returned hstate returned member))
    | verify => exact @hcaught .verify hstate
    | apply => exact @hcaught .apply hstate
    | _ =>
        rw [hstate] at active
        cases active

/-- Every timeout of a run is timely exactly when none of its polls catches the
device working. -/
theorem timeouts_timely_iff {profile : Profile} {events : List FdEvent} {state : FdInternal}
    (trace : FdTrace profile events state) (monotone : (clock events).Pairwise (· ≤ ·)) :
    Throughout Timely events ↔
      Throughout (fun before event => ¬ CaughtWorking before event) events := by
  apply throughout_congr
  intro before event after split
  subst split
  obtain ⟨prior, hevent, _, _⟩ := FdRun.cut trace
  have hbefore : (clock before).Pairwise (· ≤ ·) := by
    rw [clock, List.flatMap_append, List.pairwise_append] at monotone
    exact monotone.1
  rw [hevent]
  exact timely_iff_not_caughtWorking prior hbefore event.input

/-- The platform verifies for 200 seconds. -/
def longVerification : List FdInput :=
  throughDownload 100 ++ [
    poll { platform 200000 with now := fun reading => if reading = 0 then 5 else 200000 }]

/-- One second after the platform has returned from a long verification, the agent
is taken for silent. -/
theorem long_verification_times_out : ∃ events state, FdTrace .release events state ∧
    (clock events).Pairwise (· ≤ ·) ∧ ¬ Throughout Timely events := by
  obtain ⟨events, state, trace, hcheck⟩ := exists_run .release
    (longVerification ++ [poll (platform 201000)])
    (fun events _ => decide ((clock events).Pairwise (· ≤ ·)) &&
      events.getLast?.any fun event =>
        event.input.operation = .fdProgress (List.replicate 16 0) &&
          event.output.outcome = .err .t1Timeout && event.checkTime = 201000 &&
          event.before.fdT1Timeout = 120000 && 200000 ∈ workReturned events.dropLast)
    (by decide +kernel)
  simp only [Bool.and_eq_true, decide_eq_true_eq, Option.any_eq_true] at hcheck
  obtain ⟨monotone, event, hlast, ⟨⟨⟨hoperation, houtcome⟩, htime⟩, htimeout⟩, hworked⟩ := hcheck
  refine ⟨events, state, trace, monotone, ?_⟩
  intro timely
  have hsplit := (List.dropLast_append_getLast? event hlast).symm
  have htimely := timely events.dropLast event [] hsplit
  have hlate := (htimely ⟨⟨_, hoperation⟩, houtcome⟩).2 200000 hworked
  rw [htime, htimeout] at hlate
  exact absurd hlate (by decide)

theorem timeouts_timely_iff_opening : ∃ events state, FdTrace .release events state ∧
    (clock events).Pairwise (· ≤ ·) ∧
    (Throughout Timely events ↔
      Throughout (fun before event => ¬ CaughtWorking before event) events) := by
  obtain ⟨events, state, trace, hcheck⟩ := exists_run .release
    (longVerification ++ [poll (platform 201000)])
    (fun events _ => decide ((clock events).Pairwise (· ≤ ·))) (by decide +kernel)
  have hmonotone := of_decide_eq_true hcheck
  exact ⟨events, state, trace, hmonotone, timeouts_timely_iff trace hmonotone⟩

end PldmLib.FirmwareDevice
