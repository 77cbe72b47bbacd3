/-
# How the last update ended

The device keeps the state before the current one and a reason for `GetStatus`. Three setters
write them, and each of them ignores a change into the state the device is in. In `Idle` the
pair names the last way out of update mode: every path into `Idle` writes both, and no call
that leaves the device there writes either.
-/

import PldmLib.FirmwareDevice.Refusal
import PldmLib.FirmwareDevice.Timeout

namespace PldmLib.FirmwareDevice

open PldmLib.Machine PldmLib.Protocol PldmLib.Message

/-! ## Ways out of update mode -/

/-- A way out of update mode. -/
inductive Exit
  | activated
  | cancelled (left : FirmwareDeviceState)
  | timedOut (left : FirmwareDeviceState)
  deriving DecidableEq, Repr

/-- The previous state and the reason. -/
def FdInternal.named (internal : FdInternal) :
    FirmwareDeviceState × Option GetStatusReasonCode :=
  (internal.prevState, internal.reason)

namespace Exit

/-- The state that was left, and why. -/
def named : Exit → FirmwareDeviceState × Option GetStatusReasonCode
  | activated => (.activate, some .activateFw)
  | cancelled left => (left, some .cancelUpdate)
  | timedOut left => (left, reasonOfSilence left)

/-- The state that was left by a cancellation or a timeout is one with an operation. -/
def FromOperation : Exit → Prop
  | activated => True
  | cancelled left => left.isInitiator = true
  | timedOut left => left.isInitiator = true

end Exit

/-- The way out of update mode that a call takes. -/
def FdEvent.exit (event : FdEvent) : Option Exit :=
  if event.before.state = .idle ∨ event.after.state ≠ .idle then none
  else match event.input.operation, event.output.outcome with
    | .request .activateFirmware _, _ => some .activated
    | .request .cancelUpdate _, _ => some (.cancelled event.before.state)
    | .fdProgress _, .err .t1Timeout => some (.timedOut event.before.state)
    | _, _ => none

def lastExit (events : List FdEvent) : Option Exit := (events.filterMap FdEvent.exit).getLast?

/-- What the last way out says, and what a new device says. -/
def lastNamed (events : List FdEvent) : FirmwareDeviceState × Option GetStatusReasonCode :=
  ((lastExit events).map Exit.named).getD (.idle, none)

/-- A refused request, a response, a poll or a query. -/
def Futile (event : FdEvent) : Prop :=
  match event.input.operation with
  | .request _ _ => Declines event
  | _ => True

@[simp] theorem lastExit_nil : lastExit [] = none := rfl

theorem lastExit_concat (events : List FdEvent) (event : FdEvent) :
    lastExit (events ++ [event]) = event.exit.or (lastExit events) :=
  getLast?_filterMap_concat FdEvent.exit events event

theorem FdEvent.exit_of_idle {event : FdEvent} (idle : event.before.state = .idle) :
    event.exit = none := by
  rw [exit, if_pos (.inl idle)]

theorem FdEvent.idle_of_exit {event : FdEvent} {exit : Exit} (exits : event.exit = some exit) :
    event.after.state = .idle := by
  unfold FdEvent.exit at exits
  split at exits
  · cases exits
  · next outside =>
      rw [not_or, not_not] at outside
      exact outside.2

/-! ## One step -/

theorem Touched.named {log : List Invocation} {pre post : FdInternal}
    (touched : Touched log pre post) : post.named = pre.named := by
  cases touched <;> rfl

/-- A change into `Idle` names the state that is left. -/
theorem FdInternal.named_setFdIdle {internal : FdInternal} (outside : internal.state ≠ .idle)
    (reason : GetStatusReasonCode) :
    (internal.setFdIdle reason).named = (internal.state, some reason) := by
  rw [setFdIdle, if_pos outside]
  rfl

theorem FdInternal.named_fdIdleTimeout {internal : FdInternal}
    (active : internal.state.isInitiator = true) :
    internal.fdIdleTimeout.named = (internal.state, reasonOfSilence internal.state) := by
  obtain ⟨hreason, hprev⟩ := fdIdleTimeout_of_active active
  rw [named, hreason, hprev]

theorem FirmwareDeviceState.ne_idle_of_isInitiator {state : FirmwareDeviceState}
    (active : state.isInitiator = true) : state ≠ .idle := by
  rintro rfl
  cases active

/-- No operation is followed by `Idle`. -/
theorem advance_state_ne_idle {state : FirmwareDeviceState} {internal : FdInternal}
    (active : state.isInitiator = true) : (advance state internal).state ≠ .idle := by
  rw [advance_state active]
  cases state <;> rintro ⟨⟩

/-- A call that ends in `Idle` has left the pair alone there, or has taken a way out and
named it. -/
theorem FdStep.into_idle {profile : Profile} {pre : FdInternal} {input : FdInput}
    {output : FdOutput} {sent : Option FdRequest} (step : FdStep profile pre input output sent)
    (idle : output.internal.state = .idle) :
    (pre.state = .idle ∧ output.internal.named = pre.named) ∨
      ∃ exit, FdEvent.exit ⟨pre, input, output⟩ = some exit ∧
        output.internal.named = exit.named ∧ exit.FromOperation := by
  cases step with
  | request step =>
      cases step with
      | quiet touched => exact .inl ⟨touched.state.symm.trans idle, touched.named⟩
      | sizeRecorded state touched => exact .inl ⟨state, touched.named⟩
      | componentRecorded _ _ touched => exact .inl ⟨touched.state.symm.trans idle, touched.named⟩
      | cancelRefused _ _ _ touched => exact .inl ⟨touched.state.symm.trans idle, touched.named⟩
      | cancelLost _ _ _ _ touched => exact .inl ⟨touched.state.symm.trans idle, touched.named⟩
      | activated state =>
          refine .inr ⟨.activated, ?_, ?_, trivial⟩
          · rw [FdEvent.exit, if_neg (by simp [FdEvent.after, FdContext.enterActivate, state])]
          · have houtside : (pre.setFdState .activate).state ≠ .idle := by simp
            rw [FdContext.enterActivate, FdInternal.named_setFdIdle houtside,
              FdInternal.setFdState_state]
            rfl
      | updateCancelled effective _ _ touched =>
          have hactive := isInitiator_of_shouldCancel effective
          have houtside := FirmwareDeviceState.ne_idle_of_isInitiator hactive
          refine .inr ⟨.cancelled pre.state, ?_, ?_, hactive⟩
          · rw [FdEvent.exit, if_neg (by simp [FdEvent.after, houtside])]
          · rw [FdInternal.named_setFdIdle (touched.state.trans_ne houtside), touched.state]
            rfl
      | _ => simp [FdContext.enterDownload] at idle
  | @poll _ _ _ outcome post _ _ step =>
      by_cases timedOut : outcome = .err .t1Timeout
      · subst timedOut
        cases step with
        | timedOut active =>
            have houtside := FirmwareDeviceState.ne_idle_of_isInitiator active
            refine .inr ⟨.timedOut pre.state, ?_, ?_, active⟩
            · rw [FdEvent.exit, if_neg (by simp [FdEvent.after, houtside])]
              rfl
            · exact FdInternal.named_fdIdleTimeout active
      · have hidle := (step.state_eq timedOut).symm.trans idle
        obtain ⟨_, rfl, _⟩ := step.of_passive (by rw [hidle]; rfl)
        exact .inl ⟨hidle, rfl⟩
  | response step =>
      rcases step.state_eq with same | ⟨active, _, _, hpost⟩
      · have hidle := same.symm.trans idle
        exact .inl ⟨hidle, (step.of_passive (by rw [hidle]; rfl)).1.named⟩
      · rw [hpost] at idle
        exact absurd idle (advance_state_ne_idle active)
  | touch => exact .inl ⟨idle, rfl⟩
  | query reads => exact .inl ⟨idle, rfl⟩

/-! ## Runs -/

/-- What the device says in `Idle` is what the last way out says. -/
structure ExitsNamed (events : List FdEvent) (state : FdInternal) : Prop where
  named : state.state = .idle → state.named = lastNamed events
  fresh : lastExit events = none → state.state = .idle →
    ∀ event ∈ events, event.after.state = .idle
  entered : (∀ event ∈ events, event.after.state = .idle) →
    lastExit events = none ∧ state.state = .idle
  listed : ∀ event ∈ events, event.before.state ≠ .idle → event.after.state = .idle →
    ∃ exit, event.exit = some exit
  operated : ∀ exit, lastExit events = some exit → exit.FromOperation

theorem ExitsNamed.init : ExitsNamed [] .default where
  named _ := rfl
  fresh _ _ event member := absurd member List.not_mem_nil
  entered _ := ⟨rfl, rfl⟩
  listed event member := absurd member List.not_mem_nil
  operated exit exited := by cases exited

/-- Every call is remembered. -/
theorem ExitsNamed.step {profile : Profile} {events : List FdEvent} {pre : FdInternal}
    {input : FdInput} {output : FdOutput} {sent : Option FdRequest}
    (exitsNamed : ExitsNamed events pre) (step : FdStep profile pre input output sent) :
    ExitsNamed (events ++ [⟨pre, input, output⟩]) output.internal := by
  have hstay (stays : pre.state = .idle) :
      lastExit (events ++ [⟨pre, input, output⟩]) = lastExit events := by
    rw [lastExit_concat, FdEvent.exit_of_idle stays, Option.none_or]
  refine ⟨fun idle => ?_, fun unexited idle => ?_, fun entered => ?_, ?_, fun exit exited => ?_⟩
  · rcases step.into_idle idle with ⟨stays, same⟩ | ⟨exit, exits, names, _⟩
    · rw [same, exitsNamed.named stays, lastNamed, lastNamed, hstay stays]
    · rw [names, lastNamed, lastExit_concat, exits]
      rfl
  · rcases step.into_idle idle with ⟨stays, _⟩ | ⟨exit, exits, _⟩
    · rw [hstay stays] at unexited
      rw [List.forall_mem_append]
      refine ⟨exitsNamed.fresh unexited stays, ?_⟩
      rw [List.forall_mem_singleton]
      exact idle
    · rw [lastExit_concat, exits] at unexited
      cases unexited
  · rw [List.forall_mem_append, List.forall_mem_singleton] at entered
    obtain ⟨unexited, stays⟩ := exitsNamed.entered entered.1
    rw [hstay stays]
    exact ⟨unexited, entered.2⟩
  · rw [List.forall_mem_append]
    refine ⟨exitsNamed.listed, ?_⟩
    rw [List.forall_mem_singleton]
    intro outside idle
    rcases step.into_idle idle with ⟨stays, _⟩ | ⟨exit, exits, _⟩
    · exact absurd stays outside
    · exact ⟨exit, exits⟩
  · rw [lastExit_concat] at exited
    cases hexit : FdEvent.exit ⟨pre, input, output⟩ with
    | none =>
        rw [hexit, Option.none_or] at exited
        exact exitsNamed.operated exit exited
    | some found =>
        rw [hexit, Option.some_or] at exited
        obtain rfl := Option.some.inj exited
        rcases step.into_idle (FdEvent.idle_of_exit hexit) with ⟨stays, _⟩ | ⟨_, exits, _, operated⟩
        · rw [FdEvent.exit_of_idle stays] at hexit
          cases hexit
        · rw [hexit] at exits
          rwa [Option.some.inj exits]

theorem FdTrace.exitsNamed {profile : Profile} {events : List FdEvent} {state : FdInternal}
    (trace : FdTrace profile events state) : ExitsNamed events state :=
  (FdRun.induct trace Coherent.init ExitsNamed .init
    fun _ _ _ _ _ _ exitsNamed step _ _ => exitsNamed.step step).1

/-- In `Idle` no futile call changes what the device says. -/
theorem named_of_futile {profile : Profile} {state : FdInternal} (coherent : Coherent state)
    (idle : state.state = .idle) {input : FdInput} (futile : Futile (fdEvent profile state input)) :
    (fdEvent profile state input).after.named = state.named := by
  have hpassive : state.state.isInitiator = false := by
    rw [idle]
    rfl
  obtain ⟨operation, ops⟩ := input
  cases operation with
  | request handler payload =>
      have hspared : ¬ LeavesComponent ops payload state handler := by
        intro leaves
        rw [leaves.ready] at idle
        cases idle
      obtain ⟨time, hpost⟩ := retimed_of_declines hspared futile
      rw [hpost]
      rfl
  | fdProgress payload =>
      obtain ⟨_, _, step⟩ :=
        (@FdStep.run profile state coherent ⟨.fdProgress payload, ops⟩).of_poll
      exact congrArg FdInternal.named (step.of_passive hpassive).2.1
  | handleResponse payload =>
      obtain ⟨_, _, _, step⟩ :=
        (@FdStep.run profile state coherent ⟨.handleResponse payload, ops⟩).of_response
      exact (step.of_passive hpassive).1.named
  | _ => rfl

/-- In every `Idle` state of a run the device says how the last update ended, or that there
was none, and no futile call changes that. -/
theorem idle_names_lastExit {profile : Profile} {events : List FdEvent} {state : FdInternal}
    (trace : FdTrace profile events state) (idle : state.state = .idle) :
    state.named = lastNamed events ∧
      (lastExit events = none ↔ ∀ event ∈ events, event.after.state = .idle) ∧
      (∀ event ∈ events, event.before.state ≠ .idle → event.after.state = .idle →
        ∃ exit, event.exit = some exit) ∧
      (∀ exit, lastExit events = some exit → exit.FromOperation) ∧
      ∀ input, Futile (fdEvent profile state input) →
        (fdEvent profile state input).after.named = state.named := by
  have hnamed := trace.exitsNamed
  refine ⟨hnamed.named idle, ⟨?_, ?_⟩, hnamed.listed, hnamed.operated, ?_⟩
  · exact fun unexited => hnamed.fresh unexited idle
  · exact fun entered => (hnamed.entered entered).1
  · exact fun input futile => named_of_futile trace.coherent idle futile

/-- A download is cancelled. -/
theorem idle_names_lastExit_cancelled : ∃ events state, FdTrace .release events state ∧
    state.state = .idle ∧ state.named = (.download, some .cancelUpdate) ∧
    (state.named = lastNamed events ∧
      (lastExit events = none ↔ ∀ event ∈ events, event.after.state = .idle) ∧
      (∀ event ∈ events, event.before.state ≠ .idle → event.after.state = .idle →
        ∃ exit, event.exit = some exit) ∧
      (∀ exit, lastExit events = some exit → exit.FromOperation) ∧
      ∀ input, Futile (fdEvent .release state input) →
        (fdEvent .release state input).after.named = state.named) := by
  obtain ⟨events, state, trace, hcheck⟩ := exists_run .release
    (opening 100 ++ [receive .cancelUpdate (Agent.plainRequest .cancelUpdate 10) (platform 1)])
    (fun _ state => state.state = .idle && state.named = (.download, some .cancelUpdate))
    (by decide +kernel)
  simp only [Bool.and_eq_true, decide_eq_true_eq] at hcheck
  exact ⟨events, state, trace, hcheck.1, hcheck.2, idle_names_lastExit trace hcheck.1⟩

end PldmLib.FirmwareDevice
