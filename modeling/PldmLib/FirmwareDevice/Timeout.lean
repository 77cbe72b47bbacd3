/-
# The silence of the agent

T1 bounds how long the device waits for the agent. The poll that finds it
exceeded cancels the component and leaves update mode, provided a request is
outstanding. A failed operation has none: its report has been acknowledged, and
it is for the agent to cancel.
-/

import PldmLib.FirmwareDevice.Session

namespace PldmLib.FirmwareDevice

open PldmLib.Machine PldmLib.Protocol PldmLib.Message

/-! ## The timeout -/

/-- The reason for having left an operation because the agent was silent. -/
def reasonOfSilence : FirmwareDeviceState → Option GetStatusReasonCode
  | .download => some .downloadTimeout
  | .verify => some .verifyTimeout
  | .apply => some .applyTimeout
  | _ => none

/-- What a timeout makes of the device: idle, nothing outstanding, and the reason
of the state it left. -/
structure TimedOut (pre : FdInternal) (output : FdOutput) : Prop where
  outcome : output.outcome = .err .t1Timeout
  state : output.internal.state = .idle
  unused : output.internal.req.state = .unused
  reason : output.internal.reason = reasonOfSilence pre.state
  prevState : output.internal.prevState = pre.state

/-- Leaving an operation state by timeout records the state and its reason. -/
theorem fdIdleTimeout_of_active {internal : FdInternal}
    (active : internal.state.isInitiator = true) :
    internal.fdIdleTimeout.reason = reasonOfSilence internal.state ∧
      internal.fdIdleTimeout.prevState = internal.state := by
  unfold FdInternal.fdIdleTimeout
  cases hstate : internal.state <;>
    simp [hstate, FirmwareDeviceState.isInitiator, FdInternal.timeoutReason,
      FdInternal.setFdIdle, reasonOfSilence] at active ⊢

/-- In an operation state, a poll more than T1 after the last refresh times out if
a request is outstanding, and waits for the agent if the operation has failed. -/
theorem poll_of_silent_agent {profile : Profile} {events : List FdEvent} {state : FdInternal}
    (trace : FdTrace profile events state) (active : state.state.isInitiator = true)
    (payload : List UInt8) (ops : FdOps)
    (late : state.fdT1UpdateTs + state.fdT1Timeout < ops.now 0)
    (cancels : ops.cancelUpdateComponent state.updateComp = .ok ()) :
    (state.req.state = .sent →
      TimedOut state (fdStep profile state ⟨.fdProgress payload, ops⟩)) ∧
    (state.req.state = .failed →
      (fdStep profile state ⟨.fdProgress payload, ops⟩).outcome = .err .fdInitiatorModeError ∧
        (fdStep profile state ⟨.fdProgress payload, ops⟩).internal = state) := by
  obtain ⟨outcome, houtcome, step⟩ := (trace.step ⟨.fdProgress payload, ops⟩).of_poll
  constructor
  · intro sent
    have hsilent : silent ops state = true := by
      simp only [silent, sent, beq_self_eq_true, Bool.true_and, decide_eq_true_eq]
      exact Nat.lt_sub_of_add_lt (by rwa [Nat.add_comm])
    have hshut : ¬ Open ops state := fun passed => by simp [passed.heard] at hsilent
    rcases (step.of_not_open hshut).2 with ⟨_, _, _, rfl, hpost⟩ | ⟨error, refused, _⟩ |
      ⟨_, _, heard⟩
    · obtain ⟨hreason, hprev⟩ := fdIdleTimeout_of_active active
      refine ⟨houtcome, ?_, ?_, ?_, ?_⟩
      · exact (congrArg FdInternal.state hpost).trans state.fdIdleTimeout_state
      · exact congrArg (fun internal => internal.req.state) hpost
      · exact (congrArg FdInternal.reason hpost).trans hreason
      · exact (congrArg FdInternal.prevState hpost).trans hprev
    · rw [cancels] at refused
      cases refused
    · rw [heard active] at hsilent
      cases hsilent
  · intro failed
    have hshut : ¬ Open ops state := fun passed => FdInternal.live_of_due passed.due failed
    rcases (step.of_not_open hshut).2 with ⟨_, silence, _⟩ | ⟨error, refused, _⟩ |
      ⟨rfl, hpost, _⟩
    · simp [silent, failed] at silence
    · rw [cancels] at refused
      cases refused
    · exact ⟨houtcome, hpost⟩

/-- The agent refuses the data, and the report of the aborted transfer is
acknowledged. -/
def failedTransfer : List FdInput :=
  opening 100 ++ [poll (platform 1),
    respond (Agent.response 1 .requestFirmwareData PldmBaseCompletionCode.error.toU8 [])
      (platform 2),
    poll (platform 3), acknowledge .transferComplete (platform 4)]

/-- A failed operation waits for the agent for as long as it takes. -/
theorem failed_operation_never_times_out : ∃ events state, FdTrace .release events state ∧
    state.state = .download ∧ state.req.state = .failed ∧
    state.fdT1UpdateTs + state.fdT1Timeout < 1000000 ∧
    ¬ TimedOut state
      (fdStep .release state ⟨.fdProgress (List.replicate 16 0), platform 1000000⟩) := by
  obtain ⟨events, state, trace, hcheck⟩ := exists_run .release failedTransfer
    (fun _ state => state.state = .download && state.req.state = .failed &&
      decide (state.fdT1UpdateTs + state.fdT1Timeout < 1000000) &&
      (fdStep .release state ⟨.fdProgress (List.replicate 16 0), platform 1000000⟩).outcome =
        .err .fdInitiatorModeError) (by decide +kernel)
  simp only [Bool.and_eq_true, decide_eq_true_eq] at hcheck
  obtain ⟨⟨⟨hstate, hfailed⟩, hlate⟩, houtcome⟩ := hcheck
  refine ⟨events, state, trace, hstate, hfailed, hlate, fun timedOut => ?_⟩
  rw [timedOut.outcome] at houtcome
  cases houtcome

theorem poll_of_silent_agent_download : ∃ events state, FdTrace .release events state ∧
    state.req.state = .sent ∧
    TimedOut state
      (fdStep .release state ⟨.fdProgress (List.replicate 16 0), platform 1000000⟩) := by
  obtain ⟨events, state, trace, hcheck⟩ := exists_run .release (opening 100 ++ [poll (platform 1)])
    (fun _ state => state.state.isInitiator && state.req.state = .sent &&
      decide (state.fdT1UpdateTs + state.fdT1Timeout < 1000000)) (by decide +kernel)
  simp only [Bool.and_eq_true, decide_eq_true_eq] at hcheck
  obtain ⟨⟨hactive, hsent⟩, hlate⟩ := hcheck
  exact ⟨events, state, trace, hsent,
    (poll_of_silent_agent trace hactive (List.replicate 16 0) (platform 1000000) hlate rfl).1
      hsent⟩

/-! ## When a poll times out -/

/-- A poll that returns `T1Timeout`. -/
def TimesOut (event : FdEvent) : Prop :=
  (∃ payload, event.input.operation = .fdProgress payload) ∧
    event.output.outcome = .err .t1Timeout

theorem silent_iff {ops : FdOps} {internal : FdInternal} : silent ops internal = true ↔
    internal.req.state = .sent ∧
      internal.fdT1UpdateTs + internal.fdT1Timeout < ops.now 0 := by
  simp only [silent, Bool.and_eq_true, beq_iff_eq, decide_eq_true_eq]
  exact and_congr_right fun _ => Nat.lt_sub_iff_add_lt'

/-- A poll times out exactly when it finds a silent agent and the platform agrees
to cancel. -/
theorem PollStep.timedOut_iff {profile : Profile} {ops : FdOps} {payload : List UInt8}
    {pre post : FdInternal} {outcome : Outcome MsgHandlerError ℕ} {log : List Invocation}
    {sent : Option FdRequest}
    (step : PollStep profile ops payload pre outcome post log sent) :
    outcome = .err .t1Timeout ↔ pre.state.isInitiator = true ∧ silent ops pre = true ∧
      ops.cancelUpdateComponent pre.updateComp = .ok () := by
  constructor
  · rintro rfl
    cases step with
    | timedOut active silence cancelled => exact ⟨active, silence, cancelled⟩
  · rintro ⟨active, silence, cancels⟩
    have hshut : ¬ Open ops pre := fun passed => by simp [passed.heard] at silence
    rcases (step.of_not_open hshut).2 with ⟨_, _, _, houtcome, _⟩ | ⟨error, refused, _⟩ |
      ⟨_, _, heard⟩
    · exact houtcome
    · exact absurd (refused.symm.trans cancels) nofun
    · rw [heard active] at silence
      cases silence

/-- A poll that times out leaves the device idle. -/
theorem FdStep.idle_of_timesOut {profile : Profile} {pre : FdInternal} {input : FdInput}
    {output : FdOutput} {sent : Option FdRequest} (step : FdStep profile pre input output sent)
    (timesOut : TimesOut ⟨pre, input, output⟩) : output.internal.state = .idle := by
  obtain ⟨⟨payload, hoperation⟩, timeout⟩ := timesOut
  dsimp only at hoperation timeout
  cases step with
  | @poll _ _ _ outcome post _ _ step =>
      obtain rfl : outcome = .err .t1Timeout := by
        cases outcome <;> simp_all [Outcome.map]
      cases step
      simp
  | request => cases hoperation
  | response => cases hoperation
  | touch => cases hoperation
  | query => cases timeout

theorem timesOut_iff {profile : Profile} {events : List FdEvent} {state : FdInternal}
    (trace : FdTrace profile events state) (input : FdInput) :
    TimesOut (fdEvent profile state input) ↔
      (∃ payload, input.operation = .fdProgress payload) ∧ state.state.isInitiator = true ∧
        silent input.ops state = true ∧
        input.ops.cancelUpdateComponent state.updateComp = .ok () := by
  refine and_congr_right ?_
  rintro ⟨payload, hoperation⟩
  obtain ⟨operation, ops⟩ := input
  obtain rfl : operation = .fdProgress payload := hoperation
  obtain ⟨outcome, houtcome, step⟩ := (trace.step ⟨.fdProgress payload, ops⟩).of_poll
  rw [← step.timedOut_iff, houtcome]
  cases outcome <;> simp [Outcome.map]

end PldmLib.FirmwareDevice
