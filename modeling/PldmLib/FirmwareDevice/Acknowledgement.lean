/-
# The agent's acknowledgement of a report

The device goes through an update by reporting the end of each operation and
moving on when the agent has answered. What the answer says is another matter:
the processors of the three completion messages do not read it. The device
therefore moves on whenever a report of success is answered at all, and does so
rightly only if the agent agrees.
-/

import PldmLib.FirmwareDevice.Retransmission

namespace PldmLib.FirmwareDevice

open PldmLib.Machine PldmLib.Protocol PldmLib.Message

/-- The device has gone to the next operation, or has finished the last one. -/
inductive MovesOn (event : FdEvent) : Prop
  | downloaded (before : event.before.state = .download) (after : event.after.state = .verify)
  | verified (before : event.before.state = .verify) (after : event.after.state = .apply)
  | applied (before : event.before.state = .apply) (after : event.after.state = .readyXfer)

/-- A response long enough to carry a completion code carries this one. -/
def Carrying (code : PldmBaseCompletionCode) (payload : List UInt8) : Prop :=
  4 ≤ payload.length ∧ payload[3]? = some code.toU8

/-- The response is the agent's answer to the report of the current operation, and it
says that the report was received well. -/
structure SuccessfulExchange (state : FdInternal) (payload : List UInt8) : Prop where
  accepted : accepts state.req payload = true
  report : ∃ command, reportCommand state.state = some command ∧
    payload[2]? = some command.toU8
  success : Carrying .success payload

/-- The response answers a report of success with something other than success. -/
structure Disagrees (state : FdInternal) (payload : List UInt8) : Prop where
  active : state.state.isInitiator = true
  complete : state.req.complete = true
  success : state.req.result = some 0
  accepted : accepts state.req payload = true
  refused : ¬ Carrying .success payload

section Steps

variable {profile : Profile} {events : List FdEvent} {state : FdInternal}

theorem MovesOn.ne {event : FdEvent} (moves : MovesOn event) :
    event.after.state ≠ event.before.state := by
  cases moves with
  | downloaded before after => simp [before, after]
  | verified before after => simp [before, after]
  | applied before after => simp [before, after]

/-- The next state is reached from each of the three operations. -/
theorem movesOn_of_advance {event : FdEvent} {internal : FdInternal}
    (active : event.before.state.isInitiator = true)
    (after : event.after = advance event.before.state internal) : MovesOn event := by
  have hnext : event.after.state = successor event.before.state := by
    rw [after]
    exact advance_state active
  cases hstate : event.before.state with
  | download => exact .downloaded hstate (by rw [hnext, hstate]; rfl)
  | verify => exact .verified hstate (by rw [hnext, hstate]; rfl)
  | apply => exact .applied hstate (by rw [hnext, hstate]; rfl)
  | _ => simp [hstate, FirmwareDeviceState.isInitiator] at active

/-- A report of success that is answered is outstanding with that result. -/
theorem outstanding_of_accepts (active : state.state.isInitiator = true)
    (complete : state.req.complete = true) (success : state.req.result = some 0)
    {payload : List UInt8} (accepted : accepts state.req payload = true) :
    Outstanding state 0 where
  active := active
  sent := by
    obtain ⟨_, _, hsent, _⟩ := ResponseStep.accepts_iff.mp accepted
    exact hsent
  complete := complete
  stored := success
  readable _ := ⟨.transferSuccess, rfl, rfl⟩

/-- In every state a run reaches, a response moves the device on only in a successful
exchange, exactly when it does not disagree with a report of success. -/
theorem movesOn_successful_iff (trace : FdTrace profile events state) (payload : List UInt8)
    (ops : FdOps) :
    (MovesOn (fdEvent profile state ⟨.handleResponse payload, ops⟩) →
      SuccessfulExchange state payload) ↔ ¬ Disagrees state payload := by
  constructor
  · intro exchanged disagrees
    have hafter : (fdEvent profile state ⟨.handleResponse payload, ops⟩).after = _ :=
      (outstanding_of_accepts disagrees.active disagrees.complete disagrees.success
        disagrees.accepted).answered trace.coherent disagrees.accepted ops
    exact disagrees.refused (exchanged (movesOn_of_advance disagrees.active hafter)).success
  · intro agrees moves
    obtain ⟨_, _, _, step⟩ := (trace.step ⟨.handleResponse payload, ops⟩).of_response
    obtain ⟨haccepted, hactive, hcomplete, hsuccess⟩ := step.of_movesOn moves.ne
    have houtstanding := outstanding_of_accepts hactive hcomplete hsuccess haccepted
    obtain ⟨command, hreport, hcommand⟩ := houtstanding.command trace.coherent
    refine ⟨haccepted, ⟨command, hreport, ?_⟩, ?_⟩
    · rw [command_of_accepts haccepted, hcommand]
    · by_contra refused
      exact agrees ⟨hactive, hcomplete, hsuccess, haccepted, refused⟩

end Steps

/-- From a fresh device to the report of a completed download. -/
def untilReport : List FdInput :=
  opening 100 ++ [poll (platform 1),
    respond (Agent.response 1 .requestFirmwareData PldmBaseCompletionCode.success.toU8
      (List.replicate 32 0)) (platform 2), poll (platform 3)]

/-- The agent answers the report with an error. -/
def refusal : List UInt8 :=
  Agent.response 1 .transferComplete PldmBaseCompletionCode.error.toU8 []

theorem refused_report_verified : ∃ events state, FdTrace .release events state ∧
    MovesOn (fdEvent .release state (respond refusal (platform 4))) ∧
    ¬ SuccessfulExchange state refusal := by
  obtain ⟨events, state, trace, hcheck⟩ := exists_run .release untilReport
    (fun _ state => state.state = .download &&
      (fdEvent .release state (respond refusal (platform 4))).after.state = .verify)
    (by decide +kernel)
  simp only [Bool.and_eq_true, decide_eq_true_eq] at hcheck
  refine ⟨events, state, trace, .downloaded hcheck.1 hcheck.2, fun exchange => ?_⟩
  have hcode := exchange.success.2
  exact absurd hcode (by decide)

theorem movesOn_successful_iff_refusal : ∃ events state, FdTrace .release events state ∧
    ((MovesOn (fdEvent .release state ⟨.handleResponse refusal, platform 4⟩) →
      SuccessfulExchange state refusal) ↔ ¬ Disagrees state refusal) := by
  obtain ⟨events, state, trace, _⟩ := exists_run .release untilReport (fun _ _ => true)
    (by decide +kernel)
  exact ⟨events, state, trace, movesOn_successful_iff trace refusal (platform 4)⟩

end PldmLib.FirmwareDevice
