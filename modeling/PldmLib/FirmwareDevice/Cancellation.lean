/-
# Leaving an operation

A cancellation has two sides: the platform stops work on the component, and the
device leaves the operation. A request that is outstanding when the device leaves
the operation states has to go with them, and of the edges out of these states a
cancellation is the only one that forgets it. The first part of this file is about
that slot, the second about the states in which the agent can end the update, and
the last says when the platform and the device leave the operation together.
-/

import PldmLib.FirmwareDevice.Session

namespace PldmLib.FirmwareDevice

open PldmLib.Machine PldmLib.Protocol PldmLib.Message

/-! ## No request survives -/

/-- A cancellation by the agent that is carried out and answered. -/
def CancelTakesEffect (event : FdEvent) : Prop :=
  ∃ handler payload, event.input.operation = .request handler payload ∧
    handler.isCancel = true ∧ FdContext.shouldCancel event.before = some true ∧
    event.input.ops.cancelUpdateComponent event.before.updateComp = .ok () ∧
    handler.AnswersCancel event.input.ops payload

/-- Nothing is left of an earlier request: the slot is unused, no response is
acted on, and the agent is told so when it asks. -/
structure Settled (profile : Profile) (internal : FdInternal) : Prop where
  unused : internal.req.state = .unused
  late : ∀ payload ops,
    (∃ error, (fdStep profile internal ⟨.handleResponse payload, ops⟩).outcome = .err error) ∧
      (fdStep profile internal ⟨.handleResponse payload, ops⟩).internal = internal ∧
      (fdStep profile internal ⟨.handleResponse payload, ops⟩).log = []
  status : ∀ payload ops, 14 ≤ payload.length →
    (fdStep profile internal ⟨.request .getStatus payload, ops⟩).outcome = .ok (.length 14) ∧
      (fdStep profile internal ⟨.request .getStatus payload, ops⟩).payload[6]? =
        some AuxState.idleLearnComponentsReadXfer.toU8

section Settled

variable {profile : Profile} {internal : FdInternal}

theorem late_response_ignored (coherent : Coherent internal)
    (unused : internal.req.state = .unused) (payload : List UInt8) (ops : FdOps) :
    (∃ error, (fdStep profile internal ⟨.handleResponse payload, ops⟩).outcome = .err error) ∧
      (fdStep profile internal ⟨.handleResponse payload, ops⟩).internal = internal ∧
      (fdStep profile internal ⟨.handleResponse payload, ops⟩).log = [] := by
  have hunexpected : accepts internal.req payload = false := by
    rw [Bool.eq_false_iff]
    intro accepted
    obtain ⟨_, _, sent, _⟩ := ResponseStep.accepts_iff.mp accepted
    rw [unused] at sent
    cases sent
  obtain ⟨_, outcome, houtcome, step⟩ :=
    (@FdStep.run profile internal coherent ⟨.handleResponse payload, ops⟩).of_response
  generalize fdStep profile internal ⟨.handleResponse payload, ops⟩ = output at houtcome step ⊢
  obtain ⟨outputOutcome, post, final, log⟩ := output
  dsimp only at houtcome step ⊢
  subst houtcome
  cases step with
  | ignored unexpected => exact ⟨⟨_, rfl⟩, rfl, rfl⟩
  | _ => simp_all

theorem recordedProgress_of_resting (resting : internal.state.isResting = true) :
    internal.state ≠ .download ∧ FdContext.recordedProgress internal = .ok .default := by
  unfold FdContext.recordedProgress
  generalize internal.state = state at resting ⊢
  cases state <;> first | cases resting; done | exact ⟨by rintro ⟨⟩, rfl⟩

/-- In a resting state the status is read off the slot. -/
theorem getStatusRsp_resting (resting : internal.state.isResting = true)
    (unused : internal.req.state = .unused) {payload : List UInt8} (ops : FdOps)
    (room : 14 ≤ payload.length) :
    (FdContext.getStatusRsp ops).wp (fun outcome final => outcome = .ok 14 ∧
      final.payload[6]? = some AuxState.idleLearnComponentsReadXfer.toU8)
      ⟨internal, payload, []⟩ := by
  refine FdCall.withRequest_rule (fun error short => ?_) fun request _ => ?_
  · have hshort := HeaderRequest.length_of_error short
    simp only [pldmMsgHeaderLen] at hshort
    omega
  · obtain ⟨elsewhere, recorded⟩ := recordedProgress_of_resting resting
    simp only [Call.wp_bind]
    refine FdContext.statusProgress_rule (fun downloading => absurd downloading elsewhere)
      (fun _ progress reports => ?_) fun _ error unclear => absurd (recorded.symm.trans unclear)
        (by rintro ⟨⟩)
    obtain rfl := Except.ok.inj (recorded.symm.trans reports)
    simp only [FdCall.wp_internal, FdContext.auxStatus, unused]
    refine FdCall.respond_rule (fun bytes final written => ?_) fun unwritten => ?_
    · obtain ⟨_, hbytes, hfront⟩ := writeToPrefix_ok written
      refine ⟨?_, ?_⟩
      · rw [hbytes]
        rfl
      · have hbyte : (final.take bytes)[6]? = some AuxState.idleLearnComponentsReadXfer.toU8 := by
          rw [hfront]
          rfl
        rw [GetStatusResponse.length_toBytes] at hbytes
        rwa [List.getElem?_take_of_lt (by omega)] at hbyte
    · refine absurd (writeToPrefix_of_le ?_) (unwritten _ _)
      exact room

theorem settled_of_unused (coherent : Coherent internal)
    (resting : internal.state.isResting = true) (unused : internal.req.state = .unused) :
    Settled profile internal where
  unused := unused
  late := late_response_ignored coherent unused
  status payload ops room := by
    have hstatus := getStatusRsp_resting resting unused ops room
    rw [FdStep.fdStep_eq (Handler.getStatus.run ops) .length rfl]
    refine ⟨?_, hstatus.2⟩
    exact congrArg (Outcome.map Returned.length) hstatus.1

end Settled

/-- What "no request survives" promises of a state. -/
def NoSurvivor (profile : Profile) (internal : FdInternal) : Prop :=
  internal.state.isResting = true → Settled profile internal

/-- An operation state never has an unused slot. -/
theorem ActiveSlot.used {state : FirmwareDeviceState} {req : FdReq}
    (slot : ActiveSlot state req) : req.state ≠ .unused := by
  cases slot <;> simp

/-- The step lemma: without a cancellation, a device whose resting states have an
unused slot keeps it that way. -/
theorem unused_step {profile : Profile} {pre : FdInternal} {input : FdInput}
    {output : FdOutput} {sent : Option FdRequest}
    (step : FdStep profile pre input output sent)
    (quiet : ¬ CancelTakesEffect ⟨pre, input, output⟩)
    (clear : pre.state.isInitiator = false → pre.req.state = .unused) :
    output.internal.state.isInitiator = false → output.internal.req.state = .unused := by
  intro passive
  cases step with
  | request step =>
      rcases step.slot_cases with ⟨hreq, _⟩ | ⟨_, hpost⟩
      · rw [hreq]
        apply clear
        by_contra active
        have htouched := step.of_active (Bool.eq_true_of_not_eq_false active) ?_
        · exact active (htouched.state ▸ passive)
        · rintro ⟨cancels, effective, cancelled, answered⟩
          exact quiet ⟨_, _, rfl, cancels, effective, cancelled, answered⟩
      · rw [hpost, FdContext.enterDownload_state] at passive
        cases passive
  | @poll payload final ops outcome post log sent step =>
      by_cases live : outcome = .err .t1Timeout
      · subst live
        cases step
        simp
      · dsimp only at passive
        rw [step.state_eq live] at passive
        obtain ⟨_, rfl, _, _⟩ := step.of_passive passive
        exact clear passive
  | response step =>
      cases hactive : pre.state.isInitiator with
      | true => exact step.unused_of_passive hactive passive
      | false =>
          have htouched := (step.of_passive hactive).1
          exact (congrArg FdReq.state htouched.req).trans (clear hactive)
  | touch => exact clear passive
  | query reads => exact clear passive

/-- The run lemma: as long as no cancellation has taken effect, the slot is unused
whenever the device is outside the operation states. -/
theorem unused_of_quiet {profile : Profile} {events : List FdEvent} {state : FdInternal}
    (trace : FdTrace profile events state) (quiet : ∀ event ∈ events, ¬ CancelTakesEffect event) :
    state.state.isInitiator = false → state.req.state = .unused := by
  refine (FdRun.induct trace Coherent.init (fun events state =>
    (∀ event ∈ events, ¬ CancelTakesEffect event) →
      state.state.isInitiator = false → state.req.state = .unused) (fun _ _ => rfl) ?_).1 quiet
  intro events pre input output sent _ ih step _ _ quiet
  refine unused_step step (quiet ⟨pre, input, output⟩ (by simp)) ?_
  exact ih fun event member => quiet event (by simp [member])

theorem isResting_iff {state : FirmwareDeviceState} :
    state.isResting = true → state.isInitiator = false := by
  cases state <;> simp [FirmwareDeviceState.isResting, FirmwareDeviceState.isInitiator]

/-- A cancellation that takes effect takes the device out of the operation, and
leaves the slot as it was. -/
theorem FdStep.left_of_cancel {profile : Profile} {pre : FdInternal} {input : FdInput}
    {output : FdOutput} {sent : Option FdRequest} (step : FdStep profile pre input output sent)
    (effect : CancelTakesEffect ⟨pre, input, output⟩) :
    output.internal.state.isResting = true ∧ output.internal.req = pre.req := by
  obtain ⟨handler, payload, hoperation, cancels, effective, cancelled, answered⟩ := effect
  dsimp only at hoperation effective cancelled answered
  cases step with
  | request step =>
      injection hoperation with hhandler hpayload
      subst hhandler hpayload
      cases step with
      | quiet touched idle spared => exact absurd effective (spared cancels)
      | cancelRefused _ _ refused => exact absurd (refused.symm.trans cancelled) nofun
      | cancelLost _ _ _ unanswered => exact absurd answered unanswered
      | componentCancelled => simp [FirmwareDeviceState.isResting]
      | updateCancelled _ _ _ touched => simp [FirmwareDeviceState.isResting, touched.req]
      | _ => cases cancels
  | _ => simp_all

/-- A cancellation that takes effect leaves its request behind. -/
theorem survivor_of_cancel {profile : Profile} {pre : FdInternal} {input : FdInput}
    {output : FdOutput} {sent : Option FdRequest} (coherent : Coherent pre)
    (step : FdStep profile pre input output sent)
    (effect : CancelTakesEffect ⟨pre, input, output⟩) : ¬ NoSurvivor profile output.internal := by
  obtain ⟨hresting, hreq⟩ := step.left_of_cancel effect
  obtain ⟨_, _, _, _, effective, _, _⟩ := effect
  intro settled
  have hunused := (settled hresting).unused
  rw [hreq] at hunused
  exact (coherent.slot (isInitiator_of_shouldCancel effective)).used hunused

/-- Every state a run reaches is free of surviving requests exactly when no
cancellation took effect in it. -/
theorem noSurvivor_iff_no_cancel {profile : Profile} {events : List FdEvent}
    {state : FdInternal} (trace : FdTrace profile events state) :
    (∀ event ∈ events, NoSurvivor profile event.after) ↔
      ∀ event ∈ events, ¬ CancelTakesEffect event := by
  constructor
  · intro clear event member effect
    obtain ⟨before, after, rfl⟩ := List.append_of_mem member
    obtain ⟨prior, hevent, _, _⟩ := FdRun.cut trace
    have hclear := clear event member
    rw [hevent] at effect hclear
    exact survivor_of_cancel (FdTrace.coherent prior) (FdTrace.step prior event.input) effect
      hclear
  · intro quiet event member resting
    obtain ⟨before, after, rfl⟩ := List.append_of_mem member
    obtain ⟨_, _, through, _⟩ := FdRun.cut trace
    refine settled_of_unused (FdTrace.coherent through) resting
      (unused_of_quiet through (fun earlier among => ?_) (isResting_iff resting))
    exact quiet earlier (by simp at among ⊢; tauto)

/-- The run that cancels a component while data for it is outstanding. -/
def cancelWhileAwaitingData : List FdInput :=
  opening 100 ++ [poll (platform 1),
    receive .cancelUpdateComponent (Agent.plainRequest .cancelUpdateComponent 1) (platform 2)]

theorem cancelled_request_survives : ∃ events state, FdTrace .release events state ∧
    state.state = .readyXfer ∧ state.req.state = .sent ∧ ¬ NoSurvivor .release state := by
  obtain ⟨events, state, trace, hcheck⟩ := exists_run .release cancelWhileAwaitingData
    (fun _ state => state.state = .readyXfer && state.req.state = .sent) (by decide +kernel)
  simp only [Bool.and_eq_true, decide_eq_true_eq] at hcheck
  refine ⟨events, state, trace, hcheck.1, hcheck.2, fun settled => ?_⟩
  have hunused := (settled (by rw [hcheck.1]; rfl)).unused
  rw [hcheck.2] at hunused
  cases hunused

/-- In this run a request is sent, and the cancellation takes effect. -/
theorem noSurvivor_iff_no_cancel_cancelled : ∃ events state, FdTrace .release events state ∧
    events.filterMap FdEvent.sent = [.requestFirmwareData 1 0 32] ∧ state.state = .readyXfer ∧
    ((∀ event ∈ events, NoSurvivor .release event.after) ↔
      ∀ event ∈ events, ¬ CancelTakesEffect event) := by
  obtain ⟨events, state, trace, hcheck⟩ := exists_run .release cancelWhileAwaitingData
    (fun events state => events.filterMap FdEvent.sent = [.requestFirmwareData 1 0 32] &&
      state.state = .readyXfer) (by decide +kernel)
  simp only [Bool.and_eq_true, decide_eq_true_eq] at hcheck
  exact ⟨events, state, trace, hcheck.1, hcheck.2, noSurvivor_iff_no_cancel trace⟩

/-! ## Update mode can be cancelled -/

/-- The report of a successful application is outstanding: the component is
already in place, and only the agent's acknowledgement is missing. -/
structure AwaitsApplied (internal : FdInternal) : Prop where
  state : internal.state = .apply
  sent : internal.req.state = .sent
  complete : internal.req.complete = true
  success : internal.req.result = some ApplyResult.applySuccess.toU8

/-- A slot that was parked as failed does not hold the result of a success. -/
theorem failed_result {profile : Profile} {events : List FdEvent} {state : FdInternal}
    (trace : FdTrace profile events state) (failed : state.req.state = .failed) :
    state.req.result ≠ some 0 := by
  refine (FdRun.induct trace Coherent.init (fun _ state =>
    state.req.state = .failed → state.req.result ≠ some 0) nofun ?_).1 failed
  intro _ pre input output sent _ kept step _ _
  cases step with
  | request step =>
      rcases step.slot_cases with ⟨hreq, _⟩ | ⟨internal, hpost⟩
      · rw [hreq]
        exact kept
      · rw [hpost, FdContext.enterDownload_req]
        rintro ⟨⟩
  | poll step =>
      cases step with
      | timedOut => simp [FdInternal.setFdReq]
      | transferReported => simp [FdInternal.setFdReq]
      | dataRequested => simp [FdInternal.setFdReq]
      | operationReported => simp [FdInternal.setFdReq]
      | reportRepeated => simp [FdInternal.setFdReq]
      | operationPending => simpa using kept
      | operationUnsent => simpa using kept
      | _ => exact kept
  | response step =>
      cases step with
      | ignored => exact kept
      | heard => exact kept
      | dataRefused => exact kept
      | acknowledged _ active =>
          rw [advance_req active]
          exact fun _ => by rintro ⟨⟩
      | disappointed _ _ _ failure => exact fun _ => failure
      | _ => simp [FdInternal.setFdReq]
  | touch => exact kept
  | query => exact kept

/-- The agent cancels the update: there is room for the response, and the platform
goes along. -/
structure CancelRequested (payload : List UInt8) (ops : FdOps) (state : FdInternal) : Prop where
  decoded : ∃ request, CancelUpdateRequest.decode payload = .ok request
  room : 13 ≤ payload.length
  cancels : ops.cancelUpdateComponent state.updateComp = .ok ()
  informed : ∃ info, ops.getNonFunctionalComponentInfo = .ok info

/-- The cancellation is answered with success and has taken the device to `Idle`. -/
structure CancelHonoured (event : FdEvent) : Prop where
  answered : event.output.outcome = .ok (.length 13)
  success : event.output.payload[3]? = some PldmBaseCompletionCode.success.toU8
  idle : event.after.state = .idle
  reason : event.after.reason = some .cancelUpdate

section UpdateMode

open FdContext FdCall

/-- How such a request is answered: the code says whether there was a component to
cancel, and only then does the device leave update mode. -/
theorem cancelUpdateRsp_answers {ops : FdOps} {payload : List UInt8} {pre : FdInternal}
    (updating : pre.state ≠ .idle) (requested : CancelRequested payload ops pre) :
    (cancelUpdateRsp ops).wp (fun outcome final => outcome = .ok 13 ∧
      final.payload[3]? = some (cancelCompletionCode ((shouldCancel pre).getD false)) ∧
      final.internal =
        if (shouldCancel pre).getD false then
          (pre.setFdT1UpdateTs (ops.now 0)).setFdIdle .cancelUpdate
        else pre.setFdT1UpdateTs (ops.now 0)) ⟨pre, payload, []⟩ := by
  obtain ⟨request, hdecode⟩ := requested.decoded
  obtain ⟨⟨indication, bitmap⟩, hinfo⟩ := requested.informed
  have hmode : pre.isUpdateMode = true := by simpa [FdInternal.isUpdateMode] using updating
  -- The second half of the handler, once the platform has been asked.
  have hrespond (cancel : Bool) (log : List Invocation) :
      (answerCancelUpdate ops cancel).wp
        (fun outcome final => outcome = .ok 13 ∧
          final.payload[3]? = some (cancelCompletionCode cancel) ∧
          final.internal =
            if cancel then (pre.setFdT1UpdateTs (ops.now 0)).setFdIdle .cancelUpdate
            else pre.setFdT1UpdateTs (ops.now 0))
        ⟨pre.setFdT1UpdateTs (ops.now 0), payload, log⟩ := by
    refine withRequest_rule (fun error failed => ?_) fun request _ => ?_
    · exact absurd (hdecode.symm.trans failed) (by rintro ⟨⟩)
    · simp only [hinfo, ofOps, Call.wp_bind, wp_invoke, Call.wp_pure]
      refine respond_rule (fun bytes final written => ?_) fun unwritten => ?_
      · obtain ⟨_, rfl, hfront⟩ := writeToPrefix_ok written
        refine ⟨by rw [CancelUpdateResponse.length_toBytes], ?_, rfl⟩
        have hcode := congrArg (·[3]?) hfront
        rw [CancelUpdateResponse.length_toBytes] at hcode
        simpa [CancelUpdateResponse.toBytes, CancelUpdateResponse.new, PldmMsgHeader.toBytes]
          using hcode
      · refine absurd (writeToPrefix_of_le ?_) (unwritten _ _)
        rw [CancelUpdateResponse.length_toBytes]
        exact requested.room
  apply RequestStep.cancelUpdateRsp_rule
  · intro outside
    simp [hmode] at outside
  · intro spared
    rw [RequestStep.getD_false_of_spared spared]
    exact hrespond false _
  · intro effective _
    rw [effective, Option.getD_some]
    exact hrespond true _
  · intro _ error refused
    exact absurd (requested.cancels.symm.trans refused) (by rintro ⟨⟩)

/-- The device leaves update mode on request exactly when it has a component in
hand: between two components the same request is answered with an error. -/
theorem cancelHonoured_iff {profile : Profile} {events : List FdEvent} {state : FdInternal}
    (trace : FdTrace profile events state) (updating : state.state ≠ .idle)
    (unapplied : ¬ AwaitsApplied state) {payload : List UInt8} {ops : FdOps}
    (requested : CancelRequested payload ops state) :
    CancelHonoured (fdEvent profile state ⟨.request .cancelUpdate payload, ops⟩) ↔
      state.state.isInitiator = true := by
  obtain ⟨outcome, final, ⟨houtcome, hcode, hinternal⟩, hreturned, hafter, hpayload, _⟩ :=
    @request_rule profile state .cancelUpdate payload ops _
      (cancelUpdateRsp_answers updating requested)
  rw [← hpayload] at hcode
  rw [← hafter] at hinternal
  subst houtcome
  constructor
  · intro honoured
    by_contra passive
    have hnone : shouldCancel state = none := by
      cases hasked : shouldCancel state with
      | none => rfl
      | some cancel => exact absurd (isInitiator_of_shouldCancel hasked) passive
    have hsuccess := honoured.success
    rw [hcode, hnone] at hsuccess
    cases hsuccess
  · intro active
    have hcancel : shouldCancel state = some true := by
      cases hstate : state.state with
      | download => simp [shouldCancel, hstate]
      | verify => simp [shouldCancel, hstate]
      | apply =>
          simp only [shouldCancel, hstate, Option.some.injEq, Bool.not_eq_true',
            Bool.and_eq_false_iff, beq_eq_false_iff_ne]
          by_contra applied
          obtain ⟨hcomplete, hresult⟩ : state.req.complete = true ∧
              state.req.result = some ApplyResult.applySuccess.toU8 := by
            simpa [not_or] using applied
          have hslot := trace.coherent.slot active
          have hkept := failed_result trace
          refine unapplied ⟨hstate, ?_, hcomplete, hresult⟩
          rw [hstate] at hslot
          generalize state.req = req at hslot hcomplete hresult hkept ⊢
          cases hslot with
          | working => cases hcomplete
          | reported => rfl
          | failed => exact absurd hresult (hkept rfl)
      | _ => simp [hstate, FirmwareDeviceState.isInitiator] at active
    rw [hcancel] at hcode hinternal
    refine ⟨hreturned, hcode, ?_, ?_⟩
    · simp [hinternal]
    · simp [hinternal, FdInternal.setFdIdle, FdInternal.setFdT1UpdateTs, updating]

/-- The update that is cancelled before the agent has named a component. -/
def cancelWhileLearning : FdInput :=
  receive .cancelUpdate (Agent.plainRequest .cancelUpdate 10) (platform 1)

theorem update_not_cancelled : ∃ events state, FdTrace .release events state ∧
    state.state = .learnComponents ∧
    CancelRequested (Agent.plainRequest .cancelUpdate 10) (platform 1) state ∧
    ¬ CancelHonoured (fdEvent .release state cancelWhileLearning) := by
  obtain ⟨events, state, trace, hcheck⟩ := exists_run .release
    [receive .requestUpdate (Agent.requestUpdate 512) (platform 0)]
    (fun _ state => state.state = .learnComponents) (by decide +kernel)
  have hstate : state.state = .learnComponents := by simpa using hcheck
  have hrequested : CancelRequested (Agent.plainRequest .cancelUpdate 10) (platform 1) state :=
    ⟨⟨_, rfl⟩, by decide, rfl, ⟨_, rfl⟩⟩
  refine ⟨events, state, trace, hstate, hrequested, fun honoured => ?_⟩
  obtain ⟨_, _, ⟨_, hcode, _⟩, _, _, hpayload, _⟩ :=
    @request_rule .release state .cancelUpdate (Agent.plainRequest .cancelUpdate 10)
      (platform 1) _ (cancelUpdateRsp_answers (by simp [hstate]) hrequested)
  have hsuccess := honoured.success
  rw [cancelWhileLearning, receive, hpayload, hcode] at hsuccess
  simp [shouldCancel, hstate, cancelCompletionCode, PldmBaseCompletionCode.toU8] at hsuccess

theorem cancelHonoured_iff_opening : ∃ events state, FdTrace .release events state ∧
    (CancelHonoured (fdEvent .release state cancelWhileLearning) ↔
      state.state.isInitiator = true) := by
  obtain ⟨events, state, trace, hstate, _⟩ := opening_downloads .release 100
  refine ⟨events, state, trace, cancelHonoured_iff trace (by simp [hstate]) ?_
    ⟨⟨_, rfl⟩, by decide, rfl, ⟨_, rfl⟩⟩⟩
  intro applied
  exact absurd (hstate.symm.trans applied.state) nofun

end UpdateMode

/-! ## The device leaves with the platform -/

/-- The platform has cancelled the component in this call. -/
def Cancelled (event : FdEvent) : Prop :=
  ∃ component, .cancelUpdateComponent component (.ok ()) ∈ event.callbacks

/-- A call that asks neither the agent for data nor the platform to verify or
apply. -/
structure OffDuty (event : FdEvent) : Prop where
  noData : ∀ id offset length, event.sent ≠ some (.requestFirmwareData id offset length)
  noVerify : ∀ component answer, .verify component answer ∉ event.callbacks
  noApply : ∀ component answer, .apply component answer ∉ event.callbacks

/-- The device leaves the operation in this call, and whatever is called later,
nothing more is done for the component unless the agent starts a new download. -/
structure LeavesOperation (profile : Profile) (event : FdEvent) : Prop where
  left : event.after.state.isInitiator = false
  offDuty : ∀ later reached, FdRun profile event.after later reached →
    (∀ call ∈ later, ¬ MovesToDownload call) → ∀ input, OffDuty (fdEvent profile reached input)

/-- The request that asked for the cancellation, if one did, can be answered. -/
def AnswersRequest (event : FdEvent) : Prop :=
  match event.input.operation with
  | .request handler payload => handler.AnswersCancel event.input.ops payload
  | _ => True

/-- Outside the operation states a call does no work for a component. -/
theorem works_of_passive {profile : Profile} {pre : FdInternal} {input : FdInput}
    {output : FdOutput} {sent : Option FdRequest} (step : FdStep profile pre input output sent)
    (passive : pre.state.isInitiator = false) : works output.log = [] ∧ sent = none := by
  cases step with
  | request step =>
      refine ⟨?_, rfl⟩
      cases step with
      | quiet touched idle spared => exact idle
      | sizeRecorded state touched idle => exact idle
      | updateStarted state decoded sized touched idle => exact idle
      | tableComplete state touched idle => exact idle
      | componentRecorded state decoded touched idle => exact idle
      | componentAccepted state decoded read idle => exact idle
      | activated state unread idle => exact idle
      | cancelRefused _ effective =>
          simp [isInitiator_of_shouldCancel effective] at passive
      | cancelLost _ effective => simp [isInitiator_of_shouldCancel effective] at passive
      | componentCancelled effective => simp [isInitiator_of_shouldCancel effective] at passive
      | updateCancelled effective => simp [isInitiator_of_shouldCancel effective] at passive
  | poll step =>
      obtain ⟨_, _, hlog, hsent⟩ := step.of_passive passive
      exact ⟨by simp [hlog], hsent⟩
  | response step => exact ⟨(step.of_passive passive).2, rfl⟩
  | touch => exact ⟨rfl, rfl⟩
  | query reads => exact ⟨rfl, rfl⟩

theorem offDuty_of_passive {profile : Profile} {state : FdInternal} (coherent : Coherent state)
    (passive : state.state.isInitiator = false) (input : FdInput) :
    OffDuty (fdEvent profile state input) := by
  obtain ⟨hworks, hsent⟩ := works_of_passive (@FdStep.run profile state coherent input) passive
  have hidle (callback : Callback) (work : callback.isWork = true) :
      callback ∉ (fdEvent profile state input).callbacks := by
    intro member
    have hmember := (mem_works work).mp member
    rw [show works (fdEvent profile state input).log = [] from hworks] at hmember
    cases hmember
  exact ⟨fun _ _ _ => by simp [hsent], fun _ _ => hidle _ rfl, fun _ _ => hidle _ rfl⟩

/-- The step lemma: only the start of a download leads into an operation. -/
theorem passive_step {profile : Profile} {pre : FdInternal} {input : FdInput}
    {output : FdOutput} {sent : Option FdRequest} (step : FdStep profile pre input output sent)
    (passive : pre.state.isInitiator = false)
    (stays : ¬ MovesToDownload ⟨pre, input, output⟩) :
    output.internal.state.isInitiator = false := by
  cases step with
  | request step =>
      by_contra operates
      rcases step.of_operating (Bool.not_eq_false _ ▸ operates) with touched | ⟨ready, _, hpost⟩
      · exact operates (touched.state ▸ passive)
      · refine stays ⟨?_, ?_⟩
        · rw [ready]
          rintro ⟨⟩
        · rw [FdEvent.after, hpost, FdContext.enterDownload_state]
  | poll step =>
      obtain ⟨_, rfl, _, _⟩ := step.of_passive passive
      exact passive
  | response step =>
      have htouched := (step.of_passive passive).1
      exact htouched.state ▸ passive
  | touch => exact passive
  | query reads => exact passive

/-- The run lemma: a device that has left the operation states stays outside them
until a download starts. -/
theorem passive_of_run {profile : Profile} {origin reached : FdInternal}
    {later : List FdEvent} (run : FdRun profile origin later reached)
    (coherent : Coherent origin) (passive : origin.state.isInitiator = false)
    (stays : ∀ call ∈ later, ¬ MovesToDownload call) : reached.state.isInitiator = false := by
  refine (run.induct coherent (fun events state =>
    (∀ call ∈ events, ¬ MovesToDownload call) → state.state.isInitiator = false)
    (fun _ => passive) ?_).1 stays
  intro events pre input output sent _ ih step _ _ stays
  refine passive_step step (ih fun call member => stays call (by simp [member])) ?_
  exact stays ⟨pre, input, output⟩ (by simp)

/-- Where the platform cancelled, the device leaves the operation exactly when the
request can be answered. -/
theorem left_iff_answersRequest {profile : Profile} {pre : FdInternal} {input : FdInput}
    {output : FdOutput} {sent : Option FdRequest} (step : FdStep profile pre input output sent)
    (cancelled : Cancelled ⟨pre, input, output⟩) :
    output.internal.state.isInitiator = false ↔ AnswersRequest ⟨pre, input, output⟩ := by
  obtain ⟨component, member⟩ := cancelled
  have hworks : .cancelUpdateComponent component (.ok ()) ∈ works output.log :=
    (mem_works rfl).mp member
  cases step with
  | request step =>
      cases step with
      | quiet _ idle => simp [idle] at hworks
      | sizeRecorded _ _ idle => simp [idle] at hworks
      | updateStarted _ _ _ _ idle => simp [idle] at hworks
      | tableComplete _ _ idle => simp [idle] at hworks
      | componentRecorded _ _ _ idle => simp [idle] at hworks
      | componentAccepted _ _ _ idle => simp [idle] at hworks
      | activated _ _ idle => simp [idle] at hworks
      | cancelRefused _ _ _ _ worked => simp [worked] at hworks
      | cancelLost _ effective _ unanswered touched =>
          refine iff_of_false ?_ unanswered
          simp [touched.state, isInitiator_of_shouldCancel effective]
      | componentCancelled effective cancelled answered =>
          exact iff_of_true (by simp [FirmwareDeviceState.isInitiator]) answered
      | updateCancelled effective cancelled answered =>
          exact iff_of_true (by simp [FirmwareDeviceState.isInitiator]) answered
  | poll step =>
      refine iff_of_true ?_ trivial
      rcases step.works_eq with hnone | ⟨answer, _, _, _, hleft, hcancel⟩ |
        ⟨_, _, _, _, _, hquery⟩ | ⟨kind, _, _, _, hcallback⟩
      · simp [hnone] at hworks
      · rw [hcancel, List.mem_singleton] at hworks
        injection hworks with _ hanswer
        obtain ⟨_, rfl⟩ := hleft hanswer.symm
        simp [FirmwareDeviceState.isInitiator]
      · simp [hquery] at hworks
      · cases kind <;> simp [hcallback, OperationKind.callback] at hworks
  | response step =>
      rcases step.works_eq _ hworks with ⟨_, _, _, hother⟩ | ⟨_, hother⟩ <;> cases hother
  | touch => simp [works_cons] at hworks
  | query reads => simp at hworks

/-- A cancellation by the platform takes the device out of the operation for good
exactly when the request that asked for it can be answered. -/
theorem leavesOperation_iff_answersRequest {profile : Profile} {events : List FdEvent}
    {state : FdInternal} (trace : FdTrace profile events state) (input : FdInput)
    (cancelled : Cancelled (fdEvent profile state input)) :
    LeavesOperation profile (fdEvent profile state input) ↔
      AnswersRequest (fdEvent profile state input) := by
  have hleft := left_iff_answersRequest (trace.step input) cancelled
  constructor
  · intro leaves
    exact hleft.mp leaves.left
  · intro answers
    refine ⟨hleft.mpr answers, fun later reached run stays next => ?_⟩
    have hcoherent : Coherent (fdEvent profile state input).after :=
      trace.coherent.step (trace.step input)
    exact offDuty_of_passive (run.coherent hcoherent)
      (passive_of_run run hcoherent (hleft.mpr answers) stays) next

/-- A cancel request in a buffer that holds its header and nothing more. -/
def cancelWithoutRoom : FdInput :=
  receive .cancelUpdateComponent (Agent.plainRequest .cancelUpdateComponent 0) (platform 1)

theorem cancelled_component_still_requested : ∃ events state, FdTrace .release events state ∧
    Cancelled (fdEvent .release state cancelWithoutRoom) ∧
    ¬ LeavesOperation .release (fdEvent .release state cancelWithoutRoom) ∧
    (fdEvent .release (fdEvent .release state cancelWithoutRoom).after (poll (platform 2))).sent =
      some (.requestFirmwareData 1 0 32) := by
  obtain ⟨events, state, trace, hcheck⟩ := exists_run .release (opening 100)
    (fun _ state =>
      let event := fdEvent .release state cancelWithoutRoom
      .cancelUpdateComponent state.updateComp (.ok ()) ∈ event.callbacks &&
        event.after.state = .download &&
        (fdEvent .release event.after (poll (platform 2))).sent =
          some (.requestFirmwareData 1 0 32)) (by decide +kernel)
  simp only [Bool.and_eq_true, decide_eq_true_eq] at hcheck
  obtain ⟨⟨hcancelled, hstate⟩, hsent⟩ := hcheck
  refine ⟨events, state, trace, ⟨_, hcancelled⟩, fun leaves => ?_, hsent⟩
  have hleft := leaves.left
  rw [hstate] at hleft
  cases hleft

theorem leavesOperation_iff_answersRequest_opening :
    ∃ events state input, FdTrace .release events state ∧
      Cancelled (fdEvent .release state input) ∧
      (LeavesOperation .release (fdEvent .release state input) ↔
        AnswersRequest (fdEvent .release state input)) := by
  obtain ⟨events, state, trace, hcheck⟩ := exists_run .release (opening 100)
    (fun _ state => .cancelUpdateComponent state.updateComp (.ok ()) ∈
      (fdEvent .release state cancelWithoutRoom).callbacks) (by decide +kernel)
  have hcancelled : Cancelled (fdEvent .release state cancelWithoutRoom) :=
    ⟨_, by simpa using hcheck⟩
  exact ⟨events, state, cancelWithoutRoom, trace, hcancelled,
    leavesOperation_iff_answersRequest trace cancelWithoutRoom hcancelled⟩

end PldmLib.FirmwareDevice
