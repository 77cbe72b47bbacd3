/-
# The state machine of an update

`Transition` is the documented machine: the edges between the states of a device, each
under the name of what takes the device along it. `Occurs` says when a call of the context
is the occasion of a transition: a request that was answered in a certain way, an accepted
acknowledgement of a successful report, or a poll that ran into the timeout.

Every call of a reachable device stays in its state or takes exactly one of the edges on
an occasion of it, so the states of a run are a path of the documented machine.
-/

import PldmLib.Machine.Refinement
import PldmLib.FirmwareDevice.Step
import PldmLib.Message.UpdateCodec

namespace PldmLib.FirmwareDevice

open PldmLib.Machine PldmLib.Protocol PldmLib.Message

/-! ## The documented machine -/

inductive Transition
  | requestUpdate
  | passComponentTable
  | updateComponent
  | transferComplete
  | verifyComplete
  | applyComplete
  | cancelUpdateComponent
  | cancelUpdate
  | timeout
  | activateFirmware
  deriving DecidableEq, Repr

/-- The edges. A cancellation and the timeout leave any of the three operations. -/
inductive Transition.Leads :
    Transition → FirmwareDeviceState → FirmwareDeviceState → Prop
  | requestUpdate : Leads .requestUpdate .idle .learnComponents
  | passComponentTable : Leads .passComponentTable .learnComponents .readyXfer
  | updateComponent : Leads .updateComponent .readyXfer .download
  | transferComplete : Leads .transferComplete .download .verify
  | verifyComplete : Leads .verifyComplete .verify .apply
  | applyComplete : Leads .applyComplete .apply .readyXfer
  | cancelUpdateComponent {state : FirmwareDeviceState} (active : state.isInitiator = true) :
      Leads .cancelUpdateComponent state .readyXfer
  | cancelUpdate {state : FirmwareDeviceState} (active : state.isInitiator = true) :
      Leads .cancelUpdate state .idle
  | timeout {state : FirmwareDeviceState} (active : state.isInitiator = true) :
      Leads .timeout state .idle
  | activateFirmware : Leads .activateFirmware .readyXfer .idle

/-- No edge ends in the state an activation passes through. -/
theorem Transition.Leads.ne_activate {transition : Transition}
    {before after : FirmwareDeviceState} (leads : transition.Leads before after) :
    after ≠ .activate := by
  cases leads <;> exact nofun

/-- An operation begins with a download. -/
theorem Transition.Leads.download_of_initiator {transition : Transition}
    {before after : FirmwareDeviceState} (leads : transition.Leads before after)
    (rests : before.isInitiator = false) (operates : after.isInitiator = true) :
    before ≠ .download ∧ after = .download := by
  cases leads with
  | updateComponent => exact ⟨nofun, rfl⟩
  | transferComplete => cases rests
  | verifyComplete => cases rests
  | _ => cases operates

/-! ## Occasions -/

/-- The payload begins with a reply of this completion code and with this body. -/
def Replied (outcome : Outcome MsgHandlerError ℕ) (payload : List UInt8) (code : UInt8)
    (body : List UInt8) : Prop :=
  ∃ count header, outcome = .ok count ∧
    payload.take count = PldmMsgHeader.toBytes header ++ code :: body

/-- The call handled a request and answered it so. -/
structure Answers (event : FdEvent) (handler : Handler) (payload : List UInt8) (code : UInt8)
    (body : List UInt8) : Prop where
  called : event.input.operation = .request handler payload
  replied : ∃ outcome, event.output.outcome = Outcome.map .length outcome ∧
    Replied outcome event.output.payload code body

/-- The call processed a message that was accepted as the response to a report of
success. -/
structure Acknowledges (event : FdEvent) (report : FwUpdateCmd) : Prop where
  called : ∃ payload, event.input.operation = .handleResponse payload ∧
    accepts event.before.req payload = true
  command : event.before.req.command = some report.toU8
  complete : event.before.req.complete = true
  success : event.before.req.result = some 0

/-- A call that is the occasion of a transition. -/
inductive Occurs (event : FdEvent) : Transition → Prop
  | requestUpdate {payload body : List UInt8}
      (accepted : Answers event .requestUpdate payload PldmBaseCompletionCode.success.toU8 body) :
      Occurs event .requestUpdate
  | passComponentTable {payload body : List UInt8} {request : PassComponentTableRequest}
      {flag : TransferRespFlag}
      (accepted : Answers event .passComponent payload PldmBaseCompletionCode.success.toU8 body)
      (decoded : PassComponentTableRequest.decode payload = .ok request)
      (flagged : TransferRespFlag.tryFrom request.transferFlag = .ok flag)
      (last : flag = .end ∨ flag = .startAndEnd) : Occurs event .passComponentTable
  /-- The answer says that the component can be updated. -/
  | updateComponent {payload body : List UInt8}
      (accepted : Answers event .updateComponent payload PldmBaseCompletionCode.success.toU8
        (ComponentCompatibilityResponse.compCanBeUpdated.toU8 :: body)) :
      Occurs event .updateComponent
  | transferComplete (acknowledges : Acknowledges event .transferComplete) :
      Occurs event .transferComplete
  | verifyComplete (acknowledges : Acknowledges event .verifyComplete) :
      Occurs event .verifyComplete
  | applyComplete (acknowledges : Acknowledges event .applyComplete) :
      Occurs event .applyComplete
  | cancelUpdateComponent {payload body : List UInt8}
      (accepted : Answers event .cancelUpdateComponent payload
        PldmBaseCompletionCode.success.toU8 body) :
      Occurs event .cancelUpdateComponent
  | cancelUpdate {payload body : List UInt8}
      (accepted : Answers event .cancelUpdate payload PldmBaseCompletionCode.success.toU8 body) :
      Occurs event .cancelUpdate
  | timeout {payload : List UInt8} (called : event.input.operation = .fdProgress payload)
      (silence : silent event.input.ops event.before = true)
      (reported : event.output.outcome = .err .t1Timeout) : Occurs event .timeout
  /-- The device passes through `Activate`. -/
  | activateFirmware {payload body : List UInt8} {code : UInt8}
      (accepted : Answers event .activateFirmware payload code body)
      (granted : code = PldmBaseCompletionCode.success.toU8 ∨
        code = FwUpdateCompletionCode.activationNotRequired.toU8)
      (through : event.after.prevState = .activate) : Occurs event .activateFirmware

/-! ## What the handlers do -/

section Handlers

open FdContext

variable {ops : FdOps} {payload : List UInt8} {pre : FdInternal} {state : CallState}

/-- A response is written with its state change, or the device stays as it is. -/
theorem respond_replied {encoder : Encoder} {message body : List UInt8} {header : PldmMsgHeader}
    {code : UInt8} {commit : FdInternal → FdInternal}
    {post : Outcome MsgHandlerError ℕ → CallState → Prop}
    (encodes : encoder = writeToPrefix message) (shape : message = header.toBytes ++ code :: body)
    (written : ∀ outcome final, Replied outcome final code body →
      post outcome { state with internal := commit state.internal, payload := final })
    (refused : ∀ outcome final, post outcome { state with payload := final }) :
    (FdCall.respond encoder commit).wp post state := by
  subst encodes
  apply FdCall.respond_rule
  · intro bytes final hrun
    obtain ⟨_, _, htake⟩ := writeToPrefix_ok hrun
    exact written _ final ⟨bytes, header, rfl, htake.trans shape⟩
  · exact fun _ outcome final => refused outcome final

/-- The device stayed in its state, or went from one state to another as said. -/
def Moves (pre : FdInternal) (before after : FirmwareDeviceState)
    (occasion : Outcome MsgHandlerError ℕ → CallState → Prop)
    (outcome : Outcome MsgHandlerError ℕ) (final : CallState) : Prop :=
  final.internal.state = pre.state ∨
    pre.state = before ∧ final.internal.state = after ∧ occasion outcome final

theorem requestUpdateRsp_moves : (requestUpdateRsp ops).wp
    (Moves pre .idle .learnComponents fun outcome final =>
      ∃ body, Replied outcome final.payload PldmBaseCompletionCode.success.toU8 body)
    ⟨pre, payload, []⟩ := by
  simp only [requestUpdateRsp, Call.wp_bind, FdCall.wp_internal, Call.wp_ite]
  split
  · exact FdCall.generateFailureResponse_rule fun _ _ => .inl rfl
  · next updating =>
      have hidle : pre.state = .idle := by simpa [FdInternal.isUpdateMode] using updating
      simp only [FdCall.wp_setFdT1Ts]
      apply FdCall.withRequest_rule
      · exact fun _ _ _ _ => .inl rfl
      · intro request _
        simp only [Call.wp_ite, Call.wp_bind, FdCall.wp_invoke]
        split
        · exact FdCall.generateFailureResponse_rule fun _ _ => .inl rfl
        · apply FdCall.ofOps_rule
          · intro transferSize _
            simp only [FdCall.wp_modify]
            apply respond_replied (RequestUpdateResponse.encode_eq (by exact rfl)) rfl
            · exact fun outcome final replied =>
                .inr ⟨hidle, by simp, _, replied⟩
            · exact fun _ _ => .inl rfl
          · exact fun _ _ => .inl rfl

theorem passComponentRsp_moves : (passComponentRsp ops).wp
    (Moves pre .learnComponents .readyXfer fun outcome final =>
      (∃ body, Replied outcome final.payload PldmBaseCompletionCode.success.toU8 body) ∧
      ∃ request flag, PassComponentTableRequest.decode payload = .ok request ∧
        TransferRespFlag.tryFrom request.transferFlag = .ok flag ∧
        (flag = .end ∨ flag = .startAndEnd)) ⟨pre, payload, []⟩ := by
  simp only [passComponentRsp, Call.wp_bind, FdCall.wp_internal, Call.wp_ite]
  split
  · exact FdCall.generateFailureResponse_rule fun _ _ => .inl rfl
  · next learning =>
      rw [not_not] at learning
      simp only [FdCall.wp_setFdT1Ts]
      apply FdCall.withRequest_rule
      · exact fun _ _ _ _ => .inl rfl
      · intro request decoded
        split
        · exact FdCall.generateFailureResponse_rule fun _ _ => .inl rfl
        · next flag flagged =>
            simp only [Call.wp_bind, FdCall.wp_invoke]
            apply FdCall.ofOps_rule
            · intro firmwareParams _
              apply FdCall.ofOps_rule
              · intro compRespCode _
                apply respond_replied rfl rfl
                · intro outcome final replied
                  by_cases last : flag = .end ∨ flag = .startAndEnd
                  · refine .inr ⟨learning, ?_, ⟨_, replied⟩, request, flag, decoded, flagged, last⟩
                    simp only [if_pos last, FdInternal.setFdState_state]
                  · refine .inl ?_
                    simp only [if_neg last]
                    rfl
                · exact fun _ _ => .inl rfl
              · exact fun _ _ => .inl rfl
            · exact fun _ _ => .inl rfl

theorem updateComponentRsp_moves : (updateComponentRsp ops).wp
    (Moves pre .readyXfer .download fun outcome final =>
      ∃ body, Replied outcome final.payload PldmBaseCompletionCode.success.toU8
        (ComponentCompatibilityResponse.compCanBeUpdated.toU8 :: body)) ⟨pre, payload, []⟩ := by
  simp only [updateComponentRsp, Call.wp_bind, FdCall.wp_internal, Call.wp_ite]
  split
  · exact FdCall.generateFailureResponse_rule fun _ _ => .inl rfl
  · next ready =>
      rw [not_not] at ready
      simp only [FdCall.wp_setFdT1Ts]
      apply FdCall.withRequest_rule
      · exact fun _ _ _ _ => .inl rfl
      · intro request _
        simp only [Call.wp_bind, FdCall.wp_modify, FdCall.wp_invoke]
        apply FdCall.ofOps_rule
        · intro firmwareParams _
          apply FdCall.ofOps_rule
          · intro compRespCode _
            simp only [Call.wp_ofOutcome]
            cases ComponentCompatibilityResponseCode.tryFrom compRespCode.toU8 with
            | error error => exact .inl rfl
            | ok compatibilityCode =>
                by_cases accepted : compRespCode = .compCanBeUpdated
                · simp only [Outcome.unwrap, if_pos accepted]
                  apply respond_replied (UpdateComponentResponse.encode_toBytes _) rfl
                  · exact fun outcome final replied =>
                      .inr ⟨ready, by simp [enterDownload], _, replied⟩
                  · exact fun _ _ => .inl rfl
                · simp only [Outcome.unwrap, if_neg accepted]
                  exact FdCall.respond_rule (fun _ _ _ => .inl rfl) fun _ _ _ => .inl rfl
          · exact fun _ _ => .inl rfl
        · exact fun _ _ => .inl rfl

theorem activateFirmwareRsp_moves : (activateFirmwareRsp ops).wp
    (Moves pre .readyXfer .idle fun outcome final => final.internal.prevState = .activate ∧
      ∃ code body, Replied outcome final.payload code body ∧
        (code = PldmBaseCompletionCode.success.toU8 ∨
          code = FwUpdateCompletionCode.activationNotRequired.toU8)) ⟨pre, payload, []⟩ := by
  simp only [activateFirmwareRsp, Call.wp_bind, FdCall.wp_internal, Call.wp_ite]
  split
  · exact FdCall.generateFailureResponse_rule fun _ _ => .inl rfl
  · next ready =>
      rw [not_not] at ready
      apply FdCall.withRequest_rule
      · exact fun _ _ _ _ => .inl rfl
      · intro request _
        simp only [Call.wp_ite, Call.wp_bind, FdCall.wp_invoke]
        split
        · exact FdCall.generateFailureResponse_rule fun _ _ => .inl rfl
        · apply FdCall.ofOps_rule
          · rintro ⟨completionCode, estimatedTime⟩ _
            apply respond_replied rfl rfl
            · intro outcome final replied
              by_cases granted : completionCode = PldmBaseCompletionCode.success.toU8 ∨
                  completionCode = FwUpdateCompletionCode.activationNotRequired.toU8
              · refine .inr ⟨ready, ?_, ?_, _, _, replied, granted⟩
                · simp only [if_pos granted]
                  simp [enterActivate]
                · simp only [if_pos granted]
                  simp [enterActivate, FdInternal.setFdState, FdInternal.setFdIdle, ready]
              · refine .inl ?_
                simp only [if_neg granted]
            · exact fun _ _ => .inl rfl
          · exact fun _ _ => .inl rfl

theorem cancelUpdateComponentRsp_moves : (cancelUpdateComponentRsp ops).wp
    (Moves pre pre.state .readyXfer fun outcome final => pre.state.isInitiator = true ∧
      ∃ body, Replied outcome final.payload PldmBaseCompletionCode.success.toU8 body)
    ⟨pre, payload, []⟩ := by
  apply RequestStep.cancelUpdateComponentRsp_rule
  · exact fun _ => FdCall.generateFailureResponse_rule fun _ _ => .inl rfl
  · exact fun _ _ => FdCall.generateFailureResponse_rule fun _ _ => .inl rfl
  · intro _
    apply FdCall.withRequest_rule
    · exact fun _ _ _ _ => .inl rfl
    · exact fun _ _ => FdCall.respond_rule (fun _ _ _ => .inl rfl) fun _ _ _ => .inl rfl
  · intro effective _
    apply FdCall.withRequest_rule
    · exact fun _ _ _ _ => .inl rfl
    · intro request _
      apply respond_replied rfl rfl
      · exact fun outcome final replied =>
          .inr ⟨rfl, by simp, isInitiator_of_shouldCancel effective, _, replied⟩
      · exact fun _ _ => .inl rfl
  · exact fun _ _ _ => .inl rfl

theorem cancelUpdateRsp_moves : (cancelUpdateRsp ops).wp
    (Moves pre pre.state .idle fun outcome final => pre.state.isInitiator = true ∧
      ∃ body, Replied outcome final.payload PldmBaseCompletionCode.success.toU8 body)
    ⟨pre, payload, []⟩ := by
  apply RequestStep.cancelUpdateRsp_rule
  · exact fun _ => FdCall.generateFailureResponse_rule fun _ _ => .inl rfl
  · intro _
    apply FdCall.withRequest_rule
    · exact fun _ _ _ _ => .inl rfl
    · intro request _
      simp only [Call.wp_bind, FdCall.wp_invoke]
      apply FdCall.ofOps_rule
      · exact fun _ _ => FdCall.respond_rule (fun _ _ _ => .inl rfl) fun _ _ _ => .inl rfl
      · exact fun _ _ => .inl rfl
  · intro effective _
    apply FdCall.withRequest_rule
    · exact fun _ _ _ _ => .inl rfl
    · intro request _
      simp only [Call.wp_bind, FdCall.wp_invoke]
      apply FdCall.ofOps_rule
      · rintro ⟨indication, bitmap⟩ _
        apply respond_replied rfl rfl
        · exact fun outcome final replied =>
            .inr ⟨rfl, by simp, isInitiator_of_shouldCancel effective, _, replied⟩
        · exact fun _ _ => .inl rfl
      · exact fun _ _ => .inl rfl
  · exact fun _ _ _ => .inl rfl

end Handlers

/-! ## What a call does -/

section Calls

variable {profile : Profile} {events : List FdEvent} {state : FdInternal}

/-- The device stayed in its state, or the event is an occasion of an edge it took. -/
def Documented (event : FdEvent) : Prop :=
  event.after.state = event.before.state ∨ ∃ transition,
    Transition.Leads transition event.before.state event.after.state ∧ Occurs event transition

/-- A handler that moves on an occasion, and an edge for it. -/
theorem documented_request {handler : Handler} {payload : List UInt8} {ops : FdOps}
    {before after : FirmwareDeviceState}
    {occasion : Outcome MsgHandlerError ℕ → CallState → Prop}
    (moves : (handler.run ops).wp (Moves state before after occasion) ⟨state, payload, []⟩)
    (transition : Transition)
    (edge : ∀ outcome final, occasion outcome final → state.state = before →
      (fdEvent profile state ⟨.request handler payload, ops⟩).output.outcome =
        outcome.map .length →
      (fdEvent profile state ⟨.request handler payload, ops⟩).output.payload = final.payload →
      (fdEvent profile state ⟨.request handler payload, ops⟩).after = final.internal →
      Transition.Leads transition before after ∧
        Occurs (fdEvent profile state ⟨.request handler payload, ops⟩) transition) :
    Documented (fdEvent profile state ⟨.request handler payload, ops⟩) := by
  obtain ⟨outcome, final, hmoves, houtcome, hafter, hpayload, _⟩ := request_rule moves
  rcases hmoves with same | ⟨hbefore, hreached, hoccasion⟩
  · exact .inl ((congrArg FdInternal.state hafter).trans same)
  · obtain ⟨leads, occurs⟩ := edge outcome final hoccasion hbefore houtcome hpayload hafter
    refine .inr ⟨transition, ?_, occurs⟩
    rw [hafter, hreached]
    exact hbefore.symm ▸ leads

/-- A handler that changes nothing but a timestamp. -/
theorem documented_of_quiet {handler : Handler} {payload : List UInt8} {ops : FdOps}
    (trace : FdTrace profile events state)
    (quiet : ∀ outcome post log, RequestStep ops payload state handler outcome post log →
      post.state = state.state) :
    Documented (fdEvent profile state ⟨.request handler payload, ops⟩) := by
  obtain ⟨_, outcome, _, step⟩ := (trace.step ⟨.request handler payload, ops⟩).of_request
  exact .inl (quiet outcome _ _ step)

/-- Every request is documented. -/
theorem FdTrace.documented_handler (trace : FdTrace profile events state) (handler : Handler)
    (payload : List UInt8) (ops : FdOps) :
    Documented (fdEvent profile state ⟨.request handler payload, ops⟩) := by
  cases handler with
  | requestUpdate =>
      refine @documented_request _ _ .requestUpdate _ _ _ _ _
        requestUpdateRsp_moves .requestUpdate ?_
      rintro outcome final ⟨body, replied⟩ _ houtcome hpayload _
      exact ⟨.requestUpdate, .requestUpdate ⟨rfl, outcome, houtcome, hpayload ▸ replied⟩⟩
  | passComponent =>
      refine @documented_request _ _ .passComponent _ _ _ _ _
        passComponentRsp_moves .passComponentTable ?_
      rintro outcome final ⟨⟨body, replied⟩, request, flag, decoded, flagged, last⟩ _ houtcome
        hpayload _
      exact ⟨.passComponentTable, .passComponentTable
        ⟨rfl, outcome, houtcome, hpayload ▸ replied⟩ decoded flagged last⟩
  | updateComponent =>
      refine @documented_request _ _ .updateComponent _ _ _ _ _
        updateComponentRsp_moves .updateComponent ?_
      rintro outcome final ⟨body, replied⟩ _ houtcome hpayload _
      exact ⟨.updateComponent, .updateComponent ⟨rfl, outcome, houtcome, hpayload ▸ replied⟩⟩
  | activateFirmware =>
      refine @documented_request _ _ .activateFirmware _ _ _ _ _
        activateFirmwareRsp_moves .activateFirmware ?_
      rintro outcome final ⟨through, code, body, replied, granted⟩ _ houtcome hpayload hafter
      exact ⟨.activateFirmware, .activateFirmware
        ⟨rfl, outcome, houtcome, hpayload ▸ replied⟩ granted (hafter ▸ through)⟩
  | cancelUpdateComponent =>
      refine @documented_request _ _ .cancelUpdateComponent _ _ _ _ _
        cancelUpdateComponentRsp_moves .cancelUpdateComponent ?_
      rintro outcome final ⟨active, body, replied⟩ _ houtcome hpayload _
      exact ⟨.cancelUpdateComponent active, .cancelUpdateComponent
        ⟨rfl, outcome, houtcome, hpayload ▸ replied⟩⟩
  | cancelUpdate =>
      refine @documented_request _ _ .cancelUpdate _ _ _ _ _
        cancelUpdateRsp_moves .cancelUpdate ?_
      rintro outcome final ⟨active, body, replied⟩ _ houtcome hpayload _
      exact ⟨.cancelUpdate active, .cancelUpdate ⟨rfl, outcome, houtcome, hpayload ▸ replied⟩⟩
  | _ =>
      apply documented_of_quiet trace
      intro outcome post log step
      cases step with
      | quiet touched => exact touched.state
      | cancelRefused cancels => cases cancels
      | cancelLost cancels => cases cancels

/-- Only the timeout ends an operation in a poll. -/
theorem FdTrace.documented_poll (trace : FdTrace profile events state) (payload : List UInt8)
    (ops : FdOps) : Documented (fdEvent profile state ⟨.fdProgress payload, ops⟩) := by
  obtain ⟨outcome, houtcome, step⟩ := (trace.step ⟨.fdProgress payload, ops⟩).of_poll
  by_cases timedOut : outcome = .err .t1Timeout
  · subst timedOut
    refine .inr ⟨.timeout, ?_⟩
    obtain ⟨active, silence, hidle⟩ : state.state.isInitiator = true ∧ silent ops state = true ∧
        (fdEvent profile state ⟨.fdProgress payload, ops⟩).after.state = .idle := by
      unfold FdEvent.after
      generalize hinternal : (fdEvent profile state ⟨.fdProgress payload, ops⟩).output.internal =
        post at step ⊢
      generalize (fdEvent profile state ⟨.fdProgress payload, ops⟩).output.log = log at step
      generalize (fdEvent profile state ⟨.fdProgress payload, ops⟩).sent = sent at step
      cases step with
      | timedOut active silence => exact ⟨active, silence, by simp⟩
    rw [hidle]
    exact ⟨.timeout active, .timeout rfl silence houtcome⟩
  · exact .inl (step.state_eq timedOut)

/-- A response moves the device on when it acknowledges a report of success. -/
theorem FdTrace.documented_response (trace : FdTrace profile events state)
    (payload : List UInt8) (ops : FdOps) :
    Documented (fdEvent profile state ⟨.handleResponse payload, ops⟩) := by
  obtain ⟨_, outcome, _, step⟩ := (trace.step ⟨.handleResponse payload, ops⟩).of_response
  by_cases same : (fdEvent profile state ⟨.handleResponse payload, ops⟩).after.state = state.state
  · exact .inl same
  · obtain ⟨accepted, active, complete, success⟩ := step.of_movesOn same
    obtain ⟨_, _, sent, _⟩ := ResponseStep.accepts_iff.mp accepted
    have hafter : (fdEvent profile state ⟨.handleResponse payload, ops⟩).after =
        advance state.state (state.setFdT1UpdateTs (ops.now 0)) := by
      rcases step.state_eq with kept | ⟨_, _, _, advanced⟩
      · exact absurd kept same
      · exact advanced
    rcases outstanding_cases trace.coherent active sent with ⟨_, unfinished, _⟩ |
      ⟨_, report, reports, command⟩
    · exact absurd (complete.symm.trans unfinished) nofun
    · have hacknowledges : Acknowledges
          (fdEvent profile state ⟨.handleResponse payload, ops⟩) report :=
        ⟨⟨payload, rfl, accepted⟩, command, complete, success⟩
      unfold Documented
      rw [hafter, advance_state active]
      show _ ∨ ∃ transition, Transition.Leads transition state.state _ ∧ _
      cases hstate : state.state with
      | download =>
          rw [hstate] at reports
          obtain rfl := Option.some.inj reports
          exact .inr ⟨.transferComplete, .transferComplete, .transferComplete hacknowledges⟩
      | verify =>
          rw [hstate] at reports
          obtain rfl := Option.some.inj reports
          exact .inr ⟨.verifyComplete, .verifyComplete, .verifyComplete hacknowledges⟩
      | apply =>
          rw [hstate] at reports
          obtain rfl := Option.some.inj reports
          exact .inr ⟨.applyComplete, .applyComplete, .applyComplete hacknowledges⟩
      | _ =>
          rw [hstate] at active
          cases active

/-- Every call of a reachable device keeps its state or takes an edge on an occasion of it. -/
theorem FdTrace.documented (trace : FdTrace profile events state) (input : FdInput) :
    Documented (fdEvent profile state input) := by
  obtain ⟨operation, ops⟩ := input
  cases operation with
  | request handler payload => exact trace.documented_handler handler payload ops
  | fdProgress payload => exact trace.documented_poll payload ops
  | handleResponse payload => exact trace.documented_response payload ops
  | _ => exact .inl rfl

/-- The edge a call may take from a state. -/
def Transition.ofOperation : FdOperation → FirmwareDeviceState → Option Transition
  | .request .requestUpdate _, _ => some .requestUpdate
  | .request .passComponent _, _ => some .passComponentTable
  | .request .updateComponent _, _ => some .updateComponent
  | .request .activateFirmware _, _ => some .activateFirmware
  | .request .cancelUpdateComponent _, _ => some .cancelUpdateComponent
  | .request .cancelUpdate _, _ => some .cancelUpdate
  | .fdProgress _, _ => some .timeout
  | .handleResponse _, .download => some .transferComplete
  | .handleResponse _, .verify => some .verifyComplete
  | .handleResponse _, .apply => some .applyComplete
  | _, _ => none

theorem Occurs.ofOperation {event : FdEvent} {after : FirmwareDeviceState}
    {transition : Transition} (occurs : Occurs event transition)
    (leads : transition.Leads event.before.state after) :
    Transition.ofOperation event.input.operation event.before.state = some transition := by
  generalize hbefore : event.before.state = before at leads
  cases occurs with
  | requestUpdate accepted => rw [accepted.called, Transition.ofOperation]
  | passComponentTable accepted => rw [accepted.called, Transition.ofOperation]
  | updateComponent accepted => rw [accepted.called, Transition.ofOperation]
  | cancelUpdateComponent accepted => rw [accepted.called, Transition.ofOperation]
  | cancelUpdate accepted => rw [accepted.called, Transition.ofOperation]
  | activateFirmware accepted => rw [accepted.called, Transition.ofOperation]
  | timeout called => rw [called, Transition.ofOperation]
  | transferComplete acknowledges =>
      obtain ⟨payload, called, _⟩ := acknowledges.called
      cases leads
      rw [called, Transition.ofOperation]
  | verifyComplete acknowledges =>
      obtain ⟨payload, called, _⟩ := acknowledges.called
      cases leads
      rw [called, Transition.ofOperation]
  | applyComplete acknowledges =>
      obtain ⟨payload, called, _⟩ := acknowledges.called
      cases leads
      rw [called, Transition.ofOperation]

/-- An event is the occasion of one edge from its state at most. -/
theorem Occurs.unique {event : FdEvent} {after after' : FirmwareDeviceState}
    {transition other : Transition} (occurs : Occurs event transition)
    (occurs' : Occurs event other) (leads : transition.Leads event.before.state after)
    (leads' : other.Leads event.before.state after') : transition = other :=
  Option.some.inj ((occurs.ofOperation leads).symm.trans (occurs'.ofOperation leads'))

/-- No run reaches the state an activation passes through. -/
theorem FdTrace.ne_activate (trace : FdTrace profile events state) : state.state ≠ .activate := by
  apply System.Trace.invariant (fun _ (state : FdInternal) => state.state ≠ .activate)
    (by decide) _ trace
  intro events state input reached prior resting live
  rw [fdSystem_next live]
  rcases FdTrace.documented prior input with same | ⟨transition, leads, _⟩
  · exact fun activating => resting (same.symm.trans activating)
  · exact leads.ne_activate

end Calls

end PldmLib.FirmwareDevice
