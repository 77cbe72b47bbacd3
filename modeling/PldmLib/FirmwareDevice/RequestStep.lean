/-
# What a request of the agent can do

`RequestStep` lists what a call of a request handler can do to the device and
which work it can ask of the platform. Most calls do nothing that matters later:
they answer, or refuse, and at most refresh the T1 timestamp. The others are the
transitions of the update flow and the ways in which a cancellation ends. Every
handler is shown to do one of these, so that an invariant of runs is checked
against this list and not against the handlers.
-/

import PldmLib.FirmwareDevice.System

namespace PldmLib.FirmwareDevice

open PldmLib.Machine PldmLib.Protocol PldmLib.Message

/-! ## Reading a log -/

/-- The callbacks in which the platform works on a component. -/
def Callback.isWork : Callback → Bool
  | .queryDownloadOffsetAndLength _ _ => true
  | .downloadFwData _ _ _ _ => true
  | .isDownloadComplete _ _ => true
  | .verify _ _ => true
  | .apply _ _ => true
  | .cancelUpdateComponent _ _ => true
  | _ => false

@[simp] theorem Callback.isWork_now : Callback.now.isWork = false := rfl

/-- The work done in a call, in order. -/
def works (log : List Invocation) : List Callback :=
  (log.map Invocation.callback).filter Callback.isWork

@[simp] theorem works_nil : works [] = [] := rfl

@[simp] theorem works_append (first second : List Invocation) :
    works (first ++ second) = works first ++ works second := by
  simp [works]

theorem works_cons (invocation : Invocation) (rest : List Invocation) :
    works (invocation :: rest) =
      if invocation.callback.isWork then invocation.callback :: works rest else works rest := by
  cases hwork : invocation.callback.isWork <;> simp [works, hwork]

/-- Work is found in a log exactly where the platform was asked for it. -/
theorem mem_works {callback : Callback} {log : List Invocation}
    (work : callback.isWork = true) :
    callback ∈ log.map Invocation.callback ↔ callback ∈ works log := by
  simp [works, work]

/-- The clock readings a call asked for, in order. -/
def readings (log : List Invocation) : List PldmFdTime :=
  (log.filter fun invocation => invocation.callback = .now).map Invocation.time

@[simp] theorem readings_append (first second : List Invocation) :
    readings (first ++ second) = readings first ++ readings second := by
  simp [readings]

/-- A state differs from another at most in a T1 timestamp that was read in
between. -/
inductive Touched (log : List Invocation) (pre : FdInternal) : FdInternal → Prop
  | kept (unread : readings log = []) : Touched log pre pre
  | refreshed (time : PldmFdTime) (read : readings log = [time]) :
      Touched log pre (pre.setFdT1UpdateTs time)

namespace Touched

variable {log : List Invocation} {pre post : FdInternal}

theorem state (touched : Touched log pre post) : post.state = pre.state := by
  cases touched <;> rfl

theorem prevState (touched : Touched log pre post) : post.prevState = pre.prevState := by
  cases touched <;> rfl

theorem reason (touched : Touched log pre post) : post.reason = pre.reason := by
  cases touched <;> rfl

theorem req (touched : Touched log pre post) : post.req = pre.req := by
  cases touched <;> rfl

theorem updateComp (touched : Touched log pre post) : post.updateComp = pre.updateComp := by
  cases touched <;> rfl

theorem maxXferSize (touched : Touched log pre post) : post.maxXferSize = pre.maxXferSize := by
  cases touched <;> rfl

theorem initiatorModeState (touched : Touched log pre post) :
    post.initiatorModeState = pre.initiatorModeState := by
  cases touched <;> rfl

theorem fdT1Timeout (touched : Touched log pre post) : post.fdT1Timeout = pre.fdT1Timeout := by
  cases touched <;> rfl

theorem fdT2RetryTime (touched : Touched log pre post) :
    post.fdT2RetryTime = pre.fdT2RetryTime := by
  cases touched <;> rfl

end Touched

/-! ## The steps -/

/-- Whether a request that cancelled is then answered with success. -/
def Handler.AnswersCancel (ops : FdOps) (payload : List UInt8) : Handler → Prop
  | .cancelUpdateComponent => 4 ≤ payload.length
  | .cancelUpdate => 13 ≤ payload.length ∧ ∃ info, ops.getNonFunctionalComponentInfo = .ok info
  | _ => False

/-- The handlers that may cancel. -/
def Handler.isCancel : Handler → Bool
  | .cancelUpdateComponent => true
  | .cancelUpdate => true
  | _ => false

/-- `RequestStep ops payload pre handler outcome post log`: the handler takes the
device from `pre` to `post`. -/
inductive RequestStep (ops : FdOps) (payload : List UInt8) (pre : FdInternal) :
    Handler → Outcome MsgHandlerError ℕ → FdInternal → List Invocation → Prop
  | quiet {handler : Handler} {outcome : Outcome MsgHandlerError ℕ} {post : FdInternal}
      {log : List Invocation} (touched : Touched log pre post) (idle : works log = [])
      (spared : handler.isCancel = true → FdContext.shouldCancel pre ≠ some true) :
      RequestStep ops payload pre handler outcome post log
  /-- An update request that was not answered leaves its transfer size behind. -/
  | sizeRecorded {outcome : Outcome MsgHandlerError ℕ} {between : FdInternal}
      {log : List Invocation} {transferSize : ℕ} (state : pre.state = .idle)
      (touched : Touched log pre between) (idle : works log = []) :
      RequestStep ops payload pre .requestUpdate outcome (between.setXferSize transferSize) log
  | updateStarted {bytes : ℕ} {between : FdInternal} {log : List Invocation}
      {request : RequestUpdateRequest} {transferSize : ℕ} (state : pre.state = .idle)
      (decoded : RequestUpdateRequest.decode payload = .ok request)
      (sized : ops.getXferSize request.maxTransferSize.toNat = .ok transferSize)
      (touched : Touched log pre between) (idle : works log = []) :
      RequestStep ops payload pre .requestUpdate (.ok bytes)
        ((between.setXferSize transferSize).setFdState .learnComponents) log
  | tableComplete {bytes : ℕ} {between : FdInternal} {log : List Invocation}
      (state : pre.state = .learnComponents) (touched : Touched log pre between)
      (idle : works log = []) :
      RequestStep ops payload pre .passComponent (.ok bytes) (between.setFdState .readyXfer) log
  /-- A component that was not accepted is recorded all the same. -/
  | componentRecorded {outcome : Outcome MsgHandlerError ℕ} {between : FdInternal}
      {log : List Invocation} {request : UpdateComponentRequest}
      (state : pre.state = .readyXfer)
      (decoded : UpdateComponentRequest.decode payload = .ok request)
      (touched : Touched log pre between) (idle : works log = []) :
      RequestStep ops payload pre .updateComponent outcome
        ((between.setComponent (FdContext.describedComponent request)).setUpdateFlags
          ⟨request.updateOptionFlags⟩) log
  | componentAccepted {bytes : ℕ} {time : PldmFdTime} {log : List Invocation}
      {request : UpdateComponentRequest} (state : pre.state = .readyXfer)
      (decoded : UpdateComponentRequest.decode payload = .ok request)
      (read : readings log = [time]) (idle : works log = []) :
      RequestStep ops payload pre .updateComponent (.ok bytes)
        (FdContext.enterDownload
          (((pre.setFdT1UpdateTs time).setComponent
            (FdContext.describedComponent request)).setUpdateFlags
              ⟨request.updateOptionFlags⟩)) log
  | activated {bytes : ℕ} {log : List Invocation} (state : pre.state = .readyXfer)
      (unread : readings log = []) (idle : works log = []) :
      RequestStep ops payload pre .activateFirmware (.ok bytes) (FdContext.enterActivate pre) log
  | cancelRefused {handler : Handler} {error : FdOpsError} {post : FdInternal}
      {log : List Invocation} (cancels : handler.isCancel = true)
      (effective : FdContext.shouldCancel pre = some true)
      (refused : ops.cancelUpdateComponent pre.updateComp = .error error)
      (touched : Touched log pre post)
      (worked : works log = [.cancelUpdateComponent pre.updateComp (.error error)]) :
      RequestStep ops payload pre handler (.err (.fdOps error)) post log
  /-- The platform has cancelled and the device goes on as before. -/
  | cancelLost {handler : Handler} {outcome : Outcome MsgHandlerError ℕ} {post : FdInternal}
      {log : List Invocation} (cancels : handler.isCancel = true)
      (effective : FdContext.shouldCancel pre = some true)
      (cancelled : ops.cancelUpdateComponent pre.updateComp = .ok ())
      (unanswered : ¬ handler.AnswersCancel ops payload)
      (touched : Touched log pre post)
      (worked : works log = [.cancelUpdateComponent pre.updateComp (.ok ())]) :
      RequestStep ops payload pre handler outcome post log
  | componentCancelled {bytes : ℕ} {log : List Invocation}
      (effective : FdContext.shouldCancel pre = some true)
      (cancelled : ops.cancelUpdateComponent pre.updateComp = .ok ())
      (answered : Handler.cancelUpdateComponent.AnswersCancel ops payload)
      (unread : readings log = [])
      (worked : works log = [.cancelUpdateComponent pre.updateComp (.ok ())]) :
      RequestStep ops payload pre .cancelUpdateComponent (.ok bytes)
        (pre.setFdState .readyXfer) log
  | updateCancelled {bytes : ℕ} {between : FdInternal} {log : List Invocation}
      (effective : FdContext.shouldCancel pre = some true)
      (cancelled : ops.cancelUpdateComponent pre.updateComp = .ok ())
      (answered : Handler.cancelUpdate.AnswersCancel ops payload)
      (touched : Touched log pre between)
      (worked : works log = [.cancelUpdateComponent pre.updateComp (.ok ())]) :
      RequestStep ops payload pre .cancelUpdate (.ok bytes)
        (between.setFdIdle .cancelUpdate) log

/-- A handler leaves the slot and the operation data alone, or starts a download. -/
theorem RequestStep.slot_cases {ops : FdOps} {payload : List UInt8} {pre post : FdInternal}
    {handler : Handler} {outcome : Outcome MsgHandlerError ℕ} {log : List Invocation}
    (step : RequestStep ops payload pre handler outcome post log) :
    post.req = pre.req ∧ post.initiatorModeState = pre.initiatorModeState ∨
      ∃ internal, post = FdContext.enterDownload internal := by
  cases step with
  | quiet touched => exact .inl ⟨touched.req, touched.initiatorModeState⟩
  | sizeRecorded _ touched => exact .inl ⟨touched.req, touched.initiatorModeState⟩
  | updateStarted _ _ _ touched =>
      refine .inl ⟨?_, ?_⟩
      · rw [FdInternal.setFdState_req]
        exact touched.req
      · rw [FdInternal.setFdState_initiatorModeState]
        exact touched.initiatorModeState
  | tableComplete _ touched =>
      refine .inl ⟨?_, ?_⟩
      · rw [FdInternal.setFdState_req, touched.req]
      · rw [FdInternal.setFdState_initiatorModeState, touched.initiatorModeState]
  | componentRecorded _ _ touched => exact .inl ⟨touched.req, touched.initiatorModeState⟩
  | componentAccepted => exact .inr ⟨_, rfl⟩
  | activated =>
      refine .inl ⟨?_, ?_⟩
      · rw [FdContext.enterActivate, FdInternal.setFdIdle_req, FdInternal.setFdState_req]
      · rw [FdContext.enterActivate, FdInternal.setFdIdle_initiatorModeState,
          FdInternal.setFdState_initiatorModeState]
  | cancelRefused _ _ _ touched => exact .inl ⟨touched.req, touched.initiatorModeState⟩
  | cancelLost _ _ _ _ touched => exact .inl ⟨touched.req, touched.initiatorModeState⟩
  | componentCancelled =>
      exact .inl ⟨FdInternal.setFdState_req _ _, FdInternal.setFdState_initiatorModeState _ _⟩
  | updateCancelled _ _ _ touched =>
      refine .inl ⟨?_, ?_⟩
      · rw [FdInternal.setFdIdle_req, touched.req]
      · rw [FdInternal.setFdIdle_initiatorModeState, touched.initiatorModeState]

/-- A device that is in an operation is in none of the other states. -/
theorem not_initiator_of_eq {state other : FirmwareDeviceState}
    (active : state.isInitiator = true) (same : state = other)
    (passive : other.isInitiator = false) : False := by
  rw [same, passive] at active
  cases active

/-- Where an operation is under way after a request, the request changes the time at
most, or has started a download. -/
theorem RequestStep.of_operating {ops : FdOps} {payload : List UInt8} {pre post : FdInternal}
    {handler : Handler} {outcome : Outcome MsgHandlerError ℕ} {log : List Invocation}
    (step : RequestStep ops payload pre handler outcome post log)
    (operates : post.state.isInitiator = true) :
    Touched log pre post ∨
      pre.state = .readyXfer ∧ ∃ internal, post = FdContext.enterDownload internal := by
  cases step with
  | quiet touched => exact .inl touched
  | cancelRefused _ _ _ touched => exact .inl touched
  | cancelLost _ _ _ _ touched => exact .inl touched
  | sizeRecorded state touched =>
      exact (not_initiator_of_eq operates (touched.state.trans state) rfl).elim
  | componentRecorded state _ touched =>
      exact (not_initiator_of_eq operates (touched.state.trans state) rfl).elim
  | componentAccepted state => exact .inr ⟨state, _, rfl⟩
  | updateStarted =>
      exact (not_initiator_of_eq operates (FdInternal.setFdState_state _ _) rfl).elim
  | tableComplete =>
      exact (not_initiator_of_eq operates (FdInternal.setFdState_state _ _) rfl).elim
  | activated =>
      exact (not_initiator_of_eq operates (FdInternal.setFdIdle_state _ _) rfl).elim
  | componentCancelled =>
      exact (not_initiator_of_eq operates (FdInternal.setFdState_state _ _) rfl).elim
  | updateCancelled =>
      exact (not_initiator_of_eq operates (FdInternal.setFdIdle_state _ _) rfl).elim

/-- While the device is at work, a request that does not cancel changes the time at
most. -/
theorem RequestStep.of_active {ops : FdOps} {payload : List UInt8} {handler : Handler}
    {outcome : Outcome MsgHandlerError ℕ} {pre post : FdInternal} {log : List Invocation}
    (step : RequestStep ops payload pre handler outcome post log)
    (active : pre.state.isInitiator = true)
    (spared : ¬ (handler.isCancel = true ∧ FdContext.shouldCancel pre = some true ∧
      ops.cancelUpdateComponent pre.updateComp = .ok () ∧ handler.AnswersCancel ops payload)) :
    Touched log pre post := by
  cases step with
  | quiet touched => exact touched
  | cancelRefused _ _ _ touched => exact touched
  | cancelLost _ _ _ _ touched => exact touched
  | sizeRecorded state => exact (not_initiator_of_eq active state rfl).elim
  | updateStarted state => exact (not_initiator_of_eq active state rfl).elim
  | tableComplete state => exact (not_initiator_of_eq active state rfl).elim
  | componentRecorded state => exact (not_initiator_of_eq active state rfl).elim
  | componentAccepted state => exact (not_initiator_of_eq active state rfl).elim
  | activated state => exact (not_initiator_of_eq active state rfl).elim
  | componentCancelled effective cancelled answered =>
      exact absurd ⟨rfl, effective, cancelled, answered⟩ spared
  | updateCancelled effective cancelled answered =>
      exact absurd ⟨rfl, effective, cancelled, answered⟩ spared

/-! ## Every handler takes one of the steps -/

namespace RequestStep

open FdContext FdCall

variable {ops : FdOps} {payload : List UInt8} {pre : FdInternal}

/-- The postcondition of a handler: what it did is one of the steps. -/
def After (ops : FdOps) (payload : List UInt8) (pre : FdInternal) (handler : Handler)
    (outcome : Outcome MsgHandlerError ℕ) (final : CallState) : Prop :=
  RequestStep ops payload pre handler outcome final.internal final.log

theorem queryDevidRsp :
    (FdContext.queryDevidRsp ops).wp (After ops payload pre .queryDevid) ⟨pre, payload, []⟩ := by
  refine withRequest_rule (fun _ _ _ _ => .quiet (.kept rfl) rfl nofun) fun request _ => ?_
  simp only [Call.wp_bind, wp_invoke]
  refine ofOps_rule (fun answer _ => ?_) fun _ _ => .quiet (.kept rfl) rfl nofun
  obtain ⟨deviceIdentifiers, descriptorCnt⟩ := answer
  simp only [Call.wp_ite, Call.wp_fail]
  split
  · exact .quiet (.kept rfl) rfl nofun
  · split
    · exact .quiet (.kept rfl) rfl nofun
    · exact respond_rule (fun _ _ _ => .quiet (.kept rfl) rfl nofun)
        fun _ _ _ => .quiet (.kept rfl) rfl nofun

theorem getFirmwareParametersRsp :
    (FdContext.getFirmwareParametersRsp ops).wp (After ops payload pre .getFirmwareParameters)
      ⟨pre, payload, []⟩ := by
  refine withRequest_rule (fun _ _ _ _ => .quiet (.kept rfl) rfl nofun) fun request _ => ?_
  simp only [Call.wp_bind, wp_invoke]
  refine ofOps_rule (fun firmwareParams _ => ?_) fun _ _ => .quiet (.kept rfl) rfl nofun
  exact respond_rule (fun _ _ _ => .quiet (.kept rfl) rfl nofun)
    fun _ _ _ => .quiet (.kept rfl) rfl nofun

theorem requestUpdateRsp :
    (FdContext.requestUpdateRsp ops).wp (After ops payload pre .requestUpdate)
      ⟨pre, payload, []⟩ := by
  simp only [FdContext.requestUpdateRsp, Call.wp_bind, wp_internal, Call.wp_ite]
  split
  · exact generateFailureResponse_rule fun _ _ => .quiet (.kept rfl) rfl (by rintro ⟨⟩)
  · next updating =>
      have hidle : pre.state = .idle := by simpa [FdInternal.isUpdateMode] using updating
      simp only [wp_setFdT1Ts]
      refine withRequest_rule (fun _ _ _ _ => .quiet (.refreshed _ rfl) rfl (by rintro ⟨⟩))
        fun request decoded => ?_
      simp only [Call.wp_ite, Call.wp_bind, wp_invoke]
      split
      · exact generateFailureResponse_rule fun _ _ => .quiet (.refreshed _ rfl) rfl (by rintro ⟨⟩)
      · refine ofOps_rule (fun transferSize sized => ?_)
          fun _ _ => .quiet (.refreshed _ rfl) rfl (by rintro ⟨⟩)
        simp only [wp_modify]
        refine respond_rule (fun _ _ _ => ?_) fun _ _ _ => ?_
        · exact .updateStarted hidle decoded sized (.refreshed _ rfl) rfl
        · exact .sizeRecorded hidle (.refreshed _ rfl) rfl

theorem passComponentRsp :
    (FdContext.passComponentRsp ops).wp (After ops payload pre .passComponent)
      ⟨pre, payload, []⟩ := by
  simp only [FdContext.passComponentRsp, Call.wp_bind, wp_internal, Call.wp_ite]
  split
  · exact generateFailureResponse_rule fun _ _ => .quiet (.kept rfl) rfl (by rintro ⟨⟩)
  · next learning =>
      simp only [ne_eq, not_not] at learning
      simp only [wp_setFdT1Ts]
      refine withRequest_rule (fun _ _ _ _ => .quiet (.refreshed _ rfl) rfl (by rintro ⟨⟩))
        fun request _ => ?_
      cases TransferRespFlag.tryFrom request.transferFlag with
      | error error =>
          exact generateFailureResponse_rule fun _ _ => .quiet (.refreshed _ rfl) rfl (by rintro ⟨⟩)
      | ok transferFlag =>
          simp only [Call.wp_bind, wp_invoke]
          refine ofOps_rule (fun firmwareParams _ => ?_)
            fun _ _ => .quiet (.refreshed _ rfl) rfl (by rintro ⟨⟩)
          refine ofOps_rule (fun compRespCode _ => ?_)
            fun _ _ => .quiet (.refreshed _ rfl) rfl (by rintro ⟨⟩)
          refine respond_rule (fun bytes final _ => ?_)
            fun _ _ _ => .quiet (.refreshed _ rfl) rfl (by rintro ⟨⟩)
          simp only [After]
          split
          · exact .tableComplete learning (.refreshed _ rfl) rfl
          · exact .quiet (.refreshed _ rfl) rfl (by rintro ⟨⟩)

theorem updateComponentRsp :
    (FdContext.updateComponentRsp ops).wp (After ops payload pre .updateComponent)
      ⟨pre, payload, []⟩ := by
  simp only [FdContext.updateComponentRsp, Call.wp_bind, wp_internal, Call.wp_ite]
  split
  · exact generateFailureResponse_rule fun _ _ => .quiet (.kept rfl) rfl (by rintro ⟨⟩)
  · next ready =>
      simp only [ne_eq, not_not] at ready
      simp only [wp_setFdT1Ts]
      refine withRequest_rule (fun _ _ _ _ => .quiet (.refreshed _ rfl) rfl (by rintro ⟨⟩))
        fun request decoded => ?_
      simp only [Call.wp_bind, wp_modify, wp_invoke]
      refine ofOps_rule (fun firmwareParams _ => ?_)
        fun _ _ => .componentRecorded ready decoded (.refreshed _ rfl) rfl
      refine ofOps_rule (fun compRespCode _ => ?_)
        fun _ _ => .componentRecorded ready decoded (.refreshed _ rfl) rfl
      simp only [Call.wp_ofOutcome]
      cases ComponentCompatibilityResponseCode.tryFrom compRespCode.toU8 with
      | error error => exact .componentRecorded ready decoded (.refreshed _ rfl) rfl
      | ok compatibilityCode =>
          refine respond_rule (fun bytes final _ => ?_)
            fun _ _ _ => .componentRecorded ready decoded (.refreshed _ rfl) rfl
          simp only [After]
          split
          · exact .componentAccepted ready decoded rfl rfl
          · exact .componentRecorded ready decoded (.refreshed _ rfl) rfl

theorem activateFirmwareRsp :
    (FdContext.activateFirmwareRsp ops).wp (After ops payload pre .activateFirmware)
      ⟨pre, payload, []⟩ := by
  simp only [FdContext.activateFirmwareRsp, Call.wp_bind, wp_internal, Call.wp_ite]
  split
  · exact generateFailureResponse_rule fun _ _ => .quiet (.kept rfl) rfl (by rintro ⟨⟩)
  · next ready =>
      simp only [ne_eq, not_not] at ready
      refine withRequest_rule (fun _ _ _ _ => .quiet (.kept rfl) rfl (by rintro ⟨⟩))
        fun request _ => ?_
      simp only [Call.wp_ite, Call.wp_bind, wp_invoke]
      split
      · exact generateFailureResponse_rule fun _ _ => .quiet (.kept rfl) rfl (by rintro ⟨⟩)
      · refine ofOps_rule (fun answer _ => ?_) fun _ _ => .quiet (.kept rfl) rfl (by rintro ⟨⟩)
        refine respond_rule (fun bytes final _ => ?_)
          fun _ _ _ => .quiet (.kept rfl) rfl (by rintro ⟨⟩)
        simp only [After]
        split
        · exact .activated ready rfl rfl
        · exact .quiet (.kept rfl) rfl (by rintro ⟨⟩)

/-- The commands served while idle leave the device as it was. -/
theorem componentCommandRsp {handler : Handler}
    {decode : List UInt8 → Except PldmCodecError ComponentRequest}
    {handle : ComponentRequest → FirmwareParameters → FdCall ℕ}
    (other : handler.isCancel = false)
    (handled : ∀ request firmwareParams, (handle request firmwareParams).wp
      (After ops payload pre handler)
      ⟨pre, payload, [⟨.getFirmwareParms, ops.now 0⟩]⟩) :
    (FdContext.componentCommandRsp ops decode handle).wp (After ops payload pre handler)
      ⟨pre, payload, []⟩ := by
  have hspared : handler.isCancel = true → shouldCancel pre ≠ some true :=
    fun cancels => by simp [other] at cancels
  simp only [FdContext.componentCommandRsp, Call.wp_bind, wp_internal, Call.wp_ite]
  split
  · exact generateFailureResponse_rule fun _ _ => .quiet (.kept rfl) rfl hspared
  · refine withRequest_rule (fun _ _ _ _ => .quiet (.kept rfl) rfl hspared) fun request _ => ?_
    simp only [Call.wp_ite, Call.wp_bind, wp_invoke]
    split
    · exact generateFailureResponse_rule fun _ _ => .quiet (.kept rfl) rfl hspared
    · exact ofOps_rule (fun firmwareParams _ => handled request firmwareParams)
        fun _ _ => .quiet (.kept rfl) rfl hspared

theorem activatePendingComponentImageRsp :
    (FdContext.activatePendingComponentImageRsp ops).wp
      (After ops payload pre .activatePendingComponentImage) ⟨pre, payload, []⟩ := by
  refine componentCommandRsp rfl fun request firmwareParams => ?_
  simp only [Call.wp_bind, wp_invoke]
  refine ofOps_rule (fun outcome _ => ?_) fun _ _ => .quiet (.kept rfl) rfl (by rintro ⟨⟩)
  exact respond_rule (fun _ _ _ => .quiet (.kept rfl) rfl (by rintro ⟨⟩))
    fun _ _ _ => .quiet (.kept rfl) rfl (by rintro ⟨⟩)

theorem updateSecurityRevisionRsp :
    (FdContext.updateSecurityRevisionRsp ops).wp
      (After ops payload pre .updateSecurityRevision) ⟨pre, payload, []⟩ := by
  refine componentCommandRsp rfl fun request firmwareParams => ?_
  simp only [Call.wp_bind, wp_invoke]
  refine ofOps_rule (fun outcome _ => ?_) fun _ _ => .quiet (.kept rfl) rfl (by rintro ⟨⟩)
  exact respond_rule (fun _ _ _ => .quiet (.kept rfl) rfl (by rintro ⟨⟩))
    fun _ _ _ => .quiet (.kept rfl) rfl (by rintro ⟨⟩)

/-! ### Cancellation -/

/-- There is something to cancel only in update mode. -/
theorem isUpdateMode_of_shouldCancel {cancel : Bool}
    (asked : shouldCancel pre = some cancel) : pre.isUpdateMode = true := by
  unfold shouldCancel at asked
  cases hstate : pre.state <;> rw [hstate] at asked <;>
    simp [FdInternal.isUpdateMode, hstate] at asked ⊢

theorem getD_false_of_spared (spared : shouldCancel pre ≠ some true) :
    (shouldCancel pre).getD false = false := by
  cases asked : shouldCancel pre with
  | none => rfl
  | some cancel =>
      cases cancel with
      | false => rfl
      | true => exact absurd asked spared

theorem cancelComponent_rule {state : CallState}
    {post : Outcome MsgHandlerError PUnit → CallState → Prop}
    (cancelled : ops.cancelUpdateComponent state.internal.updateComp = .ok () →
      post (.ok ⟨⟩) { state with
        log := state.log ++ [⟨.cancelUpdateComponent state.internal.updateComp (.ok ()),
          ops.now state.log.length⟩] })
    (refused : ∀ error, ops.cancelUpdateComponent state.internal.updateComp = .error error →
      post (.err (.fdOps error)) { state with
        log := state.log ++ [⟨.cancelUpdateComponent state.internal.updateComp (.error error),
          ops.now state.log.length⟩] }) :
    (cancelComponent ops).wp post state := by
  simp only [cancelComponent, Call.wp_bind, wp_internal, wp_invoke]
  refine ofOps_rule (fun done ran => ?_) fun error ran => ?_
  · simpa only [Call.wp_pure, ran] using cancelled ran
  · simpa only [ran] using refused error ran

/-- What a cancellation of a component comes to. -/
theorem cancelUpdateComponentRsp_rule {post : Outcome MsgHandlerError ℕ → CallState → Prop}
    (outside : (!pre.isUpdateMode) = true → (generateFailureResponse
      FwUpdateCompletionCode.notInUpdateMode.toU8).wp post ⟨pre, payload, []⟩)
    (undue : ¬ (!pre.isUpdateMode) = true → shouldCancel pre = none → (generateFailureResponse
      FwUpdateCompletionCode.invalidStateForCommand.toU8).wp post ⟨pre, payload, []⟩)
    (spared : shouldCancel pre = some false →
      (answerCancelUpdateComponent false).wp post ⟨pre, payload, []⟩)
    (cancelled : shouldCancel pre = some true → ops.cancelUpdateComponent pre.updateComp = .ok () →
      (answerCancelUpdateComponent true).wp post
        ⟨pre, payload, [⟨.cancelUpdateComponent pre.updateComp (.ok ()), ops.now 0⟩]⟩)
    (refused : shouldCancel pre = some true → ∀ error,
      ops.cancelUpdateComponent pre.updateComp = .error error → post (.err (.fdOps error))
        ⟨pre, payload, [⟨.cancelUpdateComponent pre.updateComp (.error error), ops.now 0⟩]⟩) :
    (FdContext.cancelUpdateComponentRsp ops).wp post ⟨pre, payload, []⟩ := by
  simp only [FdContext.cancelUpdateComponentRsp, Call.wp_bind, wp_internal, Call.wp_ite]
  split
  · next idle => exact outside idle
  · next updating =>
      cases asked : shouldCancel pre with
      | none => exact undue updating asked
      | some cancel =>
          cases cancel with
          | false => exact spared asked
          | true =>
              simp only [↓reduceIte, Call.wp_bind]
              apply cancelComponent_rule
              · exact cancelled asked
              · exact refused asked

/-- What a cancellation of the update comes to. -/
theorem cancelUpdateRsp_rule {post : Outcome MsgHandlerError ℕ → CallState → Prop}
    (outside : (!pre.isUpdateMode) = true → (generateFailureResponse
      FwUpdateCompletionCode.notInUpdateMode.toU8).wp post ⟨pre, payload, []⟩)
    (spared : shouldCancel pre ≠ some true → (answerCancelUpdate ops false).wp post
      ⟨pre.setFdT1UpdateTs (ops.now 0), payload, [⟨.now, ops.now 0⟩]⟩)
    (cancelled : shouldCancel pre = some true → ops.cancelUpdateComponent pre.updateComp = .ok () →
      (answerCancelUpdate ops true).wp post ⟨pre.setFdT1UpdateTs (ops.now 0), payload,
        [⟨.now, ops.now 0⟩, ⟨.cancelUpdateComponent pre.updateComp (.ok ()), ops.now 1⟩]⟩)
    (refused : shouldCancel pre = some true → ∀ error,
      ops.cancelUpdateComponent pre.updateComp = .error error → post (.err (.fdOps error))
        ⟨pre.setFdT1UpdateTs (ops.now 0), payload,
          [⟨.now, ops.now 0⟩, ⟨.cancelUpdateComponent pre.updateComp (.error error), ops.now 1⟩]⟩) :
    (FdContext.cancelUpdateRsp ops).wp post ⟨pre, payload, []⟩ := by
  simp only [FdContext.cancelUpdateRsp, Call.wp_bind, wp_internal, Call.wp_ite]
  split
  · next idle => exact outside idle
  · simp only [wp_setFdT1Ts]
    have hsame (time : PldmFdTime) :
        shouldCancel (pre.setFdT1UpdateTs time) = shouldCancel pre := rfl
    by_cases asked : shouldCancel pre = some true
    · simp only [hsame, asked, Option.getD_some, ↓reduceIte]
      apply cancelComponent_rule
      · exact cancelled asked
      · exact refused asked
    · simp only [hsame, getD_false_of_spared asked, Bool.false_eq_true, ↓reduceIte]
      exact spared asked

theorem cancelUpdateComponentRsp :
    (FdContext.cancelUpdateComponentRsp ops).wp (After ops payload pre .cancelUpdateComponent)
      ⟨pre, payload, []⟩ := by
  apply cancelUpdateComponentRsp_rule
  · intro outside
    refine generateFailureResponse_rule fun _ _ => .quiet (.kept rfl) rfl fun _ asked => ?_
    simp [isUpdateMode_of_shouldCancel asked] at outside
  · intro _ undue
    exact generateFailureResponse_rule fun _ _ =>
      .quiet (.kept rfl) rfl fun _ => by simp [undue]
  · intro spared
    have hspared : Handler.cancelUpdateComponent.isCancel = true →
        shouldCancel pre ≠ some true := fun _ => by simp [spared]
    refine withRequest_rule (fun _ _ _ _ => .quiet (.kept rfl) rfl hspared) fun request _ => ?_
    exact respond_rule (fun _ _ _ => .quiet (.kept rfl) rfl hspared)
      fun _ _ _ => .quiet (.kept rfl) rfl hspared
  · intro effective cancelled
    refine withRequest_rule (fun error short outcome final => ?_) fun request decoded => ?_
    · have hshort := HeaderRequest.length_of_error short
      refine .cancelLost rfl effective cancelled ?_ (.kept rfl) rfl
      simp only [Handler.AnswersCancel, pldmMsgHeaderLen] at hshort ⊢
      omega
    · refine respond_rule (fun bytes final written => ?_) fun unwritten outcome final => ?_
      · have hroom := (writeToPrefix_ok written).1
        rw [CompletionResponse.length_toBytes] at hroom
        exact .componentCancelled effective cancelled hroom rfl rfl
      · refine .cancelLost rfl effective cancelled (fun hroom => ?_) (.kept rfl) rfl
        exact unwritten _ _ (writeToPrefix_of_le hroom)
  · intro effective error refused
    exact .cancelRefused rfl effective refused (.kept rfl) rfl

theorem cancelUpdateRsp :
    (FdContext.cancelUpdateRsp ops).wp (After ops payload pre .cancelUpdate)
      ⟨pre, payload, []⟩ := by
  apply cancelUpdateRsp_rule
  · intro outside
    refine generateFailureResponse_rule fun _ _ => .quiet (.kept rfl) rfl fun _ asked => ?_
    simp [isUpdateMode_of_shouldCancel asked] at outside
  · intro spared
    have hspared : Handler.cancelUpdate.isCancel = true → shouldCancel pre ≠ some true :=
      fun _ => spared
    refine withRequest_rule (fun _ _ _ _ => .quiet (.refreshed _ rfl) rfl hspared)
      fun request _ => ?_
    simp only [Call.wp_bind, wp_invoke]
    refine ofOps_rule (fun info _ => ?_) fun _ _ => .quiet (.refreshed _ rfl) rfl hspared
    exact respond_rule (fun _ _ _ => .quiet (.refreshed _ rfl) rfl hspared)
      fun _ _ _ => .quiet (.refreshed _ rfl) rfl hspared
  · intro effective cancelled
    refine withRequest_rule (fun error short outcome final => ?_) fun request decoded => ?_
    · have hshort := HeaderRequest.length_of_error short
      refine .cancelLost rfl effective cancelled ?_ (.refreshed _ rfl) rfl
      simp only [Handler.AnswersCancel, pldmMsgHeaderLen] at hshort ⊢
      omega
    · simp only [Call.wp_bind, wp_invoke]
      refine ofOps_rule (fun info informed => ?_) fun error uninformed => ?_
      · refine respond_rule (fun bytes final written => ?_) fun unwritten outcome final => ?_
        · have hroom := (writeToPrefix_ok written).1
          rw [CancelUpdateResponse.length_toBytes] at hroom
          exact .updateCancelled effective cancelled ⟨hroom, info, informed⟩ (.refreshed _ rfl) rfl
        · refine .cancelLost rfl effective cancelled (fun answered => ?_) (.refreshed _ rfl) rfl
          refine unwritten _ _ (writeToPrefix_of_le ?_)
          rw [CancelUpdateResponse.length_toBytes]
          exact answered.1
      · refine .cancelLost rfl effective cancelled ?_ (.refreshed _ rfl) rfl
        rintro ⟨_, info, informed⟩
        simp [informed] at uninformed
  · intro effective error refused
    exact .cancelRefused rfl effective refused (.refreshed _ rfl) rfl

theorem getStatusRsp :
    (FdContext.getStatusRsp ops).wp (After ops payload pre .getStatus) ⟨pre, payload, []⟩ := by
  refine withRequest_rule (fun _ _ _ _ => .quiet (.kept rfl) rfl nofun) fun request _ => ?_
  simp only [Call.wp_bind]
  refine statusProgress_rule (fun _ progress => ?_) (fun _ progress _ => ?_) fun _ error _ => ?_
  · simp only [wp_internal]
    exact respond_rule (fun _ _ _ => .quiet (.kept rfl) rfl nofun)
      fun _ _ _ => .quiet (.kept rfl) rfl nofun
  · simp only [wp_internal]
    exact respond_rule (fun _ _ _ => .quiet (.kept rfl) rfl nofun)
      fun _ _ _ => .quiet (.kept rfl) rfl nofun
  · exact .quiet (.kept rfl) rfl nofun

/-- Every request handler takes one of the steps. -/
theorem run (handler : Handler) :
    (handler.run ops).wp (After ops payload pre handler) ⟨pre, payload, []⟩ := by
  cases handler with
  | queryDevid => exact queryDevidRsp
  | getFirmwareParameters => exact getFirmwareParametersRsp
  | requestUpdate => exact requestUpdateRsp
  | passComponent => exact passComponentRsp
  | updateComponent => exact updateComponentRsp
  | activateFirmware => exact activateFirmwareRsp
  | activatePendingComponentImage => exact activatePendingComponentImageRsp
  | updateSecurityRevision => exact updateSecurityRevisionRsp
  | cancelUpdateComponent => exact cancelUpdateComponentRsp
  | cancelUpdate => exact cancelUpdateRsp
  | getStatus => exact getStatusRsp

end RequestStep

end PldmLib.FirmwareDevice
