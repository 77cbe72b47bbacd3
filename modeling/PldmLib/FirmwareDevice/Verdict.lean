/-
# What a handler decides

A handler checks the state, reads its request and asks the platform. What it then does to
the payload is one of four things: it refuses the request with a bare completion code,
gives up with an error, panics on an answer it cannot put into a message, or writes a
response and makes the state change that goes with it. `Decides` lists what each handler
comes to and on which grounds, so that a property of answers is checked against this list
and against the four ways to finish.
-/

import PldmLib.Message.Response
import PldmLib.FirmwareDevice.Step

namespace PldmLib.FirmwareDevice

open PldmLib.Machine PldmLib.Protocol PldmLib.Message

/-! ## Finishing -/

inductive Verdict
  | refusal (code : UInt8)
  | failure (error : MsgHandlerError)
  | crash
  | reply (response : Response) (commit : FdInternal → FdInternal)

def Verdict.finish : Verdict → FdCall ℕ
  | .refusal code => FdCall.generateFailureResponse code
  | .failure error => Call.fail error
  | .crash => Call.ofOutcome .panic
  | .reply response commit => FdCall.respond response.encode commit

/-! ## Grounds -/

/-- The code with which a handler turns a request away in the wrong state. -/
def Handler.gate (pre : FdInternal) : Handler → Option UInt8
  | .requestUpdate =>
      if pre.isUpdateMode then some FwUpdateCompletionCode.alreadyInUpdateMode.toU8 else none
  | .passComponent =>
      if pre.state ≠ .learnComponents then
        some FwUpdateCompletionCode.invalidStateForCommand.toU8 else none
  | .updateComponent | .activateFirmware =>
      if pre.state ≠ .readyXfer then
        some FwUpdateCompletionCode.invalidStateForCommand.toU8 else none
  | .activatePendingComponentImage | .updateSecurityRevision =>
      if pre.state ≠ .idle then
        some FwUpdateCompletionCode.invalidStateForCommand.toU8 else none
  | .cancelUpdateComponent =>
      if !pre.isUpdateMode then some FwUpdateCompletionCode.notInUpdateMode.toU8
      else if FdContext.shouldCancel pre = none then
        some FwUpdateCompletionCode.invalidStateForCommand.toU8 else none
  | .cancelUpdate =>
      if !pre.isUpdateMode then some FwUpdateCompletionCode.notInUpdateMode.toU8 else none
  | _ => none

/-- The error of a decoder. -/
def errorOf {ε α : Type} : Except ε α → Option ε
  | .ok _ => none
  | .error error => some error

/-- The error of the decoder of a handler's request. -/
def Handler.decodeError (payload : List UInt8) : Handler → Option PldmCodecError
  | .requestUpdate => errorOf (RequestUpdateRequest.decode payload)
  | .passComponent => errorOf (PassComponentTableRequest.decode payload)
  | .updateComponent => errorOf (UpdateComponentRequest.decode payload)
  | .activateFirmware => errorOf (ActivateFirmwareRequest.decode payload)
  | .activatePendingComponentImage => errorOf (ComponentRequest.decode payload)
  | .updateSecurityRevision => errorOf (ComponentRequest.decode payload)
  | _ => errorOf (HeaderRequest.decode payload)

/-- The states are the same but for the T1 timestamp. -/
def Retimed (pre post : FdInternal) : Prop := ∃ time, post = pre.setFdT1UpdateTs time

theorem Retimed.refl (internal : FdInternal) : Retimed internal internal :=
  ⟨internal.fdT1UpdateTs, rfl⟩

/-- The state in which `UpdateComponent` asks the platform about a component. -/
def recorded (request : UpdateComponentRequest) (internal : FdInternal) : FdInternal :=
  (internal.setComponent (FdContext.describedComponent request)).setUpdateFlags
    ⟨request.updateOptionFlags⟩

/-- `Decides ops payload pre handler verdict between log`: the handler comes to a
verdict, with the device in the state `between` and after the callbacks in `log`. -/
inductive Decides (ops : FdOps) (payload : List UInt8) (pre : FdInternal) :
    Handler → Verdict → FdInternal → List Callback → Prop
  | misplaced {handler : Handler} {code : UInt8} (gated : handler.gate pre = some code) :
      Decides ops payload pre handler (.refusal code) pre []
  | undecoded {handler : Handler} {error : PldmCodecError} {between : FdInternal}
      {log : List Callback} (failed : handler.decodeError payload = some error)
      (retimed : Retimed pre between) :
      Decides ops payload pre handler (.refusal (FdCall.decodeFailureCode error)) between log
  -- Inventory.
  | identifiersUnknown {error : FdOpsError} (failed : ops.getDeviceIdentifiers = .error error) :
      Decides ops payload pre .queryDevid (.failure (.fdOps error)) pre
        [.getDeviceIdentifiers]
  | identifiersMiscounted {descriptors : List.Vector Descriptor maxDescriptorsCount} {count : ℕ}
      {request : HeaderRequest} (decoded : HeaderRequest.decode payload = .ok request)
      (answered : ops.getDeviceIdentifiers = .ok (descriptors, count))
      (outside : count = 0 ∨ count > maxDescriptorsCount) :
      Decides ops payload pre .queryDevid (.failure (.fdOps .deviceIdentifiersError)) pre
        [.getDeviceIdentifiers]
  | identified {descriptors : List.Vector Descriptor maxDescriptorsCount} {count : ℕ}
      {request : HeaderRequest} {response : QueryDeviceIdentifiersResponse}
      (decoded : HeaderRequest.decode payload = .ok request)
      (answered : ops.getDeviceIdentifiers = .ok (descriptors, count))
      (inside : ¬ (count = 0 ∨ count > maxDescriptorsCount))
      (built : QueryDeviceIdentifiersResponse.new request.hdr.instanceId
        PldmBaseCompletionCode.success.toU8 descriptors.head
        (some ((descriptors.toList.take count).drop 1)) = .ok response) :
      Decides ops payload pre .queryDevid (.reply (.queryDeviceIdentifiers response) id) pre
        [.getDeviceIdentifiers]
  | inventoryUnknown {error : FdOpsError} (failed : ops.getFirmwareParms = .error error) :
      Decides ops payload pre .getFirmwareParameters (.failure (.fdOps error)) pre
        [.getFirmwareParms]
  | inventoried {request : HeaderRequest} {params : FirmwareParameters}
      (decoded : HeaderRequest.decode payload = .ok request)
      (answered : ops.getFirmwareParms = .ok params) :
      Decides ops payload pre .getFirmwareParameters
        (.reply (.getFirmwareParameters (.new request.hdr.instanceId
          PldmBaseCompletionCode.success.toU8 params)) id) pre [.getFirmwareParms]
  -- Entering and filling an update.
  | transferTooSmall {request : RequestUpdateRequest} {between : FdInternal}
      (decoded : RequestUpdateRequest.decode payload = .ok request)
      (small : request.maxTransferSize.toNat < pldmFwupBaselineTransferSize)
      (retimed : Retimed pre between) :
      Decides ops payload pre .requestUpdate
        (.refusal FwUpdateCompletionCode.invalidTransferLength.toU8) between [.now]
  | sizeUnknown {request : RequestUpdateRequest} {error : FdOpsError} {between : FdInternal}
      (decoded : RequestUpdateRequest.decode payload = .ok request)
      (failed : ops.getXferSize request.maxTransferSize.toNat = .error error)
      (retimed : Retimed pre between) :
      Decides ops payload pre .requestUpdate (.failure (.fdOps error)) between
        [.now, .getXferSize request.maxTransferSize.toNat (.error error)]
  | updateGranted {request : RequestUpdateRequest} {size : ℕ} {between : FdInternal}
      {log : List Callback} (idle : pre.state = .idle)
      (decoded : RequestUpdateRequest.decode payload = .ok request)
      (answered : ops.getXferSize request.maxTransferSize.toNat = .ok size)
      (retimed : Retimed pre between) :
      Decides ops payload pre .requestUpdate
        (.reply (.requestUpdate (.new request.hdr.instanceId
          PldmBaseCompletionCode.success.toU8 0 0 none)) (·.setFdState .learnComponents))
        (between.setXferSize size) log
  | flagUnknown {request : PassComponentTableRequest} {error : PldmError} {between : FdInternal}
      {log : List Callback} (decoded : PassComponentTableRequest.decode payload = .ok request)
      (unknown : TransferRespFlag.tryFrom request.transferFlag = .error error)
      (retimed : Retimed pre between) :
      Decides ops payload pre .passComponent
        (.refusal PldmBaseCompletionCode.invalidData.toU8) between log
  | passedUnknown {error : FdOpsError} {between : FdInternal}
      (failed : ops.getFirmwareParms = .error error) (retimed : Retimed pre between) :
      Decides ops payload pre .passComponent (.failure (.fdOps error)) between
        [.now, .getFirmwareParms]
  | passedUnhandled {request : PassComponentTableRequest} {params : FirmwareParameters}
      {error : FdOpsError} {between : FdInternal}
      (failed : ops.handleComponent (FdContext.passedComponent request) params .passComponent =
        .error error) (retimed : Retimed pre between) :
      Decides ops payload pre .passComponent (.failure (.fdOps error)) between
        [.now, .getFirmwareParms, .handleComponent (FdContext.passedComponent request)
          .passComponent (.error error)]
  | passed {request : PassComponentTableRequest} {flag : TransferRespFlag}
      {params : FirmwareParameters} {code : ComponentResponseCode} {between : FdInternal}
      {log : List Callback} (decoded : PassComponentTableRequest.decode payload = .ok request)
      (known : TransferRespFlag.tryFrom request.transferFlag = .ok flag)
      (answered : ops.getFirmwareParms = .ok params)
      (handled : ops.handleComponent (FdContext.passedComponent request) params .passComponent =
        .ok code) (retimed : Retimed pre between) :
      Decides ops payload pre .passComponent
        (.reply (.passComponentTable (.new request.hdr.instanceId
          PldmBaseCompletionCode.success.toU8
          (if code = .compCanBeUpdated then .compCanBeUpdated else .compCannotBeUpdated) code))
          fun internal => if flag = .end ∨ flag = .startAndEnd then internal.setFdState .readyXfer
            else internal) between log
  | describedUnknown {request : UpdateComponentRequest} {error : FdOpsError}
      {between : FdInternal} (ready : pre.state = .readyXfer)
      (decoded : UpdateComponentRequest.decode payload = .ok request)
      (failed : ops.getFirmwareParms = .error error) (retimed : Retimed pre between) :
      Decides ops payload pre .updateComponent (.failure (.fdOps error))
        (recorded request between) [.now, .getFirmwareParms]
  | describedUnhandled {request : UpdateComponentRequest} {params : FirmwareParameters}
      {error : FdOpsError} {between : FdInternal} (ready : pre.state = .readyXfer)
      (decoded : UpdateComponentRequest.decode payload = .ok request)
      (answered : ops.getFirmwareParms = .ok params)
      (failed : ops.handleComponent (FdContext.describedComponent request) params
        .updateComponent = .error error) (retimed : Retimed pre between) :
      Decides ops payload pre .updateComponent (.failure (.fdOps error))
        (recorded request between)
        [.now, .getFirmwareParms, .handleComponent (FdContext.describedComponent request)
          .updateComponent (.error error)]
  | vendorAnswer {request : UpdateComponentRequest} {params : FirmwareParameters}
      {between : FdInternal} {log : List Callback} (ready : pre.state = .readyXfer)
      (decoded : UpdateComponentRequest.decode payload = .ok request)
      (answered : ops.getFirmwareParms = .ok params)
      (handled : ops.handleComponent (FdContext.describedComponent request) params
        .updateComponent = .ok .vendorDefined) :
      Decides ops payload pre .updateComponent .crash between log
  | described {request : UpdateComponentRequest} {params : FirmwareParameters}
      {code : ComponentResponseCode} {compatibility : ComponentCompatibilityResponseCode}
      {between : FdInternal} {log : List Callback} (ready : pre.state = .readyXfer)
      (decoded : UpdateComponentRequest.decode payload = .ok request)
      (answered : ops.getFirmwareParms = .ok params)
      (handled : ops.handleComponent (FdContext.describedComponent request) params
        .updateComponent = .ok code)
      (known : ComponentCompatibilityResponseCode.tryFrom code.toU8 = .ok compatibility)
      (retimed : Retimed pre between) :
      Decides ops payload pre .updateComponent
        (.reply (.updateComponent (.new request.hdr.instanceId
          PldmBaseCompletionCode.success.toU8
          (if code = .compCanBeUpdated then .compCanBeUpdated else .compCannotBeUpdated)
          compatibility ⟨request.updateOptionFlags⟩ 0 none))
          fun internal => if code = .compCanBeUpdated then FdContext.enterDownload internal
            else internal) (recorded request between) log
  -- Activation and the commands served while idle.
  | activationUnclear {request : ActivateFirmwareRequest}
      (decoded : ActivateFirmwareRequest.decode payload = .ok request)
      (unclear : request.selfContainedActivationReq ≠ 0 ∧
        request.selfContainedActivationReq ≠ 1) :
      Decides ops payload pre .activateFirmware
        (.refusal PldmBaseCompletionCode.invalidData.toU8) pre []
  | activationFailed {request : ActivateFirmwareRequest} {error : FdOpsError}
      (decoded : ActivateFirmwareRequest.decode payload = .ok request)
      (failed : ops.activate request.selfContainedActivationReq = .error error) :
      Decides ops payload pre .activateFirmware (.failure (.fdOps error)) pre
        [.activate request.selfContainedActivationReq (.error error)]
  | activationAnswered {request : ActivateFirmwareRequest} {code : UInt8} {time : UInt16}
      {log : List Callback} (ready : pre.state = .readyXfer)
      (decoded : ActivateFirmwareRequest.decode payload = .ok request)
      (clear : ¬ (request.selfContainedActivationReq ≠ 0 ∧
        request.selfContainedActivationReq ≠ 1))
      (answered : ops.activate request.selfContainedActivationReq = .ok (code, time)) :
      Decides ops payload pre .activateFirmware
        (.reply (.activateFirmware (ActivateFirmwareResponse.new request.hdr.instanceId code time))
          fun internal =>
            if code = PldmBaseCompletionCode.success.toU8 ∨
                code = FwUpdateCompletionCode.activationNotRequired.toU8 then
              FdContext.enterActivate internal
            else internal) pre log
  | proxied {handler : Handler} {request : ComponentRequest}
      (serves : handler = .activatePendingComponentImage ∨ handler = .updateSecurityRevision)
      (decoded : ComponentRequest.decode payload = .ok request)
      (downstream : request.compClassification = ComponentClassification.downstreamDevice) :
      Decides ops payload pre handler (.refusal PldmBaseCompletionCode.invalidData.toU8) pre []
  | namedUnknown {handler : Handler} {error : FdOpsError}
      (serves : handler = .activatePendingComponentImage ∨ handler = .updateSecurityRevision)
      (failed : ops.getFirmwareParms = .error error) :
      Decides ops payload pre handler (.failure (.fdOps error)) pre [.getFirmwareParms]
  | pendingFailed {request : ComponentRequest} {params : FirmwareParameters} {error : FdOpsError}
      (decoded : ComponentRequest.decode payload = .ok request)
      (answered : ops.getFirmwareParms = .ok params)
      (failed : ops.handlePendingComponent (FdContext.namedComponent request) params =
        .error error) :
      Decides ops payload pre .activatePendingComponentImage (.failure (.fdOps error)) pre
        [.getFirmwareParms, .handlePendingComponent (FdContext.namedComponent request)
          (.error error)]
  | pendingAnswered {request : ComponentRequest} {params : FirmwareParameters}
      {result : PendingComponentResult} {log : List Callback} (idle : pre.state = .idle)
      (decoded : ComponentRequest.decode payload = .ok request)
      (upstream : request.compClassification ≠ ComponentClassification.downstreamDevice)
      (answered : ops.getFirmwareParms = .ok params)
      (handled : ops.handlePendingComponent (FdContext.namedComponent request) params =
        .ok result) :
      Decides ops payload pre .activatePendingComponentImage
        (.reply (.activatePendingComponentImage (result.intoResponse request.hdr.instanceId)) id)
        pre log
  | revisionFailed {request : ComponentRequest} {params : FirmwareParameters} {error : FdOpsError}
      (decoded : ComponentRequest.decode payload = .ok request)
      (answered : ops.getFirmwareParms = .ok params)
      (failed : ops.updateSecurityRevision (FdContext.namedComponent request) params =
        .error error) :
      Decides ops payload pre .updateSecurityRevision (.failure (.fdOps error)) pre
        [.getFirmwareParms, .updateSecurityRevision (FdContext.namedComponent request)
          (.error error)]
  | revisionAnswered {request : ComponentRequest} {params : FirmwareParameters}
      {result : SecurityRevisionResult} {log : List Callback} (idle : pre.state = .idle)
      (decoded : ComponentRequest.decode payload = .ok request)
      (upstream : request.compClassification ≠ ComponentClassification.downstreamDevice)
      (answered : ops.getFirmwareParms = .ok params)
      (handled : ops.updateSecurityRevision (FdContext.namedComponent request) params =
        .ok result) :
      Decides ops payload pre .updateSecurityRevision
        (.reply (.updateSecurityRevision (UpdateSecurityRevisionResponse.new
          request.hdr.instanceId result.toCompletionCode)) id) pre log
  -- Cancellation.
  | cancelFailed {handler : Handler} {error : FdOpsError} {between : FdInternal}
      {log : List Callback} (cancels : handler.isCancel = true)
      (failed : ops.cancelUpdateComponent pre.updateComp = .error error)
      (ran : .cancelUpdateComponent pre.updateComp (.error error) ∈ log)
      (retimed : Retimed pre between) :
      Decides ops payload pre handler (.failure (.fdOps error)) between log
  | componentCancelled {request : HeaderRequest} {cancel : Bool} {log : List Callback}
      (asked : FdContext.shouldCancel pre = some cancel)
      (decoded : HeaderRequest.decode payload = .ok request) :
      Decides ops payload pre .cancelUpdateComponent
        (.reply (.cancelUpdateComponent (CancelUpdateComponentResponse.new
          request.hdr.instanceId (FdContext.cancelCompletionCode cancel))) fun internal =>
            if cancel then internal.setFdState .readyXfer else internal) pre log
  | functionsUnknown {error : FdOpsError} {between : FdInternal} {log : List Callback}
      (failed : ops.getNonFunctionalComponentInfo = .error error)
      (ran : .getNonFunctionalComponentInfo ∈ log) (retimed : Retimed pre between) :
      Decides ops payload pre .cancelUpdate (.failure (.fdOps error)) between log
  | updateCancelled {request : HeaderRequest} {cancel : Bool}
      {info : NonFunctioningComponentIndication × UInt64} {between : FdInternal}
      {log : List Callback} (asked : (FdContext.shouldCancel pre).getD false = cancel)
      (decoded : HeaderRequest.decode payload = .ok request)
      (answered : ops.getNonFunctionalComponentInfo = .ok info) (retimed : Retimed pre between) :
      Decides ops payload pre .cancelUpdate
        (.reply (.cancelUpdate (.new request.hdr.instanceId
          (FdContext.cancelCompletionCode cancel) info.1 info.2)) fun internal =>
            if cancel then internal.setFdIdle .cancelUpdate else internal) between log
  -- Status.
  | progressUnclear {log : List Callback}
      (unclear : (FdContext.statusProgress ops ⟨pre, payload, []⟩).1 = .panic) :
      Decides ops payload pre .getStatus .crash pre log
  | statusReported {request : HeaderRequest} {progress : ProgressPercent} {log : List Callback}
      (decoded : HeaderRequest.decode payload = .ok request)
      (known : (FdContext.statusProgress ops ⟨pre, payload, []⟩).1 = .ok progress) :
      Decides ops payload pre .getStatus
        (.reply (.getStatus (.new request.hdr.instanceId PldmBaseCompletionCode.success.toU8
          pre.state pre.prevState (FdContext.auxStatus pre.req).1
          (FdContext.auxStatus pre.req).2 progress (pre.reason.getD .initialization)
          (if pre.updateFlags.requestForceUpdate then .forceUpdate else .noForceUpdate))) id)
        pre log

/-! ## Every handler finishes with one of its verdicts -/

namespace Decides

open FdContext FdCall

variable {ops : FdOps} {payload : List UInt8} {pre : FdInternal}

/-- What holds of the finish of every verdict holds of the handler. -/
def Suffices (ops : FdOps) (payload : List UInt8) (pre : FdInternal) (handler : Handler)
    (holds : Outcome MsgHandlerError ℕ → CallState → Prop) : Prop :=
  ∀ verdict between log,
    Decides ops payload pre handler verdict between (log.map Invocation.callback) →
      verdict.finish.wp holds ⟨between, payload, log⟩

variable {holds : Outcome MsgHandlerError ℕ → CallState → Prop}

namespace Suffices

variable {handler : Handler} {between : FdInternal} {log : List Invocation}
  (finishes : Suffices ops payload pre handler holds)
include finishes

theorem refuse {code : UInt8}
    (decides : Decides ops payload pre handler (.refusal code) between
      (log.map Invocation.callback)) :
    (generateFailureResponse code).wp holds ⟨between, payload, log⟩ :=
  finishes _ _ _ decides

theorem fail {error : MsgHandlerError}
    (decides : Decides ops payload pre handler (.failure error) between
      (log.map Invocation.callback)) : holds (.err error) ⟨between, payload, log⟩ :=
  finishes _ _ _ decides

theorem crash (decides : Decides ops payload pre handler .crash between
      (log.map Invocation.callback)) : holds .panic ⟨between, payload, log⟩ :=
  finishes _ _ _ decides

theorem reply (response : Response) {commit : FdInternal → FdInternal}
    (decides : Decides ops payload pre handler (.reply response commit) between
      (log.map Invocation.callback)) :
    (FdCall.respond response.encode commit).wp holds ⟨between, payload, log⟩ :=
  finishes _ _ _ decides

/-- A request that does not decode is refused. -/
theorem withRequest {β : Type} {decode : List UInt8 → Except PldmCodecError β}
    {handle : β → FdCall ℕ} (reads : handler.decodeError payload = errorOf (decode payload))
    (retimed : Retimed pre between)
    (decoded : ∀ request, decode payload = .ok request →
      (handle request).wp holds ⟨between, payload, log⟩) :
    (FdCall.withRequest decode handle).wp holds ⟨between, payload, log⟩ := by
  simp only [FdCall.withRequest, Call.wp_bind, wp_payload]
  cases hdecode : decode payload with
  | error error =>
      apply finishes.refuse
      refine .undecoded ?_ retimed
      rw [reads, hdecode]
      rfl
  | ok request => exact decoded request hdecode

end Suffices

theorem queryDevidRsp (finishes : Suffices ops payload pre .queryDevid holds) :
    (FdContext.queryDevidRsp ops).wp holds ⟨pre, payload, []⟩ := by
  apply finishes.withRequest rfl (.refl pre)
  intro request decoded
  simp only [Call.wp_bind, wp_invoke]
  apply ofOps_rule
  · rintro ⟨descriptors, count⟩ answered
    simp only [Call.wp_ite]
    split
    · next outside => exact finishes.fail (.identifiersMiscounted decoded answered outside)
    · next inside =>
        obtain ⟨response, built, _⟩ := QueryDeviceIdentifiersResponse.new_of_counted
          request.hdr.instanceId PldmBaseCompletionCode.success.toU8 descriptors
          (not_or.mp inside).2
        rw [built]
        exact finishes.reply (.queryDeviceIdentifiers response)
          (.identified decoded answered inside built)
  · exact fun error failed => finishes.fail (.identifiersUnknown failed)

theorem getFirmwareParametersRsp
    (finishes : Suffices ops payload pre .getFirmwareParameters holds) :
    (FdContext.getFirmwareParametersRsp ops).wp holds ⟨pre, payload, []⟩ := by
  apply finishes.withRequest rfl (.refl pre)
  intro request decoded
  simp only [Call.wp_bind, wp_invoke]
  apply ofOps_rule
  · intro params answered
    exact finishes.reply (.getFirmwareParameters _) (.inventoried decoded answered)
  · exact fun error failed => finishes.fail (.inventoryUnknown failed)

theorem requestUpdateRsp (finishes : Suffices ops payload pre .requestUpdate holds) :
    (FdContext.requestUpdateRsp ops).wp holds ⟨pre, payload, []⟩ := by
  simp only [FdContext.requestUpdateRsp, Call.wp_bind, wp_internal, Call.wp_ite]
  split
  · next updating => exact finishes.refuse (.misplaced (if_pos updating))
  · next idle =>
      have hidle : pre.state = .idle := by simpa [FdInternal.isUpdateMode] using idle
      simp only [wp_setFdT1Ts]
      apply finishes.withRequest rfl ⟨_, rfl⟩
      intro request decoded
      simp only [Call.wp_ite, Call.wp_bind, wp_invoke]
      split
      · next small => exact finishes.refuse (.transferTooSmall decoded small ⟨_, rfl⟩)
      · apply ofOps_rule
        · intro size answered
          simp only [wp_modify]
          exact finishes.reply (.requestUpdate _) (.updateGranted hidle decoded answered ⟨_, rfl⟩)
        · intro error failed
          simp only [failed]
          exact finishes.fail (.sizeUnknown decoded failed ⟨_, rfl⟩)

theorem passComponentRsp (finishes : Suffices ops payload pre .passComponent holds) :
    (FdContext.passComponentRsp ops).wp holds ⟨pre, payload, []⟩ := by
  simp only [FdContext.passComponentRsp, Call.wp_bind, wp_internal, Call.wp_ite]
  split
  · next elsewhere => exact finishes.refuse (.misplaced (if_pos elsewhere))
  · simp only [wp_setFdT1Ts]
    apply finishes.withRequest rfl ⟨_, rfl⟩
    intro request decoded
    cases known : TransferRespFlag.tryFrom request.transferFlag with
    | error error => exact finishes.refuse (.flagUnknown decoded known ⟨_, rfl⟩)
    | ok flag =>
        simp only [Call.wp_bind, wp_invoke]
        apply ofOps_rule
        · intro params answered
          apply ofOps_rule
          · intro code handled
            exact finishes.reply (.passComponentTable _)
              (.passed decoded known answered handled ⟨_, rfl⟩)
          · intro error failed
            simp only [failed]
            exact finishes.fail (.passedUnhandled failed ⟨_, rfl⟩)
        · exact fun error failed => finishes.fail (.passedUnknown failed ⟨_, rfl⟩)

theorem updateComponentRsp (finishes : Suffices ops payload pre .updateComponent holds) :
    (FdContext.updateComponentRsp ops).wp holds ⟨pre, payload, []⟩ := by
  simp only [FdContext.updateComponentRsp, Call.wp_bind, wp_internal, Call.wp_ite]
  split
  · next elsewhere => exact finishes.refuse (.misplaced (if_pos elsewhere))
  · next here =>
      have ready : pre.state = .readyXfer := by simpa using here
      simp only [wp_setFdT1Ts]
      apply finishes.withRequest rfl ⟨_, rfl⟩
      intro request decoded
      simp only [Call.wp_bind, wp_modify, wp_invoke]
      apply ofOps_rule
      · intro params answered
        apply ofOps_rule
        · intro code handled
          simp only [Call.wp_ofOutcome]
          by_cases vendor : code = .vendorDefined
          · subst vendor
            exact finishes.crash (.vendorAnswer ready decoded answered handled)
          · have known := ComponentCompatibilityResponseCode.tryFrom_toU8.mpr vendor
            rw [known]
            exact finishes.reply (.updateComponent _)
              (.described ready decoded answered handled known ⟨_, rfl⟩)
        · intro error failed
          simp only [failed]
          exact finishes.fail (.describedUnhandled ready decoded answered failed ⟨_, rfl⟩)
      · exact fun error failed =>
          finishes.fail (.describedUnknown ready decoded failed ⟨_, rfl⟩)

theorem activateFirmwareRsp (finishes : Suffices ops payload pre .activateFirmware holds) :
    (FdContext.activateFirmwareRsp ops).wp holds ⟨pre, payload, []⟩ := by
  simp only [FdContext.activateFirmwareRsp, Call.wp_bind, wp_internal, Call.wp_ite]
  split
  · next elsewhere => exact finishes.refuse (.misplaced (if_pos elsewhere))
  · next here =>
      have ready : pre.state = .readyXfer := by simpa using here
      apply finishes.withRequest rfl (.refl pre)
      intro request decoded
      simp only [Call.wp_ite, Call.wp_bind, wp_invoke]
      split
      · next unclear => exact finishes.refuse (.activationUnclear decoded unclear)
      · next clear =>
          apply ofOps_rule
          · rintro ⟨code, time⟩ answered
            exact finishes.reply (.activateFirmware _)
              (.activationAnswered ready decoded clear answered)
          · intro error failed
            simp only [failed]
            exact finishes.fail (.activationFailed decoded failed)

/-- The checks of the two commands served while idle. -/
theorem componentCommandRsp {handler : Handler}
    {handle : ComponentRequest → FirmwareParameters → FdCall ℕ}
    (finishes : Suffices ops payload pre handler holds)
    (serves : handler = .activatePendingComponentImage ∨ handler = .updateSecurityRevision)
    (handled : ∀ request params, pre.state = .idle → ComponentRequest.decode payload = .ok request →
      request.compClassification ≠ ComponentClassification.downstreamDevice →
      ops.getFirmwareParms = .ok params → (handle request params).wp holds
        ⟨pre, payload, [⟨.getFirmwareParms, ops.now 0⟩]⟩) :
    (FdContext.componentCommandRsp ops ComponentRequest.decode handle).wp holds
      ⟨pre, payload, []⟩ := by
  simp only [FdContext.componentCommandRsp, Call.wp_bind, wp_internal, Call.wp_ite]
  split
  · next elsewhere =>
      apply finishes.refuse
      apply Decides.misplaced
      rcases serves with rfl | rfl
      · exact if_pos elsewhere
      · exact if_pos elsewhere
  · next here =>
      have idle : pre.state = .idle := by simpa using here
      apply finishes.withRequest _ (.refl pre)
      · intro request decoded
        simp only [Call.wp_ite, Call.wp_bind, wp_invoke]
        split
        · next downstream => exact finishes.refuse (.proxied serves decoded downstream)
        · next upstream =>
            apply ofOps_rule
            · exact fun params answered => handled request params idle decoded upstream answered
            · exact fun error failed => finishes.fail (.namedUnknown serves failed)
      · rcases serves with rfl | rfl
        · rfl
        · rfl

theorem activatePendingComponentImageRsp
    (finishes : Suffices ops payload pre .activatePendingComponentImage holds) :
    (FdContext.activatePendingComponentImageRsp ops).wp holds ⟨pre, payload, []⟩ := by
  apply componentCommandRsp finishes (.inl rfl)
  intro request params idle decoded upstream answered
  simp only [Call.wp_bind, wp_invoke]
  apply ofOps_rule
  · intro result handled
    exact finishes.reply (.activatePendingComponentImage _)
      (.pendingAnswered idle decoded upstream answered handled)
  · intro error failed
    simp only [failed]
    exact finishes.fail (.pendingFailed decoded answered failed)

theorem updateSecurityRevisionRsp
    (finishes : Suffices ops payload pre .updateSecurityRevision holds) :
    (FdContext.updateSecurityRevisionRsp ops).wp holds ⟨pre, payload, []⟩ := by
  apply componentCommandRsp finishes (.inr rfl)
  intro request params idle decoded upstream answered
  simp only [Call.wp_bind, wp_invoke]
  apply ofOps_rule
  · intro result handled
    exact finishes.reply (.updateSecurityRevision _)
      (.revisionAnswered idle decoded upstream answered handled)
  · intro error failed
    simp only [failed]
    exact finishes.fail (.revisionFailed decoded answered failed)

theorem cancelUpdateComponentRsp
    (finishes : Suffices ops payload pre .cancelUpdateComponent holds) :
    (FdContext.cancelUpdateComponentRsp ops).wp holds ⟨pre, payload, []⟩ := by
  have hanswer (cancel : Bool) (log : List Invocation) (asked : shouldCancel pre = some cancel) :
      (answerCancelUpdateComponent cancel).wp holds ⟨pre, payload, log⟩ := by
    apply finishes.withRequest rfl (.refl pre)
    intro request decoded
    exact finishes.reply (.cancelUpdateComponent _) (.componentCancelled asked decoded)
  apply RequestStep.cancelUpdateComponentRsp_rule
  · exact fun outside => finishes.refuse (.misplaced (if_pos outside))
  · intro updating undue
    exact finishes.refuse (.misplaced ((if_neg updating).trans (if_pos undue)))
  · exact fun asked => hanswer false _ asked
  · exact fun asked _ => hanswer true _ asked
  · intro _ error failed
    exact finishes.fail (.cancelFailed rfl failed (by simp) (.refl pre))

theorem cancelUpdateRsp (finishes : Suffices ops payload pre .cancelUpdate holds) :
    (FdContext.cancelUpdateRsp ops).wp holds ⟨pre, payload, []⟩ := by
  have hanswer (cancel : Bool) (log : List Invocation)
      (asked : (shouldCancel pre).getD false = cancel) : (answerCancelUpdate ops cancel).wp holds
        ⟨pre.setFdT1UpdateTs (ops.now 0), payload, log⟩ := by
    apply finishes.withRequest rfl ⟨_, rfl⟩
    intro request decoded
    simp only [Call.wp_bind, wp_invoke]
    apply ofOps_rule
    · intro info answered
      exact finishes.reply (.cancelUpdate _) (.updateCancelled asked decoded answered ⟨_, rfl⟩)
    · intro error failed
      exact finishes.fail (.functionsUnknown failed (by simp) ⟨_, rfl⟩)
  apply RequestStep.cancelUpdateRsp_rule
  · exact fun outside => finishes.refuse (.misplaced (if_pos outside))
  · exact fun spared => hanswer false _ (RequestStep.getD_false_of_spared spared)
  · intro asked _
    exact hanswer true _ (by rw [asked]; rfl)
  · intro _ error failed
    exact finishes.fail (.cancelFailed rfl failed (by simp) ⟨_, rfl⟩)

theorem getStatusRsp (finishes : Suffices ops payload pre .getStatus holds) :
    (FdContext.getStatusRsp ops).wp holds ⟨pre, payload, []⟩ := by
  apply finishes.withRequest rfl (.refl pre)
  intro request decoded
  have hends := @statusProgress_reports ops pre payload []
    (fun outcome final => outcome = .panic ∧ final = ⟨pre, payload, []⟩ ∨
      ∃ progress log, outcome = .ok progress ∧ final = ⟨pre, payload, log⟩)
    (fun _ progress log => .inr ⟨progress, log, rfl, rfl⟩) fun _ _ => .inl ⟨rfl, rfl⟩
  rw [Call.wp_iff] at hends
  rw [Call.wp_bind, Call.wp_iff]
  rcases hends with ⟨unclear, same⟩ | ⟨progress, log, known, same⟩
  · rw [unclear, same]
    exact finishes.crash (.progressUnclear unclear)
  · rw [same]
    simp only [known, Call.wp_bind, wp_internal]
    exact finishes.reply (.getStatus _) (.statusReported decoded known)

/-- What holds of the finish of every verdict that a handler can come to holds of the
handler. -/
theorem run {handler : Handler} (finishes : Suffices ops payload pre handler holds) :
    (handler.run ops).wp holds ⟨pre, payload, []⟩ := by
  cases handler with
  | queryDevid => exact queryDevidRsp finishes
  | getFirmwareParameters => exact getFirmwareParametersRsp finishes
  | requestUpdate => exact requestUpdateRsp finishes
  | passComponent => exact passComponentRsp finishes
  | updateComponent => exact updateComponentRsp finishes
  | activateFirmware => exact activateFirmwareRsp finishes
  | activatePendingComponentImage => exact activatePendingComponentImageRsp finishes
  | updateSecurityRevision => exact updateSecurityRevisionRsp finishes
  | cancelUpdateComponent => exact cancelUpdateComponentRsp finishes
  | cancelUpdate => exact cancelUpdateRsp finishes
  | getStatus => exact getStatusRsp finishes

theorem sound {handler : Handler} {response : Response} {commit : FdInternal → FdInternal}
    {between : FdInternal} {log : List Callback}
    (decides : Decides ops payload pre handler (.reply response commit) between log) :
    response.Sound := by
  cases decides with
  | updateGranted => rfl
  | _ => trivial

/-- A handler builds one response. -/
theorem reply_unique {handler : Handler} {response response' : Response}
    {commit commit' : FdInternal → FdInternal} {between between' : FdInternal}
    {log log' : List Callback}
    (decides : Decides ops payload pre handler (.reply response commit) between log)
    (decides' : Decides ops payload pre handler (.reply response' commit') between' log') :
    response = response' := by
  cases decides with
  | identified decoded answered _ built =>
      cases decides' with
      | identified decoded' answered' _ built' =>
          obtain rfl := Except.ok.inj (decoded.symm.trans decoded')
          obtain ⟨rfl, rfl⟩ := Prod.mk.inj (Except.ok.inj (answered.symm.trans answered'))
          rw [Except.ok.inj (built.symm.trans built')]
  | inventoried decoded answered =>
      cases decides' with
      | inventoried decoded' answered' =>
          obtain rfl := Except.ok.inj (decoded.symm.trans decoded')
          rw [Except.ok.inj (answered.symm.trans answered')]
  | updateGranted _ decoded =>
      cases decides' with
      | updateGranted _ decoded' => rw [Except.ok.inj (decoded.symm.trans decoded')]
  | passed decoded _ answered handled =>
      cases decides' with
      | passed decoded' _ answered' handled' =>
          obtain rfl := Except.ok.inj (decoded.symm.trans decoded')
          obtain rfl := Except.ok.inj (answered.symm.trans answered')
          rw [Except.ok.inj (handled.symm.trans handled')]
  | described _ decoded answered handled known =>
      cases decides' with
      | described _ decoded' answered' handled' known' =>
          obtain rfl := Except.ok.inj (decoded.symm.trans decoded')
          obtain rfl := Except.ok.inj (answered.symm.trans answered')
          obtain rfl := Except.ok.inj (handled.symm.trans handled')
          rw [Except.ok.inj (known.symm.trans known')]
  | activationAnswered _ decoded _ answered =>
      cases decides' with
      | activationAnswered _ decoded' _ answered' =>
          obtain rfl := Except.ok.inj (decoded.symm.trans decoded')
          obtain ⟨rfl, rfl⟩ := Prod.mk.inj (Except.ok.inj (answered.symm.trans answered'))
          rfl
  | pendingAnswered _ decoded _ answered handled =>
      cases decides' with
      | pendingAnswered _ decoded' _ answered' handled' =>
          obtain rfl := Except.ok.inj (decoded.symm.trans decoded')
          obtain rfl := Except.ok.inj (answered.symm.trans answered')
          rw [Except.ok.inj (handled.symm.trans handled')]
  | revisionAnswered _ decoded _ answered handled =>
      cases decides' with
      | revisionAnswered _ decoded' _ answered' handled' =>
          obtain rfl := Except.ok.inj (decoded.symm.trans decoded')
          obtain rfl := Except.ok.inj (answered.symm.trans answered')
          rw [Except.ok.inj (handled.symm.trans handled')]
  | componentCancelled asked decoded =>
      cases decides' with
      | componentCancelled asked' decoded' =>
          obtain rfl := Except.ok.inj (decoded.symm.trans decoded')
          rw [Option.some.inj (asked.symm.trans asked')]
  | updateCancelled asked decoded answered =>
      cases decides' with
      | updateCancelled asked' decoded' answered' =>
          obtain rfl := Except.ok.inj (decoded.symm.trans decoded')
          obtain rfl := Except.ok.inj (answered.symm.trans answered')
          rw [asked.symm.trans asked']
  | statusReported decoded known =>
      cases decides' with
      | statusReported decoded' known' =>
          obtain rfl := Except.ok.inj (decoded.symm.trans decoded')
          injection known.symm.trans known' with same
          rw [same]

end Decides

/-! ## How a call ends -/

/-- `Finished payload between verdict outcome post final`: with this verdict, in the state
`between` and over the payload, the call ends with an outcome, in the state `post` and
leaves the payload `final`. -/
inductive Finished (payload : List UInt8) (between : FdInternal) :
    Verdict → Outcome MsgHandlerError ℕ → FdInternal → List UInt8 → Prop
  | refused {code : UInt8} {header : PldmMsgHeader} {final : List UInt8}
      (addressed : PldmMsgHeader.decode payload = .ok header)
      (room : pldmFailureRespLen ≤ payload.length)
      (written : final.take pldmFailureRespLen = header.intoResponse.toBytes ++ [code])
      (length : final.length = payload.length) :
      Finished payload between (.refusal code) (.ok pldmFailureRespLen) between final
  | unrefused {code : UInt8} (short : payload.length < pldmFailureRespLen) :
      Finished payload between (.refusal code) (.err (.codec .bufferTooShort)) between payload
  | failed {error : MsgHandlerError} :
      Finished payload between (.failure error) (.err error) between payload
  | crashed : Finished payload between .crash .panic between payload
  | answered {response : Response} {commit : FdInternal → FdInternal} {final : List UInt8}
      (fits : response.Fits) (room : response.toBytes.length ≤ payload.length)
      (written : final.take response.toBytes.length = response.toBytes)
      (length : final.length = payload.length) :
      Finished payload between (.reply response commit) (.ok response.toBytes.length)
        (commit between) final
  /-- A response that does not fit is replaced by a refusal. -/
  | replaced {response : Response} {commit : FdInternal → FdInternal}
      {outcome : Outcome MsgHandlerError ℕ} {post : FdInternal} {final : List UInt8}
      (short : response.Fits → payload.length < response.toBytes.length)
      (finished : Finished payload between
        (.refusal PldmBaseCompletionCode.invalidLength.toU8) outcome post final) :
      Finished payload between (.reply response commit) outcome post final
  | overrun {response : Response} {commit : FdInternal → FdInternal} {final : List UInt8}
      (overlong : ¬ response.Fits) :
      Finished payload between (.reply response commit) .panic between final

section Finish

variable {payload : List UInt8} {between : FdInternal} {log : List Invocation}

/-- The postcondition of the finish of a verdict. -/
def Ends (payload : List UInt8) (between : FdInternal) (log : List Invocation) (verdict : Verdict)
    (outcome : Outcome MsgHandlerError ℕ) (final : CallState) : Prop :=
  Finished payload between verdict outcome final.internal final.payload ∧ final.log = log

theorem generateFailureResponse_ends (code : UInt8) :
    (FdCall.generateFailureResponse code).wp (Ends payload between log (.refusal code))
      ⟨between, payload, log⟩ := by
  simp only [FdCall.generateFailureResponse, Call.wp_bind, FdCall.wp_payload]
  cases hdecode : PldmMsgHeader.decode payload with
  | error error =>
      have hshort : payload.length < pldmFailureRespLen := by
        rw [PldmMsgHeader.decode_eq] at hdecode
        split at hdecode
        · cases hdecode
        · next short =>
            rcases payload with _ | ⟨_, _ | ⟨_, _ | ⟨_, _⟩⟩⟩
            · exact Nat.succ_pos 3
            · exact Nat.succ_lt_succ (Nat.succ_pos 2)
            · exact Nat.succ_lt_succ (Nat.succ_lt_succ (Nat.succ_pos 1))
            · exact absurd rfl (short _ _ _ _)
      have herror : error = .bufferTooShort := by
        rw [PldmMsgHeader.decode_eq] at hdecode
        split at hdecode
        · cases hdecode
        · exact (Except.error.inj hdecode).symm
      subst herror
      exact ⟨.unrefused hshort, rfl⟩
  | ok header =>
      apply FdCall.encode_rule
      · intro bytes final written
        obtain ⟨room, rfl, htake⟩ := writeToPrefix_ok written
        exact ⟨.refused hdecode room htake (length_of_written written), rfl⟩
      · intro error final failed
        obtain ⟨rfl, short, rfl⟩ := writeToPrefix_err failed
        exact ⟨.unrefused short, rfl⟩
      · intro final panicked
        exact absurd panicked (writeToPrefix_ne_panic _ _ _)

theorem respond_ends {response : Response} (sound : response.Sound)
    (commit : FdInternal → FdInternal) :
    (FdCall.respond response.encode commit).wp
      (Ends payload between log (.reply response commit)) ⟨between, payload, log⟩ := by
  have hreplaced (short : response.Fits → payload.length < response.toBytes.length) :
      (FdCall.generateFailureResponse PldmBaseCompletionCode.invalidLength.toU8).wp
        (Ends payload between log (.reply response commit)) ⟨between, payload, log⟩ :=
    Call.wp_mono (generateFailureResponse_ends _) fun _ _ ended =>
      ⟨.replaced short ended.1, ended.2⟩
  rw [FdCall.respond, Call.wp_bind]
  rcases Response.encode_ends sound with fits | ⟨overlong, size, overruns⟩
  · rw [Response.encode_eq fits]
    apply FdCall.tryEncode_rule
    · intro bytes final written
      obtain ⟨room, rfl, htake⟩ := writeToPrefix_ok written
      exact ⟨.answered fits room htake (length_of_written written), rfl⟩
    · intro error final failed
      obtain ⟨_, short, rfl⟩ := writeToPrefix_err failed
      exact hreplaced fun _ => short
    · intro final panicked
      exact absurd panicked (writeToPrefix_ne_panic _ _ _)
  · obtain ⟨hshort, hroom⟩ := overruns payload
    by_cases room : size ≤ payload.length
    · obtain ⟨left, hpanic⟩ := hroom room
      apply FdCall.tryEncode_rule
      · intro bytes final written
        rw [hpanic] at written
        cases written
      · intro error final failed
        rw [hpanic] at failed
        cases failed
      · exact fun final _ => ⟨.overrun overlong, rfl⟩
    · have hfails := hshort (not_le.mp room)
      apply FdCall.tryEncode_rule
      · intro bytes final written
        rw [hfails] at written
        cases written
      · intro error final failed
        rw [hfails] at failed
        obtain ⟨_, rfl⟩ := Prod.mk.inj failed
        exact hreplaced fun fits => absurd fits overlong
      · intro final panicked
        rw [hfails] at panicked
        cases panicked

/-- Every call of a handler decides on something and ends accordingly. -/
theorem handler_ends (profile : Profile) (pre : FdInternal) (handler : Handler)
    (payload : List UInt8) (ops : FdOps) :
    ∃ verdict between outcome, Decides ops payload pre handler verdict between
        (fdEvent profile pre ⟨.request handler payload, ops⟩).callbacks ∧
      Finished payload between verdict outcome
        (fdEvent profile pre ⟨.request handler payload, ops⟩).after
        (fdEvent profile pre ⟨.request handler payload, ops⟩).output.payload ∧
      (fdEvent profile pre ⟨.request handler payload, ops⟩).output.outcome =
        outcome.map .length := by
  have hrule : (handler.run ops).wp (fun outcome final => ∃ verdict between,
      Decides ops payload pre handler verdict between (final.log.map Invocation.callback) ∧
        Finished payload between verdict outcome final.internal final.payload)
      ⟨pre, payload, []⟩ := by
    apply Decides.run
    intro verdict between log decides
    have hends : verdict.finish.wp (Ends payload between log verdict)
        ⟨between, payload, log⟩ := by
      cases verdict with
      | refusal code => exact generateFailureResponse_ends code
      | failure error => exact ⟨.failed, rfl⟩
      | crash => exact ⟨.crashed, rfl⟩
      | reply response commit => exact respond_ends decides.sound commit
    refine Call.wp_mono hends ?_
    rintro outcome final ⟨finished, rfl⟩
    exact ⟨verdict, between, decides, finished⟩
  obtain ⟨outcome, final, ⟨verdict, between, decides, finished⟩, houtcome, hafter, hpayload,
    hcallbacks⟩ := @request_rule profile pre handler payload ops _ hrule
  refine ⟨verdict, between, outcome, ?_, ?_, houtcome⟩
  · rwa [hcallbacks]
  · rwa [hafter, hpayload]

end Finish

/-! ## The completion code of an answer -/

/-- The completion code of the response that a call has written. -/
def FdEvent.completionCode (event : FdEvent) : Option UInt8 :=
  match event.output.outcome with
  | .ok (.length count) => (event.output.payload.take count)[pldmMsgHeaderLen]?
  | _ => none

section Codes

variable {payload final : List UInt8} {between post : FdInternal} {event : FdEvent}

/-- The codes of a refusal. -/
def refusalCodes : List UInt8 :=
  [PldmBaseCompletionCode.invalidData.toU8, PldmBaseCompletionCode.invalidLength.toU8,
    FwUpdateCompletionCode.notInUpdateMode.toU8, FwUpdateCompletionCode.alreadyInUpdateMode.toU8,
    FwUpdateCompletionCode.invalidTransferLength.toU8,
    FwUpdateCompletionCode.invalidStateForCommand.toU8]

theorem Handler.gate_mem {pre : FdInternal} {handler : Handler} {code : UInt8}
    (gated : handler.gate pre = some code) : code ∈ refusalCodes := by
  have hchecked {wrong : Prop} [Decidable wrong] {found : UInt8}
      (member : found ∈ refusalCodes) (taken : (if wrong then some found else none) = some code) :
      code ∈ refusalCodes := by
    split at taken
    · exact Option.some.inj taken ▸ member
    · cases taken
  cases handler with
  | requestUpdate => exact hchecked (by decide) gated
  | passComponent => exact hchecked (by decide) gated
  | updateComponent => exact hchecked (by decide) gated
  | activateFirmware => exact hchecked (by decide) gated
  | activatePendingComponentImage => exact hchecked (by decide) gated
  | updateSecurityRevision => exact hchecked (by decide) gated
  | cancelUpdateComponent =>
      simp only [gate] at gated
      split at gated
      · obtain rfl := Option.some.inj gated
        decide
      · exact hchecked (by decide) gated
  | cancelUpdate => exact hchecked (by decide) gated
  | _ => cases gated

theorem decodeFailureCode_mem (error : PldmCodecError) :
    FdCall.decodeFailureCode error ∈ refusalCodes := by
  cases error <;> decide

theorem Decides.refusal_mem {ops : FdOps} {pre : FdInternal} {handler : Handler} {code : UInt8}
    {log : List Callback}
    (decides : Decides ops payload pre handler (.refusal code) between log) :
    code ∈ refusalCodes := by
  cases decides with
  | misplaced gated => exact Handler.gate_mem gated
  | undecoded => exact decodeFailureCode_mem _
  | _ => decide

/-- The response that is left behind has the completion code of the reply. -/
theorem FdEvent.completionCode_of_answer {response : Response}
    (outcome : event.output.outcome = .ok (.length response.toBytes.length))
    (written : event.output.payload.take response.toBytes.length = response.toBytes) :
    event.completionCode = some response.completionCode := by
  obtain ⟨header, body, hbytes⟩ := response.toBytes_eq
  simp only [completionCode, outcome, written]
  rw [hbytes, List.getElem?_append_right (by rw [PldmMsgHeader.length_toBytes]; rfl)]
  rfl

theorem Finished.post_of_refusal {code : UInt8} {outcome : Outcome MsgHandlerError ℕ}
    (finished : Finished payload between (.refusal code) outcome post final) :
    post = between := by
  cases finished <;> rfl

/-- A refusal leaves its code behind, if there is room for it. -/
theorem Finished.completionCode_of_refusal {code : UInt8} {outcome : Outcome MsgHandlerError ℕ}
    (finished : Finished payload between (.refusal code) outcome post event.output.payload)
    (ended : event.output.outcome = outcome.map .length) :
    event.completionCode = if pldmFailureRespLen ≤ payload.length then some code else none := by
  generalize hfinal : event.output.payload = final at finished
  cases finished with
  | refused addressed room written =>
      rw [if_pos room]
      simp only [FdEvent.completionCode, ended, Outcome.map, hfinal, written]
      rfl
  | unrefused short =>
      rw [if_neg (not_le.mpr short)]
      simp only [FdEvent.completionCode, ended, Outcome.map]

/-- A response that fits is what the call returns. -/
theorem Finished.of_reply {response : Response} {commit : FdInternal → FdInternal}
    {outcome : Outcome MsgHandlerError ℕ}
    (finished : Finished payload between (.reply response commit) outcome post
      event.output.payload) (ended : event.output.outcome = outcome.map .length)
    (fits : response.Fits) (room : response.toBytes.length ≤ payload.length) :
    event.completionCode = some response.completionCode ∧ post = commit between ∧
      event.output.outcome = .ok (.length response.toBytes.length) ∧
      event.output.payload.take response.toBytes.length = response.toBytes := by
  generalize hfinal : event.output.payload = final at finished
  cases finished with
  | answered _ _ written =>
      subst hfinal
      exact ⟨FdEvent.completionCode_of_answer ended written, rfl, ended, written⟩
  | replaced short => exact absurd (short fits) (not_lt.mpr room)
  | overrun overlong => exact absurd fits overlong

/-- An answer is a refusal, or the response of the handler as a whole. -/
theorem Finished.answer_cases {ops : FdOps} {pre : FdInternal} {handler : Handler}
    {verdict : Verdict} {outcome : Outcome MsgHandlerError ℕ} {log : List Callback}
    (decides : Decides ops payload pre handler verdict between log)
    (finished : Finished payload between verdict outcome post event.output.payload)
    (ended : event.output.outcome = outcome.map .length) {code : UInt8}
    (coded : event.completionCode = some code) :
    code ∈ refusalCodes ∨ ∃ response commit, verdict = .reply response commit ∧
      response.Fits ∧ response.toBytes.length ≤ payload.length ∧
      code = response.completionCode ∧
      event.output.outcome = .ok (.length response.toBytes.length) ∧
      event.output.payload.take response.toBytes.length = response.toBytes := by
  have hrefusal {refused : UInt8} (member : refused ∈ refusalCodes)
      (finished : Finished payload between (.refusal refused) outcome post
        event.output.payload) : code ∈ refusalCodes := by
    rw [finished.completionCode_of_refusal ended] at coded
    split at coded
    · rwa [← Option.some.inj coded]
    · cases coded
  cases verdict with
  | refusal refused => exact .inl (hrefusal decides.refusal_mem finished)
  | failure error =>
      generalize event.output.payload = final at finished
      cases finished
      simp [FdEvent.completionCode, ended, Outcome.map] at coded
  | crash =>
      generalize event.output.payload = final at finished
      cases finished
      simp [FdEvent.completionCode, ended, Outcome.map] at coded
  | reply response commit =>
      generalize hfinal : event.output.payload = final at finished
      cases finished with
      | answered fits room written =>
          subst hfinal
          refine .inr ⟨response, commit, rfl, fits, room, ?_, ended, written⟩
          rw [FdEvent.completionCode_of_answer ended written] at coded
          exact (Option.some.inj coded).symm
      | replaced _ finished => exact .inl (hrefusal (by decide) (hfinal ▸ finished))
      | overrun => simp [FdEvent.completionCode, ended, Outcome.map] at coded

end Codes

end PldmLib.FirmwareDevice
