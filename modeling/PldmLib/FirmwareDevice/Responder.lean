/-
# Requests of the update agent

The handlers of the context for the requests that arrive from the update agent.
Each one checks the state, decodes the request from the payload, invokes the
platform and writes its response over the request. The order of these steps is
that of the source: where a callback runs before the request is decoded, a
request that does not decode still has the effect of the callback.
-/

import PldmLib.FirmwareDevice.Context

namespace PldmLib.FirmwareDevice

open PldmLib.Machine PldmLib.Protocol PldmLib.Message

namespace FdContext

open FdCall

def isUpdateMode : FdCall Bool := do pure (← internal).isUpdateMode

/-! ## Inventory -/

def queryDevidRsp (ops : FdOps) : FdCall ℕ :=
  withRequest QueryDeviceIdentifiersRequest.decode fun request => do
    invoke ops .getDeviceIdentifiers
    let (deviceIdentifiers, descriptorCnt) ← ofOps ops.getDeviceIdentifiers
    if descriptorCnt = 0 ∨ descriptorCnt > maxDescriptorsCount then
      Call.fail (.fdOps .deviceIdentifiersError)
    else
      match QueryDeviceIdentifiersResponse.new request.hdr.instanceId
          PldmBaseCompletionCode.success.toU8 deviceIdentifiers.head
          (some ((deviceIdentifiers.toList.take descriptorCnt).drop 1)) with
      | .error error => Call.fail (.pldmCommon error)
      | .ok response => respond response.encode id

def getFirmwareParametersRsp (ops : FdOps) : FdCall ℕ :=
  withRequest GetFirmwareParametersRequest.decode fun request => do
    invoke ops .getFirmwareParms
    let firmwareParams ← ofOps ops.getFirmwareParms
    let response := GetFirmwareParametersResponse.new request.hdr.instanceId
      PldmBaseCompletionCode.success.toU8 firmwareParams
    respond response.encode id

/-! ## Entering and filling an update -/

def requestUpdateRsp (ops : FdOps) : FdCall ℕ := do
  if (← internal).isUpdateMode then
    generateFailureResponse FwUpdateCompletionCode.alreadyInUpdateMode.toU8
  else do
    setFdT1Ts ops
    withRequest RequestUpdateRequest.decode fun request => do
      let uaTransferSize := request.maxTransferSize.toNat
      if uaTransferSize < pldmFwupBaselineTransferSize then
        generateFailureResponse FwUpdateCompletionCode.invalidTransferLength.toU8
      else do
        let result := ops.getXferSize uaTransferSize
        invoke ops (.getXferSize uaTransferSize result)
        let fdTransferSize ← ofOps result
        modify (·.setXferSize fdTransferSize)
        let response := RequestUpdateResponse.new request.hdr.instanceId
          PldmBaseCompletionCode.success.toU8 0 0 none
        respond response.encode (·.setFdState .learnComponents)

/-- The component of a `PassComponentTable` request. -/
def passedComponent (request : PassComponentTableRequest) : FirmwareComponent where
  compClassification := request.compClassification
  compIdentifier := request.compIdentifier
  compClassificationIndex := request.compClassificationIndex
  compComparisonStamp := request.compComparisonStamp
  compVersion := ⟨request.compVerStrType, request.compVerStrLen, request.compVerStr⟩
  compImageSize := none
  updateOptionFlags := none

def passComponentRsp (ops : FdOps) : FdCall ℕ := do
  if (← internal).state ≠ .learnComponents then
    generateFailureResponse FwUpdateCompletionCode.invalidStateForCommand.toU8
  else do
    setFdT1Ts ops
    withRequest PassComponentTableRequest.decode fun request => do
      match TransferRespFlag.tryFrom request.transferFlag with
      | .error _ => generateFailureResponse PldmBaseCompletionCode.invalidData.toU8
      | .ok transferFlag => do
          let passComp := passedComponent request
          invoke ops .getFirmwareParms
          let firmwareParams ← ofOps ops.getFirmwareParms
          let result := ops.handleComponent passComp firmwareParams .passComponent
          invoke ops (.handleComponent passComp .passComponent result)
          let compRespCode ← ofOps result
          let response := PassComponentTableResponse.new request.hdr.instanceId
            PldmBaseCompletionCode.success.toU8
            (if compRespCode = .compCanBeUpdated then .compCanBeUpdated
              else .compCannotBeUpdated)
            compRespCode
          respond response.encode fun internal =>
            if transferFlag = .end ∨ transferFlag = .startAndEnd then
              internal.setFdState .readyXfer
            else internal

/-- The component of an `UpdateComponent` request. -/
def describedComponent (request : UpdateComponentRequest) : FirmwareComponent where
  compClassification := request.compClassification
  compIdentifier := request.compIdentifier
  compClassificationIndex := request.compClassificationIndex
  compComparisonStamp := request.compComparisonStamp
  compVersion := ⟨request.compVerStrType, request.compVerStrLen, request.compVerStr⟩
  compImageSize := some request.compImageSize
  updateOptionFlags := some ⟨request.updateOptionFlags⟩

/-- The device starts a download: fresh offsets, a slot ready to send. -/
def enterDownload (internal : FdInternal) : FdInternal :=
  ((internal.setInitiatorMode (.download 0 0)).setFdReq .ready false none none none none).setFdState
    .download

@[simp] theorem enterDownload_state (internal : FdInternal) :
    (enterDownload internal).state = .download :=
  FdInternal.setFdState_state _ _

@[simp] theorem enterDownload_req (internal : FdInternal) :
    (enterDownload internal).req = ⟨.ready, false, none, none, none, none⟩ :=
  FdInternal.setFdState_req _ _

@[simp] theorem enterDownload_initiatorModeState (internal : FdInternal) :
    (enterDownload internal).initiatorModeState = .download 0 0 :=
  FdInternal.setFdState_initiatorModeState _ _

@[simp] theorem enterDownload_updateComp (internal : FdInternal) :
    (enterDownload internal).updateComp = internal.updateComp := by
  simp [enterDownload, FdInternal.setInitiatorMode]

def updateComponentRsp (ops : FdOps) : FdCall ℕ := do
  if (← internal).state ≠ .readyXfer then
    generateFailureResponse FwUpdateCompletionCode.invalidStateForCommand.toU8
  else do
    setFdT1Ts ops
    withRequest UpdateComponentRequest.decode fun request => do
      let updateComp := describedComponent request
      -- Recorded before the platform is asked, and kept when it refuses.
      modify (·.setComponent updateComp)
      modify (·.setUpdateFlags ⟨request.updateOptionFlags⟩)
      invoke ops .getFirmwareParms
      let firmwareParams ← ofOps ops.getFirmwareParms
      let result := ops.handleComponent updateComp firmwareParams .updateComponent
      invoke ops (.handleComponent updateComp .updateComponent result)
      let compRespCode ← ofOps result
      let compatibilityCode ← Call.ofOutcome
        (Outcome.unwrap (ComponentCompatibilityResponseCode.tryFrom compRespCode.toU8))
      let response := UpdateComponentResponse.new request.hdr.instanceId
        PldmBaseCompletionCode.success.toU8
        (if compRespCode = .compCanBeUpdated then .compCanBeUpdated else .compCannotBeUpdated)
        compatibilityCode ⟨request.updateOptionFlags⟩ 0 none
      respond response.encode fun internal =>
        if compRespCode = .compCanBeUpdated then enterDownload internal else internal

/-! ## Activation and the commands served while idle -/

/-- Activation passes through `Activate` on its way to `Idle`. -/
def enterActivate (internal : FdInternal) : FdInternal :=
  (internal.setFdState .activate).setFdIdle .activateFw

def activateFirmwareRsp (ops : FdOps) : FdCall ℕ := do
  if (← internal).state ≠ .readyXfer then
    generateFailureResponse FwUpdateCompletionCode.invalidStateForCommand.toU8
  else
    withRequest ActivateFirmwareRequest.decode fun request => do
      let selfContained := request.selfContainedActivationReq
      if selfContained ≠ 0 ∧ selfContained ≠ 1 then
        generateFailureResponse PldmBaseCompletionCode.invalidData.toU8
      else do
        let result := ops.activate selfContained
        invoke ops (.activate selfContained result)
        let (completionCode, estimatedTime) ← ofOps result
        let response := ActivateFirmwareResponse.new request.hdr.instanceId completionCode
          estimatedTime
        respond response.encode fun internal =>
          if completionCode = PldmBaseCompletionCode.success.toU8 ∨
              completionCode = FwUpdateCompletionCode.activationNotRequired.toU8 then
            enterActivate internal
          else internal

/-- The two commands served while idle share their checks: the state, the
request and a classification that names no proxied device. -/
def componentCommandRsp (ops : FdOps)
    (decode : List UInt8 → Except PldmCodecError ComponentRequest)
    (handle : ComponentRequest → FirmwareParameters → FdCall ℕ) : FdCall ℕ := do
  if (← internal).state ≠ .idle then
    generateFailureResponse FwUpdateCompletionCode.invalidStateForCommand.toU8
  else
    withRequest decode fun request => do
      if request.compClassification = ComponentClassification.downstreamDevice then
        generateFailureResponse PldmBaseCompletionCode.invalidData.toU8
      else do
        invoke ops .getFirmwareParms
        let firmwareParams ← ofOps ops.getFirmwareParms
        handle request firmwareParams

/-- The component a request names. -/
def namedComponent (request : ComponentRequest) : NamedComponent :=
  ⟨request.compClassification, request.compIdentifier, request.compClassificationIndex⟩

def activatePendingComponentImageRsp (ops : FdOps) : FdCall ℕ :=
  componentCommandRsp ops ActivatePendingComponentImageRequest.decode
    fun request firmwareParams => do
      let result := ops.handlePendingComponent (namedComponent request) firmwareParams
      invoke ops (.handlePendingComponent (namedComponent request) result)
      let outcome ← ofOps result
      respond (outcome.intoResponse request.hdr.instanceId).encode id

def updateSecurityRevisionRsp (ops : FdOps) : FdCall ℕ :=
  componentCommandRsp ops UpdateSecurityRevisionRequest.decode
    fun request firmwareParams => do
      let result := ops.updateSecurityRevision (namedComponent request) firmwareParams
      invoke ops (.updateSecurityRevision (namedComponent request) result)
      let outcome ← ofOps result
      let response := UpdateSecurityRevisionResponse.new request.hdr.instanceId
        outcome.toCompletionCode
      respond response.encode id

/-! ## Cancellation -/

/-- Whether a cancellation of the current operation reaches the platform, and
`none` outside the operation states. An application that completed successfully
is not cancelled. -/
def shouldCancel (internal : FdInternal) : Option Bool :=
  match internal.state with
  | .download => some true
  | .verify => some true
  | .apply =>
      some (!(internal.req.complete && internal.req.result == some ApplyResult.applySuccess.toU8))
  | _ => none

/-- Have the platform stop work on the active component. -/
def cancelComponent (ops : FdOps) : FdCall PUnit := do
  let component := (← internal).updateComp
  let result := ops.cancelUpdateComponent component
  invoke ops (.cancelUpdateComponent component result)
  ofOps result
  pure ⟨⟩

/-- The completion code of a cancellation. -/
def cancelCompletionCode (cancelled : Bool) : UInt8 :=
  if cancelled then PldmBaseCompletionCode.success.toU8 else PldmBaseCompletionCode.error.toU8

/-- The end of `cancel_update_component_rsp`, when the component has been cancelled or is not
to be. -/
def answerCancelUpdateComponent (cancel : Bool) : FdCall ℕ :=
  withRequest CancelUpdateComponentRequest.decode fun request => do
    let response := CancelUpdateComponentResponse.new request.hdr.instanceId
      (cancelCompletionCode cancel)
    respond response.encode fun internal =>
      if cancel then internal.setFdState .readyXfer else internal

def cancelUpdateComponentRsp (ops : FdOps) : FdCall ℕ := do
  if !(← internal).isUpdateMode then
    generateFailureResponse FwUpdateCompletionCode.notInUpdateMode.toU8
  else
    match shouldCancel (← internal) with
    | none => generateFailureResponse FwUpdateCompletionCode.invalidStateForCommand.toU8
    | some cancel => do
        if cancel then cancelComponent ops else pure ⟨⟩
        answerCancelUpdateComponent cancel

/-- The end of `cancel_update_rsp`. -/
def answerCancelUpdate (ops : FdOps) (cancel : Bool) : FdCall ℕ :=
  withRequest CancelUpdateRequest.decode fun request => do
    invoke ops .getNonFunctionalComponentInfo
    let (indication, bitmap) ← ofOps ops.getNonFunctionalComponentInfo
    let response := CancelUpdateResponse.new request.hdr.instanceId
      (cancelCompletionCode cancel) indication bitmap
    respond response.encode fun internal =>
      if cancel then internal.setFdIdle .cancelUpdate else internal

def cancelUpdateRsp (ops : FdOps) : FdCall ℕ := do
  if !(← internal).isUpdateMode then
    generateFailureResponse FwUpdateCompletionCode.notInUpdateMode.toU8
  else do
    setFdT1Ts ops
    let cancel := (shouldCancel (← internal)).getD false
    if cancel then cancelComponent ops else pure ⟨⟩
    answerCancelUpdate ops cancel

/-! ## Status -/

/-- The progress to report. A stored percentage is unwrapped into
`ProgressPercent`; an error of the platform's own query is dropped together with
whatever it wrote. -/
def statusProgress (ops : FdOps) : FdCall ProgressPercent := do
  let internal ← internal
  match internal.state with
  | .download => do
      invoke ops (.queryDownloadProgress internal.updateComp)
      match ops.queryDownloadProgress internal.updateComp with
      | .ok progress => pure progress
      | .error _ => pure ProgressPercent.default
  | .verify =>
      match internal.getFdVerifyProgress with
      | some percent => Call.ofOutcome (Outcome.unwrap (ProgressPercent.new percent))
      | none => pure ProgressPercent.default
  | .apply =>
      match internal.getFdApplyProgress with
      | some percent => Call.ofOutcome (Outcome.unwrap (ProgressPercent.new percent))
      | none => pure ProgressPercent.default
  | _ => pure ProgressPercent.default

/-- The percentage that a verification or an application has recorded, if it is one. -/
def recordedProgress (internal : FdInternal) : Except PldmError ProgressPercent :=
  match internal.state with
  | .verify => internal.getFdVerifyProgress.elim (.ok .default) ProgressPercent.new
  | .apply => internal.getFdApplyProgress.elim (.ok .default) ProgressPercent.new
  | _ => .ok .default

/-- A download asks the platform; elsewhere the recorded percentage is unwrapped. -/
theorem statusProgress_eq (ops : FdOps) (internal : FdInternal) (payload : List UInt8)
    (log : List Invocation) : statusProgress ops ⟨internal, payload, log⟩ =
      if internal.state = .download then
        (.ok ((ops.queryDownloadProgress internal.updateComp).toOption.getD .default),
          ⟨internal, payload,
            log ++ [⟨.queryDownloadProgress internal.updateComp, ops.now log.length⟩]⟩)
      else (Outcome.unwrap (recordedProgress internal), ⟨internal, payload, log⟩) := by
  simp only [statusProgress, recordedProgress, bind, Call.bind, FdCall.internal, Call.get, pure]
  cases hstate : internal.state with
  | download =>
      simp only [invoke, ↓reduceIte]
      cases ops.queryDownloadProgress internal.updateComp <;> rfl
  | verify => cases internal.getFdVerifyProgress <;> rfl
  | apply => cases internal.getFdApplyProgress <;> rfl
  | _ => rfl

theorem statusProgress_rule {ops : FdOps} {internal : FdInternal} {payload : List UInt8}
    {log : List Invocation} {post : Outcome MsgHandlerError ProgressPercent → CallState → Prop}
    (asked : internal.state = .download → ∀ progress, post (.ok progress) ⟨internal, payload,
      log ++ [⟨.queryDownloadProgress internal.updateComp, ops.now log.length⟩]⟩)
    (known : internal.state ≠ .download → ∀ progress,
      recordedProgress internal = .ok progress → post (.ok progress) ⟨internal, payload, log⟩)
    (unclear : internal.state ≠ .download → ∀ error,
      recordedProgress internal = .error error → post .panic ⟨internal, payload, log⟩) :
    (statusProgress ops).wp post ⟨internal, payload, log⟩ := by
  rw [Call.wp_iff, statusProgress_eq]
  split
  · next downloading => exact asked downloading _
  · next other =>
      cases recorded : recordedProgress internal with
      | ok progress => exact known other progress recorded
      | error error => exact unclear other error recorded

/-- The same for a postcondition that does not look at the callbacks. -/
theorem statusProgress_reports {ops : FdOps} {internal : FdInternal} {payload : List UInt8}
    {log : List Invocation} {post : Outcome MsgHandlerError ProgressPercent → CallState → Prop}
    (known : (∀ error, recordedProgress internal ≠ .error error) →
      ∀ progress log, post (.ok progress) ⟨internal, payload, log⟩)
    (unclear : ∀ error, recordedProgress internal = .error error →
      post .panic ⟨internal, payload, log⟩) :
    (statusProgress ops).wp post ⟨internal, payload, log⟩ := by
  apply statusProgress_rule
  · intro downloading progress
    refine known (fun error recorded => ?_) progress _
    rw [recordedProgress, downloading] at recorded
    cases recorded
  · intro _ progress recorded
    refine known (fun error unclear => ?_) progress log
    cases recorded.symm.trans unclear
  · exact fun _ => unclear

/-- The auxiliary state and its status byte, read from the request slot. -/
def auxStatus (req : FdReq) : AuxState × UInt8 :=
  match req.state with
  | .unused =>
      (.idleLearnComponentsReadXfer, AuxStateStatus.auxStateInProgressOrSuccess.toU8)
  | .sent => (.operationInProgress, AuxStateStatus.auxStateInProgressOrSuccess.toU8)
  | .ready =>
      if req.complete then
        (.operationSuccessful, AuxStateStatus.auxStateInProgressOrSuccess.toU8)
      else (.operationInProgress, AuxStateStatus.auxStateInProgressOrSuccess.toU8)
  | .failed => (.operationFailed, req.result.getD AuxStateStatus.genericError.toU8)

def getStatusRsp (ops : FdOps) : FdCall ℕ :=
  withRequest GetStatusRequest.decode fun request => do
    let progressPercent ← statusProgress ops
    let internal ← internal
    let (auxState, auxStateStatus) := auxStatus internal.req
    let response := GetStatusResponse.new request.hdr.instanceId
      PldmBaseCompletionCode.success.toU8 internal.state internal.prevState auxState
      auxStateStatus progressPercent (internal.reason.getD .initialization)
      (if internal.updateFlags.requestForceUpdate then .forceUpdate else .noForceUpdate)
    respond response.encode id

end FdContext

end PldmLib.FirmwareDevice
