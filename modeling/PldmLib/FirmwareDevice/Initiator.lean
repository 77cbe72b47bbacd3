/-
# Requests of the device and their responses

While a component is downloaded, verified or applied the device sends requests
of its own. `fdProgress` produces the next one, or finds that none is due, or
gives up after a silence of T1; `handleResponse` takes the agent's answer to the
request in the slot and advances the device.

The verify and apply operations run the same procedure on their own values, and
the three completion responses are processed alike. Each has one definition with
parameters here and keeps its name as an instance of it.
-/

import PldmLib.FirmwareDevice.Context

namespace PldmLib.FirmwareDevice

open PldmLib.Machine PldmLib.Protocol PldmLib.Message

namespace FdContext

open FdCall

def shouldStartInitiatorMode : FdCall Bool := do pure (← internal).state.isInitiator

def shouldStopInitiatorMode : FdCall Bool := do pure (!(← internal).state.isInitiator)

/-! ## Sending -/

/-- Whether a request may go out: at once from a ready slot, and again from a
sent one when the T2 retry time has elapsed. -/
def shouldSendFdRequest (ops : FdOps) : FdCall Bool := do
  let now ← now ops
  let internal ← internal
  match internal.req.state with
  | .unused => pure false
  | .ready => pure true
  | .failed => pure false
  | .sent =>
      match internal.req.sentTime with
      | none => Call.ofOutcome .panic
      | some sentTime =>
          if now < sentTime then
            -- Time went backwards.
            pure false
          else pure (decide (internal.fdT2RetryTime ≤ now - sentTime))

/-- Occupy the slot with the request just encoded. -/
def markSent (ops : FdOps) (complete : Bool) (result : Option UInt8) (instanceId : UInt8)
    (command : FwUpdateCmd) : FdCall PUnit := do
  let sentTime ← now ops
  modify (·.setFdReq .sent complete result (some instanceId) (some command.toU8)
    (some sentTime))

/-- Take the next instance ID. It is stored in the slot before anything else can
fail. -/
def allocInstanceId : FdCall UInt8 := do
  let instanceId := (← internal).nextInstanceId
  modify (·.allocNextInstanceId)
  pure instanceId

/-- The branch of a complete transfer: report the stored result. -/
def sendTransferComplete (ops : FdOps) (instanceId : UInt8) : FdCall ℕ := do
  match (← internal).req.result with
  | none => Call.fail .fdInitiatorModeError
  | some result => do
      let transferResult ← Call.ofOutcome (Outcome.unwrap (TransferResult.tryFrom result))
      let msgLen ← encode
        (TransferCompleteRequest.new instanceId .request transferResult).encode
      markSent ops true (some result) instanceId .transferComplete
      pure msgLen

/-- The branch of an unfinished transfer: ask the platform which range it wants
next and request it. The platform's `usize` values are cut to `u32`. -/
def sendRequestFirmwareData (profile : Profile) (ops : FdOps) (instanceId : UInt8) :
    FdCall ℕ := do
  let component := (← internal).updateComp
  let result := ops.queryDownloadOffsetAndLength component
  invoke ops (.queryDownloadOffsetAndLength component result)
  let (requestedOffset, requestedLength) ← ofOps result
  let chunk ← Call.ofOutcome ((← internal).getFdDownloadChunk profile
    (UInt32.ofNat requestedOffset) (UInt32.ofNat requestedLength))
  match chunk with
  | none => Call.fail .fdInitiatorModeError
  | some (chunkOffset, chunkLength) => do
      let msgLen ← encode
        (RequestFirmwareDataRequest.new instanceId .request chunkOffset chunkLength).encode
      modify (·.setFdDownloadState chunkOffset chunkLength)
      markSent ops false none instanceId .requestFirmwareData
      pure msgLen

def fdProgressDownload (profile : Profile) (ops : FdOps) : FdCall ℕ := do
  if !(← shouldSendFdRequest ops) then
    Call.fail .fdInitiatorModeError
  else do
    let instanceId ← allocInstanceId
    if (← internal).req.complete then
      sendTransferComplete ops instanceId
    else
      sendRequestFirmwareData profile ops instanceId

/-- The values in which the verify and the apply operation differ. -/
structure Operation (R : Type) where
  /-- The callback that performs or advances the operation. -/
  run : FdOps → FirmwareComponent → Except FdOpsError (R × ProgressPercent)
  callback : FirmwareComponent → Except FdOpsError (R × ProgressPercent) → Callback
  default : R
  success : R
  toU8 : R → UInt8
  setProgress : UInt8 → FdInternal → FdInternal
  command : FwUpdateCmd
  encode : UInt8 → R → Encoder

def verifyOperation : Operation VerifyResult where
  run ops := ops.verify
  callback := .verify
  default := VerifyResult.default
  success := .verifySuccess
  toU8 := VerifyResult.toU8
  setProgress := FdInternal.setFdVerifyProgress
  command := .verifyComplete
  encode instanceId result := (VerifyCompleteRequest.new instanceId .request result).encode

def applyOperation : Operation ApplyResult where
  run ops := ops.apply
  callback := .apply
  default := ApplyResult.default
  success := .applySuccess
  toU8 := ApplyResult.toU8
  setProgress := FdInternal.setFdApplyProgress
  command := .applyComplete
  encode instanceId result := (ApplyCompleteRequest.new instanceId .request result 0).encode

/-- Send the completion message of an operation. -/
def sendComplete {R : Type} (operation : Operation R) (ops : FdOps) (result : R) :
    FdCall ℕ := do
  let instanceId ← allocInstanceId
  let msgLen ← encode (operation.encode instanceId result)
  markSent ops true (some (operation.toU8 result)) instanceId operation.command
  pure msgLen

/-- Advance an operation by one call of its callback, and report it once it is
done or has failed. When the slot is already complete the callback does not run
and the result sent is the default of its type. -/
def fdProgressOperation {R : Type} [DecidableEq R] (operation : Operation R)
    (ops : FdOps) : FdCall ℕ := do
  if !(← shouldSendFdRequest ops) then
    Call.fail .fdInitiatorModeError
  else do
    if (← internal).req.complete then
      sendComplete operation ops operation.default
    else do
      let component := (← internal).updateComp
      let answer := operation.run ops component
      invoke ops (operation.callback component answer)
      let (result, progressPercent) ← ofOps answer
      modify (operation.setProgress progressPercent.value)
      if result = operation.success ∧ progressPercent.value < 100 then
        pure 0
      else
        sendComplete operation ops result

def pldmFdProgressVerify (ops : FdOps) : FdCall ℕ := fdProgressOperation verifyOperation ops

def pldmFdProgressApply (ops : FdOps) : FdCall ℕ := fdProgressOperation applyOperation ops

/-- The progress call of the current state. -/
def progressCall (profile : Profile) (ops : FdOps) : FirmwareDeviceState → FdCall ℕ
  | .download => fdProgressDownload profile ops
  | .verify => pldmFdProgressVerify ops
  | .apply => pldmFdProgressApply ops
  | _ => Call.fail .fdInitiatorModeError

/-- Whether the agent has been silent for longer than T1. The clock is read only
while a request is outstanding. -/
def t1Expired (ops : FdOps) : FdCall Bool := do
  if (← internal).req.state = .sent then do
    let now ← now ops
    let internal ← internal
    pure (decide (internal.fdT1Timeout < now - internal.fdT1UpdateTs))
  else pure false

/-- Cancel the component and leave update mode. The slot is cleared, so a late
response finds nothing outstanding. -/
def giveUp (ops : FdOps) : FdCall ℕ := do
  let component := (← internal).updateComp
  let result := ops.cancelUpdateComponent component
  invoke ops (.cancelUpdateComponent component result)
  ofOps result
  modify (·.fdIdleTimeout)
  modify (·.setFdReq .unused false none none none none)
  Call.fail .t1Timeout

def fdProgress (profile : Profile) (ops : FdOps) : FdCall ℕ := do
  let fdState := (← internal).state
  if !fdState.isInitiator then
    Call.fail .fdInitiatorModeError
  else do
    if ← t1Expired ops then
      giveUp ops
    else do
      let result ← progressCall profile ops fdState
      -- Local work is not UA silence, unless the report has just been sent.
      if (fdState = .verify ∨ fdState = .apply) ∧ (← internal).req.state ≠ .sent then
        setFdT1Ts ops
      else pure ⟨⟩
      pure result

/-! ## Receiving -/

/-- Mark the transfer as over with a result to report. -/
def completeTransfer (result : TransferResult) : FdCall PUnit :=
  modify (·.setFdReq .ready true (some result.toU8) none none none)

/-- Hand the data of an accepted response to the platform at the stored offset,
and decide whether the transfer goes on. -/
def storeFwData (ops : FdOps) : FdCall PUnit := do
  let internal ← internal
  match internal.getFdDownloadState with
  | none => Call.ofOutcome .panic
  | some (offset, length) => do
      let data := (← payload).drop RequestFirmwareDataResponseFixed.size
      if data.length < length.toNat then
        Call.fail (.codec .bufferTooShort)
      else do
        let fwData := data.take length.toNat
        let fwComponent := internal.updateComp
        let result := ops.downloadFwData offset.toNat fwData fwComponent
        invoke ops (.downloadFwData offset.toNat fwData fwComponent result)
        let res ← ofOps result
        if res = .transferSuccess then do
          let done := ops.isDownloadComplete fwComponent
          invoke ops (.isDownloadComplete fwComponent done)
          if done then completeTransfer .transferSuccess
          else modify (·.setFdReq .ready false none none none none)
        else completeTransfer res

def processRequestFwDataRsp (ops : FdOps) : FdCall PUnit := do
  let internal ← internal
  if internal.state ≠ .download then
    Call.fail .fdInitiatorModeError
  else if internal.req.complete then
    Call.fail .fdInitiatorModeError
  else
    match RequestFirmwareDataResponseFixed.decode (← payload) with
    | .error error => Call.fail (.codec error)
    | .ok fixed =>
        if fixed.completionCode = PldmBaseCompletionCode.success.toU8 then
          storeFwData ops
        else if fixed.completionCode = FwUpdateCompletionCode.retryRequestFwData.toU8 then
          pure ⟨⟩
        else
          completeTransfer .fdAbortedTransfer

/-- Process the response to a completion message. With the success result the
device moves on; with any other it waits for the agent to cancel. The payload is
not read. -/
def processCompleteRsp (expected : FirmwareDeviceState) (success : UInt8)
    (advance : FdInternal → FdInternal) : FdCall PUnit := do
  let internal ← internal
  if internal.state ≠ expected then
    Call.fail .fdInitiatorModeError
  else if internal.req.state ≠ .sent ∨ !internal.req.complete then
    Call.fail .fdInitiatorModeError
  else if internal.req.result = some success then
    modify advance
  else
    modify (·.setFdReq .failed true internal.req.result none none none)

def enterVerify (internal : FdInternal) : FdInternal :=
  ((internal.setInitiatorMode (.verify 0)).setFdReq .ready false none none none none).setFdState
    .verify

def enterApply (internal : FdInternal) : FdInternal :=
  ((internal.setInitiatorMode (.apply 0)).setFdReq .ready false none none none none).setFdState
    .apply

/-- The component is done: the slot is cleared for the next one. -/
def leaveApply (internal : FdInternal) : FdInternal :=
  (internal.setFdReq .unused false none none none none).setFdState .readyXfer

def processTransferCompleteRsp : FdCall PUnit :=
  processCompleteRsp .download TransferResult.transferSuccess.toU8 enterVerify

def processVerifyCompleteRsp : FdCall PUnit :=
  processCompleteRsp .verify VerifyResult.verifySuccess.toU8 enterApply

def processApplyCompleteRsp : FdCall PUnit :=
  processCompleteRsp .apply ApplyResult.applySuccess.toU8 leaveApply

/-- The processor of a response by its command. -/
def processRsp (ops : FdOps) (cmdCode : UInt8) : FdCall PUnit :=
  match FwUpdateCmd.tryFrom cmdCode with
  | .ok .requestFirmwareData => processRequestFwDataRsp ops
  | .ok .transferComplete => processTransferCompleteRsp
  | .ok .verifyComplete => processVerifyCompleteRsp
  | .ok .applyComplete => processApplyCompleteRsp
  | _ => Call.fail .fdInitiatorModeError

/-- Whether a response header belongs to the request in the slot. -/
def answers (req : FdReq) (header : PldmMsgHeader) : Bool :=
  req.state == .sent && req.instanceId == some header.instanceId &&
    req.command == some header.cmdCode

def handleResponse (ops : FdOps) : FdCall PUnit := do
  match PldmMsgHeader.decode (← payload) with
  | .error error => Call.fail (.codec error)
  | .ok header =>
      if !answers (← internal).req header then
        -- Unexpected response.
        Call.fail .fdInitiatorModeError
      else do
        setFdT1Ts ops
        processRsp ops header.cmdCode

end FdContext

end PldmLib.FirmwareDevice
