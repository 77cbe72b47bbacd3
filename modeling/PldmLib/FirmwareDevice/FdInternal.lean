/-
# State of the firmware device

`FdInternal` holds the protocol state, the component being updated, the slot of
the request the device has outstanding and the data of the current operation.
The setters are those of the source. They overwrite exactly what they name and
leave the rest alone; in particular `setFdReq` replaces the whole slot, the
instance ID included, and neither state setter touches the slot.
-/

import PldmLib.FirmwareDevice.FdOps

namespace PldmLib.FirmwareDevice

open PldmLib.Machine PldmLib.Protocol PldmLib.Message

/-! ## Configuration -/

def fdMaxXferSize : ℕ := 512
def defaultFdT1Timeout : PldmFdTime := 120000
def defaultFdT2RetryTime : PldmFdTime := 5000
def instanceIdCount : UInt8 := 32

/-- Whether the build checks integer arithmetic: a debug build panics on an
overflow, a release build wraps. -/
inductive Profile
  | debug
  | release
  deriving DecidableEq, Repr

/-- `u32` addition. -/
def Profile.addU32 {ε : Type*} (profile : Profile) (first second : UInt32) :
    Outcome ε UInt32 :=
  match profile with
  | .debug =>
      if first.toNat + second.toNat < UInt32.size then .ok (first + second) else .panic
  | .release => .ok (first + second)

/-- An addition either wraps or panics; it reports no error. -/
theorem Profile.addU32_cases (ε : Type*) (profile : Profile) (first second : UInt32) :
    (profile.addU32 first second : Outcome ε UInt32) = .ok (first + second) ∨
      (profile.addU32 first second : Outcome ε UInt32) = .panic := by
  cases profile with
  | debug => by_cases fits : first.toNat + second.toNat < UInt32.size <;> simp [addU32, fits]
  | release => exact .inl rfl

/-! ## Data -/

inductive FdReqState
  | unused
  | ready
  | sent
  | failed
  deriving DecidableEq, Repr

/-- The slot of the request the device has outstanding. -/
structure FdReq where
  state : FdReqState
  complete : Bool
  result : Option UInt8
  instanceId : Option UInt8
  command : Option UInt8
  sentTime : Option PldmFdTime
  deriving DecidableEq, Repr

def FdReq.new : FdReq := ⟨.unused, false, none, none, none, none⟩

inductive InitiatorModeState
  | download (offset length : UInt32)
  | verify (progressPercent : UInt8)
  | apply (progressPercent : UInt8)
  deriving DecidableEq, Repr

structure FdInternal where
  state : FirmwareDeviceState
  prevState : FirmwareDeviceState
  reason : Option GetStatusReasonCode
  updateComp : FirmwareComponent
  updateFlags : UpdateOptionFlags
  maxXferSize : UInt32
  req : FdReq
  initiatorModeState : InitiatorModeState
  fdT1UpdateTs : PldmFdTime
  fdT1Timeout : PldmFdTime
  fdT2RetryTime : PldmFdTime
  deriving DecidableEq

namespace FdInternal

def new (maxXferSize : UInt32) (fdT1Timeout fdT2RetryTime : PldmFdTime) : FdInternal where
  state := .idle
  prevState := .idle
  reason := none
  updateComp := .default
  updateFlags := ⟨0⟩
  maxXferSize := maxXferSize
  req := .new
  initiatorModeState := .download 0 0
  fdT1UpdateTs := 0
  fdT1Timeout := fdT1Timeout
  fdT2RetryTime := fdT2RetryTime

def default : FdInternal :=
  new (UInt32.ofNat fdMaxXferSize) defaultFdT1Timeout defaultFdT2RetryTime

/-! ## State -/

def isUpdateMode (internal : FdInternal) : Bool := internal.state != .idle

def setFdState (state : FirmwareDeviceState) (internal : FdInternal) : FdInternal :=
  if internal.state ≠ state then
    { internal with prevState := internal.state, state := state }
  else internal

def setFdIdle (reasonCode : GetStatusReasonCode) (internal : FdInternal) : FdInternal :=
  if internal.state ≠ .idle then
    { internal with
      prevState := internal.state, state := .idle, reason := some reasonCode }
  else internal

/-- The reason recorded when a timeout ends the update in a given state. -/
def timeoutReason : FirmwareDeviceState → Option GetStatusReasonCode
  | .idle => none
  | .learnComponents => some .learnComponentTimeout
  | .readyXfer => some .readyXferTimeout
  | .download => some .downloadTimeout
  | .verify => some .verifyTimeout
  | .apply => some .applyTimeout
  | .activate => some .activateFw

def fdIdleTimeout (internal : FdInternal) : FdInternal :=
  match timeoutReason internal.state with
  | none => internal
  | some reason => internal.setFdIdle reason

def setXferSize (transferSize : ℕ) (internal : FdInternal) : FdInternal :=
  { internal with maxXferSize := UInt32.ofNat transferSize }

def setComponent (component : FirmwareComponent) (internal : FdInternal) : FdInternal :=
  { internal with updateComp := component }

def setUpdateFlags (flags : UpdateOptionFlags) (internal : FdInternal) : FdInternal :=
  { internal with updateFlags := flags }

/-! ## The request slot -/

def setFdReq (reqState : FdReqState) (complete : Bool) (result instanceId command : Option UInt8)
    (sentTime : Option PldmFdTime) (internal : FdInternal) : FdInternal :=
  { internal with req := ⟨reqState, complete, result, instanceId, command, sentTime⟩ }

/-- The ID after the one in the slot, or 1 when the slot holds none. An ID in
the slot is below `instanceIdCount`, so adding one to it stays inside a byte. -/
def nextInstanceId (internal : FdInternal) : UInt8 :=
  match internal.req.instanceId with
  | none => 1
  | some id => (id + 1) % instanceIdCount

def allocNextInstanceId (internal : FdInternal) : FdInternal :=
  { internal with
    req := { internal.req with instanceId := some internal.nextInstanceId } }

/-! ## Operation data -/

/-- The range to request, or `none` when it is not inside the padded image. The
second half of the range check is evaluated only if the first one passes. -/
def getFdDownloadChunk {ε : Type*} (profile : Profile) (internal : FdInternal)
    (requestedOffset requestedLength : UInt32) : Outcome ε (Option (UInt32 × UInt32)) :=
  if internal.state ≠ .download then
    .ok none
  else
    let compImageSize := internal.updateComp.compImageSize.getD 0
    if requestedOffset > compImageSize then
      .ok none
    else do
      let endOffset ← profile.addU32 requestedOffset requestedLength
      let limit ← profile.addU32 compImageSize (UInt32.ofNat pldmFwupMaxPaddingSize)
      if endOffset > limit then
        pure none
      else
        pure (some (requestedOffset, min requestedLength internal.maxXferSize))

/-- A range is served, refused or lost in a panic. -/
theorem getFdDownloadChunk_ne_err {ε : Type*} (profile : Profile) (internal : FdInternal)
    (requestedOffset requestedLength : UInt32) (error : ε) :
    internal.getFdDownloadChunk profile requestedOffset requestedLength ≠ .err error := by
  unfold getFdDownloadChunk
  split
  · simp
  · dsimp only
    split
    · simp
    · rcases profile.addU32_cases ε requestedOffset requestedLength with hend | hend
      · rcases profile.addU32_cases ε (internal.updateComp.compImageSize.getD 0)
          (UInt32.ofNat pldmFwupMaxPaddingSize) with hlimit | hlimit
        · rw [hend, hlimit]
          simp only [Outcome.ok_bind]
          split <;> simp
        · simp [hend, hlimit]
      · simp [hend]

def getFdDownloadState (internal : FdInternal) : Option (UInt32 × UInt32) :=
  match internal.initiatorModeState with
  | .download offset length => some (offset, length)
  | _ => none

def setFdDownloadState (offset length : UInt32) (internal : FdInternal) : FdInternal :=
  match internal.initiatorModeState with
  | .download _ _ => { internal with initiatorModeState := .download offset length }
  | _ => internal

def setInitiatorMode (mode : InitiatorModeState) (internal : FdInternal) : FdInternal :=
  { internal with initiatorModeState := mode }

def setFdVerifyProgress (progress : UInt8) (internal : FdInternal) : FdInternal :=
  match internal.initiatorModeState with
  | .verify _ => { internal with initiatorModeState := .verify progress }
  | _ => internal

def setFdApplyProgress (progress : UInt8) (internal : FdInternal) : FdInternal :=
  match internal.initiatorModeState with
  | .apply _ => { internal with initiatorModeState := .apply progress }
  | _ => internal

def getFdVerifyProgress (internal : FdInternal) : Option UInt8 :=
  match internal.initiatorModeState with
  | .verify progress => some progress
  | _ => none

def getFdApplyProgress (internal : FdInternal) : Option UInt8 :=
  match internal.initiatorModeState with
  | .apply progress => some progress
  | _ => none

def setFdT1UpdateTs (timestamp : PldmFdTime) (internal : FdInternal) : FdInternal :=
  { internal with fdT1UpdateTs := timestamp }

/-! ## What the setters leave alone -/

section Frames

variable (internal : FdInternal)

@[simp] theorem setFdT1UpdateTs_state (time : PldmFdTime) :
    (internal.setFdT1UpdateTs time).state = internal.state := rfl

@[simp] theorem setFdT1UpdateTs_req (time : PldmFdTime) :
    (internal.setFdT1UpdateTs time).req = internal.req := rfl

@[simp] theorem setFdT1UpdateTs_updateComp (time : PldmFdTime) :
    (internal.setFdT1UpdateTs time).updateComp = internal.updateComp := rfl

@[simp] theorem setFdT1UpdateTs_initiatorModeState (time : PldmFdTime) :
    (internal.setFdT1UpdateTs time).initiatorModeState = internal.initiatorModeState := rfl

@[simp] theorem setFdT1UpdateTs_maxXferSize (time : PldmFdTime) :
    (internal.setFdT1UpdateTs time).maxXferSize = internal.maxXferSize := rfl

@[simp] theorem setFdReq_state (reqState : FdReqState) (complete : Bool)
    (result instanceId command : Option UInt8) (sentTime : Option PldmFdTime) :
    (internal.setFdReq reqState complete result instanceId command sentTime).state =
      internal.state := rfl

@[simp] theorem setFdReq_req (reqState : FdReqState) (complete : Bool)
    (result instanceId command : Option UInt8) (sentTime : Option PldmFdTime) :
    (internal.setFdReq reqState complete result instanceId command sentTime).req =
      ⟨reqState, complete, result, instanceId, command, sentTime⟩ := rfl

@[simp] theorem setFdReq_updateComp (reqState : FdReqState) (complete : Bool)
    (result instanceId command : Option UInt8) (sentTime : Option PldmFdTime) :
    (internal.setFdReq reqState complete result instanceId command sentTime).updateComp =
      internal.updateComp := rfl

@[simp] theorem setFdReq_initiatorModeState (reqState : FdReqState) (complete : Bool)
    (result instanceId command : Option UInt8) (sentTime : Option PldmFdTime) :
    (internal.setFdReq reqState complete result instanceId command
      sentTime).initiatorModeState = internal.initiatorModeState := rfl

@[simp] theorem setXferSize_req (transferSize : ℕ) :
    (internal.setXferSize transferSize).req = internal.req := rfl

@[simp] theorem setFdDownloadState_state (offset length : UInt32) :
    (internal.setFdDownloadState offset length).state = internal.state := by
  unfold setFdDownloadState
  split <;> rfl

@[simp] theorem setFdDownloadState_updateComp (offset length : UInt32) :
    (internal.setFdDownloadState offset length).updateComp = internal.updateComp := by
  unfold setFdDownloadState
  split <;> rfl

@[simp] theorem allocNextInstanceId_state :
    internal.allocNextInstanceId.state = internal.state := rfl

@[simp] theorem allocNextInstanceId_updateComp :
    internal.allocNextInstanceId.updateComp = internal.updateComp := rfl

@[simp] theorem allocNextInstanceId_reqState :
    internal.allocNextInstanceId.req.state = internal.req.state := rfl

@[simp] theorem allocNextInstanceId_complete :
    internal.allocNextInstanceId.req.complete = internal.req.complete := rfl

@[simp] theorem allocNextInstanceId_result :
    internal.allocNextInstanceId.req.result = internal.req.result := rfl

@[simp] theorem allocNextInstanceId_initiatorModeState :
    internal.allocNextInstanceId.initiatorModeState = internal.initiatorModeState := rfl

@[simp] theorem setFdState_state (state : FirmwareDeviceState) :
    (internal.setFdState state).state = state := by
  unfold setFdState
  split
  · rfl
  · next same => simpa using same

@[simp] theorem setFdState_req (state : FirmwareDeviceState) :
    (internal.setFdState state).req = internal.req := by
  unfold setFdState
  split <;> rfl

@[simp] theorem setFdState_updateComp (state : FirmwareDeviceState) :
    (internal.setFdState state).updateComp = internal.updateComp := by
  unfold setFdState
  split <;> rfl

@[simp] theorem setFdState_initiatorModeState (state : FirmwareDeviceState) :
    (internal.setFdState state).initiatorModeState = internal.initiatorModeState := by
  unfold setFdState
  split <;> rfl

@[simp] theorem setFdIdle_state (reasonCode : GetStatusReasonCode) :
    (internal.setFdIdle reasonCode).state = .idle := by
  unfold setFdIdle
  split
  · rfl
  · next same => simpa using same

@[simp] theorem setFdIdle_req (reasonCode : GetStatusReasonCode) :
    (internal.setFdIdle reasonCode).req = internal.req := by
  unfold setFdIdle
  split <;> rfl

@[simp] theorem setFdIdle_initiatorModeState (reasonCode : GetStatusReasonCode) :
    (internal.setFdIdle reasonCode).initiatorModeState = internal.initiatorModeState := by
  unfold setFdIdle
  split <;> rfl

@[simp] theorem fdIdleTimeout_initiatorModeState :
    internal.fdIdleTimeout.initiatorModeState = internal.initiatorModeState := by
  unfold fdIdleTimeout
  split <;> simp

@[simp] theorem fdIdleTimeout_state : internal.fdIdleTimeout.state = .idle := by
  unfold fdIdleTimeout
  cases hstate : internal.state <;> simp [timeoutReason, hstate]

@[simp] theorem setFdState_fdT1UpdateTs (state : FirmwareDeviceState) :
    (internal.setFdState state).fdT1UpdateTs = internal.fdT1UpdateTs := by
  unfold setFdState
  split <;> rfl

@[simp] theorem setFdIdle_fdT1UpdateTs (reasonCode : GetStatusReasonCode) :
    (internal.setFdIdle reasonCode).fdT1UpdateTs = internal.fdT1UpdateTs := by
  unfold setFdIdle
  split <;> rfl

@[simp] theorem fdIdleTimeout_fdT1UpdateTs :
    internal.fdIdleTimeout.fdT1UpdateTs = internal.fdT1UpdateTs := by
  unfold fdIdleTimeout
  split <;> simp

@[simp] theorem setFdDownloadState_fdT1UpdateTs (offset length : UInt32) :
    (internal.setFdDownloadState offset length).fdT1UpdateTs = internal.fdT1UpdateTs := by
  unfold setFdDownloadState
  split <;> rfl

@[simp] theorem setFdReq_fdT1UpdateTs (reqState : FdReqState) (complete : Bool)
    (result instanceId command : Option UInt8) (sentTime : Option PldmFdTime) :
    (internal.setFdReq reqState complete result instanceId command sentTime).fdT1UpdateTs =
      internal.fdT1UpdateTs := rfl

@[simp] theorem allocNextInstanceId_fdT1UpdateTs :
    internal.allocNextInstanceId.fdT1UpdateTs = internal.fdT1UpdateTs := rfl

end Frames

end FdInternal

end PldmLib.FirmwareDevice
