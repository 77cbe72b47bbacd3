/-
# Platform callbacks

`FdOps` is the interface through which the device context reaches the platform.
The platform is not part of this development, and its methods take `&self` with
whatever interior state it likes, so nothing relates what it answers at one call
of the context to what it answers at the next. One `FdOps` value therefore
describes one call of the context: every callback other than the clock is
invoked at most once there, and the clock is a sequence of readings, one for the
return of each callback in turn.

`Invocation` is what an observer of the platform sees: which callback ran, with
which arguments, what it returned and when.
-/

import PldmLib.Message.Inventory
import PldmLib.Message.Transfer

namespace PldmLib.FirmwareDevice

open PldmLib.Machine PldmLib.Protocol PldmLib.Message

inductive FdOpsError
  | deviceIdentifiersError
  | firmwareParametersError
  | transferSizeError
  | componentError
  | fwDownloadError
  | verifyError
  | applyError
  | activateError
  | cancelUpdateError
  | securityRevisionError
  deriving DecidableEq, Repr

inductive ComponentOperation
  | passComponent
  | updateComponent
  deriving DecidableEq, Repr

/-- The answers of the platform during one call of the context. A callback that
fills a `&mut` argument returns the filled value; what it leaves there when it
fails is not read by any caller. `usize` values are natural numbers. -/
structure FdOps where
  getDeviceIdentifiers :
    Except FdOpsError (List.Vector Descriptor maxDescriptorsCount × ℕ)
  getFirmwareParms : Except FdOpsError FirmwareParameters
  getXferSize : ℕ → Except FdOpsError ℕ
  handleComponent : FirmwareComponent → FirmwareParameters → ComponentOperation →
    Except FdOpsError ComponentResponseCode
  queryDownloadOffsetAndLength : FirmwareComponent → Except FdOpsError (ℕ × ℕ)
  downloadFwData : ℕ → List UInt8 → FirmwareComponent → Except FdOpsError TransferResult
  isDownloadComplete : FirmwareComponent → Bool
  queryDownloadProgress : FirmwareComponent → Except FdOpsError ProgressPercent
  verify : FirmwareComponent → Except FdOpsError (VerifyResult × ProgressPercent)
  apply : FirmwareComponent → Except FdOpsError (ApplyResult × ProgressPercent)
  activate : UInt8 → Except FdOpsError (UInt8 × UInt16)
  cancelUpdateComponent : FirmwareComponent → Except FdOpsError Unit
  handlePendingComponent : PendingComponent → FirmwareParameters →
    Except FdOpsError PendingComponentResult
  getNonFunctionalComponentInfo :
    Except FdOpsError (NonFunctioningComponentIndication × UInt64)
  updateSecurityRevision : SecurityRevisionComponent → FirmwareParameters →
    Except FdOpsError SecurityRevisionResult
  now : ℕ → PldmFdTime

/-- One callback with its arguments and its result. -/
inductive Callback
  | now
  | getDeviceIdentifiers
  | getFirmwareParms
  | getXferSize (uaTransferSize : ℕ) (result : Except FdOpsError ℕ)
  | handleComponent (component : FirmwareComponent) (operation : ComponentOperation)
      (result : Except FdOpsError ComponentResponseCode)
  | queryDownloadOffsetAndLength (component : FirmwareComponent)
      (result : Except FdOpsError (ℕ × ℕ))
  | downloadFwData (offset : ℕ) (data : List UInt8) (component : FirmwareComponent)
      (result : Except FdOpsError TransferResult)
  | isDownloadComplete (component : FirmwareComponent) (result : Bool)
  | queryDownloadProgress (component : FirmwareComponent)
  | verify (component : FirmwareComponent)
      (result : Except FdOpsError (VerifyResult × ProgressPercent))
  | apply (component : FirmwareComponent)
      (result : Except FdOpsError (ApplyResult × ProgressPercent))
  | activate (selfContainedActivation : UInt8) (result : Except FdOpsError (UInt8 × UInt16))
  | cancelUpdateComponent (component : FirmwareComponent) (result : Except FdOpsError Unit)
  | handlePendingComponent (component : PendingComponent)
      (result : Except FdOpsError PendingComponentResult)
  | getNonFunctionalComponentInfo
  | updateSecurityRevision (component : SecurityRevisionComponent)
      (result : Except FdOpsError SecurityRevisionResult)
  deriving DecidableEq

/-- A callback and the clock reading at its return. The reading of `now` is the
value it returns. -/
structure Invocation where
  callback : Callback
  time : PldmFdTime
  deriving DecidableEq

end PldmLib.FirmwareDevice
