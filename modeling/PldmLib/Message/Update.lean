/-
# Messages the update agent initiates

The requests that drive an update from the agent's side, as the device decodes
them, and the responses it encodes. Two requests and two responses are
hand-written in the source because they end in a variable-length or optional
field; all others are packed structures that are copied as a whole.
-/

import PldmLib.Protocol.FirmwareUpdate

namespace PldmLib.Message

open PldmLib.Machine PldmLib.Protocol

/-! ## Requests that are a header or a header and fixed fields -/

/-- A request without a body. -/
structure HeaderRequest where
  hdr : PldmMsgHeader
  deriving DecidableEq, Repr

def HeaderRequest.decode (buffer : List UInt8) : Except PldmCodecError HeaderRequest :=
  (PldmMsgHeader.decode buffer).map HeaderRequest.mk

/-- The only request without a body that does not decode is a short one. -/
theorem HeaderRequest.length_of_error {buffer : List UInt8} {error : PldmCodecError}
    (refused : decode buffer = .error error) : buffer.length < pldmMsgHeaderLen := by
  match buffer with
  | [] => decide
  | [_] => simp [pldmMsgHeaderLen]
  | [_, _] => simp [pldmMsgHeaderLen]
  | byte0 :: byte1 :: byte2 :: rest => simp [decode, Except.map] at refused

theorem HeaderRequest.extends_decode : Reader.DecodeExtends decode .bufferTooShort :=
  PldmMsgHeader.extends_decode.map HeaderRequest.mk

def QueryDeviceIdentifiersRequest.decode := HeaderRequest.decode
def GetFirmwareParametersRequest.decode := HeaderRequest.decode
def CancelUpdateComponentRequest.decode := HeaderRequest.decode
def CancelUpdateRequest.decode := HeaderRequest.decode
def GetStatusRequest.decode := HeaderRequest.decode

structure ActivateFirmwareRequest where
  hdr : PldmMsgHeader
  selfContainedActivationReq : UInt8
  deriving DecidableEq, Repr

def ActivateFirmwareRequest.decode (buffer : List UInt8) :
    Except PldmCodecError ActivateFirmwareRequest :=
  Reader.decode (do
    let hdr ← PldmMsgHeader.reader
    let selfContainedActivationReq ← Decoder.u8
    pure ⟨hdr, selfContainedActivationReq⟩) buffer

theorem ActivateFirmwareRequest.extends_decode :
    Reader.DecodeExtends decode .bufferTooShort := by
  apply Reader.Extends.decode
  refine PldmMsgHeader.extends_reader.bind fun _ => ?_
  exact Decoder.extends_u8.bind fun _ => Reader.extends_pure _

/-- A request that names a component by its three keys. -/
structure ComponentRequest where
  hdr : PldmMsgHeader
  compClassification : UInt16
  compIdentifier : UInt16
  compClassificationIndex : UInt8
  deriving DecidableEq, Repr

def ComponentRequest.decode (buffer : List UInt8) :
    Except PldmCodecError ComponentRequest :=
  Reader.decode (do
    let hdr ← PldmMsgHeader.reader
    let compClassification ← Decoder.u16
    let compIdentifier ← Decoder.u16
    let compClassificationIndex ← Decoder.u8
    pure ⟨hdr, compClassification, compIdentifier, compClassificationIndex⟩) buffer

theorem ComponentRequest.extends_decode : Reader.DecodeExtends decode .bufferTooShort := by
  apply Reader.Extends.decode
  refine PldmMsgHeader.extends_reader.bind fun _ => ?_
  refine Decoder.extends_u16.bind fun _ => Decoder.extends_u16.bind fun _ => ?_
  exact Decoder.extends_u8.bind fun _ => Reader.extends_pure _

theorem ComponentRequest.length_le_of_decode {request : ComponentRequest} {buffer : List UInt8}
    (decoded : ComponentRequest.decode buffer = .ok request) : 8 ≤ buffer.length := by
  rcases buffer with _ | ⟨_, _ | ⟨_, _ | ⟨_, _ | ⟨_, _ | ⟨_, _ | ⟨_, _ | ⟨_, _ | ⟨_, rest⟩⟩⟩⟩⟩⟩⟩⟩
  case cons.cons.cons.cons.cons.cons.cons.cons => simp
  -- Every shorter buffer runs out in one of the fields.
  all_goals cases decoded

def ActivatePendingComponentImageRequest.decode := ComponentRequest.decode
def UpdateSecurityRevisionRequest.decode := ComponentRequest.decode

/-! ## Requests that end in a version string -/

/-- The string bytes announced by a fixed part. A length above the array's is
refused before the bytes are looked at. -/
def versionStringReader (strLen : UInt8) :
    Decoder (FixedBytes pldmFwupImageSetVerStrMaxLen) := do
  if strLen.toNat > pldmFwupImageSetVerStrMaxLen then
    throw .invalidData
  else do
    let data ← Decoder.bytes strLen.toNat
    pure (FixedBytes.padTo _ data)

theorem extends_versionStringReader (strLen : UInt8) : (versionStringReader strLen).Extends := by
  unfold versionStringReader
  split
  · exact Reader.extends_throw _
  · exact (Decoder.extends_bytes _).bind fun _ => Reader.extends_pure _

structure RequestUpdateRequest where
  hdr : PldmMsgHeader
  maxTransferSize : UInt32
  numOfComp : UInt16
  maxOutstandingTransferReq : UInt8
  pkgDataLen : UInt16
  compImageSetVerStrType : UInt8
  compImageSetVerStrLen : UInt8
  compImageSetVerStr : FixedBytes pldmFwupImageSetVerStrMaxLen
  deriving DecidableEq

def RequestUpdateRequest.decode (buffer : List UInt8) :
    Except PldmCodecError RequestUpdateRequest :=
  Reader.decode (do
    let hdr ← PldmMsgHeader.reader
    let maxTransferSize ← Decoder.u32
    let numOfComp ← Decoder.u16
    let maxOutstandingTransferReq ← Decoder.u8
    let pkgDataLen ← Decoder.u16
    let compImageSetVerStrType ← Decoder.u8
    let compImageSetVerStrLen ← Decoder.u8
    let compImageSetVerStr ← versionStringReader compImageSetVerStrLen
    pure ⟨hdr, maxTransferSize, numOfComp, maxOutstandingTransferReq, pkgDataLen,
      compImageSetVerStrType, compImageSetVerStrLen, compImageSetVerStr⟩) buffer

theorem RequestUpdateRequest.extends_decode : Reader.DecodeExtends decode .bufferTooShort := by
  apply Reader.Extends.decode
  refine PldmMsgHeader.extends_reader.bind fun _ => ?_
  refine Decoder.extends_u32.bind fun _ => Decoder.extends_u16.bind fun _ => ?_
  refine Decoder.extends_u8.bind fun _ => Decoder.extends_u16.bind fun _ => ?_
  refine Decoder.extends_u8.bind fun _ => Decoder.extends_u8.bind fun _ => ?_
  exact (extends_versionStringReader _).bind fun _ => Reader.extends_pure _

structure PassComponentTableRequest where
  hdr : PldmMsgHeader
  transferFlag : UInt8
  compClassification : UInt16
  compIdentifier : UInt16
  compClassificationIndex : UInt8
  compComparisonStamp : UInt32
  compVerStrType : UInt8
  compVerStrLen : UInt8
  compVerStr : FixedBytes pldmFwupImageSetVerStrMaxLen
  deriving DecidableEq

def PassComponentTableRequest.decode (buffer : List UInt8) :
    Except PldmCodecError PassComponentTableRequest :=
  Reader.decode (do
    let hdr ← PldmMsgHeader.reader
    let transferFlag ← Decoder.u8
    let compClassification ← Decoder.u16
    let compIdentifier ← Decoder.u16
    let compClassificationIndex ← Decoder.u8
    let compComparisonStamp ← Decoder.u32
    let compVerStrType ← Decoder.u8
    let compVerStrLen ← Decoder.u8
    let compVerStr ← versionStringReader compVerStrLen
    pure ⟨hdr, transferFlag, compClassification, compIdentifier, compClassificationIndex,
      compComparisonStamp, compVerStrType, compVerStrLen, compVerStr⟩) buffer

theorem PassComponentTableRequest.extends_decode :
    Reader.DecodeExtends decode .bufferTooShort := by
  apply Reader.Extends.decode
  refine PldmMsgHeader.extends_reader.bind fun _ => Decoder.extends_u8.bind fun _ => ?_
  refine Decoder.extends_u16.bind fun _ => Decoder.extends_u16.bind fun _ => ?_
  refine Decoder.extends_u8.bind fun _ => Decoder.extends_u32.bind fun _ => ?_
  refine Decoder.extends_u8.bind fun _ => Decoder.extends_u8.bind fun _ => ?_
  exact (extends_versionStringReader _).bind fun _ => Reader.extends_pure _

structure UpdateComponentRequest where
  hdr : PldmMsgHeader
  compClassification : UInt16
  compIdentifier : UInt16
  compClassificationIndex : UInt8
  compComparisonStamp : UInt32
  compImageSize : UInt32
  updateOptionFlags : UInt32
  compVerStrType : UInt8
  compVerStrLen : UInt8
  compVerStr : FixedBytes pldmFwupImageSetVerStrMaxLen
  deriving DecidableEq

def UpdateComponentRequest.decode (buffer : List UInt8) :
    Except PldmCodecError UpdateComponentRequest :=
  Reader.decode (do
    let hdr ← PldmMsgHeader.reader
    let compClassification ← Decoder.u16
    let compIdentifier ← Decoder.u16
    let compClassificationIndex ← Decoder.u8
    let compComparisonStamp ← Decoder.u32
    let compImageSize ← Decoder.u32
    let updateOptionFlags ← Decoder.u32
    let compVerStrType ← Decoder.u8
    let compVerStrLen ← Decoder.u8
    let compVerStr ← versionStringReader compVerStrLen
    pure ⟨hdr, compClassification, compIdentifier, compClassificationIndex,
      compComparisonStamp, compImageSize, updateOptionFlags, compVerStrType, compVerStrLen,
      compVerStr⟩) buffer

theorem UpdateComponentRequest.extends_decode : Reader.DecodeExtends decode .bufferTooShort := by
  apply Reader.Extends.decode
  refine PldmMsgHeader.extends_reader.bind fun _ => ?_
  refine Decoder.extends_u16.bind fun _ => Decoder.extends_u16.bind fun _ => ?_
  refine Decoder.extends_u8.bind fun _ => Decoder.extends_u32.bind fun _ => ?_
  refine Decoder.extends_u32.bind fun _ => Decoder.extends_u32.bind fun _ => ?_
  refine Decoder.extends_u8.bind fun _ => Decoder.extends_u8.bind fun _ => ?_
  exact (extends_versionStringReader _).bind fun _ => Reader.extends_pure _

/-! ## Responses -/

/-- The header of a response: the request's instance ID and the command. -/
def responseHeader (instanceId : UInt8) (command : FwUpdateCmd) : PldmMsgHeader :=
  .new instanceId .response .fwUpdate command.toU8

structure RequestUpdateResponse where
  hdr : PldmMsgHeader
  completionCode : UInt8
  fdMetaDataLen : UInt16
  fdWillSendPkgDataCmd : UInt8
  getPkgDataMaxTransferSize : Option UInt32
  deriving DecidableEq, Repr

namespace RequestUpdateResponse

def new (instanceId completionCode : UInt8) (fdMetaDataLen : UInt16)
    (fdWillSendPkgDataCmd : UInt8) (getPkgDataMaxTransferSize : Option UInt32) :
    RequestUpdateResponse where
  hdr := responseHeader instanceId .requestUpdate
  completionCode := completionCode
  fdMetaDataLen := fdMetaDataLen
  fdWillSendPkgDataCmd := fdWillSendPkgDataCmd
  getPkgDataMaxTransferSize := getPkgDataMaxTransferSize

def fixedBytes (response : RequestUpdateResponse) : List UInt8 :=
  response.hdr.toBytes ++ [response.completionCode] ++ u16Bytes response.fdMetaDataLen ++
    [response.fdWillSendPkgDataCmd]

/-- The size follows the announced command, not the optional field. -/
def codecSizeInBytes (response : RequestUpdateResponse) : ℕ :=
  7 + if response.fdWillSendPkgDataCmd = 0x02 then 4 else 0

def encode (response : RequestUpdateResponse) : Encoder := do
  let buffer ← Call.get
  if buffer.length < response.codecSizeInBytes then
    Call.fail .bufferTooShort
  else do
    writeAt 0 response.fixedBytes
    match response.getPkgDataMaxTransferSize with
    | some size => do
        writeAt 7 (u32Bytes size)
        pure 11
    | none => pure 7

end RequestUpdateResponse

structure PassComponentTableResponse where
  hdr : PldmMsgHeader
  completionCode : UInt8
  compResp : UInt8
  compRespCode : UInt8
  deriving DecidableEq, Repr

namespace PassComponentTableResponse

def new (instanceId completionCode : UInt8) (compResp : ComponentResponse)
    (compRespCode : ComponentResponseCode) : PassComponentTableResponse where
  hdr := responseHeader instanceId .passComponentTable
  completionCode := completionCode
  compResp := compResp.toU8
  compRespCode := compRespCode.toU8

def toBytes (response : PassComponentTableResponse) : List UInt8 :=
  response.hdr.toBytes ++ [response.completionCode, response.compResp, response.compRespCode]

def encode (response : PassComponentTableResponse) : Encoder := writeToPrefix response.toBytes

end PassComponentTableResponse

structure UpdateComponentResponse where
  hdr : PldmMsgHeader
  completionCode : UInt8
  compCompatibilityResp : UInt8
  compCompatibilityRespCode : UInt8
  updateOptionFlagsEnabled : UInt32
  timeBeforeReqFwData : UInt16
  getCompOpaqueDataMaxTransferSize : Option UInt32
  deriving DecidableEq, Repr

namespace UpdateComponentResponse

def new (instanceId completionCode : UInt8)
    (compCompatibilityResp : ComponentCompatibilityResponse)
    (compCompatibilityRespCode : ComponentCompatibilityResponseCode)
    (updateOptionFlagsEnabled : UpdateOptionFlags) (timeBeforeReqFwData : UInt16)
    (getCompOpaqueDataMaxTransferSize : Option UInt32) : UpdateComponentResponse where
  hdr := responseHeader instanceId .updateComponent
  completionCode := completionCode
  compCompatibilityResp := compCompatibilityResp.toU8
  compCompatibilityRespCode := compCompatibilityRespCode.toU8
  updateOptionFlagsEnabled := updateOptionFlagsEnabled.bits
  timeBeforeReqFwData := timeBeforeReqFwData
  getCompOpaqueDataMaxTransferSize := getCompOpaqueDataMaxTransferSize

def fixedBytes (response : UpdateComponentResponse) : List UInt8 :=
  response.hdr.toBytes ++
    [response.completionCode, response.compCompatibilityResp,
      response.compCompatibilityRespCode] ++
    u32Bytes response.updateOptionFlagsEnabled ++ u16Bytes response.timeBeforeReqFwData

def codecSizeInBytes (response : UpdateComponentResponse) : ℕ :=
  12 + if response.getCompOpaqueDataMaxTransferSize.isSome then 4 else 0

/-- The fields before the optional one are written one after the other, so they
are one write of their concatenation. -/
def encode (response : UpdateComponentResponse) : Encoder := do
  let buffer ← Call.get
  if buffer.length < response.codecSizeInBytes then
    Call.fail .bufferTooShort
  else do
    writeAt 0 response.fixedBytes
    match response.getCompOpaqueDataMaxTransferSize with
    | some size => do
        writeAt 12 (u32Bytes size)
        pure 16
    | none => pure 12

theorem length_fixedBytes (response : UpdateComponentResponse) :
    response.fixedBytes.length = 12 := by
  simp [fixedBytes, PldmMsgHeader.toBytes, u32Bytes, u16Bytes]

/-- Without its optional field the response is a prefix write. -/
theorem encode_eq {response : UpdateComponentResponse}
    (plain : response.getCompOpaqueDataMaxTransferSize = none) (buffer : List UInt8) :
    response.encode buffer = writeToPrefix response.fixedBytes buffer := by
  show response.encode.wp (fun outcome final => (outcome, final) = _) buffer
  have hsize : response.codecSizeInBytes = 12 := by simp [codecSizeInBytes, plain]
  have hlength := response.length_fixedBytes
  simp only [encode, Call.wp_bind, Call.wp_get, Call.wp_ite, Call.wp_fail, wp_writeAt, hsize,
    plain, Call.wp_pure, hlength, writeToPrefix]
  by_cases short : buffer.length < 12
  · have hshort : ¬ 12 ≤ buffer.length := by omega
    simp only [short, hshort, ↓reduceIte]
  · have hroom : 12 ≤ buffer.length := by omega
    simp [short, hroom]

end UpdateComponentResponse

/-- A completion code and an activation time: the layout shared by the
responses to `ActivateFirmware` and `ActivatePendingComponentImage`. -/
structure ActivationResponse where
  hdr : PldmMsgHeader
  completionCode : UInt8
  estimatedTimeActivation : UInt16
  deriving DecidableEq, Repr

def ActivationResponse.toBytes (response : ActivationResponse) : List UInt8 :=
  response.hdr.toBytes ++ [response.completionCode] ++
    u16Bytes response.estimatedTimeActivation

def ActivationResponse.encode (response : ActivationResponse) : Encoder :=
  writeToPrefix response.toBytes

def ActivateFirmwareResponse.new (instanceId completionCode : UInt8)
    (estimatedTimeActivation : UInt16) : ActivationResponse :=
  ⟨responseHeader instanceId .activateFirmware, completionCode, estimatedTimeActivation⟩

def ActivatePendingComponentImageResponse.new (instanceId completionCode : UInt8)
    (estimatedTimeActivation : UInt16) : ActivationResponse :=
  ⟨responseHeader instanceId .activatePendingComponentImage, completionCode,
    estimatedTimeActivation⟩

/-- A completion code alone: the layout shared by the responses to
`UpdateSecurityRevision` and `CancelUpdateComponent`. -/
structure CompletionResponse where
  hdr : PldmMsgHeader
  completionCode : UInt8
  deriving DecidableEq, Repr

def CompletionResponse.toBytes (response : CompletionResponse) : List UInt8 :=
  response.hdr.toBytes ++ [response.completionCode]

theorem CompletionResponse.length_toBytes (response : CompletionResponse) :
    response.toBytes.length = 4 := rfl

def CompletionResponse.encode (response : CompletionResponse) : Encoder :=
  writeToPrefix response.toBytes

def UpdateSecurityRevisionResponse.new (instanceId completionCode : UInt8) :
    CompletionResponse :=
  ⟨responseHeader instanceId .updateSecurityRevision, completionCode⟩

def CancelUpdateComponentResponse.new (instanceId completionCode : UInt8) :
    CompletionResponse :=
  ⟨responseHeader instanceId .cancelUpdateComponent, completionCode⟩

inductive NonFunctioningComponentIndication
  | componentsFunctioning
  | componentsNotFunctioning
  deriving DecidableEq, Repr

def NonFunctioningComponentIndication.toU8 : NonFunctioningComponentIndication → UInt8
  | .componentsFunctioning => 0
  | .componentsNotFunctioning => 1

structure CancelUpdateResponse where
  hdr : PldmMsgHeader
  completionCode : UInt8
  nonFunctioningComponentIndication : UInt8
  nonFunctioningComponentBitmap : UInt64
  deriving DecidableEq, Repr

namespace CancelUpdateResponse

def new (instanceId completionCode : UInt8)
    (indication : NonFunctioningComponentIndication) (bitmap : UInt64) :
    CancelUpdateResponse :=
  ⟨responseHeader instanceId .cancelUpdate, completionCode, indication.toU8, bitmap⟩

def toBytes (response : CancelUpdateResponse) : List UInt8 :=
  response.hdr.toBytes ++
    [response.completionCode, response.nonFunctioningComponentIndication] ++
    u64Bytes response.nonFunctioningComponentBitmap

def encode (response : CancelUpdateResponse) : Encoder := writeToPrefix response.toBytes

theorem length_toBytes (response : CancelUpdateResponse) : response.toBytes.length = 13 := by
  simp [toBytes, PldmMsgHeader.toBytes, u64Bytes]

end CancelUpdateResponse

/-! ## Outcomes of the commands served while idle -/

/-- The component named by `ActivatePendingComponentImage` or by
`UpdateSecurityRevision`: the request's three keys, passed on as received. -/
structure NamedComponent where
  classification : UInt16
  identifier : UInt16
  classificationIndex : UInt8
  deriving DecidableEq, Repr

abbrev PendingComponent := NamedComponent
abbrev SecurityRevisionComponent := NamedComponent

inductive PendingComponentResult
  | activated (estimatedTime : UInt16)
  | activationNotRequired
  | notPermitted
  deriving DecidableEq, Repr

/-- A time reaches the wire only next to `Success`. -/
def PendingComponentResult.intoResponse (instanceId : UInt8) :
    PendingComponentResult → ActivationResponse
  | .activated estimatedTime =>
      ActivatePendingComponentImageResponse.new instanceId
        PldmBaseCompletionCode.success.toU8 estimatedTime
  | .activationNotRequired =>
      ActivatePendingComponentImageResponse.new instanceId
        FwUpdateCompletionCode.activationNotRequired.toU8 0
  | .notPermitted =>
      ActivatePendingComponentImageResponse.new instanceId
        FwUpdateCompletionCode.activatePendingImageNotPermitted.toU8 0

inductive SecurityRevisionResult
  | updated
  | notPermitted
  deriving DecidableEq, Repr

def SecurityRevisionResult.toCompletionCode : SecurityRevisionResult → UInt8
  | .updated => PldmBaseCompletionCode.success.toU8
  | .notPermitted => FwUpdateCompletionCode.updateSecurityRevisionNotPermitted.toU8

/-! ## Status -/

def progressPercentNotSupported : ℕ := 101

/-- A percentage, or 101 for "not supported". The constructor and the setter of
the source refuse anything larger. -/
structure ProgressPercent where
  value : UInt8
  le_notSupported : value.toNat ≤ progressPercentNotSupported
  deriving DecidableEq

namespace ProgressPercent

def default : ProgressPercent := ⟨101, by decide⟩

def new (value : UInt8) : Except PldmError ProgressPercent :=
  if within : value.toNat ≤ progressPercentNotSupported then .ok ⟨value, within⟩
  else .error .invalidData

end ProgressPercent

inductive AuxState
  | operationInProgress
  | operationSuccessful
  | operationFailed
  | idleLearnComponentsReadXfer
  deriving DecidableEq, Repr

def AuxState.toU8 : AuxState → UInt8
  | .operationInProgress => 0
  | .operationSuccessful => 1
  | .operationFailed => 2
  | .idleLearnComponentsReadXfer => 3

inductive AuxStateStatus
  | auxStateInProgressOrSuccess
  | reserved
  | timeout
  | genericError
  | vendorDefined
  deriving DecidableEq, Repr

def AuxStateStatus.toU8 : AuxStateStatus → UInt8
  | .auxStateInProgressOrSuccess => 0x00
  | .reserved => 0x01
  | .timeout => 0x09
  | .genericError => 0x0a
  | .vendorDefined => 0x0b

def AuxStateStatus.tryFrom (value : UInt8) : Except PldmError AuxStateStatus :=
  if value = 0x00 then .ok .auxStateInProgressOrSuccess
  else if 0x01 ≤ value ∧ value ≤ 0x08 then .ok .reserved
  else if value = 0x09 then .ok .timeout
  else if value = 0x0a then .ok .genericError
  else if 0x70 ≤ value ∧ value ≤ 0xef then .ok .vendorDefined
  else .error .invalidAuxStateStatus

inductive GetStatusReasonCode
  | initialization
  | activateFw
  | cancelUpdate
  | learnComponentTimeout
  | readyXferTimeout
  | downloadTimeout
  | verifyTimeout
  | applyTimeout
  | vendorDefined
  deriving DecidableEq, Repr

def GetStatusReasonCode.toU8 : GetStatusReasonCode → UInt8
  | .initialization => 0
  | .activateFw => 1
  | .cancelUpdate => 2
  | .learnComponentTimeout => 3
  | .readyXferTimeout => 4
  | .downloadTimeout => 5
  | .verifyTimeout => 6
  | .applyTimeout => 7
  | .vendorDefined => 8

inductive UpdateOptionResp
  | noForceUpdate
  | forceUpdate
  deriving DecidableEq, Repr

structure GetStatusResponse where
  hdr : PldmMsgHeader
  completionCode : UInt8
  currentState : UInt8
  previousState : UInt8
  auxState : UInt8
  auxStateStatus : UInt8
  progressPercent : UInt8
  reasonCode : UInt8
  updateOptionFlagsEnabled : UInt32
  deriving DecidableEq, Repr

namespace GetStatusResponse

def new (instanceId completionCode : UInt8) (currentState previousState : FirmwareDeviceState)
    (auxState : AuxState) (auxStateStatus : UInt8) (progressPercent : ProgressPercent)
    (reasonCode : GetStatusReasonCode) (updateOption : UpdateOptionResp) :
    GetStatusResponse where
  hdr := responseHeader instanceId .getStatus
  completionCode := completionCode
  currentState := currentState.toU8
  previousState := previousState.toU8
  auxState := auxState.toU8
  auxStateStatus := auxStateStatus
  progressPercent := progressPercent.value
  reasonCode := reasonCode.toU8
  updateOptionFlagsEnabled :=
    ((⟨0⟩ : UpdateOptionFlags).setRequestForceUpdate (updateOption == .forceUpdate)).bits

def toBytes (response : GetStatusResponse) : List UInt8 :=
  response.hdr.toBytes ++
    [response.completionCode, response.currentState, response.previousState,
      response.auxState, response.auxStateStatus, response.progressPercent,
      response.reasonCode] ++
    u32Bytes response.updateOptionFlagsEnabled

def encode (response : GetStatusResponse) : Encoder := writeToPrefix response.toBytes

theorem length_toBytes (response : GetStatusResponse) : response.toBytes.length = 14 := rfl

end GetStatusResponse

end PldmLib.Message
