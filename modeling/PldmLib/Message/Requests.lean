/-
# Requests to the device

The update agent builds each request with the constructor of its type and the encoder of
that type writes it to the front of a buffer. The device decodes the buffer as the type that
its own dispatch has found, so what it acts on is what was built as long as both sides mean
the same type.
-/

import PldmLib.Message.Packed
import PldmLib.Message.UpdateCodec
import PldmLib.Protocol.Version

namespace PldmLib.Message

open PldmLib.Machine PldmLib.Protocol

/-! ## Constructors -/

section Constructors

variable (instanceId : UInt8) (messageType : PldmMsgType)

/-- The header that a constructor of a control request gives its message. -/
def controlRequestHeader (command : PldmControlCmd) : PldmMsgHeader :=
  .new instanceId messageType .base command.toU8

/-- The same for the update commands. -/
def fwUpdateRequestHeader (command : FwUpdateCmd) : PldmMsgHeader :=
  .new instanceId messageType .fwUpdate command.toU8

def GetTidRequest.new : HeaderRequest := ⟨controlRequestHeader instanceId messageType .getTid⟩

def SetTidRequest.new (tid : UInt8) : SetTidRequest :=
  ⟨controlRequestHeader instanceId messageType .setTid, tid⟩

def GetPldmTypeRequest.new : HeaderRequest :=
  ⟨controlRequestHeader instanceId messageType .getPldmTypes⟩

/-- The version is given as a text, and one that cannot be read is a panic. -/
def GetPldmCommandsRequest.new (isAlphabetic : Char → Bool) (pldmType : UInt8)
    (versionStr : String) : Outcome PldmError GetPldmCommandsRequest :=
  match PldmVersion.tryFrom isAlphabetic versionStr with
  | .ok version =>
      .ok ⟨controlRequestHeader instanceId messageType .getPldmCommands, pldmType,
        version.bcdEncodeToVer32⟩
  | _ => .panic

def GetPldmVersionRequest.new (dataTransferHandle : UInt32)
    (transferOpFlag : TransferOperationFlag) (pldmType : PldmSupportedType) :
    GetPldmVersionRequest :=
  ⟨controlRequestHeader instanceId messageType .getPldmVersion, dataTransferHandle,
    transferOpFlag.toU8, pldmType.toU8⟩

def QueryDeviceIdentifiersRequest.new : HeaderRequest :=
  ⟨fwUpdateRequestHeader instanceId messageType .queryDeviceIdentifiers⟩

def GetFirmwareParametersRequest.new : HeaderRequest :=
  ⟨fwUpdateRequestHeader instanceId messageType .getFirmwareParameters⟩

inductive SelfContainedActivationRequest
  | notActivateSelfContainedComponents
  | activateSelfContainedComponents
  deriving DecidableEq, Repr

def SelfContainedActivationRequest.toU8 : SelfContainedActivationRequest → UInt8
  | .notActivateSelfContainedComponents => 0
  | .activateSelfContainedComponents => 1

def ActivateFirmwareRequest.new (selfContainedActivationReq : SelfContainedActivationRequest) :
    ActivateFirmwareRequest :=
  ⟨fwUpdateRequestHeader instanceId messageType .activateFirmware,
    selfContainedActivationReq.toU8⟩

def ActivatePendingComponentImageRequest.new (compClassification compIdentifier : UInt16)
    (compClassificationIndex : UInt8) : ComponentRequest :=
  ⟨fwUpdateRequestHeader instanceId messageType .activatePendingComponentImage,
    compClassification, compIdentifier, compClassificationIndex⟩

def UpdateSecurityRevisionRequest.new (compClassification compIdentifier : UInt16)
    (compClassificationIndex : UInt8) : ComponentRequest :=
  ⟨fwUpdateRequestHeader instanceId messageType .updateSecurityRevision, compClassification,
    compIdentifier, compClassificationIndex⟩

def CancelUpdateComponentRequest.new : HeaderRequest :=
  ⟨fwUpdateRequestHeader instanceId messageType .cancelUpdateComponent⟩

def CancelUpdateRequest.new : HeaderRequest :=
  ⟨fwUpdateRequestHeader instanceId messageType .cancelUpdate⟩

def GetStatusRequest.new : HeaderRequest :=
  ⟨fwUpdateRequestHeader instanceId messageType .getStatus⟩

end Constructors

/-! ## All requests -/

/-- The requests that the device has a handler for. -/
inductive RequestKind
  | getTid
  | setTid
  | getPldmTypes
  | getPldmCommands
  | getPldmVersion
  | queryDeviceIdentifiers
  | getFirmwareParameters
  | requestUpdate
  | passComponentTable
  | updateComponent
  | activateFirmware
  | activatePendingComponentImage
  | updateSecurityRevision
  | cancelUpdateComponent
  | cancelUpdate
  | getStatus
  deriving DecidableEq, Repr

/-- A request under its own type. -/
inductive Request
  | getTid (request : HeaderRequest)
  | setTid (request : SetTidRequest)
  | getPldmTypes (request : HeaderRequest)
  | getPldmCommands (request : GetPldmCommandsRequest)
  | getPldmVersion (request : GetPldmVersionRequest)
  | queryDeviceIdentifiers (request : HeaderRequest)
  | getFirmwareParameters (request : HeaderRequest)
  | requestUpdate (request : RequestUpdateRequest)
  | passComponentTable (request : PassComponentTableRequest)
  | updateComponent (request : UpdateComponentRequest)
  | activateFirmware (request : ActivateFirmwareRequest)
  | activatePendingComponentImage (request : ComponentRequest)
  | updateSecurityRevision (request : ComponentRequest)
  | cancelUpdateComponent (request : HeaderRequest)
  | cancelUpdate (request : HeaderRequest)
  | getStatus (request : HeaderRequest)
  deriving DecidableEq

namespace Request

/-- The encoder of the type of a request. -/
def encode : Request → Encoder
  | .getTid request => Packed.getTidRequest.encode request
  | .setTid request => Packed.setTidRequest.encode request
  | .getPldmTypes request => Packed.getPldmTypeRequest.encode request
  | .getPldmCommands request => Packed.getPldmCommandsRequest.encode request
  | .getPldmVersion request => Packed.getPldmVersionRequest.encode request
  | .queryDeviceIdentifiers request => Packed.queryDeviceIdentifiersRequest.encode request
  | .getFirmwareParameters request => Packed.getFirmwareParametersRequest.encode request
  | .requestUpdate request => request.encode
  | .passComponentTable request => request.encode
  | .updateComponent request => request.encode
  | .activateFirmware request => Packed.activateFirmwareRequest.encode request
  | .activatePendingComponentImage request =>
      Packed.activatePendingComponentImageRequest.encode request
  | .updateSecurityRevision request => Packed.updateSecurityRevisionRequest.encode request
  | .cancelUpdateComponent request => Packed.cancelUpdateComponentRequest.encode request
  | .cancelUpdate request => Packed.cancelUpdateRequest.encode request
  | .getStatus request => Packed.getStatusRequest.encode request

def kind : Request → RequestKind
  | .getTid _ => .getTid
  | .setTid _ => .setTid
  | .getPldmTypes _ => .getPldmTypes
  | .getPldmCommands _ => .getPldmCommands
  | .getPldmVersion _ => .getPldmVersion
  | .queryDeviceIdentifiers _ => .queryDeviceIdentifiers
  | .getFirmwareParameters _ => .getFirmwareParameters
  | .requestUpdate _ => .requestUpdate
  | .passComponentTable _ => .passComponentTable
  | .updateComponent _ => .updateComponent
  | .activateFirmware _ => .activateFirmware
  | .activatePendingComponentImage _ => .activatePendingComponentImage
  | .updateSecurityRevision _ => .updateSecurityRevision
  | .cancelUpdateComponent _ => .cancelUpdateComponent
  | .cancelUpdate _ => .cancelUpdate
  | .getStatus _ => .getStatus

/-- What a handler makes of a buffer. -/
def decodeAs (buffer : List UInt8) : RequestKind → Except PldmCodecError Request
  | .getTid => (GetTidRequest.decode buffer).map .getTid
  | .setTid => (SetTidRequest.decode buffer).map .setTid
  | .getPldmTypes => (GetPldmTypeRequest.decode buffer).map .getPldmTypes
  | .getPldmCommands => (GetPldmCommandsRequest.decode buffer).map .getPldmCommands
  | .getPldmVersion => (GetPldmVersionRequest.decode buffer).map .getPldmVersion
  | .queryDeviceIdentifiers =>
      (QueryDeviceIdentifiersRequest.decode buffer).map .queryDeviceIdentifiers
  | .getFirmwareParameters =>
      (GetFirmwareParametersRequest.decode buffer).map .getFirmwareParameters
  | .requestUpdate => (RequestUpdateRequest.decode buffer).map .requestUpdate
  | .passComponentTable => (PassComponentTableRequest.decode buffer).map .passComponentTable
  | .updateComponent => (UpdateComponentRequest.decode buffer).map .updateComponent
  | .activateFirmware => (ActivateFirmwareRequest.decode buffer).map .activateFirmware
  | .activatePendingComponentImage =>
      (ActivatePendingComponentImageRequest.decode buffer).map .activatePendingComponentImage
  | .updateSecurityRevision =>
      (UpdateSecurityRevisionRequest.decode buffer).map .updateSecurityRevision
  | .cancelUpdateComponent =>
      (CancelUpdateComponentRequest.decode buffer).map .cancelUpdateComponent
  | .cancelUpdate => (CancelUpdateRequest.decode buffer).map .cancelUpdate
  | .getStatus => (GetStatusRequest.decode buffer).map .getStatus

def hdr : Request → PldmMsgHeader
  | .getTid request => request.hdr
  | .setTid request => request.hdr
  | .getPldmTypes request => request.hdr
  | .getPldmCommands request => request.hdr
  | .getPldmVersion request => request.hdr
  | .queryDeviceIdentifiers request => request.hdr
  | .getFirmwareParameters request => request.hdr
  | .requestUpdate request => request.hdr
  | .passComponentTable request => request.hdr
  | .updateComponent request => request.hdr
  | .activateFirmware request => request.hdr
  | .activatePendingComponentImage request => request.hdr
  | .updateSecurityRevision request => request.hdr
  | .cancelUpdateComponent request => request.hdr
  | .cancelUpdate request => request.hdr
  | .getStatus request => request.hdr

/-- The bytes that are written. -/
def toBytes : Request → List UInt8
  | .getTid request => HeaderRequest.layout.toBytes request
  | .setTid request => SetTidRequest.layout.toBytes request
  | .getPldmTypes request => HeaderRequest.layout.toBytes request
  | .getPldmCommands request => GetPldmCommandsRequest.layout.toBytes request
  | .getPldmVersion request => GetPldmVersionRequest.layout.toBytes request
  | .queryDeviceIdentifiers request => HeaderRequest.layout.toBytes request
  | .getFirmwareParameters request => HeaderRequest.layout.toBytes request
  | .requestUpdate request => request.toBytes
  | .passComponentTable request => request.toBytes
  | .updateComponent request => request.toBytes
  | .activateFirmware request => ActivateFirmwareRequest.layout.toBytes request
  | .activatePendingComponentImage request => ComponentRequest.layout.toBytes request
  | .updateSecurityRevision request => ComponentRequest.layout.toBytes request
  | .cancelUpdateComponent request => HeaderRequest.layout.toBytes request
  | .cancelUpdate request => HeaderRequest.layout.toBytes request
  | .getStatus request => HeaderRequest.layout.toBytes request

section Built

variable (isAlphabetic : Char → Bool) (instanceId : UInt8) (messageType : PldmMsgType)

/-- A request as a constructor builds it. -/
inductive Built : Request → Prop
  | getTid : Built (.getTid (GetTidRequest.new instanceId messageType))
  | setTid (tid : UInt8) : Built (.setTid (SetTidRequest.new instanceId messageType tid))
  | getPldmTypes : Built (.getPldmTypes (GetPldmTypeRequest.new instanceId messageType))
  | getPldmCommands {pldmType : UInt8} {versionStr : String} {request : GetPldmCommandsRequest}
      (returned : GetPldmCommandsRequest.new instanceId messageType isAlphabetic pldmType
        versionStr = .ok request) : Built (.getPldmCommands request)
  | getPldmVersion (dataTransferHandle : UInt32) (transferOpFlag : TransferOperationFlag)
      (pldmType : PldmSupportedType) :
      Built (.getPldmVersion (GetPldmVersionRequest.new instanceId messageType dataTransferHandle
        transferOpFlag pldmType))
  | queryDeviceIdentifiers :
      Built (.queryDeviceIdentifiers (QueryDeviceIdentifiersRequest.new instanceId messageType))
  | getFirmwareParameters :
      Built (.getFirmwareParameters (GetFirmwareParametersRequest.new instanceId messageType))
  | requestUpdate (maxTransferSize : UInt32) (numOfComp : UInt16)
      (maxOutstandingTransferReq : UInt8) (pkgDataLen : UInt16) {strType fwStr : String}
      {version : PldmFirmwareString} (text : PldmFirmwareString.new strType fwStr = .ok version) :
      Built (.requestUpdate (RequestUpdateRequest.new instanceId messageType maxTransferSize
        numOfComp maxOutstandingTransferReq pkgDataLen version))
  | passComponentTable (transferFlag : TransferRespFlag)
      (compClassification compIdentifier : UInt16) (compClassificationIndex : UInt8)
      (compComparisonStamp : UInt32) {strType fwStr : String} {version : PldmFirmwareString}
      (text : PldmFirmwareString.new strType fwStr = .ok version) :
      Built (.passComponentTable (PassComponentTableRequest.new instanceId messageType
        transferFlag compClassification compIdentifier compClassificationIndex
        compComparisonStamp version))
  | updateComponent (compClassification compIdentifier : UInt16)
      (compClassificationIndex : UInt8) (compComparisonStamp compImageSize : UInt32)
      (updateOptionFlags : UpdateOptionFlags) {strType fwStr : String}
      {version : PldmFirmwareString} (text : PldmFirmwareString.new strType fwStr = .ok version) :
      Built (.updateComponent (UpdateComponentRequest.new instanceId messageType
        compClassification compIdentifier compClassificationIndex compComparisonStamp
        compImageSize updateOptionFlags version))
  | activateFirmware (activation : SelfContainedActivationRequest) :
      Built (.activateFirmware (ActivateFirmwareRequest.new instanceId messageType activation))
  | activatePendingComponentImage (compClassification compIdentifier : UInt16)
      (compClassificationIndex : UInt8) :
      Built (.activatePendingComponentImage (ActivatePendingComponentImageRequest.new instanceId
        messageType compClassification compIdentifier compClassificationIndex))
  | updateSecurityRevision (compClassification compIdentifier : UInt16)
      (compClassificationIndex : UInt8) :
      Built (.updateSecurityRevision (UpdateSecurityRevisionRequest.new instanceId messageType
        compClassification compIdentifier compClassificationIndex))
  | cancelUpdateComponent :
      Built (.cancelUpdateComponent (CancelUpdateComponentRequest.new instanceId messageType))
  | cancelUpdate : Built (.cancelUpdate (CancelUpdateRequest.new instanceId messageType))
  | getStatus : Built (.getStatus (GetStatusRequest.new instanceId messageType))

end Built

/-- The strings of a request have nothing stored behind what they announce. -/
def Canonical : Request → Prop
  | .requestUpdate request => request.Canonical
  | .passComponentTable request => request.Canonical
  | .updateComponent request => request.Canonical
  | _ => True

variable {isAlphabetic : Char → Bool} {instanceId : UInt8} {messageType : PldmMsgType}
  {request : Request}

theorem Built.canonical (built : Built isAlphabetic instanceId messageType request) :
    request.Canonical := by
  cases built with
  | requestUpdate _ _ _ _ text => exact PldmFirmwareString.canonical_of_new text
  | passComponentTable _ _ _ _ _ text => exact PldmFirmwareString.canonical_of_new text
  | updateComponent _ _ _ _ _ _ text => exact PldmFirmwareString.canonical_of_new text
  | _ => trivial

theorem encode_eq (canonical : request.Canonical) :
    request.encode = writeToPrefix request.toBytes := by
  cases request with
  | requestUpdate request => exact RequestUpdateRequest.encode_eq canonical
  | passComponentTable request => exact PassComponentTableRequest.encode_eq canonical
  | updateComponent request => exact UpdateComponentRequest.encode_eq canonical
  | _ => rfl

/-- A message starts with its header. -/
theorem toBytes_prefix (request : Request) : request.hdr.toBytes <+: request.toBytes := by
  refine ⟨request.toBytes.drop pldmMsgHeaderLen, ?_⟩
  cases request <;> rfl

section Decoding

variable {buffer : List UInt8} {kind : RequestKind}

/-- A decoder of packed records. -/
theorem decode_iff_of_packed {α : Type} {layout : Layout α}
    {decode : List UInt8 → Except PldmCodecError α} {value : α}
    (same : decode = Derived.decode layout) :
    decode buffer = .ok value ↔ True ∧ layout.toBytes value <+: buffer := by
  rw [same, true_and]
  exact Layout.decode_eq_ok_iff

/-- A decoder that has a scanner, whose messages are spelled in one way. -/
theorem decode_iff_of_spells {α : Type} {scanner : List UInt8 → Outcome PldmCodecError α}
    {decoded : Except PldmCodecError α} {toBytes : α → List UInt8} {canonical : α → Prop}
    {value : α} (spells : Scanner.Spells scanner toBytes canonical)
    (reads : ∀ value, canonical value → ∀ after, scanner (toBytes value ++ after) = .ok value)
    (same : scanner buffer = .ofExcept decoded) :
    decoded = .ok value ↔ canonical value ∧ toBytes value <+: buffer := by
  rw [← Outcome.ofExcept_eq_ok, ← same]
  constructor
  · intro scanned
    obtain ⟨hcanonical, after, hspelled⟩ := (spells buffer).of_ok scanned
    exact ⟨hcanonical, after, hspelled.symm⟩
  · rintro ⟨hcanonical, after, rfl⟩
    exact reads value hcanonical after

/-- What is decoded as one kind of request. -/
theorem map_eq_ok_iff {α : Type} {decoded : Except PldmCodecError α} {convert : α → Request}
    (kinds : ∀ request : Request, request.kind = kind ↔ ∃ value, convert value = request)
    (reads : ∀ value, decoded = .ok value ↔
      (convert value).Canonical ∧ (convert value).toBytes <+: buffer) :
    decoded.map convert = .ok request ↔
      request.kind = kind ∧ request.Canonical ∧ request.toBytes <+: buffer := by
  rw [kinds]
  constructor
  · intro mapped
    cases decoded with
    | error error => cases mapped
    | ok value =>
        obtain rfl := Except.ok.inj mapped
        exact ⟨⟨value, rfl⟩, (reads value).mp rfl⟩
  · rintro ⟨⟨value, rfl⟩, front⟩
    rw [(reads value).mpr front]
    rfl

/-- The device decodes what a buffer starts with, as the kind that it expects, and nothing
else. -/
theorem decodeAs_eq_ok_iff : decodeAs buffer kind = .ok request ↔
    request.kind = kind ∧ request.Canonical ∧ request.toBytes <+: buffer := by
  cases kind <;> apply map_eq_ok_iff (by rintro ⟨⟩ <;> simp [Request.kind]) <;> intro value
  case setTid => exact decode_iff_of_packed SetTidRequest.decode_eq
  case getPldmCommands => exact decode_iff_of_packed GetPldmCommandsRequest.decode_eq
  case getPldmVersion => exact decode_iff_of_packed GetPldmVersionRequest.decode_eq
  case activateFirmware => exact decode_iff_of_packed ActivateFirmwareRequest.decode_eq
  case activatePendingComponentImage => exact decode_iff_of_packed ComponentRequest.decode_eq
  case updateSecurityRevision => exact decode_iff_of_packed ComponentRequest.decode_eq
  case requestUpdate =>
      exact decode_iff_of_spells RequestUpdateRequest.spells (fun _ => RequestUpdateRequest.reads)
        (RequestUpdateRequest.decode_scanner buffer)
  case passComponentTable =>
      exact decode_iff_of_spells PassComponentTableRequest.spells
        (fun _ => PassComponentTableRequest.reads) (PassComponentTableRequest.decode_scanner buffer)
  case updateComponent =>
      exact decode_iff_of_spells UpdateComponentRequest.spells
        (fun _ => UpdateComponentRequest.reads) (UpdateComponentRequest.decode_scanner buffer)
  all_goals exact decode_iff_of_packed HeaderRequest.decode_eq

end Decoding

end Request

end PldmLib.Message
