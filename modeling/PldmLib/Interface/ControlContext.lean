/-
# Control context

The responder of the base commands. Its only state is the terminus ID; the
capabilities are a table that is fixed when the context is built. A type may
have several entries, one for each version of its protocol, and which entry a
question is about depends on the question: a command is looked up in the first
entry of its type, the versions are collected from all of them.
-/

import PldmLib.FirmwareDevice.Context
import PldmLib.Message.Control

namespace PldmLib.Interface

open PldmLib.Machine PldmLib.Protocol PldmLib.Message PldmLib.FirmwareDevice

/-! ## The capability table -/

structure ProtocolCapability where
  pldmType : PldmSupportedType
  protocolVersion : UInt32
  supportedCommands : List UInt8
  deriving DecidableEq, Repr

def unassignedTid : ℕ := 0

/-- The terminus ID is kept in a `usize`. -/
structure ControlContext where
  tid : ℕ
  capabilities : List ProtocolCapability
  deriving DecidableEq, Repr

namespace ControlContext

def new (capabilities : List ProtocolCapability) : ControlContext := ⟨unassignedTid, capabilities⟩

def getTid (context : ControlContext) : UInt8 := UInt8.ofNat context.tid

def setTid (tid : UInt8) (context : ControlContext) : ControlContext :=
  { context with tid := tid.toNat }

def getSupportedCommands (context : ControlContext) (pldmType : PldmSupportedType)
    (protocolVersion : UInt32) : Option (List UInt8) :=
  (context.capabilities.find? fun cap =>
    cap.pldmType == pldmType && cap.protocolVersion == protocolVersion).map
      (·.supportedCommands)

/-- The versions of a type that find room in an array of the given size. -/
def getProtocolVersions (context : ControlContext) (pldmType : PldmSupportedType)
    (room : ℕ) : List UInt32 :=
  ((context.capabilities.filter fun cap => cap.pldmType == pldmType).map
    (·.protocolVersion)).take room

/-- The loop of `getSupportedTypes`, which ends when a new type finds no room. -/
def collectTypes (room : ℕ) : List ProtocolCapability → List UInt8 → List UInt8
  | [], types => types
  | cap :: rest, types =>
      if cap.pldmType.toU8 ∈ types then collectTypes room rest types
      else if types.length < room then collectTypes room rest (types ++ [cap.pldmType.toU8])
      else types

def getSupportedTypes (context : ControlContext) (room : ℕ) : List UInt8 :=
  collectTypes room context.capabilities []

def isSupportedType (context : ControlContext) (pldmType : PldmSupportedType) : Bool :=
  context.capabilities.any fun cap => cap.pldmType == pldmType

def isSupportedVersion (context : ControlContext) (pldmType : PldmSupportedType)
    (protocolVersion : UInt32) : Bool :=
  context.capabilities.any fun cap =>
    cap.pldmType == pldmType && cap.protocolVersion == protocolVersion

def isSupportedCommand (context : ControlContext) (pldmType : PldmSupportedType)
    (cmd : UInt8) : Bool :=
  match context.capabilities.find? fun cap => cap.pldmType == pldmType with
  | some cap => cap.supportedCommands.contains cmd
  | none => false

/-- A supported version has an entry of its own. -/
theorem getSupportedCommands_of_version {context : ControlContext}
    {pldmType : PldmSupportedType} {protocolVersion : UInt32}
    (supported : context.isSupportedVersion pldmType protocolVersion = true) :
    ∃ commands, context.getSupportedCommands pldmType protocolVersion = some commands := by
  obtain ⟨cap, member, named⟩ := List.any_eq_true.mp supported
  unfold getSupportedCommands
  cases hfind : context.capabilities.find? fun cap =>
      cap.pldmType == pldmType && cap.protocolVersion == protocolVersion with
  | none => exact absurd named (List.find?_eq_none.mp hfind cap member)
  | some found => exact ⟨found.supportedCommands, rfl⟩

/-- Whatever is collected names a type. -/
theorem mem_collectTypes {room : ℕ} {caps : List ProtocolCapability} {types : List UInt8}
    {value : UInt8} (member : value ∈ collectTypes room caps types) :
    value ∈ types ∨ ∃ pldmType : PldmSupportedType, value = pldmType.toU8 := by
  induction caps generalizing types with
  | nil => exact .inl member
  | cons cap rest ih =>
      unfold collectTypes at member
      split at member
      · exact ih member
      · split at member
        · rcases ih member with earlier | known
          · rcases List.mem_append.mp earlier with before | added
            · exact .inl before
            · exact .inr ⟨cap.pldmType, List.mem_singleton.mp added⟩
          · exact .inr known
        · exact .inl member

end ControlContext

/-! ## Calls on a payload

The failure response is shared with the firmware device: there it runs on the
payload of the device context, here on that of the control context. -/

/-- A call that reads and writes a payload and nothing else. -/
abbrev PayloadCall := Call (List UInt8) MsgHandlerError

def PayloadCall.encode (encoder : Encoder) : PayloadCall ℕ := Call.mapErr .codec encoder

def PayloadCall.generateFailureResponse (completionCode : UInt8) : PayloadCall ℕ := do
  match PldmMsgHeader.decode (← Call.get) with
  | .error error => Call.fail (.codec error)
  | .ok header =>
      PayloadCall.encode (writeToPrefix
        (PldmFailureResponse.toBytes ⟨header.intoResponse, completionCode⟩))

/-- What one call of a control handler reads and writes. -/
structure CtrlState where
  context : ControlContext
  payload : List UInt8
  deriving DecidableEq

abbrev CtrlCall := Call CtrlState MsgHandlerError

namespace CtrlCall

variable {α : Type}

def context : CtrlCall ControlContext := do pure (← Call.get).context

def modify (change : ControlContext → ControlContext) : CtrlCall PUnit :=
  Call.update fun state => { state with context := change state.context }

def onPayload (call : PayloadCall α) : CtrlCall α :=
  call.on CtrlState.payload fun state payload => { state with payload := payload }

def encode (encoder : Encoder) : CtrlCall ℕ := onPayload (.encode encoder)

def generateFailureResponse (completionCode : UInt8) : CtrlCall ℕ :=
  onPayload (.generateFailureResponse completionCode)

/-- Decode the request in the payload and go on with it, or refuse it. -/
def withRequest {β : Type} (decode : List UInt8 → Except PldmCodecError β)
    (handle : β → CtrlCall ℕ) : CtrlCall ℕ := do
  match decode (← Call.get).payload with
  | .error error => generateFailureResponse (FdCall.decodeFailureCode error)
  | .ok request => handle request

/-- Encode a response, and refuse the request if it does not fit. -/
def respond (encoder : Encoder) : CtrlCall ℕ := do
  match ← (Call.attemptOn CtrlState.payload
      (fun state payload => { state with payload := payload }) encoder :
        CtrlCall (Except PldmCodecError ℕ)) with
  | .ok bytes => pure bytes
  | .error _ => generateFailureResponse PldmBaseCompletionCode.invalidLength.toU8

/-- `PldmSupportedType::try_from` and the table's answer, in the two handlers that
name a type in their request. -/
def withSupportedType (value : UInt8) (handle : PldmSupportedType → CtrlCall ℕ) :
    CtrlCall ℕ := do
  match PldmSupportedType.tryFrom value with
  | .error _ =>
      generateFailureResponse PldmControlCompletionCode.invalidPldmTypeInRequestData.toU8
  | .ok pldmType =>
      if !(← context).isSupportedType pldmType then
        generateFailureResponse PldmControlCompletionCode.invalidPldmTypeInRequestData.toU8
      else handle pldmType

/-- A response that was constructed, or the panic of its construction. -/
def built (response : Outcome PldmCodecError α) : CtrlCall α :=
  Call.ofOutcome (response.mapErr .codec)

end CtrlCall

/-! ## The handlers -/

namespace ControlContext

open CtrlCall

def getTidRsp : CtrlCall ℕ :=
  withRequest GetTidRequest.decode fun request => do
    let response := GetTidResponse.new request.hdr.instanceId (← context).getTid
      PldmBaseCompletionCode.success.toU8
    encode response.encode

/-- The terminus ID is set before the response is encoded. -/
def setTidRsp : CtrlCall ℕ :=
  withRequest SetTidRequest.decode fun request => do
    modify (setTid request.tid)
    let response := SetTidResponse.new request.hdr.instanceId
      PldmBaseCompletionCode.success.toU8
    encode response.encode

def getPldmTypesRsp : CtrlCall ℕ :=
  withRequest GetPldmTypeRequest.decode fun request => do
    let types := (← context).getSupportedTypes 6
    let response ← built (GetPldmTypeResponse.new request.hdr.instanceId
      PldmBaseCompletionCode.success.toU8 types)
    encode response.encode

def getPldmCommandsRsp : CtrlCall ℕ :=
  withRequest GetPldmCommandsRequest.decode fun request =>
    withSupportedType request.pldmType fun pldmType => do
      if !(← context).isSupportedVersion pldmType request.protocolVersion then
        generateFailureResponse
          PldmControlCompletionCode.invalidPldmVersionInRequestData.toU8
      else
        match (← context).getSupportedCommands pldmType request.protocolVersion with
        | none => Call.ofOutcome .panic
        | some cmds => do
            let response ← built (GetPldmCommandsResponse.new request.hdr.instanceId
              PldmBaseCompletionCode.success.toU8 cmds)
            respond response.encode

def getPldmVersionRsp : CtrlCall ℕ :=
  withRequest GetPldmVersionRequest.decode fun request =>
    withSupportedType request.pldmType fun pldmType => do
      if request.transferOpFlag ≠ TransferOperationFlag.getFirstPart.toU8 then
        generateFailureResponse PldmControlCompletionCode.invalidTransferOperationFlag.toU8
      else
        match (← context).getProtocolVersions pldmType 2 with
        | [] => generateFailureResponse PldmBaseCompletionCode.error.toU8
        | version :: _ =>
            let response : GetPldmVersionResponse :=
              ⟨request.hdr.intoResponse, PldmBaseCompletionCode.success.toU8, 0,
                TransferRespFlag.startAndEnd.toU8, version⟩
            respond response.encode

end ControlContext

end PldmLib.Interface
