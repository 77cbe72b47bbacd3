/-
# Command interface

The entry point of the library. A buffer holds one transport byte and behind it
the PLDM message; the responder writes its answer over the request. The message
passes a gate that looks at its header and at the capability table, and then
goes to the handler of its type and command. A flag marks the interface as busy
while that happens.

`CmdInterface` owns a control context and a device context. The device context
is public, so its own methods can be called between those of the interface.
-/

import PldmLib.FirmwareDevice.System
import PldmLib.Interface.ControlContext

namespace PldmLib.Interface

open PldmLib.Machine PldmLib.Protocol PldmLib.Message PldmLib.FirmwareDevice

/-! ## Transport framing -/

def mctpPldmMsgType : UInt8 := 0x01
def mctpCommonHeaderOffset : ℕ := 0
def pldmMsgOffset : ℕ := 1

/-- The transport byte: the integrity-check bit and seven bits of message type. -/
structure MctpCommonHeader where
  byte : UInt8
  deriving DecidableEq, Repr

namespace MctpCommonHeader

def ic (header : MctpCommonHeader) : UInt8 := header.byte / 128
def msgType (header : MctpCommonHeader) : UInt8 := header.byte % 128

end MctpCommonHeader

/-- Whether a buffer holds a PLDM message. -/
def extractPldmMsg (mctpPayload : List UInt8) : Except UtilError (List UInt8) :=
  if mctpPayload.length < 1 + pldmMsgHeaderLen then .error .invalidMctpPayloadLength
  else
    let mctpCommonHeader : MctpCommonHeader := ⟨mctpPayload.getD mctpCommonHeaderOffset 0⟩
    if mctpCommonHeader.ic ≠ 0 ∨ mctpCommonHeader.msgType ≠ mctpPldmMsgType then
      .error .invalidMctpMsgType
    else .ok (mctpPayload.drop pldmMsgOffset)

/-- Mark a buffer as holding a PLDM message. -/
def constructMctpPldmMsg (mctpPayload : List UInt8) : Except UtilError (List UInt8) :=
  if mctpPayload.length < 1 + pldmMsgHeaderLen then .error .invalidMctpPayloadLength
  else .ok (mctpPldmMsgType :: mctpPayload.drop pldmMsgOffset)

/-! ## State -/

structure CmdInterface where
  ctrlCtx : ControlContext
  fdCtx : FdInternal
  busy : Bool
  deriving DecidableEq

def CmdInterface.new (protocolCapabilities : List ProtocolCapability) : CmdInterface :=
  ⟨.new protocolCapabilities, .default, false⟩

/-- What one call of the interface reads and writes. -/
structure InterfaceState where
  interface : CmdInterface
  msgBuf : List UInt8
  log : List Invocation
  deriving DecidableEq

/-- `msg_buf[PLDM_MSG_OFFSET..]` -/
def InterfaceState.payload (state : InterfaceState) : List UInt8 :=
  state.msgBuf.drop pldmMsgOffset

/-- A payload put back behind the transport byte. -/
def InterfaceState.withPayload (state : InterfaceState) (payload : List UInt8) :
    InterfaceState :=
  { state with msgBuf := state.msgBuf.take pldmMsgOffset ++ payload }

@[simp] theorem InterfaceState.payload_cons (interface : CmdInterface) (first : UInt8)
    (payload : List UInt8) (log : List Invocation) :
    (⟨interface, first :: payload, log⟩ : InterfaceState).payload = payload := rfl

@[simp] theorem InterfaceState.withPayload_cons (interface : CmdInterface) (first : UInt8)
    (before after : List UInt8) (log : List Invocation) :
    (⟨interface, first :: before, log⟩ : InterfaceState).withPayload after =
      ⟨interface, first :: after, log⟩ := rfl

abbrev InterfaceCall := Call InterfaceState MsgHandlerError

namespace InterfaceCall

variable {α : Type}

def setBusy (busy : Bool) : InterfaceCall PUnit :=
  Call.update fun state => { state with interface := { state.interface with busy := busy } }

def onPayload (call : PayloadCall α) : InterfaceCall α :=
  call.on InterfaceState.payload InterfaceState.withPayload

def onCtrlCtx (call : CtrlCall α) : InterfaceCall α :=
  call.on (fun state => ⟨state.interface.ctrlCtx, state.payload⟩) fun state final =>
    { state.withPayload final.payload with
      interface := { state.interface with ctrlCtx := final.context } }

def onFdCtx (call : FdCall α) : InterfaceCall α :=
  call.on (fun state => ⟨state.interface.fdCtx, state.payload, state.log⟩) fun state final =>
    { state.withPayload final.payload with
      interface := { state.interface with fdCtx := final.internal }
      log := final.log }

/-- Hand the error of a call over as a value. -/
def attempt (call : InterfaceCall α) : InterfaceCall (Except MsgHandlerError α) :=
  Call.attemptOn id (fun _ reached => reached) call

end InterfaceCall

/-! ## Serving a request -/

namespace CmdInterface

open InterfaceCall

/-- The gate: a request of header version 0, of a type in the table, with a
command of the first entry of that type. The error is a completion code. -/
def preprocessRequest (context : ControlContext) (payload : List UInt8) :
    Except UInt8 (PldmSupportedType × UInt8) :=
  match PldmMsgHeader.decode payload with
  | .error _ => .error PldmBaseCompletionCode.invalidData.toU8
  | .ok header =>
      if !(header.isRequest && header.isHdrVerValid) then
        .error PldmBaseCompletionCode.invalidData.toU8
      else
        match PldmSupportedType.tryFrom header.pldmType with
        | .error _ => .error PldmBaseCompletionCode.invalidPldmType.toU8
        | .ok pldmType =>
            if !context.isSupportedType pldmType then
              .error PldmBaseCompletionCode.invalidPldmType.toU8
            else if context.isSupportedCommand pldmType header.cmdCode then
              .ok (pldmType, header.cmdCode)
            else .error PldmBaseCompletionCode.unsupportedPldmCmd.toU8

/-- The handler of a control command. -/
def controlHandler : PldmControlCmd → CtrlCall ℕ
  | .getTid => ControlContext.getTidRsp
  | .setTid => ControlContext.setTidRsp
  | .getPldmTypes => ControlContext.getPldmTypesRsp
  | .getPldmCommands => ControlContext.getPldmCommandsRsp
  | .getPldmVersion => ControlContext.getPldmVersionRsp

def processControlCmd (cmdOpcode : UInt8) : InterfaceCall ℕ :=
  match PldmControlCmd.tryFrom cmdOpcode with
  | .ok cmd => onCtrlCtx (controlHandler cmd)
  | .error _ =>
      onPayload (.generateFailureResponse PldmBaseCompletionCode.unsupportedPldmCmd.toU8)

/-- The handler of a firmware update command, for the commands that a device
answers. -/
def fwUpdateHandler : FwUpdateCmd → Option Handler
  | .queryDeviceIdentifiers => some .queryDevid
  | .getFirmwareParameters => some .getFirmwareParameters
  | .requestUpdate => some .requestUpdate
  | .passComponentTable => some .passComponent
  | .updateComponent => some .updateComponent
  | .activateFirmware => some .activateFirmware
  | .cancelUpdateComponent => some .cancelUpdateComponent
  | .cancelUpdate => some .cancelUpdate
  | .updateSecurityRevision => some .updateSecurityRevision
  | .getStatus => some .getStatus
  | .activatePendingComponentImage => some .activatePendingComponentImage
  | _ => none

def processFwUpdateCmd (ops : FdOps) (cmdOpcode : UInt8) : InterfaceCall ℕ :=
  match FwUpdateCmd.tryFrom cmdOpcode with
  | .ok cmd =>
      match fwUpdateHandler cmd with
      | some handler => onFdCtx (handler.run ops)
      | none =>
          onPayload (.generateFailureResponse PldmBaseCompletionCode.unsupportedPldmCmd.toU8)
  | .error _ =>
      onPayload (.generateFailureResponse PldmBaseCompletionCode.unsupportedPldmCmd.toU8)

/-- The handler of a request that passed the gate. The types other than the two
below are `unreachable!`. -/
def dispatch (ops : FdOps) (pldmType : PldmSupportedType) (cmdOpcode : UInt8) :
    InterfaceCall ℕ :=
  match pldmType with
  | .base => processControlCmd cmdOpcode
  | .fwUpdate => processFwUpdateCmd ops cmdOpcode
  | _ => Call.ofOutcome .panic

/-- Serve the request in the buffer while the busy flag is set. -/
def serve (ops : FdOps) : InterfaceCall ℕ := do
  let state ← Call.get
  -- `&mut msg_buf[PLDM_MSG_OFFSET..]`
  if state.msgBuf.length < pldmMsgOffset then
    Call.ofOutcome .panic
  else
    match preprocessRequest state.interface.ctrlCtx state.payload with
    | .error completionCode => do
        setBusy false
        let bytes ← onPayload (.generateFailureResponse completionCode)
        pure (pldmMsgOffset + bytes)
    | .ok (pldmType, cmdOpcode) => do
        let respLen ← attempt (dispatch ops pldmType cmdOpcode)
        setBusy false
        match respLen with
        | .ok bytes => pure (pldmMsgOffset + bytes)
        | .error error => Call.fail error

def processRequest (ops : FdOps) : InterfaceCall ℕ := do
  if (← Call.get).interface.busy then
    Call.fail .notReady
  else do
    setBusy true
    serve ops

def handleResponderMsg (ops : FdOps) : InterfaceCall ℕ := processRequest ops

/-! ## The device's own requests -/

/-- The length handed back is that of the message, without the transport byte. -/
def generateInitiatorRequest (profile : Profile) (ops : FdOps) :
    InterfaceCall (Option ℕ) := do
  match constructMctpPldmMsg (← Call.get).msgBuf with
  | .error error => Call.fail (.util error)
  | .ok marked => do
      Call.update fun state => { state with msgBuf := marked }
      let pldmLen ← onFdCtx (FdContext.fdProgress profile ops)
      pure (if 0 < pldmLen then some pldmLen else none)

def processInitiatorResponse (ops : FdOps) : InterfaceCall PUnit := do
  match extractPldmMsg (← Call.get).msgBuf with
  | .error error => Call.fail (.util error)
  | .ok _ => onFdCtx (FdContext.handleResponse ops)

def isUpdateMode : InterfaceCall Bool := do pure (← Call.get).interface.fdCtx.isUpdateMode

end CmdInterface

/-! ## Runs of the interface -/

/-- A call of a public method of the interface or of one of its contexts. -/
inductive InterfaceOperation
  | handleResponderMsg (msgBuf : List UInt8)
  | generateInitiatorRequest (msgBuf : List UInt8)
  | processInitiatorResponse (msgBuf : List UInt8)
  | isUpdateMode
  | fdCtx (operation : FdOperation)
  | setTid (tid : UInt8)
  deriving DecidableEq, Repr

/-- The buffer a call gets. The device context is handed its payload without a
transport byte in front, which does not exist then and is nil here. -/
def InterfaceOperation.msgBuf : InterfaceOperation → List UInt8
  | .handleResponderMsg msgBuf => msgBuf
  | .generateInitiatorRequest msgBuf => msgBuf
  | .processInitiatorResponse msgBuf => msgBuf
  | .fdCtx operation => 0 :: operation.payload
  | _ => []

inductive InterfaceReturned
  | length (count : ℕ)
  | request (count : Option ℕ)
  | done
  | flag (value : Bool)
  | fdCtx (value : Returned)
  deriving DecidableEq, Repr

def InterfaceOperation.run (profile : Profile) (ops : FdOps) :
    InterfaceOperation → InterfaceCall InterfaceReturned
  | .handleResponderMsg _ => do pure (.length (← CmdInterface.handleResponderMsg ops))
  | .generateInitiatorRequest _ => do
      pure (.request (← CmdInterface.generateInitiatorRequest profile ops))
  | .processInitiatorResponse _ => do
      CmdInterface.processInitiatorResponse ops
      pure .done
  | .isUpdateMode => do pure (.flag (← CmdInterface.isUpdateMode))
  | .fdCtx operation => do
      pure (.fdCtx (← InterfaceCall.onFdCtx (operation.run profile ops)))
  | .setTid tid => do
      InterfaceCall.onCtrlCtx (CtrlCall.modify (ControlContext.setTid tid))
      pure .done

structure InterfaceInput where
  operation : InterfaceOperation
  ops : FdOps

structure InterfaceOutput where
  outcome : Outcome MsgHandlerError InterfaceReturned
  interface : CmdInterface
  msgBuf : List UInt8
  log : List Invocation
  deriving DecidableEq

def interfaceStep (profile : Profile) (interface : CmdInterface) (input : InterfaceInput) :
    InterfaceOutput :=
  let result := input.operation.run profile input.ops ⟨interface, input.operation.msgBuf, []⟩
  ⟨result.1, result.2.interface, result.2.msgBuf, result.2.log⟩

/-- The interface with a capability table. -/
def interfaceSystem (profile : Profile) (protocolCapabilities : List ProtocolCapability) :
    System CmdInterface InterfaceInput InterfaceOutput where
  init := .new protocolCapabilities
  step := interfaceStep profile
  next output :=
    match output.outcome with
    | .panic => none
    | _ => some output.interface

abbrev InterfaceEvent := Event CmdInterface InterfaceInput InterfaceOutput

/-- A run of an interface from its construction on. -/
abbrev InterfaceTrace (profile : Profile) (protocolCapabilities : List ProtocolCapability)
    (events : List InterfaceEvent) (interface : CmdInterface) : Prop :=
  (interfaceSystem profile protocolCapabilities).Trace (.new protocolCapabilities) events
    interface

/-- The event of a call. The table was fixed with the interface. -/
def interfaceEvent (profile : Profile) (interface : CmdInterface) (input : InterfaceInput) :
    InterfaceEvent := ⟨interface, input, interfaceStep profile interface input⟩

end PldmLib.Interface
