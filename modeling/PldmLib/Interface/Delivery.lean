/-
# Requests on their way to a handler

A request is built by the agent's copy of the library and encoded into a buffer. The
interface of the device looks at the header alone and picks a handler, and the handler
decodes the whole buffer. Every constructor gives its message the header by which the
interface finds the handler that decodes this very type, so the handler acts on what was
built, provided that it was built as a request and that the table lists it.
-/

import PldmLib.Interface.Availability
import PldmLib.Message.Requests

namespace PldmLib.Interface

open PldmLib.Machine PldmLib.Protocol PldmLib.Message PldmLib.FirmwareDevice

/-! ## The handlers of the requests -/

/-- The handler whose decoder is that of the kind. -/
def servedBy : RequestKind → PldmControlCmd ⊕ Handler
  | .getTid => .inl .getTid
  | .setTid => .inl .setTid
  | .getPldmTypes => .inl .getPldmTypes
  | .getPldmCommands => .inl .getPldmCommands
  | .getPldmVersion => .inl .getPldmVersion
  | .queryDeviceIdentifiers => .inr .queryDevid
  | .getFirmwareParameters => .inr .getFirmwareParameters
  | .requestUpdate => .inr .requestUpdate
  | .passComponentTable => .inr .passComponent
  | .updateComponent => .inr .updateComponent
  | .activateFirmware => .inr .activateFirmware
  | .activatePendingComponentImage => .inr .activatePendingComponentImage
  | .updateSecurityRevision => .inr .updateSecurityRevision
  | .cancelUpdateComponent => .inr .cancelUpdateComponent
  | .cancelUpdate => .inr .cancelUpdate
  | .getStatus => .inr .getStatus

/-- The route to a handler. -/
def routeTo : PldmControlCmd ⊕ Handler → Route
  | .inl cmd => .control cmd
  | .inr handler => .device handler

/-- The type and the command under which the table lists a handler. -/
def listedType : PldmControlCmd ⊕ Handler → PldmSupportedType
  | .inl _ => .base
  | .inr _ => .fwUpdate

def listedCommand : PldmControlCmd ⊕ Handler → UInt8
  | .inl cmd => cmd.toU8
  | .inr handler => (handledCommand handler).toU8

/-- The way of a message with the header of a constructor. The gate tells requests by one
bit, which asynchronous notifications have too. -/
def admission (context : ControlContext) (messageType : PldmMsgType)
    (handler : PldmControlCmd ⊕ Handler) : Route :=
  if !(messageType == .request || messageType == .asyncRequestNotify) then
    .refused PldmBaseCompletionCode.invalidData.toU8
  else if !context.isSupportedType (listedType handler) then
    .refused PldmBaseCompletionCode.invalidPldmType.toU8
  else if context.isSupportedCommand (listedType handler) (listedCommand handler) then
    routeTo handler
  else .refused PldmBaseCompletionCode.unsupportedPldmCmd.toU8

section Headers

variable {isAlphabetic : Char → Bool} {instanceId : UInt8} {messageType : PldmMsgType}
  {request : Request}

/-- The header of a constructor names the handler of the kind. -/
theorem hdr_of_built (built : request.Built isAlphabetic instanceId messageType) :
    request.hdr = .new instanceId messageType (listedType (servedBy request.kind))
      (listedCommand (servedBy request.kind)) := by
  cases built with
  | getPldmCommands returned =>
      unfold GetPldmCommandsRequest.new at returned
      split at returned
      · obtain rfl := Outcome.ok.inj returned
        rfl
      · cases returned
  | _ => rfl

theorem pldmType_new (cmdCode : UInt8) (pldmType : PldmSupportedType) :
    (PldmMsgHeader.new instanceId messageType pldmType cmdCode).pldmType = pldmType.toU8 := by
  cases pldmType <;> rfl

theorem isHdrVerValid_new (cmdCode : UInt8) (pldmType : PldmSupportedType) :
    (PldmMsgHeader.new instanceId messageType pldmType cmdCode).isHdrVerValid = true := by
  simp only [PldmMsgHeader.isHdrVerValid, PldmMsgHeader.hdrVer, PldmMsgHeader.new]
  cases pldmType <;> decide

/-- The request bit is the upper bit of the message type. -/
theorem rq_new (cmdCode : UInt8) (pldmType : PldmSupportedType) :
    (PldmMsgHeader.new instanceId messageType pldmType cmdCode).rq = messageType.toU8 / 2 := by
  have hbyte : instanceId.toNat < 256 := instanceId.toNat_lt
  cases messageType <;>
    simp only [PldmMsgHeader.rq, PldmMsgHeader.new, PldmMsgType.toU8, ← UInt8.toNat_inj,
      UInt8.toNat_div, UInt8.toNat_add, UInt8.toNat_mul, UInt8.toNat_mod, UInt8.reduceToNat] <;>
    omega

theorem routeOf_listed (handler : PldmControlCmd ⊕ Handler) :
    routeOf (listedType handler) (listedCommand handler) = routeTo handler := by
  cases handler with
  | inl cmd => cases cmd <;> rfl
  | inr handler => cases handler <;> rfl

/-- The gate and the dispatch look at the header of a message only. -/
theorem route_of_hdr {context : ControlContext} {payload : List UInt8}
    {handler : PldmControlCmd ⊕ Handler}
    (decoded : PldmMsgHeader.decode payload =
      .ok (.new instanceId messageType (listedType handler) (listedCommand handler))) :
    route context payload = admission context messageType handler := by
  have hrequest : (PldmMsgHeader.new instanceId messageType (listedType handler)
      (listedCommand handler)).isRequest =
        (messageType == .request || messageType == .asyncRequestNotify) := by
    rw [PldmMsgHeader.isRequest, rq_new]
    cases messageType <;> decide
  have hcommand : (PldmMsgHeader.new instanceId messageType (listedType handler)
      (listedCommand handler)).cmdCode = listedCommand handler := rfl
  simp only [route, CmdInterface.preprocessRequest, decoded, hrequest, isHdrVerValid_new,
    Bool.and_true, pldmType_new, PldmSupportedType.tryFrom_toU8, hcommand, admission]
  cases messageType == .request || messageType == .asyncRequestNotify with
  | false => rfl
  | true =>
      cases context.isSupportedType (listedType handler) with
      | false => rfl
      | true =>
          cases context.isSupportedCommand (listedType handler) (listedCommand handler) with
          | false => rfl
          | true => exact routeOf_listed handler

end Headers

/-! ## Delivery -/

/-- What becomes of a request in the buffer that it was encoded into. -/
structure Delivered (context : ControlContext) (messageType : PldmMsgType) (request : Request)
    (written : List UInt8) : Prop where
  route : route context written = admission context messageType (servedBy request.kind)
  understood : Request.decodeAs written request.kind = .ok request

/-- The device that the table admits a request to acts on what was built: the handler that the
interface finds is the one whose decoder gives the request back, whatever the buffer held
before. -/
theorem request_delivered {isAlphabetic : Char → Bool} {instanceId : UInt8}
    {messageType : PldmMsgType} {request : Request}
    (built : request.Built isAlphabetic instanceId messageType) {buffer written : List UInt8}
    {count : ℕ} (encoded : request.encode buffer = (.ok count, written))
    (context : ControlContext) : Delivered context messageType request written := by
  have hcanonical := built.canonical
  rw [Request.encode_eq hcanonical] at encoded
  obtain ⟨_, rfl, hwritten⟩ := writeToPrefix_ok encoded
  have hfront : request.toBytes <+: written := by
    rw [← hwritten]
    exact List.take_prefix _ _
  constructor
  · apply route_of_hdr
    rw [← hdr_of_built built]
    exact PldmMsgHeader.decode_eq_ok_iff.mpr (request.toBytes_prefix.trans hfront)
  · exact Request.decodeAs_eq_ok_iff.mpr ⟨rfl, hcanonical, hfront⟩

/-- An update of one component, whose version string has three characters. -/
theorem request_delivered_update :
    ∃ request written, Request.Built Char.isAlpha 1 .request request ∧
      request.encode (List.replicate 20 0xFF) = (.ok 17, written) ∧
      ∀ context, Delivered context .request request written := by
  have text : PldmFirmwareString.new "ASCII" "1.0" =
      .ok ⟨1, 3, FixedBytes.padTo _ [0x31, 0x2E, 0x30]⟩ := by
    decide +kernel
  have built := @Request.Built.requestUpdate Char.isAlpha 1 .request 512 1 1 0 _ _ _ text
  have encoded : (Request.requestUpdate (RequestUpdateRequest.new 1 .request 512 1 1 0
      ⟨1, 3, FixedBytes.padTo _ [0x31, 0x2E, 0x30]⟩)).encode (List.replicate 20 0xFF) =
        (.ok 17, [129, 5, 16, 0, 2, 0, 0, 1, 0, 1, 0, 0, 1, 3, 49, 46, 48, 0xFF, 0xFF, 0xFF]) := by
    decide +kernel
  exact ⟨_, _, built, encoded, request_delivered built encoded⟩

end PldmLib.Interface
