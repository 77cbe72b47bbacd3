/-
# Messages the firmware device initiates

During an update the device itself sends requests: it asks for image data and
reports how the transfer, the verification and the application ended. The three
result enumerations are stored by the device as raw bytes and, for the transfer,
turned back into the enumeration before the report is sent.

`FdRequest.parse` is how the update agent reads such a request. It is stated on
its own, from the wire layout, and the lemmas at the end say that it reads what
the encoders here write.
-/

import PldmLib.Protocol.FirmwareUpdate

namespace PldmLib.Message

open PldmLib.Machine PldmLib.Protocol

/-! ## Results -/

inductive TransferResult
  | transferSuccess
  | transferErrorImageCorrupt
  | transferErrorVersionMismatch
  | fdAbortedTransfer
  | transferTimeOut
  | transferGenericError
  | fdAbortedTransferLowPowerState
  | fdAbortedTransferResetNeeded
  | fdAbortedTransferStorageIssue
  | fdAbortedTransferInvalidComponentOpaqueData
  | fdAbortedTransferDownstreamDeviceIssue
  | fdAbortedTransferSecurityRevisionError
  | vendorDefined
  deriving DecidableEq, Repr

namespace TransferResult

def toU8 : TransferResult → UInt8
  | .transferSuccess => 0x00
  | .transferErrorImageCorrupt => 0x01
  | .transferErrorVersionMismatch => 0x02
  | .fdAbortedTransfer => 0x03
  | .transferTimeOut => 0x09
  | .transferGenericError => 0x0a
  | .fdAbortedTransferLowPowerState => 0x0b
  | .fdAbortedTransferResetNeeded => 0x0c
  | .fdAbortedTransferStorageIssue => 0x0d
  | .fdAbortedTransferInvalidComponentOpaqueData => 0x0e
  | .fdAbortedTransferDownstreamDeviceIssue => 0x0f
  | .fdAbortedTransferSecurityRevisionError => 0x10
  | .vendorDefined => 0x11

def tryFrom : UInt8 → Except PldmError TransferResult
  | 0x00 => .ok .transferSuccess
  | 0x01 => .ok .transferErrorImageCorrupt
  | 0x02 => .ok .transferErrorVersionMismatch
  | 0x03 => .ok .fdAbortedTransfer
  | 0x09 => .ok .transferTimeOut
  | 0x0a => .ok .transferGenericError
  | 0x0b => .ok .fdAbortedTransferLowPowerState
  | 0x0c => .ok .fdAbortedTransferResetNeeded
  | 0x0d => .ok .fdAbortedTransferStorageIssue
  | 0x0e => .ok .fdAbortedTransferInvalidComponentOpaqueData
  | 0x0f => .ok .fdAbortedTransferDownstreamDeviceIssue
  | 0x10 => .ok .fdAbortedTransferSecurityRevisionError
  | value =>
      if 0x70 ≤ value ∧ value ≤ 0x8f then .ok .vendorDefined
      else .error .invalidTransferResult

/-- A result is read back from its byte, except for the vendor's own. -/
theorem tryFrom_toU8 {result : TransferResult} :
    tryFrom result.toU8 = .ok result ↔ result ≠ .vendorDefined := by
  cases result <;> decide

theorem eq_of_tryFrom_toU8 {result known : TransferResult}
    (reads : tryFrom result.toU8 = .ok known) : result = known := by
  by_cases vendor : result = .vendorDefined
  · rw [vendor] at reads
    cases reads
  · exact Except.ok.inj ((tryFrom_toU8.mpr vendor).symm.trans reads)

end TransferResult

inductive VerifyResult
  | verifySuccess
  | verifyErrorVerificationFailure
  | verifyErrorVersionMismatch
  | verifyFailedFdSecurityChecks
  | verifyErrorImageIncomplete
  | verifyTimeOut
  | verifyGenericError
  | vendorDefined
  deriving DecidableEq, Repr

namespace VerifyResult

def default : VerifyResult := .verifyGenericError

def toU8 : VerifyResult → UInt8
  | .verifySuccess => 0x00
  | .verifyErrorVerificationFailure => 0x01
  | .verifyErrorVersionMismatch => 0x02
  | .verifyFailedFdSecurityChecks => 0x03
  | .verifyErrorImageIncomplete => 0x04
  | .verifyTimeOut => 0x09
  | .verifyGenericError => 0x0a
  | .vendorDefined => 0x0b

def tryFrom : UInt8 → Except PldmError VerifyResult
  | 0x00 => .ok .verifySuccess
  | 0x01 => .ok .verifyErrorVerificationFailure
  | 0x02 => .ok .verifyErrorVersionMismatch
  | 0x03 => .ok .verifyFailedFdSecurityChecks
  | 0x04 => .ok .verifyErrorImageIncomplete
  | 0x09 => .ok .verifyTimeOut
  | 0x0a => .ok .verifyGenericError
  | value =>
      if 0x90 ≤ value ∧ value ≤ 0xaf then .ok .vendorDefined
      else .error .invalidVerifyResult

/-- A result is read back from its byte, except for the vendor's own. -/
theorem tryFrom_toU8 {result : VerifyResult} :
    tryFrom result.toU8 = .ok result ↔ result ≠ .vendorDefined := by
  cases result <;> decide

end VerifyResult

inductive ApplyResult
  | applySuccess
  | applySuccessWithActivationMethod
  | applyFailureMemoryIssue
  | applyTimeOut
  | applyGenericError
  | vendorDefined
  deriving DecidableEq, Repr

namespace ApplyResult

def default : ApplyResult := .applyGenericError

def toU8 : ApplyResult → UInt8
  | .applySuccess => 0x00
  | .applySuccessWithActivationMethod => 0x01
  | .applyFailureMemoryIssue => 0x02
  | .applyTimeOut => 0x09
  | .applyGenericError => 0x0a
  | .vendorDefined => 0x0b

def tryFrom : UInt8 → Except PldmError ApplyResult
  | 0x00 => .ok .applySuccess
  | 0x01 => .ok .applySuccessWithActivationMethod
  | 0x02 => .ok .applyFailureMemoryIssue
  | 0x09 => .ok .applyTimeOut
  | 0x0a => .ok .applyGenericError
  | value =>
      if 0xb0 ≤ value ∧ value ≤ 0xcf then .ok .vendorDefined
      else .error .invalidApplyResult

/-- A result is read back from its byte, except for the vendor's own. -/
theorem tryFrom_toU8 {result : ApplyResult} :
    tryFrom result.toU8 = .ok result ↔ result ≠ .vendorDefined := by
  cases result <;> decide

end ApplyResult

/-! ## Requests -/

structure RequestFirmwareDataRequest where
  hdr : PldmMsgHeader
  offset : UInt32
  length : UInt32
  deriving DecidableEq, Repr

namespace RequestFirmwareDataRequest

def new (instanceId : UInt8) (msgType : PldmMsgType) (offset length : UInt32) :
    RequestFirmwareDataRequest where
  hdr := .new instanceId msgType .fwUpdate FwUpdateCmd.requestFirmwareData.toU8
  offset := offset
  length := length

def toBytes (request : RequestFirmwareDataRequest) : List UInt8 :=
  request.hdr.toBytes ++ u32Bytes request.offset ++ u32Bytes request.length

def encode (request : RequestFirmwareDataRequest) : Encoder := writeToPrefix request.toBytes

end RequestFirmwareDataRequest

/-- A report of a result byte: the layout shared by `TransferCompleteRequest`
and `VerifyCompleteRequest`. -/
structure CompleteRequest where
  hdr : PldmMsgHeader
  result : UInt8
  deriving DecidableEq, Repr

def CompleteRequest.toBytes (request : CompleteRequest) : List UInt8 :=
  request.hdr.toBytes ++ [request.result]

def CompleteRequest.encode (request : CompleteRequest) : Encoder :=
  writeToPrefix request.toBytes

def TransferCompleteRequest.new (instanceId : UInt8) (msgType : PldmMsgType)
    (transferResult : TransferResult) : CompleteRequest where
  hdr := .new instanceId msgType .fwUpdate FwUpdateCmd.transferComplete.toU8
  result := transferResult.toU8

def VerifyCompleteRequest.new (instanceId : UInt8) (msgType : PldmMsgType)
    (verifyResult : VerifyResult) : CompleteRequest where
  hdr := .new instanceId msgType .fwUpdate FwUpdateCmd.verifyComplete.toU8
  result := verifyResult.toU8

structure ApplyCompleteRequest where
  hdr : PldmMsgHeader
  applyResult : UInt8
  compActivationMethodsModification : UInt16
  deriving DecidableEq, Repr

namespace ApplyCompleteRequest

def new (instanceId : UInt8) (msgType : PldmMsgType) (applyResult : ApplyResult)
    (compActivationMethods : UInt16) : ApplyCompleteRequest where
  hdr := .new instanceId msgType .fwUpdate FwUpdateCmd.applyComplete.toU8
  applyResult := applyResult.toU8
  compActivationMethodsModification := compActivationMethods

def toBytes (request : ApplyCompleteRequest) : List UInt8 :=
  request.hdr.toBytes ++ [request.applyResult] ++
    u16Bytes request.compActivationMethodsModification

def encode (request : ApplyCompleteRequest) : Encoder := writeToPrefix request.toBytes

end ApplyCompleteRequest

/-! ## The firmware data response -/

/-- The part of a firmware data response in front of the data. -/
structure RequestFirmwareDataResponseFixed where
  hdr : PldmMsgHeader
  completionCode : UInt8
  deriving DecidableEq, Repr

namespace RequestFirmwareDataResponseFixed

def size : ℕ := 4

def reader : Decoder RequestFirmwareDataResponseFixed := do
  let hdr ← PldmMsgHeader.reader
  let completionCode ← Decoder.u8
  pure ⟨hdr, completionCode⟩

def decode (buffer : List UInt8) : Except PldmCodecError RequestFirmwareDataResponseFixed :=
  Reader.decode reader buffer

theorem decode_eq (buffer : List UInt8) :
    decode buffer = match buffer with
      | byte0 :: byte1 :: byte2 :: code :: _ => .ok ⟨⟨byte0, byte1, byte2⟩, code⟩
      | _ => .error .bufferTooShort := by
  match buffer with
  | byte0 :: byte1 :: byte2 :: code :: rest =>
      simp [decode, reader, PldmMsgHeader.reader, Reader.decode, Decoder.u8, Reader.number,
        Reader.bytes, leValue, Reader.bind_apply, Reader.map_apply, Except.bind, Except.map]
  | [] => rfl
  | [_] => rfl
  | [_, _] => rfl
  | [_, _, _] => rfl

/-- A buffer with a fourth byte is decoded, and that byte is the completion code. -/
theorem decode_of_code {buffer : List UInt8} {code : UInt8} (found : buffer[3]? = some code) :
    ∃ hdr, decode buffer = .ok ⟨hdr, code⟩ := by
  rw [decode_eq]
  rcases buffer with _ | ⟨byte0, _ | ⟨byte1, _ | ⟨byte2, _ | ⟨byte3, rest⟩⟩⟩⟩
  · cases found
  · cases found
  · cases found
  · cases found
  · obtain rfl := Option.some.inj found
    exact ⟨_, rfl⟩

theorem code_of_decode {buffer : List UInt8} {fixed : RequestFirmwareDataResponseFixed}
    (decoded : decode buffer = .ok fixed) : buffer[3]? = some fixed.completionCode := by
  rw [decode_eq] at decoded
  split at decoded
  · obtain rfl := Except.ok.inj decoded
    rfl
  · cases decoded

end RequestFirmwareDataResponseFixed

/-- A firmware data response as the update agent builds it. -/
structure RequestFirmwareDataResponse where
  fixed : RequestFirmwareDataResponseFixed
  data : List UInt8
  deriving DecidableEq, Repr

namespace RequestFirmwareDataResponse

def new (instanceId completionCode : UInt8) (data : List UInt8) :
    RequestFirmwareDataResponse where
  fixed :=
    { hdr := .new instanceId .response .fwUpdate FwUpdateCmd.requestFirmwareData.toU8
      completionCode := completionCode }
  data := data

def toBytes (response : RequestFirmwareDataResponse) : List UInt8 :=
  response.fixed.hdr.toBytes ++ [response.fixed.completionCode] ++ response.data

end RequestFirmwareDataResponse

/-! ## The update agent's reading of a request -/

/-- A request of the device, as the update agent understands it. -/
inductive FdRequest
  | requestFirmwareData (instanceId : UInt8) (offset length : ℕ)
  | complete (command : FwUpdateCmd) (instanceId result : UInt8)
  deriving DecidableEq, Repr

namespace FdRequest

/-- Read the body of a request by its command. -/
def parseBody (instanceId : UInt8) : FwUpdateCmd → List UInt8 → Option FdRequest
  | .requestFirmwareData, body =>
      if body.length = 8 then
        some (.requestFirmwareData instanceId (leValue (body.take 4)) (leValue (body.drop 4)))
      else none
  | .transferComplete, [result] => some (.complete .transferComplete instanceId result)
  | .verifyComplete, [result] => some (.complete .verifyComplete instanceId result)
  | .applyComplete, [result, _, _] => some (.complete .applyComplete instanceId result)
  | _, _ => none

/-- Read a message: a request of the firmware-update type with a known command. -/
def parse : List UInt8 → Option FdRequest
  | byte0 :: byte1 :: byte2 :: body =>
      let header : PldmMsgHeader := ⟨byte0, byte1, byte2⟩
      if header.isRequest ∧ header.pldmType = PldmSupportedType.fwUpdate.toU8 then
        match FwUpdateCmd.tryFrom header.cmdCode with
        | .ok command => parseBody header.instanceId command body
        | .error _ => none
      else none
  | _ => none

/-- A request header gives back what it was built from. -/
theorem parse_request (instanceId : UInt8) (command : FwUpdateCmd) (body : List UInt8) :
    parse ((PldmMsgHeader.new instanceId .request .fwUpdate command.toU8).toBytes ++ body) =
      parseBody (instanceId % 32) command body := by
  have hbyte : instanceId.toNat < 256 := instanceId.toNat_lt
  have hrequest :
      (PldmMsgHeader.new instanceId .request .fwUpdate command.toU8).isRequest = true := by
    simp only [PldmMsgHeader.new, PldmMsgHeader.isRequest, PldmMsgHeader.rq, PldmMsgType.toU8,
      beq_iff_eq, ← UInt8.toNat_inj, UInt8.toNat_div, UInt8.toNat_add, UInt8.toNat_mod,
      UInt8.toNat_mul, UInt8.reduceToNat]
    omega
  have hid : (PldmMsgHeader.new instanceId .request .fwUpdate command.toU8).instanceId =
      instanceId % 32 := by
    simp only [PldmMsgHeader.new, PldmMsgHeader.instanceId, PldmMsgType.toU8,
      ← UInt8.toNat_inj, UInt8.toNat_add, UInt8.toNat_mod, UInt8.toNat_mul, UInt8.toNat_div,
      UInt8.reduceToNat]
    omega
  have htype : (PldmMsgHeader.new instanceId .request .fwUpdate command.toU8).pldmType =
      PldmSupportedType.fwUpdate.toU8 := by
    simp [PldmMsgHeader.new, PldmMsgHeader.pldmType, PldmSupportedType.toU8]
  have hcommand : FwUpdateCmd.tryFrom
      (PldmMsgHeader.new instanceId .request .fwUpdate command.toU8).cmdCode = .ok command :=
    FwUpdateCmd.tryFrom_toU8 command
  show (if _ ∧ _ then _ else _) = _
  rw [if_pos ⟨hrequest, htype⟩]
  show (match FwUpdateCmd.tryFrom (PldmMsgHeader.cmdCode _) with
    | .ok command => parseBody (PldmMsgHeader.instanceId _) command body
    | .error _ => none) = _
  rw [hcommand, hid]

theorem parse_requestFirmwareData (instanceId : UInt8) (offset length : UInt32) :
    parse (RequestFirmwareDataRequest.new instanceId .request offset length).toBytes =
      some (.requestFirmwareData (instanceId % 32) offset.toNat length.toNat) := by
  have hoffset : leValue (u32Bytes offset) = offset.toNat := leValue_leBytes offset.toNat_lt
  have hlength : leValue (u32Bytes length) = length.toNat := leValue_leBytes length.toNat_lt
  have hsize (value : UInt32) : (u32Bytes value).length = 4 := length_leBytes _ _
  rw [RequestFirmwareDataRequest.toBytes, List.append_assoc]
  refine (parse_request instanceId .requestFirmwareData _).trans ?_
  rw [parseBody, if_pos (by simp [hsize]), List.take_left' (hsize _), List.drop_left' (hsize _)]
  simp [RequestFirmwareDataRequest.new, hoffset, hlength]

theorem parse_transferComplete (instanceId : UInt8) (result : TransferResult) :
    parse (TransferCompleteRequest.new instanceId .request result).toBytes =
      some (.complete .transferComplete (instanceId % 32) result.toU8) :=
  parse_request instanceId .transferComplete [result.toU8]

theorem parse_verifyComplete (instanceId : UInt8) (result : VerifyResult) :
    parse (VerifyCompleteRequest.new instanceId .request result).toBytes =
      some (.complete .verifyComplete (instanceId % 32) result.toU8) :=
  parse_request instanceId .verifyComplete [result.toU8]

theorem parse_applyComplete (instanceId : UInt8) (result : ApplyResult)
    (activationMethods : UInt16) :
    parse (ApplyCompleteRequest.new instanceId .request result activationMethods).toBytes =
      some (.complete .applyComplete (instanceId % 32) result.toU8) := by
  rw [ApplyCompleteRequest.toBytes, List.append_assoc]
  exact parse_request instanceId .applyComplete _

end FdRequest

end PldmLib.Message
