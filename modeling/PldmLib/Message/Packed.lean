/-
# Messages without a codec of their own

Most messages are packed records, and one codec serves them all: the record is copied to the
front of the buffer, and read from it. Each has its layout here. The fields that the rest of
the development reads and writes one by one are the same bytes.

For these messages decoding is no more than recognising: a buffer decodes to a message
exactly when encoding the message into that buffer would change nothing.
-/

import PldmLib.Machine.Layout
import PldmLib.Message.Control
import PldmLib.Message.Response
import PldmLib.Message.Transfer

namespace PldmLib.Message

open PldmLib.Machine PldmLib.Protocol

/-! ## The codec of all packed records -/

namespace Derived

variable {α : Type}

def encode (layout : Layout α) (value : α) : Encoder := writeToPrefix (layout.toBytes value)

def decode (layout : Layout α) (buffer : List UInt8) : Except PldmCodecError α :=
  (layout.reader .bufferTooShort).decode buffer

variable {layout : Layout α} {value : α} {buffer : List UInt8}

theorem encode_of_le (room : layout.size ≤ buffer.length) : encode layout value buffer =
    (.ok layout.size, layout.toBytes value ++ buffer.drop layout.size) := by
  have hlength := layout.length_toBytes value
  rw [encode, writeToPrefix_of_le (hlength ▸ room), hlength]

theorem encode_of_lt (few : buffer.length < layout.size) :
    encode layout value buffer = (.err .bufferTooShort, buffer) := by
  have hlength := layout.length_toBytes value
  rw [encode, writeToPrefix, if_neg (not_le.mpr (hlength ▸ few))]

/-- A buffer that decodes to a value is one that holds its encoding. -/
theorem decode_eq_ok_iff : decode layout buffer = .ok value ↔
    encode layout value buffer = (.ok layout.size, buffer) := by
  rw [decode, Layout.decode_eq_ok_iff]
  constructor
  · rintro ⟨rest, rfl⟩
    have hlength := layout.length_toBytes value
    rw [encode_of_le (by rw [List.length_append]; omega), List.drop_left' hlength]
  · intro encoded
    by_cases room : layout.size ≤ buffer.length
    · rw [encode_of_le room] at encoded
      exact ⟨_, (Prod.mk.inj encoded).2⟩
    · rw [encode_of_lt (not_le.mp room)] at encoded
      cases encoded

theorem decode_eq_error_iff {error : PldmCodecError} : decode layout buffer = .error error ↔
    buffer.length < layout.size ∧ error = .bufferTooShort :=
  Layout.decode_eq_error_iff

/-- The bytes of a value are read, whatever follows them. -/
theorem reads (layout : Layout α) (value : α) (more : List UInt8) :
    decode layout (layout.toBytes value ++ more) = .ok value :=
  Layout.decode_eq_ok_iff.mpr (List.prefix_append _ _)

/-- What has been encoded is decoded, whatever the buffer held before. -/
theorem decode_written {count : ℕ} {written : List UInt8}
    (encoded : encode layout value buffer = (.ok count, written)) :
    decode layout written = .ok value ∧ count = layout.size ∧
      written.drop count = buffer.drop count := by
  by_cases room : layout.size ≤ buffer.length
  · rw [encode_of_le room] at encoded
    obtain ⟨hcount, rfl⟩ := Prod.mk.inj encoded
    obtain rfl := Outcome.ok.inj hcount
    exact ⟨reads layout value _, rfl, List.drop_left' (layout.length_toBytes value)⟩
  · rw [encode_of_lt (not_le.mp room)] at encoded
    cases encoded

end Derived

/-! ## Layouts -/

def PldmMsgHeader.layout : Layout PldmMsgHeader :=
  (Layout.byte.pair (Layout.byte.pair .byte)).record
    (fun (byte0, byte1, byte2) => ⟨byte0, byte1, byte2⟩)
    (fun ⟨byte0, byte1, byte2⟩ => (byte0, byte1, byte2)) (fun _ => rfl) fun _ => rfl

@[simp]
theorem reader_byte : Layout.byte.reader PldmCodecError.bufferTooShort = Decoder.u8 := by
  funext buffer
  match buffer with
  | [] => rfl
  | byte :: rest =>
      have hbyte : UInt8.ofNat (leValue [byte]) = byte := by simp [leValue]
      show Except.ok (byte, rest) = Except.ok (UInt8.ofNat (leValue [byte]), rest)
      rw [hbyte]

@[simp]
theorem reader_u16 : Layout.u16.reader PldmCodecError.bufferTooShort = Decoder.u16 :=
  Layout.reader_number

@[simp]
theorem reader_u32 : Layout.u32.reader PldmCodecError.bufferTooShort = Decoder.u32 :=
  Layout.reader_number

/-- A field that only the decoder of a response reads. -/
def Decoder.u64 : Decoder UInt64 := do pure (UInt64.ofNat (← Reader.number .bufferTooShort 8))

@[simp]
theorem reader_u64 : Layout.u64.reader PldmCodecError.bufferTooShort = Decoder.u64 :=
  Layout.reader_number

theorem Look.follows_u64 : Look.get.u64.Follows Decoder.u64 := follows_field UInt64.ofNat 8

@[simp]
theorem reader_header :
    PldmMsgHeader.layout.reader PldmCodecError.bufferTooShort = PldmMsgHeader.reader := by
  simp only [PldmMsgHeader.layout, Layout.reader_record, Layout.reader_pair, reader_byte,
    PldmMsgHeader.reader, map_bind, map_pure, bind_assoc, pure_bind]

/-- A header is read off the front of a message. -/
theorem PldmMsgHeader.decode_eq_ok_iff {header : PldmMsgHeader} {buffer : List UInt8} :
    PldmMsgHeader.decode buffer = .ok header ↔ header.toBytes <+: buffer := by
  rw [PldmMsgHeader.decode, ← reader_header]
  exact Layout.decode_eq_ok_iff

def PldmFailureResponse.layout : Layout PldmFailureResponse :=
  (PldmMsgHeader.layout.pair .byte).record
    (fun (hdr, code) => ⟨hdr, code⟩) (fun ⟨hdr, code⟩ => (hdr, code))
    (fun _ => rfl) fun _ => rfl

def HeaderRequest.layout : Layout HeaderRequest :=
  PldmMsgHeader.layout.record HeaderRequest.mk HeaderRequest.hdr (fun _ => rfl) fun _ => rfl

def SetTidRequest.layout : Layout SetTidRequest :=
  (PldmMsgHeader.layout.pair .byte).record
    (fun (hdr, tid) => ⟨hdr, tid⟩) (fun ⟨hdr, tid⟩ => (hdr, tid))
    (fun _ => rfl) fun _ => rfl

def GetPldmCommandsRequest.layout : Layout GetPldmCommandsRequest :=
  (PldmMsgHeader.layout.pair (Layout.byte.pair .u32)).record
    (fun (hdr, pldmType, protocolVersion) => ⟨hdr, pldmType, protocolVersion⟩)
    (fun ⟨hdr, pldmType, protocolVersion⟩ => (hdr, pldmType, protocolVersion))
    (fun _ => rfl) fun _ => rfl

def GetPldmVersionRequest.layout : Layout GetPldmVersionRequest :=
  (PldmMsgHeader.layout.pair (Layout.u32.pair (Layout.byte.pair .byte))).record
    (fun (hdr, handle, flag, pldmType) => ⟨hdr, handle, flag, pldmType⟩)
    (fun ⟨hdr, handle, flag, pldmType⟩ => (hdr, handle, flag, pldmType))
    (fun _ => rfl) fun _ => rfl

def GetTidResponse.layout : Layout GetTidResponse :=
  (PldmMsgHeader.layout.pair (Layout.byte.pair .byte)).record
    (fun (hdr, code, tid) => ⟨hdr, code, tid⟩) (fun ⟨hdr, code, tid⟩ => (hdr, code, tid))
    (fun _ => rfl) fun _ => rfl

def GetPldmVersionResponse.layout : Layout GetPldmVersionResponse :=
  (PldmMsgHeader.layout.pair (Layout.byte.pair (Layout.u32.pair (Layout.byte.pair .u32)))).record
    (fun (hdr, code, handle, flag, version) => ⟨hdr, code, handle, flag, version⟩)
    (fun ⟨hdr, code, handle, flag, version⟩ => (hdr, code, handle, flag, version))
    (fun _ => rfl) fun _ => rfl

def CompletionResponse.layout : Layout CompletionResponse :=
  (PldmMsgHeader.layout.pair .byte).record
    (fun (hdr, code) => ⟨hdr, code⟩) (fun ⟨hdr, code⟩ => (hdr, code))
    (fun _ => rfl) fun _ => rfl

def ActivateFirmwareRequest.layout : Layout ActivateFirmwareRequest :=
  (PldmMsgHeader.layout.pair .byte).record
    (fun (hdr, activation) => ⟨hdr, activation⟩) (fun ⟨hdr, activation⟩ => (hdr, activation))
    (fun _ => rfl) fun _ => rfl

def ActivationResponse.layout : Layout ActivationResponse :=
  (PldmMsgHeader.layout.pair (Layout.byte.pair .u16)).record
    (fun (hdr, code, time) => ⟨hdr, code, time⟩) (fun ⟨hdr, code, time⟩ => (hdr, code, time))
    (fun _ => rfl) fun _ => rfl

def ComponentRequest.layout : Layout ComponentRequest :=
  (PldmMsgHeader.layout.pair (Layout.u16.pair (Layout.u16.pair .byte))).record
    (fun (hdr, classification, identifier, index) => ⟨hdr, classification, identifier, index⟩)
    (fun ⟨hdr, classification, identifier, index⟩ => (hdr, classification, identifier, index))
    (fun _ => rfl) fun _ => rfl

def PassComponentTableResponse.layout : Layout PassComponentTableResponse :=
  (PldmMsgHeader.layout.pair (Layout.byte.pair (Layout.byte.pair .byte))).record
    (fun (hdr, code, compResp, compRespCode) => ⟨hdr, code, compResp, compRespCode⟩)
    (fun ⟨hdr, code, compResp, compRespCode⟩ => (hdr, code, compResp, compRespCode))
    (fun _ => rfl) fun _ => rfl

def CancelUpdateResponse.layout : Layout CancelUpdateResponse :=
  (PldmMsgHeader.layout.pair (Layout.byte.pair (Layout.byte.pair .u64))).record
    (fun (hdr, code, indication, bitmap) => ⟨hdr, code, indication, bitmap⟩)
    (fun ⟨hdr, code, indication, bitmap⟩ => (hdr, code, indication, bitmap))
    (fun _ => rfl) fun _ => rfl

def GetStatusResponse.layout : Layout GetStatusResponse :=
  (PldmMsgHeader.layout.pair (Layout.byte.pair (Layout.byte.pair (Layout.byte.pair (Layout.byte.pair
    (Layout.byte.pair (Layout.byte.pair (Layout.byte.pair .u32)))))))).record
    (fun (hdr, code, current, previous, aux, status, percent, reason, options) => ⟨hdr, code,
      current, previous, aux, status, percent, reason, options⟩)
    (fun ⟨hdr, code, current, previous, aux, status, percent, reason, options⟩ => (hdr, code,
      current, previous, aux, status, percent, reason, options))
    (fun _ => rfl) fun _ => rfl

def RequestFirmwareDataResponseFixed.layout : Layout RequestFirmwareDataResponseFixed :=
  (PldmMsgHeader.layout.pair .byte).record
    (fun (hdr, code) => ⟨hdr, code⟩) (fun ⟨hdr, code⟩ => (hdr, code))
    (fun _ => rfl) fun _ => rfl

def RequestFirmwareDataRequest.layout : Layout RequestFirmwareDataRequest :=
  (PldmMsgHeader.layout.pair (Layout.u32.pair .u32)).record
    (fun (hdr, offset, length) => ⟨hdr, offset, length⟩)
    (fun ⟨hdr, offset, length⟩ => (hdr, offset, length))
    (fun _ => rfl) fun _ => rfl

def CompleteRequest.layout : Layout CompleteRequest :=
  (PldmMsgHeader.layout.pair .byte).record
    (fun (hdr, result) => ⟨hdr, result⟩) (fun ⟨hdr, result⟩ => (hdr, result))
    (fun _ => rfl) fun _ => rfl

def ApplyCompleteRequest.layout : Layout ApplyCompleteRequest :=
  (PldmMsgHeader.layout.pair (Layout.byte.pair .u16)).record
    (fun (hdr, applyResult, activationMethods) => ⟨hdr, applyResult, activationMethods⟩)
    (fun ⟨hdr, applyResult, activationMethods⟩ => (hdr, applyResult, activationMethods))
    (fun _ => rfl) fun _ => rfl

/-- A transfer handle and a flag: the layout shared by the requests that fetch something by
portions. -/
structure PortionRequest where
  hdr : PldmMsgHeader
  dataTransferHandle : UInt32
  transferOperationFlag : UInt8
  deriving DecidableEq, Repr

def PortionRequest.layout : Layout PortionRequest :=
  (PldmMsgHeader.layout.pair (Layout.u32.pair .byte)).record
    (fun (hdr, handle, flag) => ⟨hdr, handle, flag⟩)
    (fun ⟨hdr, handle, flag⟩ => (hdr, handle, flag))
    (fun _ => rfl) fun _ => rfl

structure QueryDownstreamDeviceResponse where
  hdr : PldmMsgHeader
  completionCode : UInt8
  downstreamDeviceUpdateSupported : UInt8
  numberOfDownstreamDevices : UInt16
  maxNumberOfDownstreamDevices : UInt16
  capabilities : UInt32
  deriving DecidableEq, Repr

def QueryDownstreamDeviceResponse.layout : Layout QueryDownstreamDeviceResponse :=
  (PldmMsgHeader.layout.pair (Layout.byte.pair (Layout.byte.pair (Layout.u16.pair (Layout.u16.pair
    .u32))))).record
    (fun (hdr, code, supported, number, most, capabilities) => ⟨hdr, code, supported, number, most,
      capabilities⟩)
    (fun ⟨hdr, code, supported, number, most, capabilities⟩ => (hdr, code, supported, number, most,
      capabilities))
    (fun _ => rfl) fun _ => rfl

structure RequestDownstreamDeviceUpdateRequest where
  hdr : PldmMsgHeader
  maxDownstreamDeviceTransferSize : UInt32
  maxOutstandingTransferRequests : UInt8
  downstreamDevicePkgDataLength : UInt16
  deriving DecidableEq, Repr

def RequestDownstreamDeviceUpdateRequest.layout : Layout RequestDownstreamDeviceUpdateRequest :=
  (PldmMsgHeader.layout.pair (Layout.u32.pair (Layout.byte.pair .u16))).record
    (fun (hdr, size, outstanding, length) => ⟨hdr, size, outstanding, length⟩)
    (fun ⟨hdr, size, outstanding, length⟩ => (hdr, size, outstanding, length))
    (fun _ => rfl) fun _ => rfl

structure RequestDownstreamDeviceUpdateResponse where
  hdr : PldmMsgHeader
  completionCode : UInt8
  downstreamDeviceMetadataLength : UInt16
  pkgDataCommand : UInt8
  getPkgDataMaxTransferSize : UInt16
  deriving DecidableEq, Repr

def RequestDownstreamDeviceUpdateResponse.layout : Layout RequestDownstreamDeviceUpdateResponse :=
  (PldmMsgHeader.layout.pair (Layout.byte.pair (Layout.u16.pair (Layout.byte.pair .u16)))).record
    (fun (hdr, code, length, command, size) => ⟨hdr, code, length, command, size⟩)
    (fun ⟨hdr, code, length, command, size⟩ => (hdr, code, length, command, size))
    (fun _ => rfl) fun _ => rfl

def BitmapResponse.layout (size : ℕ) : Layout (BitmapResponse size) :=
  (PldmMsgHeader.layout.pair (Layout.byte.pair (.array size))).record
    (fun (hdr, code, bitmap) => ⟨hdr, code, bitmap⟩)
    (fun ⟨hdr, code, bitmap⟩ => (hdr, code, bitmap))
    (fun _ => rfl) fun _ => rfl

/-! ### The same bytes, field by field -/

theorem SetTidRequest.decode_eq : SetTidRequest.decode = Derived.decode SetTidRequest.layout := by
  funext buffer
  simp [SetTidRequest.decode, Derived.decode, SetTidRequest.layout]

theorem GetPldmCommandsRequest.decode_eq :
    GetPldmCommandsRequest.decode = Derived.decode GetPldmCommandsRequest.layout := by
  funext buffer
  simp [GetPldmCommandsRequest.decode, Derived.decode, GetPldmCommandsRequest.layout]

theorem GetPldmVersionRequest.decode_eq :
    GetPldmVersionRequest.decode = Derived.decode GetPldmVersionRequest.layout := by
  funext buffer
  simp [GetPldmVersionRequest.decode, Derived.decode, GetPldmVersionRequest.layout]

theorem ActivateFirmwareRequest.decode_eq :
    ActivateFirmwareRequest.decode = Derived.decode ActivateFirmwareRequest.layout := by
  funext buffer
  simp [ActivateFirmwareRequest.decode, Derived.decode, ActivateFirmwareRequest.layout]

theorem ComponentRequest.decode_eq :
    ComponentRequest.decode = Derived.decode ComponentRequest.layout := by
  funext buffer
  simp [ComponentRequest.decode, Derived.decode, ComponentRequest.layout]

theorem HeaderRequest.decode_eq : HeaderRequest.decode = Derived.decode HeaderRequest.layout := by
  funext buffer
  simp only [HeaderRequest.decode, PldmMsgHeader.decode, Derived.decode, HeaderRequest.layout,
    Layout.reader_record, reader_header, Reader.decode, Reader.map_apply]
  cases PldmMsgHeader.reader buffer <;> rfl

theorem RequestFirmwareDataResponseFixed.decode_layout :
    RequestFirmwareDataResponseFixed.decode =
      Derived.decode RequestFirmwareDataResponseFixed.layout := by
  funext buffer
  simp [RequestFirmwareDataResponseFixed.decode, RequestFirmwareDataResponseFixed.reader,
    Derived.decode, RequestFirmwareDataResponseFixed.layout]

theorem PldmFailureResponse.encode_eq (response : PldmFailureResponse) :
    writeToPrefix response.toBytes = Derived.encode PldmFailureResponse.layout response := rfl

theorem GetTidResponse.encode_eq (response : GetTidResponse) :
    response.encode = Derived.encode GetTidResponse.layout response := rfl

theorem CompletionResponse.encode_eq (response : CompletionResponse) :
    response.encode = Derived.encode CompletionResponse.layout response := rfl

theorem GetPldmVersionResponse.encode_eq (response : GetPldmVersionResponse) :
    response.encode = Derived.encode GetPldmVersionResponse.layout response := rfl

theorem ActivationResponse.encode_eq (response : ActivationResponse) :
    response.encode = Derived.encode ActivationResponse.layout response := rfl

theorem PassComponentTableResponse.encode_eq (response : PassComponentTableResponse) :
    response.encode = Derived.encode PassComponentTableResponse.layout response := rfl

theorem CancelUpdateResponse.encode_eq (response : CancelUpdateResponse) :
    response.encode = Derived.encode CancelUpdateResponse.layout response := rfl

theorem GetStatusResponse.encode_eq (response : GetStatusResponse) :
    response.encode = Derived.encode GetStatusResponse.layout response := rfl

theorem RequestFirmwareDataRequest.encode_eq (request : RequestFirmwareDataRequest) :
    request.encode = Derived.encode RequestFirmwareDataRequest.layout request := rfl

theorem CompleteRequest.encode_eq (request : CompleteRequest) :
    request.encode = Derived.encode CompleteRequest.layout request := rfl

theorem ApplyCompleteRequest.encode_eq (request : ApplyCompleteRequest) :
    request.encode = Derived.encode ApplyCompleteRequest.layout request := rfl

theorem BitmapResponse.encode_eq {size : ℕ} (response : BitmapResponse size) :
    response.encode = Derived.encode (layout size) response := rfl

/-! The agent's decoders are the same again. -/

theorem PassComponentTableResponse.decode_scanner (buffer : List UInt8) :
    scanner.decode buffer = .ofExcept (Derived.decode layout buffer) := by
  apply Scanner.decode_of_follows
  simp only [layout, Layout.reader_record, Layout.reader_pair, reader_header, reader_byte,
    map_bind, map_pure, bind_assoc, pure_bind]
  repeat
    first
    | apply Scanner.follows_bind Look.follows_header
    | apply Scanner.follows_bind Look.follows_u8
    intro _ _ _ _
  exact Scanner.follows_pure _

theorem CompletionResponse.decode_scanner (buffer : List UInt8) :
    scanner.decode buffer = .ofExcept (Derived.decode layout buffer) := by
  apply Scanner.decode_of_follows
  simp only [layout, Layout.reader_record, Layout.reader_pair, reader_header, reader_byte,
    map_bind, map_pure]
  repeat
    first
    | apply Scanner.follows_bind Look.follows_header
    | apply Scanner.follows_bind Look.follows_u8
    intro _ _ _ _
  exact Scanner.follows_pure _

theorem ActivationResponse.decode_scanner (buffer : List UInt8) :
    scanner.decode buffer = .ofExcept (Derived.decode layout buffer) := by
  apply Scanner.decode_of_follows
  simp only [layout, Layout.reader_record, Layout.reader_pair, reader_header, reader_byte,
    reader_u16, map_bind, map_pure, bind_assoc, pure_bind]
  repeat
    first
    | apply Scanner.follows_bind Look.follows_header
    | apply Scanner.follows_bind Look.follows_u8
    | apply Scanner.follows_bind Look.follows_u16
    intro _ _ _ _
  exact Scanner.follows_pure _

theorem CancelUpdateResponse.decode_scanner (buffer : List UInt8) :
    scanner.decode buffer = .ofExcept (Derived.decode layout buffer) := by
  apply Scanner.decode_of_follows
  simp only [layout, Layout.reader_record, Layout.reader_pair, reader_header, reader_byte,
    reader_u64, map_bind, map_pure, bind_assoc, pure_bind]
  repeat
    first
    | apply Scanner.follows_bind Look.follows_header
    | apply Scanner.follows_bind Look.follows_u8
    | apply Scanner.follows_bind Look.follows_u64
    intro _ _ _ _
  exact Scanner.follows_pure _

theorem GetStatusResponse.decode_scanner (buffer : List UInt8) :
    scanner.decode buffer = .ofExcept (Derived.decode layout buffer) := by
  apply Scanner.decode_of_follows
  simp only [layout, Layout.reader_record, Layout.reader_pair, reader_header, reader_byte,
    reader_u32, map_bind, map_pure, bind_assoc, pure_bind]
  repeat
    first
    | apply Scanner.follows_bind Look.follows_header
    | apply Scanner.follows_bind Look.follows_u8
    | apply Scanner.follows_bind Look.follows_u32
    intro _ _ _ _
  exact Scanner.follows_pure _

/-- The packed messages. -/
inductive Packed
  | pldmFailureResponse
  | getTidRequest
  | getTidResponse
  | setTidRequest
  | setTidResponse
  | getPldmTypeRequest
  | getPldmTypeResponse
  | getPldmCommandsRequest
  | getPldmCommandsResponse
  | getPldmVersionRequest
  | getPldmVersionResponse
  | queryDeviceIdentifiersRequest
  | getFirmwareParametersRequest
  | passComponentTableResponse
  | requestFirmwareDataRequest
  | requestFirmwareDataResponseFixed
  | transferCompleteRequest
  | transferCompleteResponse
  | verifyCompleteRequest
  | verifyCompleteResponse
  | applyCompleteRequest
  | applyCompleteResponse
  | activateFirmwareRequest
  | activateFirmwareResponse
  | activatePendingComponentImageRequest
  | activatePendingComponentImageResponse
  | updateSecurityRevisionRequest
  | updateSecurityRevisionResponse
  | cancelUpdateComponentRequest
  | cancelUpdateComponentResponse
  | cancelUpdateRequest
  | cancelUpdateResponse
  | getStatusRequest
  | getStatusResponse
  | getPackageDataRequest
  | getDeviceMetaDataRequest
  | getMetaDataRequest
  | queryDownstreamDevicesRequest
  | queryDownstreamDeviceResponse
  | queryDownstreamIdentifiersRequest
  | getDownstreamFirmwareParametersRequest
  | requestDownstreamDeviceUpdateRequest
  | requestDownstreamDeviceUpdateResponse
  deriving DecidableEq, Repr

namespace Packed

abbrev Value : Packed → Type
  | pldmFailureResponse => PldmFailureResponse
  | getTidRequest => HeaderRequest
  | getTidResponse => GetTidResponse
  | setTidRequest => SetTidRequest
  | setTidResponse => CompletionResponse
  | getPldmTypeRequest => HeaderRequest
  | getPldmTypeResponse => BitmapResponse pldmTypesBitmapLen
  | getPldmCommandsRequest => GetPldmCommandsRequest
  | getPldmCommandsResponse => BitmapResponse pldmCmdsBitmapLen
  | getPldmVersionRequest => GetPldmVersionRequest
  | getPldmVersionResponse => GetPldmVersionResponse
  | queryDeviceIdentifiersRequest => HeaderRequest
  | getFirmwareParametersRequest => HeaderRequest
  | passComponentTableResponse => PassComponentTableResponse
  | requestFirmwareDataRequest => RequestFirmwareDataRequest
  | requestFirmwareDataResponseFixed => RequestFirmwareDataResponseFixed
  | transferCompleteRequest => CompleteRequest
  | transferCompleteResponse => CompletionResponse
  | verifyCompleteRequest => CompleteRequest
  | verifyCompleteResponse => CompletionResponse
  | applyCompleteRequest => ApplyCompleteRequest
  | applyCompleteResponse => CompletionResponse
  | activateFirmwareRequest => ActivateFirmwareRequest
  | activateFirmwareResponse => ActivationResponse
  | activatePendingComponentImageRequest => ComponentRequest
  | activatePendingComponentImageResponse => ActivationResponse
  | updateSecurityRevisionRequest => ComponentRequest
  | updateSecurityRevisionResponse => CompletionResponse
  | cancelUpdateComponentRequest => HeaderRequest
  | cancelUpdateComponentResponse => CompletionResponse
  | cancelUpdateRequest => HeaderRequest
  | cancelUpdateResponse => CancelUpdateResponse
  | getStatusRequest => HeaderRequest
  | getStatusResponse => GetStatusResponse
  | getPackageDataRequest => PortionRequest
  | getDeviceMetaDataRequest => PortionRequest
  | getMetaDataRequest => PortionRequest
  | queryDownstreamDevicesRequest => HeaderRequest
  | queryDownstreamDeviceResponse => QueryDownstreamDeviceResponse
  | queryDownstreamIdentifiersRequest => PortionRequest
  | getDownstreamFirmwareParametersRequest => PortionRequest
  | requestDownstreamDeviceUpdateRequest => RequestDownstreamDeviceUpdateRequest
  | requestDownstreamDeviceUpdateResponse => RequestDownstreamDeviceUpdateResponse

def layout : (kind : Packed) → Layout kind.Value
  | pldmFailureResponse => PldmFailureResponse.layout
  | getTidRequest => HeaderRequest.layout
  | getTidResponse => GetTidResponse.layout
  | setTidRequest => SetTidRequest.layout
  | setTidResponse => CompletionResponse.layout
  | getPldmTypeRequest => HeaderRequest.layout
  | getPldmTypeResponse => BitmapResponse.layout _
  | getPldmCommandsRequest => GetPldmCommandsRequest.layout
  | getPldmCommandsResponse => BitmapResponse.layout _
  | getPldmVersionRequest => GetPldmVersionRequest.layout
  | getPldmVersionResponse => GetPldmVersionResponse.layout
  | queryDeviceIdentifiersRequest => HeaderRequest.layout
  | getFirmwareParametersRequest => HeaderRequest.layout
  | passComponentTableResponse => PassComponentTableResponse.layout
  | requestFirmwareDataRequest => RequestFirmwareDataRequest.layout
  | requestFirmwareDataResponseFixed => RequestFirmwareDataResponseFixed.layout
  | transferCompleteRequest => CompleteRequest.layout
  | transferCompleteResponse => CompletionResponse.layout
  | verifyCompleteRequest => CompleteRequest.layout
  | verifyCompleteResponse => CompletionResponse.layout
  | applyCompleteRequest => ApplyCompleteRequest.layout
  | applyCompleteResponse => CompletionResponse.layout
  | activateFirmwareRequest => ActivateFirmwareRequest.layout
  | activateFirmwareResponse => ActivationResponse.layout
  | activatePendingComponentImageRequest => ComponentRequest.layout
  | activatePendingComponentImageResponse => ActivationResponse.layout
  | updateSecurityRevisionRequest => ComponentRequest.layout
  | updateSecurityRevisionResponse => CompletionResponse.layout
  | cancelUpdateComponentRequest => HeaderRequest.layout
  | cancelUpdateComponentResponse => CompletionResponse.layout
  | cancelUpdateRequest => HeaderRequest.layout
  | cancelUpdateResponse => CancelUpdateResponse.layout
  | getStatusRequest => HeaderRequest.layout
  | getStatusResponse => GetStatusResponse.layout
  | getPackageDataRequest => PortionRequest.layout
  | getDeviceMetaDataRequest => PortionRequest.layout
  | getMetaDataRequest => PortionRequest.layout
  | queryDownstreamDevicesRequest => HeaderRequest.layout
  | queryDownstreamDeviceResponse => QueryDownstreamDeviceResponse.layout
  | queryDownstreamIdentifiersRequest => PortionRequest.layout
  | getDownstreamFirmwareParametersRequest => PortionRequest.layout
  | requestDownstreamDeviceUpdateRequest => RequestDownstreamDeviceUpdateRequest.layout
  | requestDownstreamDeviceUpdateResponse => RequestDownstreamDeviceUpdateResponse.layout

def encode (kind : Packed) (value : kind.Value) : Encoder := Derived.encode kind.layout value

def decode (kind : Packed) (buffer : List UInt8) : Except PldmCodecError kind.Value :=
  Derived.decode kind.layout buffer

/-- The codec of a packed message: its values are the byte strings of its size. -/
structure Exact (kind : Packed) (value : kind.Value) (buffer : List UInt8) : Prop where
  decodes : kind.decode buffer = .ok value ↔
    kind.encode value buffer = (.ok kind.layout.size, buffer)
  refuses : ∀ error, kind.decode buffer = .error error ↔
    buffer.length < kind.layout.size ∧ error = .bufferTooShort
  writes : ∀ count written, kind.encode value buffer = (.ok count, written) →
    kind.decode written = .ok value ∧ count = kind.layout.size ∧
      written.drop count = buffer.drop count
  keeps : ∀ error written, kind.encode value buffer = (.err error, written) →
    buffer.length < kind.layout.size ∧ error = .bufferTooShort ∧ written = buffer

/-- Every packed message is decoded as it was encoded, in any buffer with room for it, and
every buffer that is long enough for it holds one. -/
theorem exact (kind : Packed) (value : kind.Value) (buffer : List UInt8) :
    kind.Exact value buffer where
  decodes := Derived.decode_eq_ok_iff
  refuses _ := Derived.decode_eq_error_iff
  writes _ _ encoded := Derived.decode_written encoded
  keeps := by
    intro error written failed
    by_cases room : kind.layout.size ≤ buffer.length
    · rw [encode, Derived.encode_of_le room] at failed
      cases failed
    · rw [encode, Derived.encode_of_lt (not_le.mp room)] at failed
      obtain ⟨herror, hwritten⟩ := Prod.mk.inj failed
      exact ⟨not_le.mp room, (Outcome.err.inj herror).symm, hwritten.symm⟩

end Packed

end PldmLib.Message
