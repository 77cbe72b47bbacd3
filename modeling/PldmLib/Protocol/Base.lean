/-
# PLDM base protocol

The three-byte message header with its bit fields, the base completion codes and
the errors of the codec layer. Multi-byte fields of a PLDM message are
little-endian on every supported target; the header itself is a sequence of
three bytes and its accessors read bit ranges of them.
-/

import PldmLib.Machine.Bytes

namespace PldmLib.Protocol

open PldmLib.Machine

/-- What a codec reports about a buffer. -/
inductive PldmCodecError
  | bufferTooShort
  | unsupported
  | invalidData
  deriving DecidableEq, Repr

/-- What a conversion from a wire value reports. -/
inductive PldmError
  | invalidData
  | invalidLength
  | invalidMsgType
  | invalidProtocolVersion
  | unsupportedCmd
  | unsupportedPldmType
  | invalidCompletionCode
  | invalidTransferOpFlag
  | invalidTransferRespFlag
  | invalidVersionStringType
  | invalidVersionStringLength
  | invalidFdState
  | invalidDescriptorType
  | invalidDescriptorLength
  | invalidDescriptorCount
  | invalidComponentClassification
  | invalidComponentResponseCode
  | invalidComponentCompatibilityResponse
  | invalidComponentCompatibilityResponseCode
  | invalidTransferResult
  | invalidVerifyResult
  | invalidApplyResult
  | invalidGetStatusReasonCode
  | invalidAuxStateStatus
  deriving DecidableEq, Repr

/-- What the transport framing reports. -/
inductive UtilError
  | invalidMctpPayloadLength
  | invalidMctpMsgType
  deriving DecidableEq, Repr

def pldmMsgHeaderLen : ℕ := 3
def pldmFailureRespLen : ℕ := 4

/-! ## Readers and writers of the codec layer -/

/-- A reader that reports a short buffer the way every decoder here does. -/
abbrev Decoder (α : Type) := Reader PldmCodecError α

/-- An encoder writes into the caller's buffer and returns how much it wrote. -/
abbrev Encoder := Call (List UInt8) PldmCodecError ℕ

namespace Decoder

def bytes (count : ℕ) : Decoder (List UInt8) := Reader.bytes .bufferTooShort count
def u8 : Decoder UInt8 := do pure (UInt8.ofNat (← Reader.number .bufferTooShort 1))
def u16 : Decoder UInt16 := do pure (UInt16.ofNat (← Reader.number .bufferTooShort 2))
def u32 : Decoder UInt32 := do pure (UInt32.ofNat (← Reader.number .bufferTooShort 4))

/-- More bytes change nothing but the complaint that the buffer is short. -/
abbrev Extends {α : Type} (decoder : Decoder α) : Prop := Reader.Extends decoder .bufferTooShort

theorem extends_bytes (count : ℕ) : (bytes count).Extends := Reader.extends_bytes count

theorem extends_u8 : u8.Extends := (Reader.extends_number 1).bind fun _ => Reader.extends_pure _

theorem extends_u16 : u16.Extends := (Reader.extends_number 2).bind fun _ => Reader.extends_pure _

theorem extends_u32 : u32.Extends := (Reader.extends_number 4).bind fun _ => Reader.extends_pure _

end Decoder

def u16Bytes (value : UInt16) : List UInt8 := leBytes 2 value.toNat
def u32Bytes (value : UInt32) : List UInt8 := leBytes 4 value.toNat
def u64Bytes (value : UInt64) : List UInt8 := leBytes 8 value.toNat

/-- `write_to_prefix`: the whole structure goes to the front of the buffer, or
nothing is written. -/
def writeToPrefix (fields : List UInt8) : Encoder := fun buffer =>
  if fields.length ≤ buffer.length then
    (.ok fields.length, fields ++ buffer.drop fields.length)
  else (.err .bufferTooShort, buffer)

/-- A prefix write that returns has found room, and leaves the fields in front. -/
theorem writeToPrefix_ok {fields buffer written : List UInt8} {count : ℕ}
    (ran : writeToPrefix fields buffer = (.ok count, written)) :
    fields.length ≤ buffer.length ∧ count = fields.length ∧ written.take count = fields := by
  unfold writeToPrefix at ran
  split at ran
  · next room =>
      simp only [Prod.mk.injEq, Outcome.ok.injEq] at ran
      obtain ⟨rfl, rfl⟩ := ran
      exact ⟨room, rfl, List.take_left' rfl⟩
  · simp at ran

/-- A prefix write returns whenever there is room. -/
theorem writeToPrefix_of_le {fields buffer : List UInt8} (room : fields.length ≤ buffer.length) :
    writeToPrefix fields buffer =
      (.ok fields.length, fields ++ buffer.drop fields.length) := if_pos room

/-- A prefix write does not change the length of the buffer. -/
theorem length_of_written {fields buffer written : List UInt8} {count : ℕ}
    (ran : writeToPrefix fields buffer = (.ok count, written)) :
    written.length = buffer.length := by
  obtain ⟨room, _, _⟩ := writeToPrefix_ok ran
  rw [writeToPrefix_of_le room] at ran
  obtain ⟨_, rfl⟩ := Prod.mk.inj ran
  rw [List.length_append, List.length_drop]
  omega

/-- A prefix write that finds no room changes nothing. -/
theorem writeToPrefix_err {fields buffer written : List UInt8} {error : PldmCodecError}
    (failed : writeToPrefix fields buffer = (.err error, written)) :
    error = .bufferTooShort ∧ buffer.length < fields.length ∧ written = buffer := by
  unfold writeToPrefix at failed
  split at failed
  · cases failed
  · next short =>
      obtain ⟨herror, rfl⟩ := Prod.mk.inj failed
      exact ⟨(Outcome.err.inj herror).symm, not_le.mp short, rfl⟩

theorem writeToPrefix_ne_panic (fields buffer written : List UInt8) :
    writeToPrefix fields buffer ≠ (.panic, written) := by
  unfold writeToPrefix
  split <;> simp

/-- Writing to `buffer[offset..offset + n]`, which panics when the range is not
inside the buffer. -/
def writeAt (offset : ℕ) (fields : List UInt8) : Call (List UInt8) PldmCodecError PUnit :=
  fun buffer =>
    if offset + fields.length ≤ buffer.length then
      (.ok ⟨⟩, buffer.take offset ++ fields ++ buffer.drop (offset + fields.length))
    else (.panic, buffer)

@[simp]
theorem wp_writeAt {offset : ℕ} {fields buffer : List UInt8}
    {post : Outcome PldmCodecError PUnit → List UInt8 → Prop} :
    (writeAt offset fields).wp post buffer ↔
      if offset + fields.length ≤ buffer.length then
        post (.ok ⟨⟩) (buffer.take offset ++ fields ++ buffer.drop (offset + fields.length))
      else post .panic buffer := by
  rw [Call.wp_iff, writeAt]
  split <;> rfl

/-- `data[..len]` of a fixed-size array, which panics past its end. -/
def slicePrefix (data : List UInt8) (len : ℕ) : Call (List UInt8) PldmCodecError (List UInt8) :=
  if len ≤ data.length then pure (data.take len) else Call.ofOutcome .panic

/-! ## Message header -/

inductive PldmSupportedType
  | base
  | platform
  | bios
  | fru
  | fwUpdate
  | oem
  deriving DecidableEq, Repr

def PldmSupportedType.toU8 : PldmSupportedType → UInt8
  | .base => 0x00
  | .platform => 0x02
  | .bios => 0x03
  | .fru => 0x04
  | .fwUpdate => 0x05
  | .oem => 0x3F

def PldmSupportedType.tryFrom : UInt8 → Except PldmError PldmSupportedType
  | 0x00 => .ok .base
  | 0x02 => .ok .platform
  | 0x03 => .ok .bios
  | 0x04 => .ok .fru
  | 0x05 => .ok .fwUpdate
  | 0x3F => .ok .oem
  | _ => .error .unsupportedPldmType

/-- A type is found under its own number only. -/
theorem PldmSupportedType.toU8_of_tryFrom {value : UInt8} {pldmType : PldmSupportedType}
    (known : tryFrom value = .ok pldmType) : pldmType.toU8 = value := by
  unfold tryFrom at known
  split at known <;> first | (cases known; rfl) | cases known

inductive PldmControlCmd
  | setTid
  | getTid
  | getPldmVersion
  | getPldmTypes
  | getPldmCommands
  deriving DecidableEq, Repr

def PldmControlCmd.toU8 : PldmControlCmd → UInt8
  | .setTid => 0x1
  | .getTid => 0x2
  | .getPldmVersion => 0x3
  | .getPldmTypes => 0x4
  | .getPldmCommands => 0x5

def PldmControlCmd.tryFrom : UInt8 → Except PldmError PldmControlCmd
  | 0x1 => .ok .setTid
  | 0x2 => .ok .getTid
  | 0x3 => .ok .getPldmVersion
  | 0x4 => .ok .getPldmTypes
  | 0x5 => .ok .getPldmCommands
  | _ => .error .unsupportedCmd

theorem PldmControlCmd.toU8_of_tryFrom {value : UInt8} {cmd : PldmControlCmd}
    (known : tryFrom value = .ok cmd) : cmd.toU8 = value := by
  unfold tryFrom at known
  split at known <;> first | (cases known; rfl) | cases known

inductive PldmMsgType
  | response
  | reserved
  | request
  | asyncRequestNotify
  deriving DecidableEq, Repr

def PldmMsgType.toU8 : PldmMsgType → UInt8
  | .response => 0x00
  | .reserved => 0x01
  | .request => 0x02
  | .asyncRequestNotify => 0x03

/-- The header bytes. Byte 0 holds the instance ID in bits 4..0, the datagram
bit 6 and the request bit 7; byte 1 holds the type in bits 5..0 and the header
version above them; byte 2 is the command code. -/
structure PldmMsgHeader where
  byte0 : UInt8
  byte1 : UInt8
  byte2 : UInt8
  deriving DecidableEq, Repr, Inhabited

namespace PldmMsgHeader

def instanceId (header : PldmMsgHeader) : UInt8 := header.byte0 % 32
def rq (header : PldmMsgHeader) : UInt8 := header.byte0 / 128
def pldmType (header : PldmMsgHeader) : UInt8 := header.byte1 % 64
def hdrVer (header : PldmMsgHeader) : UInt8 := header.byte1 / 64
def cmdCode (header : PldmMsgHeader) : UInt8 := header.byte2

/-- A fresh header. A bit field keeps the low bits of what it is set to. -/
def new (instanceId : UInt8) (messageType : PldmMsgType) (pldmType : PldmSupportedType)
    (cmdCode : UInt8) : PldmMsgHeader where
  byte0 := instanceId % 32 + messageType.toU8 % 2 * 64 + messageType.toU8 / 2 % 2 * 128
  byte1 := pldmType.toU8 % 64
  byte2 := cmdCode

def isRequest (header : PldmMsgHeader) : Bool := header.rq == PldmMsgType.request.toU8 / 2

def isHdrVerValid (header : PldmMsgHeader) : Bool := header.hdrVer == 0

/-- Switch the message to a response: only the request bit is cleared. -/
def intoResponse (header : PldmMsgHeader) : PldmMsgHeader :=
  { header with byte0 := header.byte0 % 128 }

def toBytes (header : PldmMsgHeader) : List UInt8 :=
  [header.byte0, header.byte1, header.byte2]

def reader : Decoder PldmMsgHeader := do
  let byte0 ← Decoder.u8
  let byte1 ← Decoder.u8
  let byte2 ← Decoder.u8
  pure ⟨byte0, byte1, byte2⟩

def decode (buffer : List UInt8) : Except PldmCodecError PldmMsgHeader :=
  Reader.decode reader buffer

theorem extends_reader : Decoder.Extends reader :=
  Decoder.extends_u8.bind fun _ => Decoder.extends_u8.bind fun _ =>
    Decoder.extends_u8.bind fun _ => Reader.extends_pure _

theorem extends_decode : Reader.DecodeExtends decode .bufferTooShort := extends_reader.decode

end PldmMsgHeader

/-! ## Completion codes -/

inductive PldmBaseCompletionCode
  | success
  | error
  | invalidData
  | invalidLength
  | notReady
  | unsupportedPldmCmd
  | invalidPldmType
  deriving DecidableEq, Repr

def PldmBaseCompletionCode.toU8 : PldmBaseCompletionCode → UInt8
  | .success => 0x00
  | .error => 0x01
  | .invalidData => 0x02
  | .invalidLength => 0x03
  | .notReady => 0x04
  | .unsupportedPldmCmd => 0x05
  | .invalidPldmType => 0x20

def PldmBaseCompletionCode.tryFrom : UInt8 → Except PldmError PldmBaseCompletionCode
  | 0x00 => .ok .success
  | 0x01 => .ok .error
  | 0x02 => .ok .invalidData
  | 0x03 => .ok .invalidLength
  | 0x04 => .ok .notReady
  | 0x05 => .ok .unsupportedPldmCmd
  | 0x20 => .ok .invalidPldmType
  | _ => .error .invalidCompletionCode

theorem PldmBaseCompletionCode.tryFrom_toU8 (code : PldmBaseCompletionCode) :
    tryFrom code.toU8 = .ok code := by
  cases code <;> rfl

theorem PldmBaseCompletionCode.toU8_of_tryFrom {value : UInt8} {code : PldmBaseCompletionCode}
    (known : tryFrom value = .ok code) : code.toU8 = value := by
  unfold tryFrom at known
  split at known <;> cases known <;> rfl

inductive PldmControlCompletionCode
  | invalidDataTransferHandle
  | invalidTransferOperationFlag
  | invalidPldmTypeInRequestData
  | invalidPldmVersionInRequestData
  deriving DecidableEq, Repr

def PldmControlCompletionCode.toU8 : PldmControlCompletionCode → UInt8
  | .invalidDataTransferHandle => 0x80
  | .invalidTransferOperationFlag => 0x81
  | .invalidPldmTypeInRequestData => 0x83
  | .invalidPldmVersionInRequestData => 0x84

inductive TransferOperationFlag
  | getNextPart
  | getFirstPart
  deriving DecidableEq, Repr

def TransferOperationFlag.toU8 : TransferOperationFlag → UInt8
  | .getNextPart => 0
  | .getFirstPart => 1

def TransferOperationFlag.tryFrom : UInt8 → Except PldmError TransferOperationFlag
  | 0 => .ok .getNextPart
  | 1 => .ok .getFirstPart
  | _ => .error .invalidTransferOpFlag

theorem TransferOperationFlag.tryFrom_toU8 (flag : TransferOperationFlag) :
    tryFrom flag.toU8 = .ok flag := by
  cases flag <;> rfl

theorem TransferOperationFlag.toU8_of_tryFrom {value : UInt8} {flag : TransferOperationFlag}
    (known : tryFrom value = .ok flag) : flag.toU8 = value := by
  unfold tryFrom at known
  split at known <;> cases known <;> rfl

inductive TransferRespFlag
  | start
  | middle
  | end
  | startAndEnd
  deriving DecidableEq, Repr

def TransferRespFlag.toU8 : TransferRespFlag → UInt8
  | .start => 0x01
  | .middle => 0x02
  | .end => 0x04
  | .startAndEnd => 0x05

def TransferRespFlag.tryFrom : UInt8 → Except PldmError TransferRespFlag
  | 0x01 => .ok .start
  | 0x02 => .ok .middle
  | 0x04 => .ok .end
  | 0x05 => .ok .startAndEnd
  | _ => .error .invalidTransferRespFlag

/-- A response that carries a completion code and nothing else. -/
structure PldmFailureResponse where
  hdr : PldmMsgHeader
  completionCode : UInt8
  deriving DecidableEq, Repr

def PldmFailureResponse.toBytes (response : PldmFailureResponse) : List UInt8 :=
  response.hdr.toBytes ++ [response.completionCode]

/-! ## Facts about reading a header -/

@[simp]
theorem PldmMsgHeader.decode_cons (byte0 byte1 byte2 : UInt8) (rest : List UInt8) :
    decode (byte0 :: byte1 :: byte2 :: rest) = .ok ⟨byte0, byte1, byte2⟩ := by
  simp [decode, reader, Reader.decode, Decoder.u8, Reader.number, Reader.bytes, leValue,
    Reader.bind_apply, Reader.map_apply, Except.bind, Except.map]

/-- A header decodes exactly when the buffer holds three bytes. -/
theorem PldmMsgHeader.decode_eq (buffer : List UInt8) :
    decode buffer = match buffer with
      | byte0 :: byte1 :: byte2 :: _ => .ok ⟨byte0, byte1, byte2⟩
      | _ => .error .bufferTooShort := by
  match buffer with
  | byte0 :: byte1 :: byte2 :: rest => exact decode_cons byte0 byte1 byte2 rest
  | [] => rfl
  | [_] => rfl
  | [_, _] => rfl

end PldmLib.Protocol
