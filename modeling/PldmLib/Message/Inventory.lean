/-
# Inventory messages

The answers to `QueryDeviceIdentifiers` and `GetFirmwareParameters`. Both are
tables whose length is a field of the message, so their encoders walk the table
and index it by that field.
-/

import PldmLib.Message.Update

namespace PldmLib.Message

open PldmLib.Machine PldmLib.Protocol

/-- Run an encoder on `buffer[offset..]`, which panics past the end. -/
def encodeFrom (offset : ℕ) (inner : Encoder) : Encoder := fun buffer =>
  if offset ≤ buffer.length then
    let (outcome, written) := inner (buffer.drop offset)
    (outcome, buffer.take offset ++ written)
  else (.panic, buffer)

/-! ## Device identifiers -/

def additionalDescriptorsMaxCount : ℕ := 4

structure QueryDeviceIdentifiersResponse where
  hdr : PldmMsgHeader
  completionCode : UInt8
  deviceIdentifiersLen : UInt32
  descriptorCount : UInt8
  initialDescriptor : Descriptor
  additionalDescriptors : Option (List.Vector Descriptor additionalDescriptorsMaxCount)
  deriving DecidableEq

namespace QueryDeviceIdentifiersResponse

def new (instanceId completionCode : UInt8) (initialDescriptor : Descriptor)
    (additionalDescriptors : Option (List Descriptor)) :
    Except PldmError QueryDeviceIdentifiersResponse :=
  let additional := additionalDescriptors.getD []
  let descriptorCount := 1 + additional.length
  if descriptorCount > additionalDescriptorsMaxCount + 1 then
    .error .invalidDescriptorCount
  else
    .ok
      { hdr := responseHeader instanceId .queryDeviceIdentifiers
        completionCode := completionCode
        deviceIdentifiersLen := UInt32.ofNat
          (initialDescriptor.codecSizeInBytes + (additional.map (·.codecSizeInBytes)).sum)
        descriptorCount := UInt8.ofNat descriptorCount
        initialDescriptor := initialDescriptor
        additionalDescriptors :=
          if descriptorCount > 1 then
            some ⟨(additional ++ List.replicate additionalDescriptorsMaxCount
              Descriptor.newEmpty).take additionalDescriptorsMaxCount, by simp⟩
          else none }

/-- The additional descriptors that count: the array is filled up with empty
ones. -/
def additional (response : QueryDeviceIdentifiersResponse) : List Descriptor :=
  match response.additionalDescriptors with
  | some descriptors => descriptors.toList.take (response.descriptorCount.toNat - 1)
  | none => []

def codecSizeInBytes (response : QueryDeviceIdentifiersResponse) : ℕ :=
  9 + response.initialDescriptor.codecSizeInBytes +
    (response.additional.map (·.codecSizeInBytes)).sum

def headBytes (response : QueryDeviceIdentifiersResponse) : List UInt8 :=
  response.hdr.toBytes ++ [response.completionCode] ++
    u32Bytes response.deviceIdentifiersLen ++ [response.descriptorCount]

def encode (response : QueryDeviceIdentifiersResponse) : Encoder := do
  let buffer ← Call.get
  if buffer.length < response.codecSizeInBytes then
    Call.fail .bufferTooShort
  else do
    writeAt 0 response.headBytes
    let bytes ← encodeFrom 9 response.initialDescriptor.encode
    response.additional.foldlM (fun offset descriptor => do
      let bytes ← encodeFrom offset descriptor.encode
      pure (offset + bytes)) (9 + bytes)

end QueryDeviceIdentifiersResponse

/-! ## Firmware parameters -/

structure FirmwareParameters where
  capabilitiesDuringUpdate : UInt32
  compCount : UInt16
  activeCompImageSetVerStrType : UInt8
  activeCompImageSetVerStrLen : UInt8
  pendingCompImageSetVerStrType : UInt8
  pendingCompImageSetVerStrLen : UInt8
  activeCompImageSetVerStr : FixedBytes pldmFwupImageSetVerStrMaxLen
  pendingCompImageSetVerStr : Option (FixedBytes pldmFwupImageSetVerStrMaxLen)
  compParamTable : List.Vector ComponentParameterEntry maxComponentCount
  deriving DecidableEq

namespace FirmwareParameters

def fixedBytes (params : FirmwareParameters) : List UInt8 :=
  u32Bytes params.capabilitiesDuringUpdate ++ u16Bytes params.compCount ++
    [params.activeCompImageSetVerStrType, params.activeCompImageSetVerStrLen,
      params.pendingCompImageSetVerStrType, params.pendingCompImageSetVerStrLen]

/-- `comp_param_table[i]`, which panics past the end of the table. -/
def entry (params : FirmwareParameters) (index : ℕ) :
    Outcome PldmCodecError ComponentParameterEntry :=
  match params.compParamTable.toList[index]? with
  | some found => .ok found
  | none => .panic

/-- The loop runs over the announced count, not over the table. -/
def codecSizeInBytes (params : FirmwareParameters) : Outcome PldmCodecError ℕ :=
  (List.range params.compCount.toNat).foldlM (fun bytes index => do
    let found ← params.entry index
    pure (bytes + found.codecSizeInBytes))
    (10 + (if params.pendingCompImageSetVerStr.isSome then
        params.pendingCompImageSetVerStrLen.toNat else 0) +
      params.activeCompImageSetVerStrLen.toNat)

def encode (params : FirmwareParameters) : Encoder := do
  let buffer ← Call.get
  let size ← Call.ofOutcome params.codecSizeInBytes
  if buffer.length < size then
    Call.fail .bufferTooShort
  else do
    writeAt 0 params.fixedBytes
    let len := params.activeCompImageSetVerStrLen.toNat
    writeAt 10 (← slicePrefix params.activeCompImageSetVerStr.toList len)
    let offset ← match params.pendingCompImageSetVerStr with
      | some pendingCompImageSetVerStr => do
          let pendingLen := params.pendingCompImageSetVerStrLen.toNat
          writeAt (10 + len) (← slicePrefix pendingCompImageSetVerStr.toList pendingLen)
          pure (10 + len + pendingLen)
      | none => pure (10 + len)
    (List.range params.compCount.toNat).foldlM (fun offset index => do
      let found ← Call.ofOutcome (params.entry index)
      let bytes ← encodeFrom offset found.encode
      pure (offset + bytes)) offset

end FirmwareParameters

structure GetFirmwareParametersResponse where
  hdr : PldmMsgHeader
  completionCode : UInt8
  parms : FirmwareParameters
  deriving DecidableEq

namespace GetFirmwareParametersResponse

def new (instanceId completionCode : UInt8) (parms : FirmwareParameters) :
    GetFirmwareParametersResponse :=
  ⟨responseHeader instanceId .getFirmwareParameters, completionCode, parms⟩

def encode (response : GetFirmwareParametersResponse) : Encoder := do
  let buffer ← Call.get
  let parmsSize ← Call.ofOutcome response.parms.codecSizeInBytes
  if buffer.length < pldmMsgHeaderLen + 1 + parmsSize then
    Call.fail .bufferTooShort
  else do
    writeAt 0 (response.hdr.toBytes ++ [response.completionCode])
    let bytes ← encodeFrom 4 response.parms.encode
    pure (4 + bytes)

end GetFirmwareParametersResponse

/-! ## Components -/

/-- A component as a request names it. The image size and the option flags are
known once the agent asks to update it. -/
structure FirmwareComponent where
  compClassification : UInt16
  compIdentifier : UInt16
  compClassificationIndex : UInt8
  compComparisonStamp : UInt32
  compVersion : PldmFirmwareString
  compImageSize : Option UInt32
  updateOptionFlags : Option UpdateOptionFlags
  deriving DecidableEq

def FirmwareComponent.default : FirmwareComponent :=
  ⟨0, 0, 0, 0, PldmFirmwareString.default, none, none⟩

end PldmLib.Message
