/-
# Downstream devices

The answers that describe the devices behind the firmware device. A parameter table
has its two version strings behind a fixed part of 36 bytes, although its decoder only
asks for 32 before it indexes; the answer that carries it nests two more decoders. A
downstream device keeps its descriptors as undecoded bytes, and is encoded byte by
byte.
-/

import PldmLib.Protocol.Records
import PldmLib.Message.PackageData
import PldmLib.Message.InventoryCodec

namespace PldmLib.Message

open PldmLib.Machine PldmLib.Protocol

/-! ## Parameter tables -/

/-- 0x0000 to 0x0FFF are index numbers, the others are reserved. -/
structure DownstreamDeviceIndex where
  value : UInt16
  deriving DecidableEq, Repr

def pldmTimeStampLen : ℕ := 8

/-- Eight decimal digits. -/
def PldmTimeStamp.new (timestamp : String) : Except PldmError (FixedBytes pldmTimeStampLen) :=
  if (asBytes timestamp).length ≠ pldmTimeStampLen then .error .invalidData
  else if (asBytes timestamp).all fun byte => 0x30 ≤ byte ∧ byte ≤ 0x39 then
    .ok (FixedBytes.padTo _ (asBytes timestamp))
  else .error .invalidData

structure DownstreamDeviceParameterTable where
  downstreamDeviceIndex : UInt16
  activeComponentComparisonStamp : UInt32
  activeComponentReleaseDate : FixedBytes pldmTimeStampLen
  pendingComponentComparisonStamp : UInt32
  pendingComponentReleaseDate : FixedBytes pldmTimeStampLen
  componentActivationMethods : UInt16
  capabilitiesDuringUpdate : UInt32
  activeComponentVersionString : PldmFirmwareString
  pendingComponentVersionString : PldmFirmwareString
  deriving DecidableEq

/-- `u16::decode(&buffer[offset..])` of a bit field. -/
def prefixU16 : FieldScanner UInt16 := Scanner.nested Look.get.u16.decode fun _ => 2

/-- `u32::decode(&buffer[offset..])` of a bit field. -/
def prefixU32 : FieldScanner UInt32 := Scanner.nested Look.get.u32.decode fun _ => 4

theorem holds_prefixU16 {passed coming : List UInt8}
    {post : UInt16 → List UInt8 → List UInt8 → Prop}
    (found : ∀ value after, coming = u16Bytes value ++ after →
      post value (passed ++ u16Bytes value) after) :
    prefixU16.Holds post passed coming := by
  have hspells : Scanner.Spells Look.get.u16.decode u16Bytes fun _ => True := by
    apply Scanner.spells_of_holds
    intro buffer
    apply Look.holds_u16 Look.room_get
    intro value after _
    exact ⟨rfl, trivial⟩
  exact Scanner.holds_nested hspells (fun value _ => (length_u16Bytes value).symm)
    fun value after hcoming _ => found value after hcoming

theorem holds_prefixU32 {passed coming : List UInt8}
    {post : UInt32 → List UInt8 → List UInt8 → Prop}
    (found : ∀ value after, coming = u32Bytes value ++ after →
      post value (passed ++ u32Bytes value) after) :
    prefixU32.Holds post passed coming := by
  have hspells : Scanner.Spells Look.get.u32.decode u32Bytes fun _ => True := by
    apply Scanner.spells_of_holds
    intro buffer
    apply Look.holds_u32 Look.room_get
    intro value after _
    exact ⟨rfl, trivial⟩
  exact Scanner.holds_nested hspells (fun value _ => (length_u32Bytes value).symm)
    fun value after hcoming _ => found value after hcoming

theorem runAt_prefixU16 (value : UInt16) {passed after : List UInt8} {β : Type}
    (next : UInt16 → FieldScanner β) :
    (prefixU16 >>= next).runAt passed (u16Bytes value ++ after) =
      (next value).runAt (passed ++ u16Bytes value) after := by
  have hdecode : Look.get.u16.decode (u16Bytes value ++ after) = .ok value :=
    Scanner.decode_of_runAt (Look.finds_u16 value)
  apply Scanner.runAt_bind
  simp [prefixU16, Scanner.runAt, Scanner.nested, hdecode, Outcome.map]

theorem runAt_prefixU32 (value : UInt32) {passed after : List UInt8} {β : Type}
    (next : UInt32 → FieldScanner β) :
    (prefixU32 >>= next).runAt passed (u32Bytes value ++ after) =
      (next value).runAt (passed ++ u32Bytes value) after := by
  have hdecode : Look.get.u32.decode (u32Bytes value ++ after) = .ok value :=
    Scanner.decode_of_runAt (Look.finds_u32 value)
  apply Scanner.runAt_bind
  simp [prefixU32, Scanner.runAt, Scanner.nested, hdecode, Outcome.map]

namespace DownstreamDeviceParameterTable

variable {table : DownstreamDeviceParameterTable}

def new (downstreamDeviceIndex : DownstreamDeviceIndex) (activeComponentComparisonStamp : UInt32)
    (activeComponentVersionString pendingComponentVersionString : PldmFirmwareString)
    (activeComponentReleaseDate : String) (pendingComponentComparisonStamp : UInt32)
    (componentActivationMethods : UInt16) (capabilitiesDuringUpdate : UInt32)
    (pendingComponentReleaseDate : String) :
    Except PldmError DownstreamDeviceParameterTable := do
  let activeComponentReleaseDate ← PldmTimeStamp.new activeComponentReleaseDate
  let pendingComponentReleaseDate ← PldmTimeStamp.new pendingComponentReleaseDate
  pure
    { downstreamDeviceIndex := downstreamDeviceIndex.value
      activeComponentComparisonStamp, activeComponentReleaseDate,
      pendingComponentComparisonStamp, pendingComponentReleaseDate,
      componentActivationMethods, capabilitiesDuringUpdate,
      activeComponentVersionString, pendingComponentVersionString }

def fixedBytes (table : DownstreamDeviceParameterTable) : List UInt8 :=
  u16Bytes table.downstreamDeviceIndex ++ u32Bytes table.activeComponentComparisonStamp ++
    [table.activeComponentVersionString.strType, table.activeComponentVersionString.strLen] ++
    table.activeComponentReleaseDate.toList ++ u32Bytes table.pendingComponentComparisonStamp ++
    [table.pendingComponentVersionString.strType, table.pendingComponentVersionString.strLen] ++
    table.pendingComponentReleaseDate.toList ++ u16Bytes table.componentActivationMethods ++
    u32Bytes table.capabilitiesDuringUpdate

def toBytes (table : DownstreamDeviceParameterTable) : List UInt8 :=
  table.fixedBytes ++ table.activeComponentVersionString.text ++
    table.pendingComponentVersionString.text

def size (table : DownstreamDeviceParameterTable) : ℕ :=
  36 + table.activeComponentVersionString.strLen.toNat +
    table.pendingComponentVersionString.strLen.toNat

def encode (table : DownstreamDeviceParameterTable) : Encoder := do
  let buffer ← Call.get
  if buffer.length < table.size then
    Call.fail .bufferTooShort
  else do
    writeAt 0 table.fixedBytes
    let activeLen := table.activeComponentVersionString.strLen.toNat
    writeAt 36 (← slicePrefix table.activeComponentVersionString.strData.toList activeLen)
    let pendingLen := table.pendingComponentVersionString.strLen.toNat
    writeAt (36 + activeLen)
      (← slicePrefix table.pendingComponentVersionString.strData.toList pendingLen)
    pure (36 + activeLen + pendingLen)

/-- The size asked for leaves out the types and lengths of the two strings. -/
def minSize : ℕ := 32

def scanner : FieldScanner DownstreamDeviceParameterTable := do
  Scanner.require .bufferTooShort minSize
  let downstreamDeviceIndex ← Look.slice.u16
  let activeComponentComparisonStamp ← Look.slice.u32
  let activeType ← Look.slice.u8
  let activeLen ← Look.slice.u8
  let activeComponentReleaseDate ← Look.slice.array pldmTimeStampLen
  let pendingComponentComparisonStamp ← Look.slice.u32
  let pendingType ← Look.slice.u8
  let pendingLen ← Look.slice.u8
  let pendingComponentReleaseDate ← Look.slice.array pldmTimeStampLen
  let componentActivationMethods ← prefixU16
  let capabilitiesDuringUpdate ← prefixU32
  let activeData ← boundedData pldmFwupImageSetVerStrMaxLen activeLen.toNat
  let pendingData ← boundedData pldmFwupImageSetVerStrMaxLen pendingLen.toNat
  pure ⟨downstreamDeviceIndex, activeComponentComparisonStamp, activeComponentReleaseDate,
    pendingComponentComparisonStamp, pendingComponentReleaseDate, componentActivationMethods,
    capabilitiesDuringUpdate, ⟨activeType, activeLen, activeData⟩,
    ⟨pendingType, pendingLen, pendingData⟩⟩

def decode (buffer : List UInt8) : Outcome PldmCodecError DownstreamDeviceParameterTable :=
  scanner.decode buffer

structure Canonical (table : DownstreamDeviceParameterTable) : Prop where
  active : table.activeComponentVersionString.Canonical
  pending : table.pendingComponentVersionString.Canonical

theorem length_fixedBytes (table : DownstreamDeviceParameterTable) :
    table.fixedBytes.length = 36 := by
  simp only [fixedBytes, List.length_append, length_u16Bytes, length_u32Bytes,
    List.Vector.toList_length]
  rfl

theorem length_toBytes (canonical : table.Canonical) : table.toBytes.length = table.size := by
  rw [toBytes, List.length_append, List.length_append, length_fixedBytes,
    PldmFirmwareString.length_text canonical.active.fits,
    PldmFirmwareString.length_text canonical.pending.fits, size]

theorem encode_eq (canonical : table.Canonical) :
    table.encode = writeToPrefix table.toBytes := by
  have hsize := length_toBytes canonical
  have hfixed := table.length_fixedBytes
  have hactive : (table.activeComponentVersionString.strData.toList.take
      table.activeComponentVersionString.strLen.toNat).length =
        table.activeComponentVersionString.strLen.toNat :=
    PldmFirmwareString.length_text canonical.active.fits
  apply encodes_of_fills (by rw [hsize]; rfl)
  apply Fills.congr
  · apply Fills.bind
    · exact Fills.writeAt rfl
    apply Fills.bind
    · exact Fills.slicePrefix (by rw [List.Vector.toList_length]; exact canonical.active.fits)
    apply Fills.bind
    · exact Fills.writeAt (by simp [hfixed])
    apply Fills.bind
    · exact Fills.slicePrefix (by rw [List.Vector.toList_length]; exact canonical.pending.fits)
    apply Fills.bind
    · exact Fills.writeAt (by
        simp only [List.nil_append, List.append_nil, List.length_append, hfixed, hactive])
    exact Fills.pure _
  · simp [toBytes, PldmFirmwareString.text]
  · rw [hsize, size]

theorem spells : Scanner.Spells decode toBytes Canonical := by
  apply Scanner.spells_of_holds
  intro buffer
  apply Scanner.holds_bind
  apply Scanner.holds_require
  intro enough
  have hdate : pldmTimeStampLen = 8 := rfl
  simp only [List.length_nil, Nat.zero_add, minSize] at enough
  apply Scanner.holds_bind
  apply Look.holds_u16 (by intro _; omega)
  rintro downstreamDeviceIndex _ rfl
  apply Scanner.holds_bind
  apply Look.holds_u32 (by intro _; simp at enough; omega)
  rintro activeComponentComparisonStamp _ rfl
  apply Scanner.holds_bind
  apply Look.holds_u8 (by intro _; simp at enough; omega)
  rintro activeType _ rfl
  apply Scanner.holds_bind
  apply Look.holds_u8 (by intro _; simp at enough; omega)
  rintro activeLen _ rfl
  apply Scanner.holds_bind
  apply Look.holds_array (by intro _; simp at enough; omega)
  rintro activeComponentReleaseDate _ rfl
  apply Scanner.holds_bind
  apply Look.holds_u32 (by intro _; simp at enough; omega)
  rintro pendingComponentComparisonStamp _ rfl
  apply Scanner.holds_bind
  apply Look.holds_u8 (by intro _; simp at enough; omega)
  rintro pendingType _ rfl
  apply Scanner.holds_bind
  apply Look.holds_u8 (by intro _; simp at enough; omega)
  rintro pendingLen _ rfl
  apply Scanner.holds_bind
  apply Look.holds_array (by intro _; simp at enough; omega)
  rintro pendingComponentReleaseDate _ rfl
  apply Scanner.holds_bind
  apply holds_prefixU16
  intro componentActivationMethods _ _
  apply Scanner.holds_bind
  apply holds_prefixU32
  intro capabilitiesDuringUpdate _ _
  apply Scanner.holds_bind
  apply holds_boundedData
  intro activeData _ _ active
  apply Scanner.holds_bind
  apply holds_boundedData
  intro pendingData _ _ pending
  apply Scanner.holds_pure
  exact ⟨by simp [toBytes, fixedBytes, PldmFirmwareString.text], active, pending⟩

theorem reads (canonical : table.Canonical) (after : List UInt8) :
    decode (table.toBytes ++ after) = .ok table := by
  have hlength : minSize ≤ ([] : List UInt8).length + (table.toBytes ++ after).length := by
    rw [List.length_append, toBytes, List.length_append, List.length_append, length_fixedBytes,
      minSize]
    omega
  apply Scanner.decode_of_runAt
  · rw [scanner, Scanner.runAt_require hlength]
    simp only [toBytes, fixedBytes, PldmFirmwareString.text, List.append_assoc,
      List.cons_append, List.nil_append, Look.runAt_u16, Look.runAt_u32, Look.runAt_u8,
      Look.runAt_array, runAt_prefixU16, runAt_prefixU32]
    rw [runAt_boundedData canonical.active, runAt_boundedData canonical.pending]
    rfl

/-- What the constructor builds has the strings it was given. -/
theorem canonical_of_new {downstreamDeviceIndex : DownstreamDeviceIndex}
    {activeComponentComparisonStamp pendingComponentComparisonStamp : UInt32}
    {active pending : PldmFirmwareString} {activeDate pendingDate : String}
    {componentActivationMethods : UInt16} {capabilitiesDuringUpdate : UInt32}
    (activeCanonical : active.Canonical) (pendingCanonical : pending.Canonical)
    (built : new downstreamDeviceIndex activeComponentComparisonStamp active pending activeDate
      pendingComponentComparisonStamp componentActivationMethods capabilitiesDuringUpdate
      pendingDate = .ok table) : table.Canonical := by
  unfold new at built
  cases hactive : PldmTimeStamp.new activeDate with
  | error error =>
      rw [hactive] at built
      cases built
  | ok activeBytes =>
      cases hpending : PldmTimeStamp.new pendingDate with
      | error error =>
          rw [hactive, hpending] at built
          cases built
      | ok pendingBytes =>
          rw [hactive, hpending] at built
          obtain rfl := Except.ok.inj built
          exact ⟨activeCanonical, pendingCanonical⟩

end DownstreamDeviceParameterTable

/-! ## The portion and the answer that carries it -/

structure GetDownstreamFirmwareParametersPortion where
  getDownstreamFirmwareParametersCapability : UInt32
  downstreamDeviceCount : UInt16
  downstreamDeviceParameterTable : DownstreamDeviceParameterTable
  deriving DecidableEq

namespace GetDownstreamFirmwareParametersPortion

variable {portion : GetDownstreamFirmwareParametersPortion}

def new (capability : UInt32) (downstreamDeviceCount : UInt16)
    (downstreamDeviceParameterTable : DownstreamDeviceParameterTable) :
    GetDownstreamFirmwareParametersPortion :=
  ⟨capability, downstreamDeviceCount, downstreamDeviceParameterTable⟩

def fixedBytes (portion : GetDownstreamFirmwareParametersPortion) : List UInt8 :=
  u32Bytes portion.getDownstreamFirmwareParametersCapability ++
    u16Bytes portion.downstreamDeviceCount

def toBytes (portion : GetDownstreamFirmwareParametersPortion) : List UInt8 :=
  portion.fixedBytes ++ portion.downstreamDeviceParameterTable.toBytes

def minSize : ℕ := 6

def size (portion : GetDownstreamFirmwareParametersPortion) : ℕ :=
  minSize + portion.downstreamDeviceParameterTable.size

def encode (portion : GetDownstreamFirmwareParametersPortion) : Encoder := do
  let buffer ← Call.get
  if buffer.length < portion.size then
    Call.fail .bufferTooShort
  else do
    writeAt 0 portion.fixedBytes
    let bytesWritten ← encodeFrom minSize portion.downstreamDeviceParameterTable.encode
    pure (minSize + bytesWritten)

def scanner : FieldScanner GetDownstreamFirmwareParametersPortion := do
  Scanner.require .bufferTooShort minSize
  let capability ← Look.slice.u32
  let downstreamDeviceCount ← Look.slice.u16
  let downstreamDeviceParameterTable ← Scanner.nested DownstreamDeviceParameterTable.decode
    (·.size)
  pure ⟨capability, downstreamDeviceCount, downstreamDeviceParameterTable⟩

def decode (buffer : List UInt8) :
    Outcome PldmCodecError GetDownstreamFirmwareParametersPortion :=
  scanner.decode buffer

def Canonical (portion : GetDownstreamFirmwareParametersPortion) : Prop :=
  portion.downstreamDeviceParameterTable.Canonical

theorem length_fixedBytes (portion : GetDownstreamFirmwareParametersPortion) :
    portion.fixedBytes.length = minSize := by
  simp [fixedBytes, minSize]

theorem length_toBytes (canonical : portion.Canonical) :
    portion.toBytes.length = portion.size := by
  rw [toBytes, List.length_append, length_fixedBytes,
    DownstreamDeviceParameterTable.length_toBytes canonical, size]

theorem encode_eq (canonical : portion.Canonical) :
    portion.encode = writeToPrefix portion.toBytes := by
  have hsize := length_toBytes canonical
  have hfixed := portion.length_fixedBytes
  apply encodes_of_fills (by rw [hsize]; rfl)
  apply Fills.congr
  · apply Fills.bind
    · exact Fills.writeAt rfl
    apply Fills.bind
    · exact fills_encodeFrom (DownstreamDeviceParameterTable.encode_eq canonical)
        (by rw [List.nil_append, hfixed])
    exact Fills.pure _
  · simp [toBytes]
  · rw [toBytes, List.length_append, hfixed]

theorem spells : Scanner.Spells decode toBytes Canonical := by
  apply Scanner.spells_of_holds
  intro buffer
  apply Scanner.holds_bind
  apply Scanner.holds_require
  intro enough
  apply Scanner.holds_bind
  apply Look.holds_u32 (by intro _; simp [minSize] at enough; omega)
  rintro capability _ rfl
  apply Scanner.holds_bind
  apply Look.holds_u16 (by intro _; simp [minSize] at enough; omega)
  rintro downstreamDeviceCount _ rfl
  apply Scanner.holds_bind
  apply Scanner.holds_nested DownstreamDeviceParameterTable.spells
    (fun _ canonical => (DownstreamDeviceParameterTable.length_toBytes canonical).symm)
  intro downstreamDeviceParameterTable _ _ canonical
  apply Scanner.holds_pure
  exact ⟨by simp [toBytes, fixedBytes], canonical⟩

theorem reads (canonical : portion.Canonical) (after : List UInt8) :
    decode (portion.toBytes ++ after) = .ok portion := by
  have htable := DownstreamDeviceParameterTable.reads canonical after
  have hsize := (DownstreamDeviceParameterTable.length_toBytes canonical).symm
  have hlength : minSize ≤ ([] : List UInt8).length + (portion.toBytes ++ after).length := by
    rw [List.length_append, toBytes, List.length_append, length_fixedBytes]
    omega
  apply Scanner.decode_of_runAt
  · rw [scanner, Scanner.runAt_require hlength]
    simp only [toBytes, fixedBytes, List.append_assoc, Look.runAt_u32, Look.runAt_u16]
    rw [Scanner.runAt_bind (Scanner.runAt_nested htable hsize)]
    rfl

end GetDownstreamFirmwareParametersPortion

abbrev GetDownstreamFirmwareParametersResponseCode := PldmCompletionCode
  [.invalidTransferHandle, .invalidTransferOperationFlag, .downstreamDeviceListChanged]

structure GetDownstreamFirmwareParametersResponse where
  hdr : PldmMsgHeader
  completionCode : UInt8
  nextDataTransferHandle : UInt32
  transferFlag : UInt8
  portion : GetDownstreamFirmwareParametersPortion
  deriving DecidableEq

namespace GetDownstreamFirmwareParametersResponse

variable {response : GetDownstreamFirmwareParametersResponse}

def new (instanceId : UInt8) (completionCode : GetDownstreamFirmwareParametersResponseCode)
    (nextDataTransferHandle : UInt32) (transferFlag : UInt8)
    (portion : GetDownstreamFirmwareParametersPortion) :
    GetDownstreamFirmwareParametersResponse :=
  ⟨responseHeader instanceId .getDownstreamFirmwareParameters, completionCode.toU8,
    nextDataTransferHandle, transferFlag, portion⟩

def fixedBytes (response : GetDownstreamFirmwareParametersResponse) : List UInt8 :=
  response.hdr.toBytes ++ [response.completionCode] ++
    u32Bytes response.nextDataTransferHandle ++ [response.transferFlag]

def toBytes (response : GetDownstreamFirmwareParametersResponse) : List UInt8 :=
  response.fixedBytes ++ response.portion.toBytes

def fixedSize : ℕ := 9

/-- The size that the encoder computes. -/
def size (response : GetDownstreamFirmwareParametersResponse) : ℕ :=
  fixedSize + response.portion.size

def encode (response : GetDownstreamFirmwareParametersResponse) : Encoder := do
  let buffer ← Call.get
  if buffer.length < response.size then
    Call.fail .bufferTooShort
  else do
    writeAt 0 response.fixedBytes
    let bytesWritten ← encodeFrom fixedSize response.portion.encode
    pure (fixedSize + bytesWritten)

def minSize : ℕ := 15

def scanner : FieldScanner GetDownstreamFirmwareParametersResponse := do
  Scanner.require .bufferTooShort minSize
  let hdr ← Look.slice.header
  let completionCode ← Look.slice.u8
  let nextDataTransferHandle ← Look.slice.u32
  let transferFlag ← Look.slice.u8
  let portion ← Scanner.nested GetDownstreamFirmwareParametersPortion.decode (·.size)
  pure ⟨hdr, completionCode, nextDataTransferHandle, transferFlag, portion⟩

def decode (buffer : List UInt8) :
    Outcome PldmCodecError GetDownstreamFirmwareParametersResponse :=
  scanner.decode buffer

def Canonical (response : GetDownstreamFirmwareParametersResponse) : Prop :=
  response.portion.Canonical

theorem length_fixedBytes (response : GetDownstreamFirmwareParametersResponse) :
    response.fixedBytes.length = fixedSize := by
  simp [fixedBytes, fixedSize]

theorem length_toBytes (canonical : response.Canonical) :
    response.toBytes.length = response.size := by
  rw [toBytes, List.length_append, length_fixedBytes,
    GetDownstreamFirmwareParametersPortion.length_toBytes canonical, size]

theorem encode_eq (canonical : response.Canonical) :
    response.encode = writeToPrefix response.toBytes := by
  have hsize := length_toBytes canonical
  have hfixed := response.length_fixedBytes
  apply encodes_of_fills (by rw [hsize]; rfl)
  apply Fills.congr
  · apply Fills.bind
    · exact Fills.writeAt rfl
    apply Fills.bind
    · exact fills_encodeFrom (GetDownstreamFirmwareParametersPortion.encode_eq canonical)
        (by rw [List.nil_append, hfixed])
    exact Fills.pure _
  · simp [toBytes]
  · rw [toBytes, List.length_append, hfixed]

theorem spells : Scanner.Spells decode toBytes Canonical := by
  apply Scanner.spells_of_holds
  intro buffer
  apply Scanner.holds_bind
  apply Scanner.holds_require
  intro enough
  apply Scanner.holds_bind
  apply Look.holds_header (by intro _; simp [minSize] at enough; omega)
  rintro hdr _ rfl
  apply Scanner.holds_bind
  apply Look.holds_u8 (by intro _; simp [minSize] at enough; omega)
  rintro completionCode _ rfl
  apply Scanner.holds_bind
  apply Look.holds_u32 (by intro _; simp [minSize] at enough; omega)
  rintro nextDataTransferHandle _ rfl
  apply Scanner.holds_bind
  apply Look.holds_u8 (by intro _; simp [minSize] at enough; omega)
  rintro transferFlag _ rfl
  apply Scanner.holds_bind
  apply Scanner.holds_nested GetDownstreamFirmwareParametersPortion.spells
    (fun _ canonical => (GetDownstreamFirmwareParametersPortion.length_toBytes canonical).symm)
  intro portion _ _ canonical
  apply Scanner.holds_pure
  exact ⟨by simp [toBytes, fixedBytes], canonical⟩

theorem reads (canonical : response.Canonical) (after : List UInt8) :
    decode (response.toBytes ++ after) = .ok response := by
  have hportion := GetDownstreamFirmwareParametersPortion.reads canonical after
  have hsize := (GetDownstreamFirmwareParametersPortion.length_toBytes canonical).symm
  have hlength : minSize ≤ ([] : List UInt8).length + (response.toBytes ++ after).length := by
    rw [List.length_append, length_toBytes canonical, size,
      GetDownstreamFirmwareParametersPortion.size, minSize, fixedSize,
      GetDownstreamFirmwareParametersPortion.minSize]
    omega
  apply Scanner.decode_of_runAt
  · rw [scanner, Scanner.runAt_require hlength]
    simp only [toBytes, fixedBytes, List.append_assoc, List.cons_append, List.nil_append,
      Look.runAt_header, Look.runAt_u32, Look.runAt_u8]
    rw [Scanner.runAt_bind (Scanner.runAt_nested hportion hsize)]
    rfl

end GetDownstreamFirmwareParametersResponse

/-! ## Identifiers of downstream devices -/

/-- The portion is kept undecoded, with the state of an iteration over its devices. -/
structure QueryDownstreamIdentifiersResponse extends PortionResponse where
  portionIterCurrent : ℕ
  portionOffsetNext : ℕ
  deriving DecidableEq, Repr

namespace QueryDownstreamIdentifiersResponse

def encode (response : QueryDownstreamIdentifiersResponse) : Encoder :=
  response.toPortionResponse.encode

def decode (buffer : List UInt8) : Outcome PldmCodecError QueryDownstreamIdentifiersResponse :=
  (PortionResponse.decode buffer).map fun response => ⟨response, 0, 0⟩

theorem spells :
    Scanner.Spells decode (fun response => response.toPortionResponse.toBytes) fun _ => True := by
  intro buffer
  have hspells := PortionResponse.spells buffer
  unfold decode
  cases hdecode : PortionResponse.decode buffer with
  | ok response => exact hspells.of_ok hdecode
  | err error => trivial
  | panic => exact absurd hdecode hspells.ne_panic

/-- A response that has been decoded is not being iterated. -/
theorem reads_of_decode {buffer : List UInt8} {response : QueryDownstreamIdentifiersResponse}
    (accepted : decode buffer = .ok response) :
    decode response.toPortionResponse.toBytes = .ok response := by
  unfold decode at accepted ⊢
  cases hdecode : PortionResponse.decode buffer with
  | ok portion =>
      rw [hdecode] at accepted
      obtain rfl := Outcome.ok.inj accepted
      rw [PortionResponse.reads]
      rfl
  | err error =>
      rw [hdecode] at accepted
      cases accepted
  | panic =>
      rw [hdecode] at accepted
      cases accepted

end QueryDownstreamIdentifiersResponse

/-- A device and its descriptors, undecoded, with the state of an iteration over them. -/
structure DownstreamDevice where
  downstreamDeviceIndex : UInt16
  downstreamDescriptorCount : UInt8
  downstreamDescriptors : List UInt8
  iterDevCount : ℕ
  iterOffset : ℕ
  deriving DecidableEq, Repr

namespace DownstreamDevice

variable {device : DownstreamDevice}

def new (downstreamDeviceIndex : DownstreamDeviceIndex) (downstreamDescriptors : List UInt8) :
    DownstreamDevice :=
  ⟨downstreamDeviceIndex.value, UInt8.ofNat downstreamDescriptors.length, downstreamDescriptors,
    0, 0⟩

def minSize : ℕ := 3

def fixedBytes (device : DownstreamDevice) : List UInt8 :=
  u16Bytes device.downstreamDeviceIndex ++ [device.downstreamDescriptorCount]

def toBytes (device : DownstreamDevice) : List UInt8 :=
  device.fixedBytes ++ device.downstreamDescriptors

/-- What a byte is found to need: it is encoded into an empty buffer, and an error counts
as nothing. -/
def byteSize (byte : UInt8) : ℕ :=
  match (writeToPrefix [byte] []).1 with
  | .ok bytes => bytes
  | _ => 0

/-- Every byte of the descriptors is encoded by itself. -/
def encode (device : DownstreamDevice) : Encoder := do
  let buffer ← Call.get
  let size := minSize + (device.downstreamDescriptors.map byteSize).sum
  if buffer.length < size then
    Call.fail .bufferTooShort
  else do
    writeAt 0 device.fixedBytes
    device.downstreamDescriptors.foldlM (fun offset byte => do
      let bytesWritten ← encodeFrom offset (writeToPrefix [byte])
      pure (offset + bytesWritten)) minSize

def scanner : FieldScanner DownstreamDevice := do
  Scanner.require .bufferTooShort minSize
  let downstreamDeviceIndex ← Look.slice.u16
  let downstreamDescriptorCount ← Look.slice.u8
  let downstreamDescriptors ← Scanner.rest
  pure ⟨downstreamDeviceIndex, downstreamDescriptorCount, downstreamDescriptors, 0, 0⟩

def decode (buffer : List UInt8) : Outcome PldmCodecError DownstreamDevice :=
  scanner.decode buffer

theorem length_fixedBytes (device : DownstreamDevice) :
    device.fixedBytes.length = minSize := by
  simp [fixedBytes, minSize]

/-- No byte fits into an empty buffer, so only the fixed part is asked for. -/
theorem byteSize_sum (bytes : List UInt8) : (bytes.map byteSize).sum = 0 := by
  have hzero : byteSize = fun _ => 0 := by
    funext byte
    rfl
  rw [hzero]
  simp

/-- With room for all of it the device is written as it is spelled. -/
theorem encode_of_room {buffer : List UInt8} (room : device.toBytes.length ≤ buffer.length) :
    device.encode buffer =
      (.ok device.toBytes.length, device.toBytes ++ buffer.drop device.toBytes.length) := by
  have hfixed := device.length_fixedBytes
  have hlength : device.toBytes.length = minSize + device.downstreamDescriptors.length := by
    rw [toBytes, List.length_append, hfixed]
  have henough : ¬ buffer.length < minSize := by omega
  have hfills : Fills (do
      writeAt 0 device.fixedBytes
      device.downstreamDescriptors.foldlM (fun offset byte => do
        let bytesWritten ← encodeFrom offset (writeToPrefix [byte])
        pure (offset + bytesWritten)) minSize) [] device.toBytes device.toBytes.length := by
    apply Fills.congr
    · apply Fills.bind
      · exact Fills.writeAt rfl
      · exact @fills_entries UInt8 (fun byte => writeToPrefix [byte]) (fun byte => [byte]) _
          (fun _ _ => rfl) _ _ (by rw [List.nil_append, hfixed])
    · simp [toBytes]
    · simp [hlength]
  have hencode : device.encode.wp (fun outcome final => (outcome, final) =
      (.ok device.toBytes.length, device.toBytes ++ buffer.drop device.toBytes.length))
        buffer := by
    rw [encode, Call.wp_bind, Call.wp_get]
    simp only [byteSize_sum, Nat.add_zero, henough, ↓reduceIte]
    exact hfills buffer room
  exact hencode

/-- A device that is not being iterated. -/
structure Fresh (device : DownstreamDevice) : Prop where
  iterDevCount : device.iterDevCount = 0
  iterOffset : device.iterOffset = 0

theorem spells_fresh : Scanner.Spells decode toBytes Fresh := by
  apply Scanner.spells_of_holds
  intro buffer
  apply Scanner.holds_bind
  apply Scanner.holds_require
  intro enough
  apply Scanner.holds_bind
  apply Look.holds_u16 (by intro _; simp [minSize] at enough; omega)
  rintro downstreamDeviceIndex _ rfl
  apply Scanner.holds_bind
  apply Look.holds_u8 (by intro _; simp [minSize] at enough; omega)
  rintro downstreamDescriptorCount _ rfl
  apply Scanner.holds_bind
  apply Scanner.holds_rest
  apply Scanner.holds_pure
  exact ⟨by simp [toBytes, fixedBytes], rfl, rfl⟩

theorem spells : Scanner.Spells decode toBytes fun _ => True := by
  intro buffer
  exact (spells_fresh buffer).mono fun _ found => ⟨trivial, found.2⟩

theorem reads (fresh : device.Fresh) : decode device.toBytes = .ok device := by
  have hlength : minSize ≤ ([] : List UInt8).length + device.toBytes.length := by
    rw [toBytes, List.length_append, length_fixedBytes]
    omega
  have hdevice : (⟨device.downstreamDeviceIndex, device.downstreamDescriptorCount,
      device.downstreamDescriptors, 0, 0⟩ : DownstreamDevice) = device := by
    cases device
    obtain ⟨rfl, rfl⟩ := fresh
    rfl
  apply Scanner.decode_of_runAt
  · rw [scanner, Scanner.runAt_require hlength]
    simp only [toBytes, fixedBytes, List.append_assoc, List.cons_append, List.nil_append,
      Look.runAt_u16, Look.runAt_u8]
    rw [Scanner.runAt_rest_bind, hdevice]
    rfl

/-- The descriptors go on to the end of the buffer. -/
theorem of_decode {buffer : List UInt8} (accepted : decode buffer = .ok device) :
    device.Fresh ∧ buffer = device.toBytes := by
  obtain ⟨fresh, after, rfl⟩ := (spells_fresh buffer).of_ok accepted
  have hreads := @reads { device with
    downstreamDescriptors := device.downstreamDescriptors ++ after }
    ⟨fresh.iterDevCount, fresh.iterOffset⟩
  rw [toBytes, ← List.append_assoc] at hreads
  have hsame := Outcome.ok.inj (accepted.symm.trans hreads)
  have hdescriptors := congrArg DownstreamDevice.downstreamDescriptors hsame
  rw [List.self_eq_append_right.mp hdescriptors, List.append_nil]
  exact ⟨fresh, rfl⟩

end DownstreamDevice

end PldmLib.Message
