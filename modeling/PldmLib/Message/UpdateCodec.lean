/-
# Codecs of the update messages

The hand-written codecs of the messages that drive an update. Three requests end in a
version string and share their encoder; two responses end in a field that is there or
not; a firmware data response ends in data of any length. For each of them: how it is
spelled, that its encoder writes the spelling, that its decoder accepts nothing else,
and that it reads the spelling back.
-/

import PldmLib.Protocol.Records
import PldmLib.Message.Transfer
import PldmLib.Message.Update

namespace PldmLib.Message

open PldmLib.Machine PldmLib.Protocol

/-- The scanner of a version string does what the reader of the handlers does. -/
theorem follows_versionString (strLen : UInt8) :
    (boundedData pldmFwupImageSetVerStrMaxLen strLen.toNat).Follows
      (versionStringReader strLen) := by
  unfold boundedData versionStringReader
  by_cases long : strLen.toNat > pldmFwupImageSetVerStrMaxLen
  · simp only [long, ↓reduceIte]
    exact Scanner.follows_fail _
  · simp only [long, ↓reduceIte]
    apply Scanner.follows_bind Scanner.follows_get
    intro field coming after hread
    have hlength : field.length = strLen.toNat := by
      obtain ⟨henough, -⟩ := Reader.consumes_bytes _ _ coming field after hread
      rw [Reader.bytes_of_le henough, Except.ok.injEq, Prod.mk.injEq] at hread
      rw [← hread.1, List.length_take, min_eq_left henough]
    have hfits : field.length ≤ pldmFwupImageSetVerStrMaxLen := by omega
    rw [FixedBytes.copyFrom, if_pos hfits]
    exact Scanner.follows_pure _

/-! ## Requests that end in a version string -/

namespace RequestUpdateRequest

variable {request : RequestUpdateRequest}

def new (instanceId : UInt8) (msgType : PldmMsgType) (maxTransferSize : UInt32)
    (numOfComp : UInt16) (maxOutstandingTransferReq : UInt8) (pkgDataLen : UInt16)
    (compImageSetVersionString : PldmFirmwareString) : RequestUpdateRequest where
  hdr := .new instanceId msgType .fwUpdate FwUpdateCmd.requestUpdate.toU8
  maxTransferSize := maxTransferSize
  numOfComp := numOfComp
  maxOutstandingTransferReq := maxOutstandingTransferReq
  pkgDataLen := pkgDataLen
  compImageSetVerStrType := compImageSetVersionString.strType
  compImageSetVerStrLen := compImageSetVersionString.strLen
  compImageSetVerStr := compImageSetVersionString.strData

def fixedBytes (request : RequestUpdateRequest) : List UInt8 :=
  request.hdr.toBytes ++ u32Bytes request.maxTransferSize ++ u16Bytes request.numOfComp ++
    [request.maxOutstandingTransferReq] ++ u16Bytes request.pkgDataLen ++
    [request.compImageSetVerStrType, request.compImageSetVerStrLen]

def toBytes (request : RequestUpdateRequest) : List UInt8 :=
  request.fixedBytes ++ request.compImageSetVerStr.toList.take request.compImageSetVerStrLen.toNat

def codecSizeInBytes (request : RequestUpdateRequest) : ℕ :=
  14 + request.compImageSetVerStrLen.toNat

def encode (request : RequestUpdateRequest) : Encoder :=
  encodeText request.fixedBytes request.compImageSetVerStr request.compImageSetVerStrLen

def scanner : FieldScanner RequestUpdateRequest := do
  let hdr ← Look.get.header
  let maxTransferSize ← Look.get.u32
  let numOfComp ← Look.get.u16
  let maxOutstandingTransferReq ← Look.get.u8
  let pkgDataLen ← Look.get.u16
  let compImageSetVerStrType ← Look.get.u8
  let compImageSetVerStrLen ← Look.get.u8
  let compImageSetVerStr ← boundedData pldmFwupImageSetVerStrMaxLen compImageSetVerStrLen.toNat
  pure ⟨hdr, maxTransferSize, numOfComp, maxOutstandingTransferReq, pkgDataLen,
    compImageSetVerStrType, compImageSetVerStrLen, compImageSetVerStr⟩

def Canonical (request : RequestUpdateRequest) : Prop :=
  FixedBytes.Padded request.compImageSetVerStrLen.toNat request.compImageSetVerStr

theorem encode_eq (canonical : request.Canonical) :
    request.encode = writeToPrefix request.toBytes := encodeText_eq _ canonical.1

theorem length_toBytes (canonical : request.Canonical) :
    request.toBytes.length = request.codecSizeInBytes := by
  simp only [toBytes, fixedBytes, List.length_append, PldmMsgHeader.length_toBytes,
    length_u32Bytes, length_u16Bytes, FixedBytes.length_take _ canonical.1, codecSizeInBytes]
  rfl

theorem spells : Scanner.Spells scanner.decode toBytes Canonical := by
  apply Scanner.spells_of_holds
  intro buffer
  unfold scanner
  repeat
    apply Scanner.holds_bind
    first
    | apply Look.holds_header Look.room_get
    | apply Look.holds_u32 Look.room_get
    | apply Look.holds_u16 Look.room_get
    | apply Look.holds_u8 Look.room_get
    intro _ _ _
  apply Scanner.holds_bind
  apply holds_boundedData
  intro data after _ padded
  apply Scanner.holds_pure
  exact ⟨by simp [toBytes, fixedBytes], padded⟩

theorem reads (canonical : request.Canonical) (after : List UInt8) :
    scanner.decode (request.toBytes ++ after) = .ok request := by
  apply Scanner.decode_of_runAt
  · simp only [toBytes, fixedBytes, scanner, List.append_assoc, List.cons_append,
      List.nil_append, Look.runAt_header, Look.runAt_u32, Look.runAt_u16, Look.runAt_u8]
    rw [runAt_boundedData canonical]
    rfl

/-- The handlers decode the same requests. -/
theorem decode_scanner (buffer : List UInt8) :
    scanner.decode buffer = .ofExcept (decode buffer) := by
  apply Scanner.decode_of_follows
  repeat
    first
    | apply Scanner.follows_bind Look.follows_header
    | apply Scanner.follows_bind Look.follows_u32
    | apply Scanner.follows_bind Look.follows_u16
    | apply Scanner.follows_bind Look.follows_u8
    intro _ _ _ _
  apply Scanner.follows_bind (follows_versionString _)
  intro data _ _ _
  exact Scanner.follows_pure _

theorem length_le_of_decode {buffer : List UInt8}
    (decoded : decode buffer = .ok request) : 14 ≤ buffer.length := by
  have hscanned : scanner.decode buffer = .ok request := by
    rw [decode_scanner, decoded]
    rfl
  obtain ⟨canonical, after, rfl⟩ := (spells buffer).of_ok hscanned
  rw [List.length_append, length_toBytes canonical, codecSizeInBytes]
  omega

end RequestUpdateRequest

namespace PassComponentTableRequest

variable {request : PassComponentTableRequest}

def new (instanceId : UInt8) (msgType : PldmMsgType) (transferFlag : TransferRespFlag)
    (compClassification compIdentifier : UInt16) (compClassificationIndex : UInt8)
    (compComparisonStamp : UInt32) (compVersionString : PldmFirmwareString) :
    PassComponentTableRequest where
  hdr := .new instanceId msgType .fwUpdate FwUpdateCmd.passComponentTable.toU8
  transferFlag := transferFlag.toU8
  compClassification := compClassification
  compIdentifier := compIdentifier
  compClassificationIndex := compClassificationIndex
  compComparisonStamp := compComparisonStamp
  compVerStrType := compVersionString.strType
  compVerStrLen := compVersionString.strLen
  compVerStr := compVersionString.strData

def fixedBytes (request : PassComponentTableRequest) : List UInt8 :=
  request.hdr.toBytes ++ [request.transferFlag] ++ u16Bytes request.compClassification ++
    u16Bytes request.compIdentifier ++ [request.compClassificationIndex] ++
    u32Bytes request.compComparisonStamp ++ [request.compVerStrType, request.compVerStrLen]

def toBytes (request : PassComponentTableRequest) : List UInt8 :=
  request.fixedBytes ++ request.compVerStr.toList.take request.compVerStrLen.toNat

def codecSizeInBytes (request : PassComponentTableRequest) : ℕ :=
  15 + request.compVerStrLen.toNat

def encode (request : PassComponentTableRequest) : Encoder :=
  encodeText request.fixedBytes request.compVerStr request.compVerStrLen

def scanner : FieldScanner PassComponentTableRequest := do
  let hdr ← Look.get.header
  let transferFlag ← Look.get.u8
  let compClassification ← Look.get.u16
  let compIdentifier ← Look.get.u16
  let compClassificationIndex ← Look.get.u8
  let compComparisonStamp ← Look.get.u32
  let compVerStrType ← Look.get.u8
  let compVerStrLen ← Look.get.u8
  let compVerStr ← boundedData pldmFwupImageSetVerStrMaxLen compVerStrLen.toNat
  pure ⟨hdr, transferFlag, compClassification, compIdentifier, compClassificationIndex,
    compComparisonStamp, compVerStrType, compVerStrLen, compVerStr⟩

def Canonical (request : PassComponentTableRequest) : Prop :=
  FixedBytes.Padded request.compVerStrLen.toNat request.compVerStr

theorem encode_eq (canonical : request.Canonical) :
    request.encode = writeToPrefix request.toBytes := encodeText_eq _ canonical.1

theorem length_toBytes (canonical : request.Canonical) :
    request.toBytes.length = request.codecSizeInBytes := by
  simp only [toBytes, fixedBytes, List.length_append, PldmMsgHeader.length_toBytes,
    length_u32Bytes, length_u16Bytes, FixedBytes.length_take _ canonical.1, codecSizeInBytes]
  rfl

theorem spells : Scanner.Spells scanner.decode toBytes Canonical := by
  apply Scanner.spells_of_holds
  intro buffer
  unfold scanner
  repeat
    apply Scanner.holds_bind
    first
    | apply Look.holds_header Look.room_get
    | apply Look.holds_u32 Look.room_get
    | apply Look.holds_u16 Look.room_get
    | apply Look.holds_u8 Look.room_get
    intro _ _ _
  apply Scanner.holds_bind
  apply holds_boundedData
  intro data after _ padded
  apply Scanner.holds_pure
  exact ⟨by simp [toBytes, fixedBytes], padded⟩

theorem reads (canonical : request.Canonical) (after : List UInt8) :
    scanner.decode (request.toBytes ++ after) = .ok request := by
  apply Scanner.decode_of_runAt
  · simp only [toBytes, fixedBytes, scanner, List.append_assoc, List.cons_append,
      List.nil_append, Look.runAt_header, Look.runAt_u32, Look.runAt_u16, Look.runAt_u8]
    rw [runAt_boundedData canonical]
    rfl

/-- The handlers decode the same requests. -/
theorem decode_scanner (buffer : List UInt8) :
    scanner.decode buffer = .ofExcept (decode buffer) := by
  apply Scanner.decode_of_follows
  repeat
    first
    | apply Scanner.follows_bind Look.follows_header
    | apply Scanner.follows_bind Look.follows_u32
    | apply Scanner.follows_bind Look.follows_u16
    | apply Scanner.follows_bind Look.follows_u8
    intro _ _ _ _
  apply Scanner.follows_bind (follows_versionString _)
  intro data _ _ _
  exact Scanner.follows_pure _

end PassComponentTableRequest

namespace UpdateComponentRequest

variable {request : UpdateComponentRequest}

def new (instanceId : UInt8) (msgType : PldmMsgType)
    (compClassification compIdentifier : UInt16) (compClassificationIndex : UInt8)
    (compComparisonStamp compImageSize : UInt32) (updateOptionFlags : UpdateOptionFlags)
    (compVersionString : PldmFirmwareString) : UpdateComponentRequest where
  hdr := .new instanceId msgType .fwUpdate FwUpdateCmd.updateComponent.toU8
  compClassification := compClassification
  compIdentifier := compIdentifier
  compClassificationIndex := compClassificationIndex
  compComparisonStamp := compComparisonStamp
  compImageSize := compImageSize
  updateOptionFlags := updateOptionFlags.bits
  compVerStrType := compVersionString.strType
  compVerStrLen := compVersionString.strLen
  compVerStr := compVersionString.strData

def fixedBytes (request : UpdateComponentRequest) : List UInt8 :=
  request.hdr.toBytes ++ u16Bytes request.compClassification ++
    u16Bytes request.compIdentifier ++ [request.compClassificationIndex] ++
    u32Bytes request.compComparisonStamp ++ u32Bytes request.compImageSize ++
    u32Bytes request.updateOptionFlags ++ [request.compVerStrType, request.compVerStrLen]

def toBytes (request : UpdateComponentRequest) : List UInt8 :=
  request.fixedBytes ++ request.compVerStr.toList.take request.compVerStrLen.toNat

def codecSizeInBytes (request : UpdateComponentRequest) : ℕ :=
  22 + request.compVerStrLen.toNat

def encode (request : UpdateComponentRequest) : Encoder :=
  encodeText request.fixedBytes request.compVerStr request.compVerStrLen

def scanner : FieldScanner UpdateComponentRequest := do
  let hdr ← Look.get.header
  let compClassification ← Look.get.u16
  let compIdentifier ← Look.get.u16
  let compClassificationIndex ← Look.get.u8
  let compComparisonStamp ← Look.get.u32
  let compImageSize ← Look.get.u32
  let updateOptionFlags ← Look.get.u32
  let compVerStrType ← Look.get.u8
  let compVerStrLen ← Look.get.u8
  let compVerStr ← boundedData pldmFwupImageSetVerStrMaxLen compVerStrLen.toNat
  pure ⟨hdr, compClassification, compIdentifier, compClassificationIndex, compComparisonStamp,
    compImageSize, updateOptionFlags, compVerStrType, compVerStrLen, compVerStr⟩

def Canonical (request : UpdateComponentRequest) : Prop :=
  FixedBytes.Padded request.compVerStrLen.toNat request.compVerStr

theorem encode_eq (canonical : request.Canonical) :
    request.encode = writeToPrefix request.toBytes := encodeText_eq _ canonical.1

theorem length_toBytes (canonical : request.Canonical) :
    request.toBytes.length = request.codecSizeInBytes := by
  simp only [toBytes, fixedBytes, List.length_append, PldmMsgHeader.length_toBytes,
    length_u32Bytes, length_u16Bytes, FixedBytes.length_take _ canonical.1, codecSizeInBytes]
  rfl

theorem spells : Scanner.Spells scanner.decode toBytes Canonical := by
  apply Scanner.spells_of_holds
  intro buffer
  unfold scanner
  repeat
    apply Scanner.holds_bind
    first
    | apply Look.holds_header Look.room_get
    | apply Look.holds_u32 Look.room_get
    | apply Look.holds_u16 Look.room_get
    | apply Look.holds_u8 Look.room_get
    intro _ _ _
  apply Scanner.holds_bind
  apply holds_boundedData
  intro data after _ padded
  apply Scanner.holds_pure
  exact ⟨by simp [toBytes, fixedBytes], padded⟩

theorem reads (canonical : request.Canonical) (after : List UInt8) :
    scanner.decode (request.toBytes ++ after) = .ok request := by
  apply Scanner.decode_of_runAt
  · simp only [toBytes, fixedBytes, scanner, List.append_assoc, List.cons_append,
      List.nil_append, Look.runAt_header, Look.runAt_u32, Look.runAt_u16, Look.runAt_u8]
    rw [runAt_boundedData canonical]
    rfl

/-- The handlers decode the same requests. -/
theorem decode_scanner (buffer : List UInt8) :
    scanner.decode buffer = .ofExcept (decode buffer) := by
  apply Scanner.decode_of_follows
  repeat
    first
    | apply Scanner.follows_bind Look.follows_header
    | apply Scanner.follows_bind Look.follows_u32
    | apply Scanner.follows_bind Look.follows_u16
    | apply Scanner.follows_bind Look.follows_u8
    intro _ _ _ _
  apply Scanner.follows_bind (follows_versionString _)
  intro data _ _ _
  exact Scanner.follows_pure _

theorem length_le_of_decode {buffer : List UInt8}
    (decoded : decode buffer = .ok request) : 22 ≤ buffer.length := by
  have hscanned : scanner.decode buffer = .ok request := by
    rw [decode_scanner, decoded]
    rfl
  obtain ⟨canonical, after, rfl⟩ := (spells buffer).of_ok hscanned
  rw [List.length_append, length_toBytes canonical, codecSizeInBytes]
  omega

end UpdateComponentRequest

/-! ## Responses that end in an optional field -/

/-- The bytes of an optional number. -/
def optionBytes : Option UInt32 → List UInt8
  | some value => u32Bytes value
  | none => []

/-- An optional number that is there if the message says so. -/
def optionalField (present : Bool) : FieldScanner (Option UInt32) := do
  if present then
    let value ← Look.get.u32
    pure (some value)
  else
    pure none

theorem holds_optionalField {present : Bool} {passed coming : List UInt8}
    {post : Option UInt32 → List UInt8 → List UInt8 → Prop}
    (found : ∀ field after, coming = optionBytes field ++ after → field.isSome = present →
      post field (passed ++ optionBytes field) after) :
    (optionalField present).Holds post passed coming := by
  cases present with
  | true =>
      apply Scanner.holds_bind
      apply Look.holds_u32 Look.room_get
      intro value after hcoming
      exact Scanner.holds_pure (found (some value) after hcoming rfl)
  | false =>
      have hpost := found none coming rfl rfl
      exact Scanner.holds_pure (by simpa [optionBytes] using hpost)

theorem runAt_optionalField {field : Option UInt32} {passed after : List UInt8} {β : Type}
    (next : Option UInt32 → FieldScanner β) :
    (optionalField field.isSome >>= next).runAt passed (optionBytes field ++ after) =
      (next field).runAt (passed ++ optionBytes field) after := by
  apply Scanner.runAt_bind
  cases field with
  | some value => simp [optionalField, optionBytes]
  | none => simp [optionalField, optionBytes]

/-- The write of an optional number at the end of what has been written. -/
theorem fills_optionBytes {field : Option UInt32} {offset : ℕ} {written : List UInt8}
    (here : offset = written.length) :
    Fills (match field with
      | some size => do
          writeAt offset (u32Bytes size)
          pure (offset + 4)
      | none => pure offset) written (optionBytes field)
        (offset + (optionBytes field).length) := by
  cases field with
  | some size =>
      apply Fills.congr
      · apply Fills.bind
        · exact Fills.writeAt here
        exact Fills.pure _
      · simp [optionBytes]
      · simp [optionBytes]
  | none => exact Fills.pure offset

namespace RequestUpdateResponse

variable {response : RequestUpdateResponse}

def toBytes (response : RequestUpdateResponse) : List UInt8 :=
  response.fixedBytes ++ optionBytes response.getPkgDataMaxTransferSize

def scanner : FieldScanner RequestUpdateResponse := do
  let hdr ← Look.get.header
  let completionCode ← Look.get.u8
  let fdMetaDataLen ← Look.get.u16
  let fdWillSendPkgDataCmd ← Look.get.u8
  let getPkgDataMaxTransferSize ← optionalField (fdWillSendPkgDataCmd == 0x02)
  pure ⟨hdr, completionCode, fdMetaDataLen, fdWillSendPkgDataCmd, getPkgDataMaxTransferSize⟩

/-- The optional field is there exactly when the command is announced. -/
def Canonical (response : RequestUpdateResponse) : Prop :=
  response.getPkgDataMaxTransferSize.isSome = (response.fdWillSendPkgDataCmd == 0x02)

theorem length_fixedBytes (response : RequestUpdateResponse) :
    response.fixedBytes.length = 7 := by
  simp [fixedBytes]

theorem length_toBytes (canonical : response.Canonical) :
    response.toBytes.length = response.codecSizeInBytes := by
  unfold Canonical at canonical
  rw [toBytes, List.length_append, length_fixedBytes, codecSizeInBytes]
  cases hfield : response.getPkgDataMaxTransferSize with
  | some size =>
      rw [hfield] at canonical
      have hcommand : response.fdWillSendPkgDataCmd = 0x02 := by simpa using canonical.symm
      simp [optionBytes, hcommand]
  | none =>
      rw [hfield] at canonical
      have hcommand : ¬ response.fdWillSendPkgDataCmd = 0x02 := by simpa using canonical.symm
      simp [optionBytes, hcommand]

theorem encode_eq (canonical : response.Canonical) :
    response.encode = writeToPrefix response.toBytes := by
  have hsize := length_toBytes canonical
  have hfixed := response.length_fixedBytes
  apply encodes_of_fills (by rw [hsize]; rfl)
  apply Fills.congr
  · apply Fills.bind
    · exact Fills.writeAt rfl
    exact fills_optionBytes (by rw [List.nil_append, hfixed])
  · rfl
  · rw [toBytes, List.length_append, hfixed]

theorem spells : Scanner.Spells scanner.decode toBytes Canonical := by
  apply Scanner.spells_of_holds
  intro buffer
  apply Scanner.holds_bind
  apply Look.holds_header Look.room_get
  intro hdr _ _
  apply Scanner.holds_bind
  apply Look.holds_u8 Look.room_get
  intro completionCode _ _
  apply Scanner.holds_bind
  apply Look.holds_u16 Look.room_get
  intro fdMetaDataLen _ _
  apply Scanner.holds_bind
  apply Look.holds_u8 Look.room_get
  intro fdWillSendPkgDataCmd _ _
  apply Scanner.holds_bind
  apply holds_optionalField
  intro getPkgDataMaxTransferSize _ _ present
  apply Scanner.holds_pure
  exact ⟨by simp [toBytes, fixedBytes], present⟩

theorem reads {response : RequestUpdateResponse} (canonical : response.Canonical)
    (after : List UInt8) : scanner.decode (response.toBytes ++ after) = .ok response := by
  apply Scanner.decode_of_runAt
  · simp only [toBytes, fixedBytes, scanner, List.append_assoc, List.cons_append,
      List.nil_append, Look.runAt_header, Look.runAt_u8, Look.runAt_u16]
    rw [← canonical, runAt_optionalField]
    rfl

end RequestUpdateResponse

namespace UpdateComponentResponse

variable {response : UpdateComponentResponse}

def toBytes (response : UpdateComponentResponse) : List UInt8 :=
  response.fixedBytes ++ optionBytes response.getCompOpaqueDataMaxTransferSize

def scanner : FieldScanner UpdateComponentResponse := do
  let hdr ← Look.get.header
  let completionCode ← Look.get.u8
  let compCompatibilityResp ← Look.get.u8
  let compCompatibilityRespCode ← Look.get.u8
  let updateOptionFlagsEnabled ← Look.get.u32
  let timeBeforeReqFwData ← Look.get.u16
  let updateOptionFlags : UpdateOptionFlags := ⟨updateOptionFlagsEnabled⟩
  let getCompOpaqueDataMaxTransferSize ← optionalField updateOptionFlags.componentOpaqueData
  pure ⟨hdr, completionCode, compCompatibilityResp, compCompatibilityRespCode,
    updateOptionFlagsEnabled, timeBeforeReqFwData, getCompOpaqueDataMaxTransferSize⟩

/-- The optional field is there exactly when the option flags announce opaque data. -/
def Canonical (response : UpdateComponentResponse) : Prop :=
  response.getCompOpaqueDataMaxTransferSize.isSome =
    (⟨response.updateOptionFlagsEnabled⟩ : UpdateOptionFlags).componentOpaqueData

theorem length_toBytes (response : UpdateComponentResponse) :
    response.toBytes.length = response.codecSizeInBytes := by
  rw [toBytes, List.length_append, length_fixedBytes, codecSizeInBytes]
  cases response.getCompOpaqueDataMaxTransferSize with
  | some size => simp [optionBytes]
  | none => simp [optionBytes]

theorem encode_toBytes (response : UpdateComponentResponse) :
    response.encode = writeToPrefix response.toBytes := by
  have hsize := response.length_toBytes
  have hfixed := response.length_fixedBytes
  apply encodes_of_fills (by rw [hsize]; rfl)
  apply Fills.congr
  · apply Fills.bind
    · exact Fills.writeAt rfl
    exact fills_optionBytes (by rw [List.nil_append, hfixed])
  · rfl
  · rw [toBytes, List.length_append, hfixed]

theorem spells_canonical : Scanner.Spells scanner.decode toBytes Canonical := by
  apply Scanner.spells_of_holds
  intro buffer
  unfold scanner
  repeat
    apply Scanner.holds_bind
    first
    | apply Look.holds_header Look.room_get
    | apply Look.holds_u32 Look.room_get
    | apply Look.holds_u16 Look.room_get
    | apply Look.holds_u8 Look.room_get
    intro _ _ _
  apply Scanner.holds_bind
  apply holds_optionalField
  intro getCompOpaqueDataMaxTransferSize _ _ present
  apply Scanner.holds_pure
  exact ⟨by simp [toBytes, fixedBytes], present⟩

theorem spells : Scanner.Spells scanner.decode toBytes fun _ => True := by
  intro buffer
  exact (spells_canonical buffer).mono fun _ found => ⟨trivial, found.2⟩

theorem reads {response : UpdateComponentResponse} (canonical : response.Canonical)
    (after : List UInt8) : scanner.decode (response.toBytes ++ after) = .ok response := by
  apply Scanner.decode_of_runAt
  · simp only [toBytes, fixedBytes, scanner, List.append_assoc, List.cons_append,
      List.nil_append, Look.runAt_header, Look.runAt_u8, Look.runAt_u32, Look.runAt_u16]
    rw [← canonical, runAt_optionalField]
    rfl

end UpdateComponentResponse

/-! ## Firmware data -/

namespace RequestFirmwareDataResponse

variable {response : RequestFirmwareDataResponse}

def maxTransferSize : ℕ := 512

def codecSizeInBytes (response : RequestFirmwareDataResponse) : ℕ :=
  RequestFirmwareDataResponseFixed.size + response.data.length

/-- Data above the limit is noticed only after the fixed part has been written. -/
def encode (response : RequestFirmwareDataResponse) : Encoder := do
  let buffer ← Call.get
  if buffer.length < response.codecSizeInBytes then
    Call.fail .bufferTooShort
  else do
    writeAt 0 (response.fixed.hdr.toBytes ++ [response.fixed.completionCode])
    if response.data.length > maxTransferSize then
      Call.fail .bufferTooShort
    else do
      writeAt RequestFirmwareDataResponseFixed.size response.data
      pure (RequestFirmwareDataResponseFixed.size + response.data.length)

def scanner : FieldScanner RequestFirmwareDataResponse := do
  Scanner.require .bufferTooShort RequestFirmwareDataResponseFixed.size
  let hdr ← Look.slice.header
  let completionCode ← Look.slice.u8
  let data ← Scanner.rest
  pure ⟨⟨hdr, completionCode⟩, data⟩

theorem length_toBytes (response : RequestFirmwareDataResponse) :
    response.toBytes.length = response.codecSizeInBytes := by
  simp only [toBytes, List.length_append, PldmMsgHeader.length_toBytes, codecSizeInBytes]
  rfl

theorem encode_eq (small : response.data.length ≤ maxTransferSize) :
    response.encode = writeToPrefix response.toBytes := by
  have hsize := response.length_toBytes
  apply encodes_of_fills (by rw [hsize]; rfl)
  apply Fills.congr
  · apply Fills.bind
    · exact Fills.writeAt rfl
    rw [if_neg (not_lt.mpr small)]
    apply Fills.bind
    · exact Fills.writeAt rfl
    exact Fills.pure _
  · simp [toBytes]
  · rw [hsize, codecSizeInBytes]

theorem spells : Scanner.Spells scanner.decode toBytes fun _ => True := by
  apply Scanner.spells_of_holds
  intro buffer
  apply Scanner.holds_bind
  apply Scanner.holds_require
  intro enough
  apply Scanner.holds_bind
  apply Look.holds_header (by
    intro _; simp [RequestFirmwareDataResponseFixed.size] at enough; omega)
  rintro hdr after rfl
  apply Scanner.holds_bind
  apply Look.holds_u8 (by intro _; simp [RequestFirmwareDataResponseFixed.size] at enough; omega)
  rintro completionCode after rfl
  apply Scanner.holds_bind
  apply Scanner.holds_rest
  apply Scanner.holds_pure
  exact ⟨by simp [toBytes], trivial⟩

theorem reads (response : RequestFirmwareDataResponse) :
    scanner.decode response.toBytes = .ok response := by
  have henough : RequestFirmwareDataResponseFixed.size ≤
      ([] : List UInt8).length + response.toBytes.length := by
    rw [length_toBytes, codecSizeInBytes]
    omega
  apply Scanner.decode_of_runAt
  rw [scanner, Scanner.runAt_require henough]
  simp only [toBytes, List.append_assoc, List.cons_append, List.nil_append,
    Look.runAt_header, Look.runAt_u8, Scanner.runAt_rest_bind]
  rfl

end RequestFirmwareDataResponse

end PldmLib.Message
