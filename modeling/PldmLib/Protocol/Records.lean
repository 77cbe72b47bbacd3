/-
# The variable-length records

Version strings, descriptors and component parameter entries: what they look like
on the wire, how they are built and how they are decoded. A record carries an array of
fixed size and the length of its valid part. `Fits` says that the length is within
the array, which is what the encoder needs; `Canonical` says that the record is one
that a decoder can return, with zeros behind the valid part.
-/

import PldmLib.Protocol.Codec

namespace PldmLib.Protocol

open PldmLib.Machine

/-! ## Version strings -/

inductive VersionStringType
  | unspecified
  | ascii
  | utf8
  | utf16
  | utf16Le
  | utf16Be
  deriving DecidableEq, Repr

namespace VersionStringType

def toU8 : VersionStringType → UInt8
  | .unspecified => 0
  | .ascii => 1
  | .utf8 => 2
  | .utf16 => 3
  | .utf16Le => 4
  | .utf16Be => 5

/-- The conversion from a name, in one of its two spellings. -/
def tryFrom (input : String) : Except PldmError VersionStringType :=
  if input = "ASCII" ∨ input = "ascii" then .ok .ascii
  else if input = "UTF-8" ∨ input = "utf-8" then .ok .utf8
  else if input = "UTF-16" ∨ input = "utf-16" then .ok .utf16
  else if input = "UTF-16LE" ∨ input = "utf-16le" then .ok .utf16Le
  else if input = "UTF-16BE" ∨ input = "utf-16be" then .ok .utf16Be
  else if input = "UNSPECIFIED" ∨ input = "unspecified" then .ok .unspecified
  else .error .invalidVersionStringType

end VersionStringType

/-- The bytes of a string slice. -/
def asBytes (text : String) : List UInt8 := text.toUTF8.data.toList

namespace PldmFirmwareString

def new (strType fwStr : String) : Except PldmError PldmFirmwareString :=
  match VersionStringType.tryFrom strType with
  | .error error => .error error
  | .ok strType =>
      if (asBytes fwStr).length > pldmFwupImageSetVerStrMaxLen then
        .error .invalidVersionStringLength
      else
        .ok ⟨strType.toU8, UInt8.ofNat (asBytes fwStr).length, FixedBytes.padTo _ (asBytes fwStr)⟩

/-- The bytes of the string itself. -/
def text (string : PldmFirmwareString) : List UInt8 :=
  string.strData.toList.take string.strLen.toNat

def toBytes (string : PldmFirmwareString) : List UInt8 :=
  [string.strType, string.strLen] ++ string.text

def codecSizeInBytes (string : PldmFirmwareString) : ℕ := string.strLen.toNat + 2

def encode (string : PldmFirmwareString) : Encoder := do
  let buffer ← Call.get
  if buffer.length < string.codecSizeInBytes then
    Call.fail .bufferTooShort
  else do
    writeAt 0 [string.strType]
    writeAt 1 [string.strLen]
    let len := string.strLen.toNat
    writeAt 2 (← slicePrefix string.strData.toList len)
    pure (2 + len)

def scanner : FieldScanner PldmFirmwareString := do
  let strType ← Look.get.u8
  let strLen ← Look.get.u8
  let strData ← boundedData pldmFwupImageSetVerStrMaxLen strLen.toNat
  pure ⟨strType, strLen, strData⟩

def decode (buffer : List UInt8) : Outcome PldmCodecError PldmFirmwareString :=
  scanner.decode buffer

def Fits (string : PldmFirmwareString) : Prop :=
  string.strLen.toNat ≤ pldmFwupImageSetVerStrMaxLen

def Canonical (string : PldmFirmwareString) : Prop :=
  FixedBytes.Padded string.strLen.toNat string.strData

theorem Canonical.fits {string : PldmFirmwareString} (canonical : string.Canonical) :
    string.Fits := canonical.1

theorem length_text {string : PldmFirmwareString} (fits : string.Fits) :
    string.text.length = string.strLen.toNat := FixedBytes.length_take _ fits

/-- What the constructor builds is canonical, whatever the text. -/
theorem canonical_of_new {strType fwStr : String} {string : PldmFirmwareString}
    (built : new strType fwStr = .ok string) : string.Canonical := by
  unfold new at built
  split at built
  · cases built
  · split at built
    · cases built
    · next fits =>
        rw [not_lt] at fits
        obtain rfl := Except.ok.inj built
        have hlen : (UInt8.ofNat (asBytes fwStr).length).toNat = (asBytes fwStr).length := by
          rw [UInt8.toNat_ofNat_of_lt']
          simp only [pldmFwupImageSetVerStrMaxLen, UInt8.size] at fits ⊢
          omega
        unfold Canonical
        rw [hlen]
        exact FixedBytes.padded_padTo fits

theorem length_toBytes {string : PldmFirmwareString} (fits : string.Fits) :
    string.toBytes.length = string.codecSizeInBytes := by
  simp [toBytes, codecSizeInBytes, length_text fits]

theorem encode_eq {string : PldmFirmwareString} (fits : string.Fits) :
    string.encode = writeToPrefix string.toBytes := by
  have hsize := length_toBytes fits
  apply encodes_of_fills (by rw [hsize]; rfl)
  apply Fills.congr
  · apply Fills.bind
    · exact Fills.writeAt rfl
    apply Fills.bind
    · exact Fills.writeAt rfl
    apply Fills.bind
    · exact Fills.slicePrefix (by rwa [List.Vector.toList_length])
    apply Fills.bind
    · exact Fills.writeAt rfl
    exact Fills.pure _
  · simp [toBytes, text]
  · rw [hsize, codecSizeInBytes, Nat.add_comm]

theorem spells : Scanner.Spells decode toBytes Canonical := by
  apply Scanner.spells_of_holds
  intro buffer
  apply Scanner.holds_bind
  apply Look.holds_u8 Look.room_get
  intro strType after _
  apply Scanner.holds_bind
  apply Look.holds_u8 Look.room_get
  intro strLen after _
  apply Scanner.holds_bind
  apply holds_boundedData
  intro strData after _ padded
  apply Scanner.holds_pure
  exact ⟨by simp [toBytes, text], padded⟩

theorem reads {string : PldmFirmwareString} (canonical : string.Canonical)
    (after : List UInt8) : decode (string.toBytes ++ after) = .ok string := by
  apply Scanner.decode_of_runAt
  · simp only [toBytes, text, scanner, List.cons_append, List.nil_append, Look.runAt_u8]
    rw [runAt_boundedData canonical]
    rfl

end PldmFirmwareString

/-! ## Descriptors -/

namespace Descriptor

/-- The bytes of the descriptor itself. -/
def data (descriptor : Descriptor) : List UInt8 :=
  descriptor.descriptorData.toList.take descriptor.descriptorLength.toNat

def toBytes (descriptor : Descriptor) : List UInt8 :=
  u16Bytes descriptor.descriptorType ++ u16Bytes descriptor.descriptorLength ++ descriptor.data

def scanner : FieldScanner Descriptor := do
  let descriptorType ← Look.get.u16
  let descriptorLength ← Look.get.u16
  let descriptorData ← boundedData descriptorDataMaxLen descriptorLength.toNat
  pure ⟨descriptorType, descriptorLength, descriptorData⟩

def decode (buffer : List UInt8) : Outcome PldmCodecError Descriptor := scanner.decode buffer

def Fits (descriptor : Descriptor) : Prop :=
  descriptor.descriptorLength.toNat ≤ descriptorDataMaxLen

instance (descriptor : Descriptor) : Decidable descriptor.Fits :=
  inferInstanceAs (Decidable (_ ≤ _))

def Canonical (descriptor : Descriptor) : Prop :=
  FixedBytes.Padded descriptor.descriptorLength.toNat descriptor.descriptorData

theorem Canonical.fits {descriptor : Descriptor} (canonical : descriptor.Canonical) :
    descriptor.Fits := canonical.1

theorem canonical_newEmpty : newEmpty.Canonical := by
  have hfits : ([] : List UInt8).length ≤ descriptorDataMaxLen := Nat.zero_le _
  exact FixedBytes.padded_padTo hfits

theorem length_toBytes {descriptor : Descriptor} (fits : descriptor.Fits) :
    descriptor.toBytes.length = descriptor.codecSizeInBytes := by
  simp only [toBytes, List.length_append, length_u16Bytes, data, FixedBytes.length_take _ fits,
    codecSizeInBytes]

theorem encode_eq {descriptor : Descriptor} (fits : descriptor.Fits) :
    descriptor.encode = writeToPrefix descriptor.toBytes := by
  have hsize := length_toBytes fits
  apply encodes_of_fills (by rw [hsize]; rfl)
  apply Fills.congr
  · apply Fills.bind
    · exact Fills.writeAt rfl
    apply Fills.bind
    · exact Fills.writeAt (by simp)
    apply Fills.bind
    · exact Fills.slicePrefix (by rwa [List.Vector.toList_length])
    apply Fills.bind
    · exact Fills.writeAt (by simp)
    exact Fills.pure _
  · simp [toBytes, data]
  · rw [hsize, codecSizeInBytes]

theorem spells : Scanner.Spells decode toBytes Canonical := by
  apply Scanner.spells_of_holds
  intro buffer
  apply Scanner.holds_bind
  apply Look.holds_u16 Look.room_get
  intro descriptorType after _
  apply Scanner.holds_bind
  apply Look.holds_u16 Look.room_get
  intro descriptorLength after _
  apply Scanner.holds_bind
  apply holds_boundedData
  intro descriptorData after _ padded
  apply Scanner.holds_pure
  exact ⟨by simp [toBytes, data], padded⟩

theorem reads {descriptor : Descriptor} (canonical : descriptor.Canonical)
    (after : List UInt8) : decode (descriptor.toBytes ++ after) = .ok descriptor := by
  apply Scanner.decode_of_runAt
  · simp only [toBytes, data, scanner, List.append_assoc, Look.runAt_u16]
    rw [runAt_boundedData canonical]
    rfl

end Descriptor

/-! ## Component parameter entries -/

/-- A packed structure: its fields one after the other. -/
def ComponentParameterEntryFixed.scanner : FieldScanner ComponentParameterEntryFixed := do
  let compClassification ← Look.get.u16
  let compIdentifier ← Look.get.u16
  let compClassificationIndex ← Look.get.u8
  let activeCompComparisonStamp ← Look.get.u32
  let activeCompVerStrType ← Look.get.u8
  let activeCompVerStrLen ← Look.get.u8
  let activeCompReleaseDate ← Look.get.array pldmFwupComponentReleaseDataLen
  let pendingCompComparisonStamp ← Look.get.u32
  let pendingCompVerStrType ← Look.get.u8
  let pendingCompVerStrLen ← Look.get.u8
  let pendingCompReleaseDate ← Look.get.array pldmFwupComponentReleaseDataLen
  let compActivationMethods ← Look.get.u16
  let capabilitiesDuringUpdate ← Look.get.u32
  pure
    { compClassification, compIdentifier, compClassificationIndex, activeCompComparisonStamp,
      activeCompVerStrType, activeCompVerStrLen, activeCompReleaseDate,
      pendingCompComparisonStamp, pendingCompVerStrType, pendingCompVerStrLen,
      pendingCompReleaseDate, compActivationMethods, capabilitiesDuringUpdate }

/-- An optional string is on the wire when its length is not zero. -/
def pendingString (len : UInt8) :
    FieldScanner (Option (FixedBytes pldmFwupImageSetVerStrMaxLen)) := do
  if len > 0 then
    let data ← boundedData pldmFwupImageSetVerStrMaxLen len.toNat
    pure (some data)
  else
    pure none

/-- The bytes of an optional string. -/
def pendingText (len : UInt8) :
    Option (FixedBytes pldmFwupImageSetVerStrMaxLen) → List UInt8
  | some data => data.toList.take len.toNat
  | none => []

/-- The string is there exactly when its length says so, and is padded. -/
def PendingCanonical (len : UInt8) :
    Option (FixedBytes pldmFwupImageSetVerStrMaxLen) → Prop
  | some data => len > 0 ∧ FixedBytes.Padded len.toNat data
  | none => len = 0

theorem pendingCanonical_length {len : UInt8}
    {string : Option (FixedBytes pldmFwupImageSetVerStrMaxLen)}
    (canonical : PendingCanonical len string) : len.toNat ≤ pldmFwupImageSetVerStrMaxLen := by
  cases string with
  | some data => exact canonical.2.1
  | none =>
      obtain rfl : len = 0 := canonical
      exact Nat.zero_le _

theorem holds_pendingString {len : UInt8} {passed coming : List UInt8}
    {post : Option (FixedBytes pldmFwupImageSetVerStrMaxLen) → List UInt8 → List UInt8 → Prop}
    (found : ∀ string after, coming = pendingText len string ++ after →
      PendingCanonical len string → post string (passed ++ pendingText len string) after) :
    (pendingString len).Holds post passed coming := by
  unfold pendingString
  split
  · next present =>
      apply Scanner.holds_bind
      apply holds_boundedData
      intro data after hcoming padded
      exact Scanner.holds_pure (found (some data) after hcoming ⟨present, padded⟩)
  · next absent =>
      have hzero : len = 0 := by
        rw [gt_iff_lt, UInt8.not_lt] at absent
        exact UInt8.le_zero_iff.mp absent
      have hpost := found none coming rfl hzero
      exact Scanner.holds_pure (by simpa [pendingText] using hpost)

theorem runAt_pendingString {len : UInt8}
    {string : Option (FixedBytes pldmFwupImageSetVerStrMaxLen)}
    (canonical : PendingCanonical len string) {passed after : List UInt8} {β : Type}
    (next : Option (FixedBytes pldmFwupImageSetVerStrMaxLen) → FieldScanner β) :
    (pendingString len >>= next).runAt passed (pendingText len string ++ after) =
      (next string).runAt (passed ++ pendingText len string) after := by
  apply Scanner.runAt_bind
  cases string with
  | some data =>
      obtain ⟨present, padded⟩ := canonical
      rw [pendingString, if_pos present, pendingText, runAt_boundedData padded]
      rfl
  | none =>
      obtain rfl : len = 0 := canonical
      simp [pendingString, pendingText]

namespace ComponentParameterEntry

def toBytes (entry : ComponentParameterEntry) : List UInt8 :=
  entry.compParamEntryFixed.toBytes ++
    entry.activeCompVerStr.toList.take entry.compParamEntryFixed.activeCompVerStrLen.toNat ++
    pendingText entry.compParamEntryFixed.pendingCompVerStrLen entry.pendingCompVerStr

def scanner : FieldScanner ComponentParameterEntry := do
  let compParamEntryFixed ← ComponentParameterEntryFixed.scanner
  let activeCompVerStr ← boundedData pldmFwupImageSetVerStrMaxLen
    compParamEntryFixed.activeCompVerStrLen.toNat
  let pendingCompVerStr ← pendingString compParamEntryFixed.pendingCompVerStrLen
  pure ⟨compParamEntryFixed, activeCompVerStr, pendingCompVerStr⟩

def decode (buffer : List UInt8) : Outcome PldmCodecError ComponentParameterEntry :=
  scanner.decode buffer

structure Fits (entry : ComponentParameterEntry) : Prop where
  active : entry.compParamEntryFixed.activeCompVerStrLen.toNat ≤ pldmFwupImageSetVerStrMaxLen
  pending : entry.pendingCompVerStr.isSome →
    entry.compParamEntryFixed.pendingCompVerStrLen.toNat ≤ pldmFwupImageSetVerStrMaxLen

structure Canonical (entry : ComponentParameterEntry) : Prop where
  active : FixedBytes.Padded entry.compParamEntryFixed.activeCompVerStrLen.toNat
    entry.activeCompVerStr
  pending : PendingCanonical entry.compParamEntryFixed.pendingCompVerStrLen
    entry.pendingCompVerStr

theorem Canonical.fits {entry : ComponentParameterEntry} (canonical : entry.Canonical) :
    entry.Fits where
  active := canonical.active.1
  pending := fun _ => pendingCanonical_length canonical.pending

end ComponentParameterEntry

namespace ComponentParameterEntryFixed

theorem length_toBytes (fixed : ComponentParameterEntryFixed) : fixed.toBytes.length = size := by
  simp only [toBytes, List.length_append, length_u16Bytes, length_u32Bytes,
    List.Vector.toList_length]
  rfl

theorem holds_scanner {passed coming : List UInt8}
    {post : ComponentParameterEntryFixed → List UInt8 → List UInt8 → Prop}
    (found : ∀ fixed after, coming = toBytes fixed ++ after →
      post fixed (passed ++ fixed.toBytes) after) :
    scanner.Holds post passed coming := by
  unfold scanner
  repeat
    apply Scanner.holds_bind
    first
    | apply Look.holds_u16 Look.room_get
    | apply Look.holds_u8 Look.room_get
    | apply Look.holds_u32 Look.room_get
    | apply Look.holds_array Look.room_get
    rintro _ _ rfl
  apply Scanner.holds_pure
  simp only [toBytes, List.append_assoc, List.cons_append, List.nil_append] at found ⊢
  exact found _ _ rfl

theorem runAt_scanner (fixed : ComponentParameterEntryFixed) {passed after : List UInt8}
    {β : Type} (next : ComponentParameterEntryFixed → FieldScanner β) :
    (scanner >>= next).runAt passed (fixed.toBytes ++ after) =
      (next fixed).runAt (passed ++ fixed.toBytes) after := by
  apply Scanner.runAt_bind
  simp [scanner, toBytes, List.append_assoc]

end ComponentParameterEntryFixed

theorem length_pendingText {len : UInt8}
    {string : Option (FixedBytes pldmFwupImageSetVerStrMaxLen)}
    (fits : string.isSome → len.toNat ≤ pldmFwupImageSetVerStrMaxLen) :
    (pendingText len string).length = if string.isSome then len.toNat else 0 := by
  cases string with
  | some data => exact FixedBytes.length_take data (fits rfl)
  | none => rfl

/-- The write of an optional string, and what an encoder does after it. -/
theorem fills_pendingText_then {len : UInt8} {offset : ℕ} {written more : List UInt8}
    {string : Option (FixedBytes pldmFwupImageSetVerStrMaxLen)} {result : ℕ}
    {next : ℕ → Encoder}
    (fits : string.isSome → len.toNat ≤ pldmFwupImageSetVerStrMaxLen)
    (here : offset = written.length)
    (goesOn : Fills (next (offset + (pendingText len string).length))
      (written ++ pendingText len string) more result) :
    Fills (match string with
      | some data => do
          writeAt offset (← slicePrefix data.toList len.toNat)
          next (offset + len.toNat)
      | none => next offset) written (pendingText len string ++ more) result := by
  rw [length_pendingText fits] at goesOn
  cases string with
  | some data =>
      apply Fills.congr
      · apply Fills.bind
        · exact Fills.slicePrefix (by rw [List.Vector.toList_length]; exact fits rfl)
        apply Fills.bind
        · exact Fills.writeAt (by rw [List.append_nil, here])
        · rw [List.append_nil]
          exact goesOn
      · simp [pendingText]
      · rfl
  | none => simpa [pendingText] using goesOn

/-- The write of an optional string at the end of a message. -/
theorem fills_pendingText {len : UInt8} {offset : ℕ} {written : List UInt8}
    {string : Option (FixedBytes pldmFwupImageSetVerStrMaxLen)}
    (fits : string.isSome → len.toNat ≤ pldmFwupImageSetVerStrMaxLen)
    (here : offset = written.length) :
    Fills (match string with
      | some data => do
          writeAt offset (← slicePrefix data.toList len.toNat)
          pure (offset + len.toNat)
      | none => pure offset) written (pendingText len string)
        (offset + (pendingText len string).length) := by
  have hfills := fills_pendingText_then fits here (Fills.pure _)
  rwa [List.append_nil] at hfills

namespace ComponentParameterEntry

variable {entry : ComponentParameterEntry}

theorem length_toBytes (fits : entry.Fits) :
    entry.toBytes.length = entry.codecSizeInBytes := by
  simp only [toBytes, List.length_append, ComponentParameterEntryFixed.length_toBytes,
    FixedBytes.length_take _ fits.active, length_pendingText fits.pending, codecSizeInBytes]

theorem encode_eq (fits : entry.Fits) : entry.encode = writeToPrefix entry.toBytes := by
  have hsize := length_toBytes fits
  have hfixed := entry.compParamEntryFixed.length_toBytes
  apply encodes_of_fills (by rw [hsize]; rfl)
  apply Fills.congr
  · apply Fills.bind
    · exact Fills.writeAt rfl
    apply Fills.bind
    · exact Fills.slicePrefix (by rw [List.Vector.toList_length]; exact fits.active)
    apply Fills.bind
    · exact Fills.writeAt (by simp [hfixed])
    apply fills_pendingText fits.pending
    simp only [List.nil_append, List.append_nil, List.length_append, hfixed,
      FixedBytes.length_take _ fits.active]
  · simp [toBytes]
  · rw [hsize, length_pendingText fits.pending, codecSizeInBytes]

theorem spells : Scanner.Spells decode toBytes Canonical := by
  apply Scanner.spells_of_holds
  intro buffer
  apply Scanner.holds_bind
  apply ComponentParameterEntryFixed.holds_scanner
  intro fixed after _
  apply Scanner.holds_bind
  apply holds_boundedData
  intro activeCompVerStr after _ padded
  apply Scanner.holds_bind
  apply holds_pendingString
  intro pendingCompVerStr after _ pending
  apply Scanner.holds_pure
  exact ⟨by simp [toBytes], padded, pending⟩

theorem reads (canonical : entry.Canonical) (after : List UInt8) :
    decode (entry.toBytes ++ after) = .ok entry := by
  apply Scanner.decode_of_runAt
  · simp only [toBytes, scanner, List.append_assoc]
    rw [ComponentParameterEntryFixed.runAt_scanner, runAt_boundedData canonical.active,
      runAt_pendingString canonical.pending]
    rfl

theorem canonical_default : (default : ComponentParameterEntry).Canonical := by
  have hfits : ([] : List UInt8).length ≤ pldmFwupImageSetVerStrMaxLen := Nat.zero_le _
  exact ⟨FixedBytes.padded_padTo hfits, rfl⟩

end ComponentParameterEntry

/-! ## Building an entry -/

/-- A firmware version: the stamp, the string and the release date. -/
structure PldmFirmwareVersion where
  comparisonStamp : UInt32
  str : PldmFirmwareString
  date : FixedBytes pldmFwupComponentReleaseDataLen
  deriving DecidableEq

/-- A date that is too long is cut. -/
def PldmFirmwareVersion.new (comparisonStamp : UInt32) (str : PldmFirmwareString)
    (dateStr : Option String) : PldmFirmwareVersion where
  comparisonStamp := comparisonStamp
  str := str
  date := FixedBytes.padTo _ (((dateStr.map asBytes).getD []).take pldmFwupComponentReleaseDataLen)

/-- `arr[..len].copy_from_slice(&str_data[..len])`, which panics on a string whose length
is above its array's. -/
def PldmFirmwareString.copyText (string : PldmFirmwareString) :
    Outcome PldmCodecError (FixedBytes pldmFwupImageSetVerStrMaxLen) :=
  if string.strLen.toNat ≤ pldmFwupImageSetVerStrMaxLen then
    .ok (FixedBytes.padTo _ string.text)
  else .panic

/-- The entry of a component. The classification is the enumeration's value. -/
def ComponentParameterEntry.new (compClassification compIdentifier : UInt16)
    (compClassificationIndex : UInt8) (activeFirmwareVersion pendingFirmwareVersion :
      PldmFirmwareVersion) (compActivationMethods : UInt16) (capabilitiesDuringUpdate : UInt32) :
    Outcome PldmCodecError ComponentParameterEntry := do
  let activeCompVerStr ← activeFirmwareVersion.str.copyText
  let pendingCompVerStr ←
    if pendingFirmwareVersion.str.strLen > 0 then do
      let arr ← pendingFirmwareVersion.str.copyText
      pure (some arr)
    else pure none
  pure
    { compParamEntryFixed :=
        { compClassification, compIdentifier, compClassificationIndex
          activeCompComparisonStamp := activeFirmwareVersion.comparisonStamp
          activeCompVerStrType := activeFirmwareVersion.str.strType
          activeCompVerStrLen := activeFirmwareVersion.str.strLen
          activeCompReleaseDate := activeFirmwareVersion.date
          pendingCompComparisonStamp := pendingFirmwareVersion.comparisonStamp
          pendingCompVerStrType := pendingFirmwareVersion.str.strType
          pendingCompVerStrLen := pendingFirmwareVersion.str.strLen
          pendingCompReleaseDate := pendingFirmwareVersion.date
          compActivationMethods, capabilitiesDuringUpdate }
      activeCompVerStr, pendingCompVerStr }

/-- A canonical string is copied as it is. -/
theorem PldmFirmwareString.copyText_eq {string : PldmFirmwareString}
    (canonical : string.Canonical) : string.copyText = .ok string.strData := by
  rw [copyText, if_pos canonical.1, text, FixedBytes.padTo_take canonical]

/-- What the constructor builds from canonical strings is canonical. -/
theorem ComponentParameterEntry.canonical_of_new {compClassification compIdentifier : UInt16}
    {compClassificationIndex : UInt8} {activeFirmwareVersion pendingFirmwareVersion :
      PldmFirmwareVersion} {compActivationMethods : UInt16} {capabilitiesDuringUpdate : UInt32}
    (active : activeFirmwareVersion.str.Canonical)
    (pending : pendingFirmwareVersion.str.Canonical) :
    ∃ entry : ComponentParameterEntry, new compClassification compIdentifier
      compClassificationIndex activeFirmwareVersion pendingFirmwareVersion
      compActivationMethods capabilitiesDuringUpdate = .ok entry ∧ entry.Canonical := by
  simp only [new, PldmFirmwareString.copyText_eq active, Outcome.ok_bind,
    PldmFirmwareString.copyText_eq pending]
  by_cases present : pendingFirmwareVersion.str.strLen > 0
  · simp only [present, ↓reduceIte, Outcome.pure_eq, Outcome.ok_bind]
    exact ⟨_, rfl, active, present, pending⟩
  · simp only [present, ↓reduceIte, Outcome.pure_eq, Outcome.ok_bind]
    rw [gt_iff_lt, UInt8.not_lt] at present
    exact ⟨_, rfl, active, UInt8.le_zero_iff.mp present⟩

end PldmLib.Protocol
