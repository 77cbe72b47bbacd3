/-
# The hand-written codecs

The library has twenty formats whose codec is written out by hand. Here they are one
family, so that what all of them have in common is stated once: no decoder panics or
lets a length through that its array cannot hold; what a decoder accepts is encoded as
it was read; and what a constructor builds is decoded as it was built.
-/

import PldmLib.Message.UpdateCodec
import PldmLib.Message.InventoryCodec
import PldmLib.Message.PackageData
import PldmLib.Message.Downstream

namespace PldmLib.Message

open PldmLib.Machine PldmLib.Protocol

inductive HandWritten
  | pldmFirmwareString
  | descriptor
  | componentParameterEntry
  | firmwareParameters
  | getFirmwareParametersResponse
  | getPackageDataResponse
  | passComponentTableRequest
  | queryDeviceIdentifiersResponse
  | downstreamDeviceParameterTable
  | getDownstreamFirmwareParametersPortion
  | getDownstreamFirmwareParametersResponse
  | requestUpdateRequest
  | requestUpdateResponse
  | updateComponentRequest
  | updateComponentResponse
  | requestFirmwareDataResponse
  | getDeviceMetaDataResponse
  | getMetaDataResponse
  | queryDownstreamIdentifiersResponse
  | downstreamDevice
  deriving DecidableEq, Repr

namespace HandWritten

abbrev Value : HandWritten → Type
  | pldmFirmwareString => PldmFirmwareString
  | descriptor => Descriptor
  | componentParameterEntry => ComponentParameterEntry
  | firmwareParameters => FirmwareParameters
  | getFirmwareParametersResponse => GetFirmwareParametersResponse
  | getPackageDataResponse => GetPackageDataResponse
  | passComponentTableRequest => PassComponentTableRequest
  | queryDeviceIdentifiersResponse => QueryDeviceIdentifiersResponse
  | downstreamDeviceParameterTable => DownstreamDeviceParameterTable
  | getDownstreamFirmwareParametersPortion => GetDownstreamFirmwareParametersPortion
  | getDownstreamFirmwareParametersResponse => GetDownstreamFirmwareParametersResponse
  | requestUpdateRequest => RequestUpdateRequest
  | requestUpdateResponse => RequestUpdateResponse
  | updateComponentRequest => UpdateComponentRequest
  | updateComponentResponse => UpdateComponentResponse
  | requestFirmwareDataResponse => RequestFirmwareDataResponse
  | getDeviceMetaDataResponse => PortionResponse
  | getMetaDataResponse => PortionResponse
  | queryDownstreamIdentifiersResponse => QueryDownstreamIdentifiersResponse
  | downstreamDevice => DownstreamDevice

def decode : (format : HandWritten) → List UInt8 → Outcome PldmCodecError format.Value
  | pldmFirmwareString => PldmFirmwareString.decode
  | descriptor => Descriptor.decode
  | componentParameterEntry => ComponentParameterEntry.decode
  | firmwareParameters => FirmwareParameters.decode
  | getFirmwareParametersResponse => GetFirmwareParametersResponse.decode
  | getPackageDataResponse => GetPackageDataResponse.decode
  | passComponentTableRequest => PassComponentTableRequest.scanner.decode
  | queryDeviceIdentifiersResponse => QueryDeviceIdentifiersResponse.decode
  | downstreamDeviceParameterTable => DownstreamDeviceParameterTable.decode
  | getDownstreamFirmwareParametersPortion => GetDownstreamFirmwareParametersPortion.decode
  | getDownstreamFirmwareParametersResponse => GetDownstreamFirmwareParametersResponse.decode
  | requestUpdateRequest => RequestUpdateRequest.scanner.decode
  | requestUpdateResponse => RequestUpdateResponse.scanner.decode
  | updateComponentRequest => UpdateComponentRequest.scanner.decode
  | updateComponentResponse => UpdateComponentResponse.scanner.decode
  | requestFirmwareDataResponse => RequestFirmwareDataResponse.scanner.decode
  | getDeviceMetaDataResponse => PortionResponse.decode
  | getMetaDataResponse => PortionResponse.decode
  | queryDownstreamIdentifiersResponse => QueryDownstreamIdentifiersResponse.decode
  | downstreamDevice => DownstreamDevice.decode

def encode : (format : HandWritten) → format.Value → Encoder
  | pldmFirmwareString => PldmFirmwareString.encode
  | descriptor => Descriptor.encode
  | componentParameterEntry => ComponentParameterEntry.encode
  | firmwareParameters => FirmwareParameters.encode
  | getFirmwareParametersResponse => GetFirmwareParametersResponse.encode
  | getPackageDataResponse => GetPackageDataResponse.encode
  | passComponentTableRequest => PassComponentTableRequest.encode
  | queryDeviceIdentifiersResponse => QueryDeviceIdentifiersResponse.encode
  | downstreamDeviceParameterTable => DownstreamDeviceParameterTable.encode
  | getDownstreamFirmwareParametersPortion => GetDownstreamFirmwareParametersPortion.encode
  | getDownstreamFirmwareParametersResponse => GetDownstreamFirmwareParametersResponse.encode
  | requestUpdateRequest => RequestUpdateRequest.encode
  | requestUpdateResponse => RequestUpdateResponse.encode
  | updateComponentRequest => UpdateComponentRequest.encode
  | updateComponentResponse => UpdateComponentResponse.encode
  | requestFirmwareDataResponse => RequestFirmwareDataResponse.encode
  | getDeviceMetaDataResponse => PortionResponse.encode
  | getMetaDataResponse => PortionResponse.encode
  | queryDownstreamIdentifiersResponse => QueryDownstreamIdentifiersResponse.encode
  | downstreamDevice => DownstreamDevice.encode

/-- The codec size, where the type defines one. -/
def codecSize : (format : HandWritten) → format.Value → Option ℕ
  | pldmFirmwareString, value => some value.codecSizeInBytes
  | descriptor, value => some value.codecSizeInBytes
  | componentParameterEntry, value => some value.codecSizeInBytes
  | firmwareParameters, value => value.codecSizeInBytes.toOption
  | getFirmwareParametersResponse, value => value.codecSizeInBytes.toOption
  | getPackageDataResponse, _ => none
  | passComponentTableRequest, value => some value.codecSizeInBytes
  | queryDeviceIdentifiersResponse, value => some value.codecSizeInBytes
  | downstreamDeviceParameterTable, value => some value.size
  | getDownstreamFirmwareParametersPortion, value => some value.size
  | getDownstreamFirmwareParametersResponse, value => some value.size
  | requestUpdateRequest, value => some value.codecSizeInBytes
  | requestUpdateResponse, value => some value.codecSizeInBytes
  | updateComponentRequest, value => some value.codecSizeInBytes
  | updateComponentResponse, value => some value.codecSizeInBytes
  | requestFirmwareDataResponse, value => some value.codecSizeInBytes
  | getDeviceMetaDataResponse, _ => none
  | getMetaDataResponse, _ => none
  | queryDownstreamIdentifiersResponse, _ => none
  | downstreamDevice, _ => none

/-- What the wire has for a value. -/
def toBytes : (format : HandWritten) → format.Value → List UInt8
  | pldmFirmwareString, value => value.toBytes
  | descriptor, value => value.toBytes
  | componentParameterEntry, value => value.toBytes
  | firmwareParameters, value => value.toBytes
  | getFirmwareParametersResponse, value => value.toBytes
  | getPackageDataResponse, value =>
      value.fixedBytes ++ value.portionOfPackageData.toList.take value.portionOfPackageDataLen
  | passComponentTableRequest, value => value.toBytes
  | queryDeviceIdentifiersResponse, value => value.toBytes
  | downstreamDeviceParameterTable, value => value.toBytes
  | getDownstreamFirmwareParametersPortion, value => value.toBytes
  | getDownstreamFirmwareParametersResponse, value => value.toBytes
  | requestUpdateRequest, value => value.toBytes
  | requestUpdateResponse, value => value.toBytes
  | updateComponentRequest, value => value.toBytes
  | updateComponentResponse, value => value.toBytes
  | requestFirmwareDataResponse, value => value.toBytes
  | getDeviceMetaDataResponse, value => value.toBytes
  | getMetaDataResponse, value => value.toBytes
  | queryDownstreamIdentifiersResponse, value => value.toPortionResponse.toBytes
  | downstreamDevice, value => value.toBytes

/-- What holds of a value that a decoder has returned. -/
def Canonical : (format : HandWritten) → format.Value → Prop
  | pldmFirmwareString, value => value.Canonical
  | descriptor, value => value.Canonical
  | componentParameterEntry, value => value.Canonical
  | firmwareParameters, value => value.Canonical
  | getFirmwareParametersResponse, value => value.parms.Canonical
  | getPackageDataResponse, value => value.portionOfPackageDataLen ≤ maxPortionDataSize
  | passComponentTableRequest, value => value.Canonical
  | queryDeviceIdentifiersResponse, value => value.Canonical
  | downstreamDeviceParameterTable, value => value.Canonical
  | getDownstreamFirmwareParametersPortion, value => value.Canonical
  | getDownstreamFirmwareParametersResponse, value => value.Canonical
  | requestUpdateRequest, value => value.Canonical
  | requestUpdateResponse, value => value.Canonical
  | updateComponentRequest, value => value.Canonical
  | updateComponentResponse, _ => True
  | requestFirmwareDataResponse, _ => True
  | getDeviceMetaDataResponse, _ => True
  | getMetaDataResponse, _ => True
  | queryDownstreamIdentifiersResponse, _ => True
  | downstreamDevice, _ => True

/-- All decoders but one accept only what they spell: the package data response has its
header rebuilt. -/
theorem spells (format : HandWritten) (spelled : format ≠ getPackageDataResponse) :
    Scanner.Spells format.decode format.toBytes format.Canonical := by
  cases format with
  | pldmFirmwareString => exact PldmFirmwareString.spells
  | descriptor => exact Descriptor.spells
  | componentParameterEntry => exact ComponentParameterEntry.spells
  | firmwareParameters => exact FirmwareParameters.spells
  | getFirmwareParametersResponse => exact GetFirmwareParametersResponse.spells
  | getPackageDataResponse => exact absurd rfl spelled
  | passComponentTableRequest => exact PassComponentTableRequest.spells
  | queryDeviceIdentifiersResponse => exact QueryDeviceIdentifiersResponse.spells
  | downstreamDeviceParameterTable => exact DownstreamDeviceParameterTable.spells
  | getDownstreamFirmwareParametersPortion =>
      exact GetDownstreamFirmwareParametersPortion.spells
  | getDownstreamFirmwareParametersResponse =>
      exact GetDownstreamFirmwareParametersResponse.spells
  | requestUpdateRequest => exact RequestUpdateRequest.spells
  | requestUpdateResponse => exact RequestUpdateResponse.spells
  | updateComponentRequest => exact UpdateComponentRequest.spells
  | updateComponentResponse => exact UpdateComponentResponse.spells
  | requestFirmwareDataResponse => exact RequestFirmwareDataResponse.spells
  | getDeviceMetaDataResponse => exact PortionResponse.spells
  | getMetaDataResponse => exact PortionResponse.spells
  | queryDownstreamIdentifiersResponse => exact QueryDownstreamIdentifiersResponse.spells
  | downstreamDevice => exact DownstreamDevice.spells

theorem decode_ensures (format : HandWritten) (buffer : List UInt8) :
    (format.decode buffer).Ensures format.Canonical := by
  by_cases spelled : format = getPackageDataResponse
  · subst spelled
    exact GetPackageDataResponse.decode_ensures buffer
  · apply (format.spells spelled buffer).mono
    intro value hvalue
    exact hvalue.1

/-! ## Lengths -/

/-- The length fields of an entry, each with the size of its array. -/
def entryLengths (entry : ComponentParameterEntry) : List (ℕ × ℕ) :=
  [(entry.compParamEntryFixed.activeCompVerStrLen.toNat, pldmFwupImageSetVerStrMaxLen),
    (entry.compParamEntryFixed.pendingCompVerStrLen.toNat, pldmFwupImageSetVerStrMaxLen)]

/-- The length fields of firmware parameters. -/
def paramsLengths (params : FirmwareParameters) : List (ℕ × ℕ) :=
  [(params.activeCompImageSetVerStrLen.toNat, pldmFwupImageSetVerStrMaxLen),
    (params.pendingCompImageSetVerStrLen.toNat, pldmFwupImageSetVerStrMaxLen),
    (params.compCount.toNat, maxComponentCount)] ++
    params.compParamTable.toList.flatMap entryLengths

/-- The length fields of a parameter table. -/
def tableLengths (table : DownstreamDeviceParameterTable) : List (ℕ × ℕ) :=
  [(table.activeComponentVersionString.strLen.toNat, pldmFwupImageSetVerStrMaxLen),
    (table.pendingComponentVersionString.strLen.toNat, pldmFwupImageSetVerStrMaxLen)]

/-- The length fields of a value, each with the size of the array that it is about. -/
def lengths : (format : HandWritten) → format.Value → List (ℕ × ℕ)
  | pldmFirmwareString, value => [(value.strLen.toNat, pldmFwupImageSetVerStrMaxLen)]
  | descriptor, value => [(value.descriptorLength.toNat, descriptorDataMaxLen)]
  | componentParameterEntry, value => entryLengths value
  | firmwareParameters, value => paramsLengths value
  | getFirmwareParametersResponse, value => paramsLengths value.parms
  | getPackageDataResponse, value => [(value.portionOfPackageDataLen, maxPortionDataSize)]
  | passComponentTableRequest, value =>
      [(value.compVerStrLen.toNat, pldmFwupImageSetVerStrMaxLen)]
  | queryDeviceIdentifiersResponse, value =>
      (value.initialDescriptor :: (value.additionalDescriptors.map (·.toList)).getD []).map
        fun descriptor => (descriptor.descriptorLength.toNat, descriptorDataMaxLen)
  | downstreamDeviceParameterTable, value => tableLengths value
  | getDownstreamFirmwareParametersPortion, value =>
      tableLengths value.downstreamDeviceParameterTable
  | getDownstreamFirmwareParametersResponse, value =>
      tableLengths value.portion.downstreamDeviceParameterTable
  | requestUpdateRequest, value =>
      [(value.compImageSetVerStrLen.toNat, pldmFwupImageSetVerStrMaxLen)]
  | requestUpdateResponse, _ => []
  | updateComponentRequest, value =>
      [(value.compVerStrLen.toNat, pldmFwupImageSetVerStrMaxLen)]
  | updateComponentResponse, _ => []
  | requestFirmwareDataResponse, _ => []
  | getDeviceMetaDataResponse, _ => []
  | getMetaDataResponse, _ => []
  | queryDownstreamIdentifiersResponse, _ => []
  | downstreamDevice, _ => []

/-- Every length is within its array. -/
def Bounded (lengths : List (ℕ × ℕ)) : Prop := ∀ field ∈ lengths, field.1 ≤ field.2

theorem bounded_nil : Bounded [] := by
  intro field member
  cases member

theorem bounded_singleton {len size : ℕ} (fits : len ≤ size) : Bounded [(len, size)] := by
  intro field member
  rw [List.mem_singleton] at member
  rwa [member]

theorem bounded_entryLengths {entry : ComponentParameterEntry} (canonical : entry.Canonical) :
    Bounded (entryLengths entry) := by
  have hpending := pendingCanonical_length canonical.pending
  intro field member
  simp only [entryLengths, List.mem_cons, List.not_mem_nil, or_false] at member
  obtain rfl | rfl := member
  · exact canonical.active.1
  · exact hpending

theorem bounded_tableLengths {table : DownstreamDeviceParameterTable}
    (canonical : table.Canonical) : Bounded (tableLengths table) := by
  intro field member
  simp only [tableLengths, List.mem_cons, List.not_mem_nil, or_false] at member
  obtain rfl | rfl := member
  · exact canonical.active.1
  · exact canonical.pending.1

theorem bounded_paramsLengths {params : FirmwareParameters} (canonical : params.Canonical) :
    Bounded (paramsLengths params) := by
  have hpending := pendingCanonical_length canonical.pending
  intro field member
  simp only [paramsLengths, List.mem_append, List.mem_cons, List.not_mem_nil, or_false,
    List.mem_flatMap] at member
  obtain (rfl | rfl | rfl) | ⟨entry, inside, member⟩ := member
  · exact canonical.active.1
  · exact hpending
  · exact canonical.count
  · exact bounded_entryLengths (FirmwareParameters.canonical_table canonical entry inside) field
      member

theorem bounded_lengths {format : HandWritten} {value : format.Value}
    (canonical : format.Canonical value) : Bounded (format.lengths value) := by
  cases format with
  | componentParameterEntry => exact bounded_entryLengths canonical
  | firmwareParameters => exact bounded_paramsLengths canonical
  | getFirmwareParametersResponse => exact bounded_paramsLengths canonical
  | downstreamDeviceParameterTable => exact bounded_tableLengths canonical
  | getDownstreamFirmwareParametersPortion => exact bounded_tableLengths canonical
  | getDownstreamFirmwareParametersResponse => exact bounded_tableLengths canonical
  | queryDeviceIdentifiersResponse =>
      intro field member
      simp only [lengths, List.mem_map] at member
      obtain ⟨found, inside, rfl⟩ := member
      exact (QueryDeviceIdentifiersResponse.canonical_descriptor canonical inside).1
  | pldmFirmwareString => exact bounded_singleton canonical.1
  | descriptor => exact bounded_singleton canonical.1
  | getPackageDataResponse => exact bounded_singleton canonical
  | passComponentTableRequest => exact bounded_singleton canonical.1
  | requestUpdateRequest => exact bounded_singleton canonical.1
  | updateComponentRequest => exact bounded_singleton canonical.1
  | requestUpdateResponse => exact bounded_nil
  | updateComponentResponse => exact bounded_nil
  | requestFirmwareDataResponse => exact bounded_nil
  | getDeviceMetaDataResponse => exact bounded_nil
  | getMetaDataResponse => exact bounded_nil
  | queryDownstreamIdentifiersResponse => exact bounded_nil
  | downstreamDevice => exact bounded_nil

/-- No decoder panics on any bytes, and every length in what it returns is within the
array that it is about. -/
theorem decode_total (format : HandWritten) (buffer : List UInt8) :
    format.decode buffer ≠ .panic ∧
      ∀ value, format.decode buffer = .ok value →
        ∀ field ∈ format.lengths value, field.1 ≤ field.2 := by
  have hdecode := format.decode_ensures buffer
  refine ⟨hdecode.ne_panic, ?_⟩
  intro value accepted
  exact bounded_lengths (hdecode.of_ok accepted)

/-! ## Encoding what was decoded -/

/-- The values whose encoding gives their message back: a package data response has lost
its header's other bits, and a firmware data response is only encoded up to a limit. -/
def Reencodes : (format : HandWritten) → format.Value → Prop
  | getPackageDataResponse, _ => False
  | requestFirmwareDataResponse, value =>
      value.data.length ≤ RequestFirmwareDataResponse.maxTransferSize
  | _, _ => True

/-- A canonical value that reencodes is written to the front of the buffer or not at
all. A downstream device is written byte by byte, so a short buffer may be overwritten
in part. -/
theorem encode_eq {format : HandWritten} {value : format.Value}
    (whole : format ≠ downstreamDevice) (reencodes : format.Reencodes value)
    (canonical : format.Canonical value) :
    format.encode value = writeToPrefix (format.toBytes value) := by
  cases format with
  | getPackageDataResponse => exact absurd reencodes id
  | downstreamDevice => exact absurd rfl whole
  | pldmFirmwareString => exact PldmFirmwareString.encode_eq canonical.fits
  | descriptor => exact Descriptor.encode_eq canonical.fits
  | componentParameterEntry => exact ComponentParameterEntry.encode_eq canonical.fits
  | firmwareParameters => exact FirmwareParameters.encode_eq canonical.fits
  | getFirmwareParametersResponse => exact GetFirmwareParametersResponse.encode_eq canonical.fits
  | passComponentTableRequest => exact PassComponentTableRequest.encode_eq canonical
  | queryDeviceIdentifiersResponse => exact QueryDeviceIdentifiersResponse.encode_eq canonical.fits
  | downstreamDeviceParameterTable => exact DownstreamDeviceParameterTable.encode_eq canonical
  | getDownstreamFirmwareParametersPortion =>
      exact GetDownstreamFirmwareParametersPortion.encode_eq canonical
  | getDownstreamFirmwareParametersResponse =>
      exact GetDownstreamFirmwareParametersResponse.encode_eq canonical
  | requestUpdateRequest => exact RequestUpdateRequest.encode_eq canonical
  | requestUpdateResponse => exact RequestUpdateResponse.encode_eq canonical
  | updateComponentRequest => exact UpdateComponentRequest.encode_eq canonical
  | updateComponentResponse => exact UpdateComponentResponse.encode_toBytes value
  | requestFirmwareDataResponse => exact RequestFirmwareDataResponse.encode_eq reencodes
  | getDeviceMetaDataResponse => exact PortionResponse.encode_eq value
  | getMetaDataResponse => exact PortionResponse.encode_eq value
  | queryDownstreamIdentifiersResponse => exact PortionResponse.encode_eq value.toPortionResponse

theorem writes_of_canonical {format : HandWritten} {value : format.Value}
    (reencodes : format.Reencodes value) (canonical : format.Canonical value) :
    Writes (format.encode value) (format.toBytes value) := by
  by_cases device : format = downstreamDevice
  · subst device
    intro buffer room
    exact DownstreamDevice.encode_of_room room
  · rw [encode_eq device reencodes canonical]
    exact writes_writeToPrefix _

theorem size_of_some {length size : ℕ} {bytes : List UInt8} (spelled : bytes.length = length)
    (defined : some length = some size) : size = bytes.length :=
  (Option.some.inj defined).symm.trans spelled.symm

/-- The codec size of a canonical value is the length of its spelling. -/
theorem codecSize_eq {format : HandWritten} {value : format.Value}
    (canonical : format.Canonical value) {size : ℕ}
    (defined : format.codecSize value = some size) : size = (format.toBytes value).length := by
  cases format with
  | firmwareParameters =>
      rw [codecSize, FirmwareParameters.codecSizeInBytes_eq canonical.fits] at defined
      exact size_of_some rfl defined
  | getFirmwareParametersResponse =>
      rw [codecSize, GetFirmwareParametersResponse.codecSizeInBytes,
        FirmwareParameters.codecSizeInBytes_eq canonical.fits] at defined
      exact size_of_some (GetFirmwareParametersResponse.length_toBytes value) defined
  | pldmFirmwareString =>
      exact size_of_some (PldmFirmwareString.length_toBytes canonical.fits) defined
  | descriptor => exact size_of_some (Descriptor.length_toBytes canonical.fits) defined
  | componentParameterEntry =>
      exact size_of_some (ComponentParameterEntry.length_toBytes canonical.fits) defined
  | passComponentTableRequest =>
      exact size_of_some (PassComponentTableRequest.length_toBytes canonical) defined
  | queryDeviceIdentifiersResponse =>
      exact size_of_some (QueryDeviceIdentifiersResponse.length_toBytes canonical.fits) defined
  | downstreamDeviceParameterTable =>
      exact size_of_some (DownstreamDeviceParameterTable.length_toBytes canonical) defined
  | getDownstreamFirmwareParametersPortion =>
      exact size_of_some (GetDownstreamFirmwareParametersPortion.length_toBytes canonical) defined
  | getDownstreamFirmwareParametersResponse =>
      exact size_of_some (GetDownstreamFirmwareParametersResponse.length_toBytes canonical) defined
  | requestUpdateRequest =>
      exact size_of_some (RequestUpdateRequest.length_toBytes canonical) defined
  | requestUpdateResponse =>
      exact size_of_some (RequestUpdateResponse.length_toBytes canonical) defined
  | updateComponentRequest =>
      exact size_of_some (UpdateComponentRequest.length_toBytes canonical) defined
  | updateComponentResponse =>
      exact size_of_some (UpdateComponentResponse.length_toBytes value) defined
  | requestFirmwareDataResponse =>
      exact size_of_some (RequestFirmwareDataResponse.length_toBytes value) defined
  | getPackageDataResponse => cases defined
  | getDeviceMetaDataResponse => cases defined
  | getMetaDataResponse => cases defined
  | queryDownstreamIdentifiersResponse => cases defined
  | downstreamDevice => cases defined

/-- What a decoder has accepted it also decodes from the spelling alone. -/
theorem reads_of_decode {format : HandWritten} {message : List UInt8} {value : format.Value}
    (spelled : format ≠ getPackageDataResponse) (accepted : format.decode message = .ok value) :
    format.decode (format.toBytes value) = .ok value := by
  obtain ⟨canonical, -⟩ := (format.spells spelled message).of_ok accepted
  have alone {bytes : List UInt8} (reads : format.decode (bytes ++ []) = .ok value) :
      format.decode bytes = .ok value := by rwa [List.append_nil] at reads
  cases format with
  | pldmFirmwareString => exact alone (PldmFirmwareString.reads canonical [])
  | descriptor => exact alone (Descriptor.reads canonical [])
  | componentParameterEntry => exact alone (ComponentParameterEntry.reads canonical [])
  | firmwareParameters => exact alone (FirmwareParameters.reads canonical [])
  | getFirmwareParametersResponse =>
      exact alone (GetFirmwareParametersResponse.reads canonical [])
  | getPackageDataResponse => exact absurd rfl spelled
  | passComponentTableRequest => exact alone (PassComponentTableRequest.reads canonical [])
  | queryDeviceIdentifiersResponse =>
      exact alone (QueryDeviceIdentifiersResponse.reads canonical [])
  | downstreamDeviceParameterTable =>
      exact alone (DownstreamDeviceParameterTable.reads canonical [])
  | getDownstreamFirmwareParametersPortion =>
      exact alone (GetDownstreamFirmwareParametersPortion.reads canonical [])
  | getDownstreamFirmwareParametersResponse =>
      exact alone (GetDownstreamFirmwareParametersResponse.reads canonical [])
  | requestUpdateRequest => exact alone (RequestUpdateRequest.reads canonical [])
  | requestUpdateResponse => exact alone (RequestUpdateResponse.reads canonical [])
  | updateComponentRequest => exact alone (UpdateComponentRequest.reads canonical [])
  | updateComponentResponse =>
      obtain ⟨present, -⟩ := (UpdateComponentResponse.spells_canonical message).of_ok accepted
      exact alone (UpdateComponentResponse.reads present [])
  | requestFirmwareDataResponse => exact RequestFirmwareDataResponse.reads value
  | getDeviceMetaDataResponse => exact PortionResponse.reads value
  | getMetaDataResponse => exact PortionResponse.reads value
  | queryDownstreamIdentifiersResponse =>
      exact QueryDownstreamIdentifiersResponse.reads_of_decode accepted
  | downstreamDevice => exact DownstreamDevice.reads (DownstreamDevice.of_decode accepted).1

/-- What a decoder accepts is encoded as it was read: into a buffer that is no shorter
than the message, the encoder writes the front of the message, as much of it as the codec
size says and as it takes to decode the value again. -/
theorem encode_decode {format : HandWritten} {message buffer : List UInt8}
    {value : format.Value} (accepted : format.decode message = .ok value)
    (reencodes : format.Reencodes value) (room : message.length ≤ buffer.length) :
    ∃ count, count ≤ message.length ∧
      format.encode value buffer = (.ok count, message.take count ++ buffer.drop count) ∧
      format.decode (message.take count) = .ok value ∧
      ∀ size, format.codecSize value = some size → count = size := by
  have hspelled : format ≠ getPackageDataResponse := by
    rintro rfl
    exact reencodes
  have hspells := format.spells hspelled
  obtain ⟨hcanonical, after, hmessage⟩ := (hspells message).of_ok accepted
  obtain ⟨hcount, hencode⟩ :=
    encode_of_decode hspells accepted (writes_of_canonical reencodes) room
  refine ⟨_, hcount, hencode, ?_, ?_⟩
  · rw [hmessage, List.take_left]
    exact reads_of_decode hspelled accepted
  · intro size defined
    exact (codecSize_eq hcanonical defined).symm

/-- A descriptor of two bytes, with one byte behind it. -/
theorem encode_decode_descriptor : ∃ value : Descriptor,
    descriptor.decode [2, 0, 2, 0, 7, 8, 9] = .ok value ∧
      ∃ count, count ≤ 7 ∧ descriptor.encode value [0, 0, 0, 0, 0, 0, 0, 1] =
        (.ok count, [2, 0, 2, 0, 7, 8, 9].take count ++
          [0, 0, 0, 0, 0, 0, 0, 1].drop count) ∧
        descriptor.decode ([2, 0, 2, 0, 7, 8, 9].take count) = .ok value ∧
        ∀ size, descriptor.codecSize value = some size → count = size := by
  have haccepted : descriptor.decode [2, 0, 2, 0, 7, 8, 9] =
      .ok ⟨2, 2, FixedBytes.padTo _ [7, 8]⟩ := by decide +kernel
  exact ⟨_, haccepted, encode_decode haccepted trivial (by decide)⟩

/-! ## Decoding what was encoded -/

/-- A version string that was built from a name and a text. -/
def BuiltString (string : PldmFirmwareString) : Prop :=
  ∃ strType fwStr, PldmFirmwareString.new strType fwStr = .ok string

/-- A parameter entry that was built from two firmware versions. -/
def BuiltEntry (entry : ComponentParameterEntry) : Prop :=
  ∃ (compClassification compIdentifier : UInt16) (compClassificationIndex : UInt8)
    (active pending : PldmFirmwareVersion) (compActivationMethods : UInt16)
    (capabilitiesDuringUpdate : UInt32), BuiltString active.str ∧ BuiltString pending.str ∧
      ComponentParameterEntry.new compClassification compIdentifier compClassificationIndex
        active pending compActivationMethods capabilitiesDuringUpdate = .ok entry

/-- Firmware parameters that were built with a count that is their table's length. -/
def BuiltParameters (params : FirmwareParameters) : Prop :=
  ∃ (capabilitiesDuringUpdate : UInt32) (compCount : UInt16) (active pending : PldmFirmwareString)
    (table : List ComponentParameterEntry), BuiltString active ∧ BuiltString pending ∧
      (∀ entry ∈ table, BuiltEntry entry) ∧ compCount.toNat = table.length ∧
      table.length ≤ maxComponentCount ∧
      params = .new capabilitiesDuringUpdate compCount active pending table

/-- A parameter table that was built from two version strings and two dates. -/
def BuiltTable (table : DownstreamDeviceParameterTable) : Prop :=
  ∃ (downstreamDeviceIndex : DownstreamDeviceIndex)
    (activeComponentComparisonStamp pendingComponentComparisonStamp : UInt32)
    (active pending : PldmFirmwareString) (activeDate pendingDate : String)
    (componentActivationMethods : UInt16) (capabilitiesDuringUpdate : UInt32),
    BuiltString active ∧ BuiltString pending ∧
      DownstreamDeviceParameterTable.new downstreamDeviceIndex activeComponentComparisonStamp
        active pending activeDate pendingComponentComparisonStamp componentActivationMethods
        capabilitiesDuringUpdate pendingDate = .ok table

/-- The values that the public constructors build. -/
inductive Built : (format : HandWritten) → format.Value → Prop
  | requestUpdateRequest (instanceId : UInt8) (msgType : PldmMsgType) (maxTransferSize : UInt32)
      (numOfComp : UInt16) (maxOutstandingTransferReq : UInt8) (pkgDataLen : UInt16)
      {string : PldmFirmwareString} (built : BuiltString string) :
      Built requestUpdateRequest (RequestUpdateRequest.new instanceId msgType maxTransferSize
        numOfComp maxOutstandingTransferReq pkgDataLen string)
  | passComponentTableRequest (instanceId : UInt8) (msgType : PldmMsgType)
      (transferFlag : TransferRespFlag) (compClassification compIdentifier : UInt16)
      (compClassificationIndex : UInt8) (compComparisonStamp : UInt32)
      {string : PldmFirmwareString} (built : BuiltString string) :
      Built passComponentTableRequest (PassComponentTableRequest.new instanceId msgType
        transferFlag compClassification compIdentifier compClassificationIndex
        compComparisonStamp string)
  | updateComponentRequest (instanceId : UInt8) (msgType : PldmMsgType)
      (compClassification compIdentifier : UInt16) (compClassificationIndex : UInt8)
      (compComparisonStamp compImageSize : UInt32) (updateOptionFlags : UpdateOptionFlags)
      {string : PldmFirmwareString} (built : BuiltString string) :
      Built updateComponentRequest (UpdateComponentRequest.new instanceId msgType
        compClassification compIdentifier compClassificationIndex compComparisonStamp
        compImageSize updateOptionFlags string)
  | componentParameterEntry {entry : ComponentParameterEntry} (built : BuiltEntry entry) :
      Built componentParameterEntry entry
  | firmwareParameters {params : FirmwareParameters} (built : BuiltParameters params) :
      Built firmwareParameters params
  | getFirmwareParametersResponse (instanceId completionCode : UInt8)
      {params : FirmwareParameters} (built : BuiltParameters params) :
      Built getFirmwareParametersResponse
        (GetFirmwareParametersResponse.new instanceId completionCode params)
  | downstreamDeviceParameterTable {table : DownstreamDeviceParameterTable}
      (built : BuiltTable table) : Built downstreamDeviceParameterTable table
  | getDownstreamFirmwareParametersResponse (instanceId : UInt8)
      (completionCode : GetDownstreamFirmwareParametersResponseCode)
      (nextDataTransferHandle : UInt32) (transferFlag : UInt8) (capability : UInt32)
      (downstreamDeviceCount : UInt16) {table : DownstreamDeviceParameterTable}
      (built : BuiltTable table) :
      Built getDownstreamFirmwareParametersResponse
        (GetDownstreamFirmwareParametersResponse.new instanceId completionCode
          nextDataTransferHandle transferFlag (.new capability downstreamDeviceCount table))
  | queryDeviceIdentifiersResponse (instanceId completionCode : UInt8)
      {initialDescriptor : Descriptor} {additionalDescriptors : Option (List Descriptor)}
      {response : QueryDeviceIdentifiersResponse} (initial : initialDescriptor.Canonical)
      (additional : ∀ descriptor ∈ additionalDescriptors.getD [], descriptor.Canonical)
      (built : QueryDeviceIdentifiersResponse.new instanceId completionCode initialDescriptor
        additionalDescriptors = .ok response) :
      Built queryDeviceIdentifiersResponse response

theorem canonical_string {string : PldmFirmwareString} (built : BuiltString string) :
    string.Canonical := by
  obtain ⟨strType, fwStr, hnew⟩ := built
  exact PldmFirmwareString.canonical_of_new hnew

theorem canonical_entry {entry : ComponentParameterEntry} (built : BuiltEntry entry) :
    entry.Canonical := by
  obtain ⟨_, _, _, active, pending, _, _, hactive, hpending, hnew⟩ := built
  obtain ⟨found, hfound, hcanonical⟩ := ComponentParameterEntry.canonical_of_new
    (canonical_string hactive) (canonical_string hpending)
  rw [hfound] at hnew
  obtain rfl := Outcome.ok.inj hnew
  exact hcanonical

theorem canonical_parameters {params : FirmwareParameters} (built : BuiltParameters params) :
    params.Canonical := by
  obtain ⟨_, _, _, _, _, hactive, hpending, htable, hcount, hfew, rfl⟩ := built
  exact FirmwareParameters.canonical_of_new (canonical_string hactive)
    (canonical_string hpending) (fun entry member => canonical_entry (htable entry member))
    hcount hfew

theorem canonical_table {table : DownstreamDeviceParameterTable} (built : BuiltTable table) :
    table.Canonical := by
  obtain ⟨_, _, _, _, _, _, _, _, _, hactive, hpending, hnew⟩ := built
  exact DownstreamDeviceParameterTable.canonical_of_new (canonical_string hactive)
    (canonical_string hpending) hnew

theorem canonical_of_built {format : HandWritten} {value : format.Value}
    (built : Built format value) : format.Canonical value := by
  cases built with
  | requestUpdateRequest _ _ _ _ _ _ built => exact canonical_string built
  | passComponentTableRequest _ _ _ _ _ _ _ built => exact canonical_string built
  | updateComponentRequest _ _ _ _ _ _ _ _ built => exact canonical_string built
  | componentParameterEntry built => exact canonical_entry built
  | firmwareParameters built => exact canonical_parameters built
  | getFirmwareParametersResponse _ _ built => exact canonical_parameters built
  | downstreamDeviceParameterTable built => exact canonical_table built
  | getDownstreamFirmwareParametersResponse _ _ _ _ _ _ built => exact canonical_table built
  | queryDeviceIdentifiersResponse _ _ initial additional built =>
      exact QueryDeviceIdentifiersResponse.canonical_of_new initial additional built

/-- Whatever follows a built value's spelling, it is decoded as that value. -/
theorem reads_of_built {format : HandWritten} {value : format.Value}
    (built : Built format value) (after : List UInt8) :
    format.decode (format.toBytes value ++ after) = .ok value := by
  have hcanonical := canonical_of_built built
  cases built with
  | requestUpdateRequest => exact RequestUpdateRequest.reads hcanonical after
  | passComponentTableRequest => exact PassComponentTableRequest.reads hcanonical after
  | updateComponentRequest => exact UpdateComponentRequest.reads hcanonical after
  | componentParameterEntry => exact ComponentParameterEntry.reads hcanonical after
  | firmwareParameters => exact FirmwareParameters.reads hcanonical after
  | getFirmwareParametersResponse => exact GetFirmwareParametersResponse.reads hcanonical after
  | downstreamDeviceParameterTable =>
      exact DownstreamDeviceParameterTable.reads hcanonical after
  | getDownstreamFirmwareParametersResponse =>
      exact GetDownstreamFirmwareParametersResponse.reads hcanonical after
  | queryDeviceIdentifiersResponse =>
      exact QueryDeviceIdentifiersResponse.reads hcanonical after

theorem codecSize_of_built {format : HandWritten} {value : format.Value}
    (built : Built format value) : ∃ size, format.codecSize value = some size := by
  have hcanonical := canonical_of_built built
  cases built with
  | firmwareParameters =>
      rw [codecSize, FirmwareParameters.codecSizeInBytes_eq hcanonical.fits]
      exact ⟨_, rfl⟩
  | getFirmwareParametersResponse =>
      rw [codecSize, GetFirmwareParametersResponse.codecSizeInBytes,
        FirmwareParameters.codecSizeInBytes_eq hcanonical.fits]
      exact ⟨_, rfl⟩
  | _ => exact ⟨_, rfl⟩

theorem encode_of_built {format : HandWritten} {value : format.Value}
    (built : Built format value) :
    format.encode value = writeToPrefix (format.toBytes value) := by
  have hcanonical := canonical_of_built built
  have hwhole : format ≠ downstreamDevice := by
    rintro rfl
    cases built
  have hreencodes : format.Reencodes value := by
    cases built <;> trivial
  exact encode_eq hwhole hreencodes hcanonical

/-- What the constructors build is decoded as it was built. With the codec size as room
the encoder returns that size, and the bytes it has written are decoded as the value,
whatever follows them; with less it reports a short buffer and writes nothing. -/
theorem decode_encode {format : HandWritten} {value : format.Value}
    (built : Built format value) :
    ∃ size, format.codecSize value = some size ∧ ∀ buffer,
      (size ≤ buffer.length → ∃ written, format.encode value buffer = (.ok size, written) ∧
        ∀ after, format.decode (written.take size ++ after) = .ok value) ∧
      (buffer.length < size → format.encode value buffer = (.err .bufferTooShort, buffer)) := by
  obtain ⟨size, hsize⟩ := codecSize_of_built built
  obtain rfl := codecSize_eq (canonical_of_built built) hsize
  refine ⟨_, hsize, ?_⟩
  intro buffer
  rw [encode_of_built built]
  constructor
  · intro room
    refine ⟨_, writeToPrefix_of_le room, ?_⟩
    intro after
    rw [List.take_left]
    exact reads_of_built built after
  · intro short
    exact if_neg (not_le.mpr short)

/-- A request whose version string has three characters. -/
theorem decode_encode_request : ∃ string, PldmFirmwareString.new "ASCII" "1.0" = .ok string ∧
    ∃ size, codecSize requestUpdateRequest (.new 1 .request 512 1 1 0 string) = some size ∧
      ∀ buffer, (size ≤ buffer.length → ∃ written,
        encode requestUpdateRequest (.new 1 .request 512 1 1 0 string) buffer =
          (.ok size, written) ∧
        ∀ after, decode requestUpdateRequest (written.take size ++ after) =
          .ok (.new 1 .request 512 1 1 0 string)) ∧
      (buffer.length < size →
        encode requestUpdateRequest (.new 1 .request 512 1 1 0 string) buffer =
          (.err .bufferTooShort, buffer)) := by
  have hnew : PldmFirmwareString.new "ASCII" "1.0" =
      .ok ⟨1, 3, FixedBytes.padTo _ [0x31, 0x2E, 0x30]⟩ := by decide +kernel
  exact ⟨_, hnew, decode_encode (.requestUpdateRequest 1 .request 512 1 1 0 ⟨_, _, hnew⟩)⟩

end HandWritten

end PldmLib.Message
