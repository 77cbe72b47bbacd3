/-
# PLDM for firmware update: protocol values

The command and completion codes, the device states, the option flags, the
component codes and the variable-length records (descriptors, version strings,
component parameter entries) that the firmware-update messages are made of.

An enumeration has `toU8` for the `as u8` cast and, where the source converts
back, `tryFrom`. The two are written separately, as in the source: whether they
agree is a question about the code. A fixed-size array is a list that carries
its length; only the first `len` bytes of such an array are on the wire.
-/

import PldmLib.Protocol.Base
import Mathlib.Data.Vector.Basic

namespace PldmLib.Protocol

open PldmLib.Machine

def pldmFwupBaselineTransferSize : ℕ := 32
def pldmFwupMaxPaddingSize : ℕ := pldmFwupBaselineTransferSize
def pldmFwupImageSetVerStrMaxLen : ℕ := 32
def pldmFwupComponentReleaseDataLen : ℕ := 8
def descriptorDataMaxLen : ℕ := 64
def maxComponentCount : ℕ := 8
def maxDescriptorsCount : ℕ := 4

/-- A monotonic timestamp in milliseconds. -/
abbrev PldmFdTime := ℕ

/-- A byte array of fixed size. -/
abbrev FixedBytes (size : ℕ) := List.Vector UInt8 size

/-- A zeroed array whose front is overwritten by `data`. -/
def FixedBytes.padTo (size : ℕ) (data : List UInt8) : FixedBytes size :=
  ⟨(data ++ List.replicate size 0).take size, by simp⟩

/-! ## Commands and completion codes -/

inductive FwUpdateCmd
  | queryDeviceIdentifiers
  | getFirmwareParameters
  | queryDownstreamDevices
  | queryDownstreamIdentifiers
  | getDownstreamFirmwareParameters
  | requestUpdate
  | getPackageData
  | getDeviceMetaData
  | passComponentTable
  | updateComponent
  | requestFirmwareData
  | transferComplete
  | verifyComplete
  | applyComplete
  | getMetaData
  | activateFirmware
  | getStatus
  | cancelUpdateComponent
  | cancelUpdate
  | activatePendingComponentImage
  | requestDownstreamDeviceUpdate
  | updateSecurityRevision
  deriving DecidableEq, Repr

def FwUpdateCmd.toU8 : FwUpdateCmd → UInt8
  | .queryDeviceIdentifiers => 0x01
  | .getFirmwareParameters => 0x02
  | .queryDownstreamDevices => 0x03
  | .queryDownstreamIdentifiers => 0x04
  | .getDownstreamFirmwareParameters => 0x05
  | .requestUpdate => 0x10
  | .getPackageData => 0x11
  | .getDeviceMetaData => 0x12
  | .passComponentTable => 0x13
  | .updateComponent => 0x14
  | .requestFirmwareData => 0x15
  | .transferComplete => 0x16
  | .verifyComplete => 0x17
  | .applyComplete => 0x18
  | .getMetaData => 0x19
  | .activateFirmware => 0x1A
  | .getStatus => 0x1B
  | .cancelUpdateComponent => 0x1C
  | .cancelUpdate => 0x1D
  | .activatePendingComponentImage => 0x1F
  | .requestDownstreamDeviceUpdate => 0x20
  | .updateSecurityRevision => 0x22

def FwUpdateCmd.tryFrom : UInt8 → Except PldmError FwUpdateCmd
  | 0x01 => .ok .queryDeviceIdentifiers
  | 0x02 => .ok .getFirmwareParameters
  | 0x03 => .ok .queryDownstreamDevices
  | 0x04 => .ok .queryDownstreamIdentifiers
  | 0x05 => .ok .getDownstreamFirmwareParameters
  | 0x10 => .ok .requestUpdate
  | 0x11 => .ok .getPackageData
  | 0x12 => .ok .getDeviceMetaData
  | 0x13 => .ok .passComponentTable
  | 0x14 => .ok .updateComponent
  | 0x15 => .ok .requestFirmwareData
  | 0x16 => .ok .transferComplete
  | 0x17 => .ok .verifyComplete
  | 0x18 => .ok .applyComplete
  | 0x19 => .ok .getMetaData
  | 0x1A => .ok .activateFirmware
  | 0x1B => .ok .getStatus
  | 0x1C => .ok .cancelUpdateComponent
  | 0x1D => .ok .cancelUpdate
  | 0x1F => .ok .activatePendingComponentImage
  | 0x20 => .ok .requestDownstreamDeviceUpdate
  | 0x22 => .ok .updateSecurityRevision
  | _ => .error .unsupportedCmd

theorem FwUpdateCmd.tryFrom_toU8 (command : FwUpdateCmd) :
    tryFrom command.toU8 = .ok command := by
  cases command <;> rfl

theorem FwUpdateCmd.toU8_of_tryFrom {value : UInt8} {command : FwUpdateCmd}
    (known : tryFrom value = .ok command) : command.toU8 = value := by
  unfold tryFrom at known
  split at known <;> cases known <;> rfl

inductive FwUpdateCompletionCode
  | notInUpdateMode
  | alreadyInUpdateMode
  | dataOutOfRange
  | invalidTransferLength
  | invalidStateForCommand
  | incompleteUpdate
  | busyInBackground
  | cancelPending
  | commandNotExpected
  | retryRequestFwData
  | unableToInitiateUpdate
  | activationNotRequired
  | selfContainedActivationNotPermitted
  | noDeviceMetadata
  | retryRequestUpdate
  | noPackageData
  | invalidTransferHandle
  | invalidTransferOperationFlag
  | activatePendingImageNotPermitted
  | packageDataError
  | noOpaqueData
  | updateSecurityRevisionNotPermitted
  | downstreamDeviceListChanged
  deriving DecidableEq, Repr

def FwUpdateCompletionCode.toU8 : FwUpdateCompletionCode → UInt8
  | .notInUpdateMode => 0x80
  | .alreadyInUpdateMode => 0x81
  | .dataOutOfRange => 0x82
  | .invalidTransferLength => 0x83
  | .invalidStateForCommand => 0x84
  | .incompleteUpdate => 0x85
  | .busyInBackground => 0x86
  | .cancelPending => 0x87
  | .commandNotExpected => 0x88
  | .retryRequestFwData => 0x89
  | .unableToInitiateUpdate => 0x8A
  | .activationNotRequired => 0x8B
  | .selfContainedActivationNotPermitted => 0x8C
  | .noDeviceMetadata => 0x8D
  | .retryRequestUpdate => 0x8E
  | .noPackageData => 0x8F
  | .invalidTransferHandle => 0x90
  | .invalidTransferOperationFlag => 0x91
  | .activatePendingImageNotPermitted => 0x92
  | .packageDataError => 0x93
  | .noOpaqueData => 0x94
  | .updateSecurityRevisionNotPermitted => 0x95
  | .downstreamDeviceListChanged => 0x96

/-- The last three codes are not converted back. -/
def FwUpdateCompletionCode.tryFrom : UInt8 → Except PldmError FwUpdateCompletionCode
  | 0x80 => .ok .notInUpdateMode
  | 0x81 => .ok .alreadyInUpdateMode
  | 0x82 => .ok .dataOutOfRange
  | 0x83 => .ok .invalidTransferLength
  | 0x84 => .ok .invalidStateForCommand
  | 0x85 => .ok .incompleteUpdate
  | 0x86 => .ok .busyInBackground
  | 0x87 => .ok .cancelPending
  | 0x88 => .ok .commandNotExpected
  | 0x89 => .ok .retryRequestFwData
  | 0x8A => .ok .unableToInitiateUpdate
  | 0x8B => .ok .activationNotRequired
  | 0x8C => .ok .selfContainedActivationNotPermitted
  | 0x8D => .ok .noDeviceMetadata
  | 0x8E => .ok .retryRequestUpdate
  | 0x8F => .ok .noPackageData
  | 0x90 => .ok .invalidTransferHandle
  | 0x91 => .ok .invalidTransferOperationFlag
  | 0x92 => .ok .activatePendingImageNotPermitted
  | 0x93 => .ok .packageDataError
  | _ => .error .invalidCompletionCode

/-- The codes up to the last one that is converted are converted back. -/
theorem FwUpdateCompletionCode.tryFrom_toU8_iff (code : FwUpdateCompletionCode) :
    tryFrom code.toU8 = .ok code ↔ code.toU8 ≤ packageDataError.toU8 := by
  cases code <;> decide

theorem FwUpdateCompletionCode.toU8_of_tryFrom {value : UInt8} {code : FwUpdateCompletionCode}
    (known : tryFrom value = .ok code) : code.toU8 = value := by
  unfold tryFrom at known
  split at known <;> cases known <;> rfl

/-- No code of this type is a base code. -/
theorem FwUpdateCompletionCode.not_base (code : FwUpdateCompletionCode) :
    PldmBaseCompletionCode.tryFrom code.toU8 = .error .invalidCompletionCode := by
  cases code <;> rfl

/-- The completion codes of one response: the base codes and those that the response
lists. -/
inductive PldmCompletionCode (codes : List FwUpdateCompletionCode)
  | baseCodes (code : PldmBaseCompletionCode)
  | listed (code : FwUpdateCompletionCode) (member : code ∈ codes)
  deriving DecidableEq, Repr

namespace PldmCompletionCode

variable {codes : List FwUpdateCompletionCode}

def toU8 : PldmCompletionCode codes → UInt8
  | .baseCodes code => code.toU8
  | .listed code _ => code.toU8

def tryFrom (value : UInt8) : Except PldmError (PldmCompletionCode codes) :=
  match PldmBaseCompletionCode.tryFrom value with
  | .ok code => .ok (.baseCodes code)
  | .error _ =>
      match FwUpdateCompletionCode.tryFrom value with
      | .ok code =>
          if member : code ∈ codes then .ok (.listed code member)
          else .error .invalidCompletionCode
      | .error error => .error error

theorem toU8_of_tryFrom {value : UInt8} {code : PldmCompletionCode codes}
    (known : tryFrom value = .ok code) : code.toU8 = value := by
  unfold tryFrom at known
  split at known
  · next base hbase =>
      cases known
      exact PldmBaseCompletionCode.toU8_of_tryFrom hbase
  · split at known
    · next listed hlisted =>
        split at known
        · cases known
          exact FwUpdateCompletionCode.toU8_of_tryFrom hlisted
        · cases known
    · cases known

/-- Codes up to the last one that is converted are converted back. -/
theorem tryFrom_toU8
    (convertible : ∀ code ∈ codes, code.toU8 ≤ FwUpdateCompletionCode.packageDataError.toU8)
    (code : PldmCompletionCode codes) : tryFrom code.toU8 = .ok code := by
  cases code with
  | baseCodes code => simp only [tryFrom, toU8, PldmBaseCompletionCode.tryFrom_toU8]
  | listed code member =>
      have hlisted := (FwUpdateCompletionCode.tryFrom_toU8_iff code).mpr (convertible code member)
      simp only [tryFrom, toU8, FwUpdateCompletionCode.not_base, hlisted, member, ↓reduceDIte]

end PldmCompletionCode

/-! ## Device state and option flags -/

inductive FirmwareDeviceState
  | idle
  | learnComponents
  | readyXfer
  | download
  | verify
  | apply
  | activate
  deriving DecidableEq, Repr

namespace FirmwareDeviceState

def toU8 : FirmwareDeviceState → UInt8
  | .idle => 0
  | .learnComponents => 1
  | .readyXfer => 2
  | .download => 3
  | .verify => 4
  | .apply => 5
  | .activate => 6

/-- The states in which the device drives the exchange itself. -/
def isInitiator : FirmwareDeviceState → Bool
  | .download => true
  | .verify => true
  | .apply => true
  | _ => false

/-- The states in which the device waits for the agent's next command. -/
def isResting : FirmwareDeviceState → Bool
  | .idle => true
  | .learnComponents => true
  | .readyXfer => true
  | _ => false

end FirmwareDeviceState

/-- Update option bits: bit 0 requests a forced update, bit 1 announces
component opaque data, bit 2 a delayed security revision update. -/
structure UpdateOptionFlags where
  bits : UInt32
  deriving DecidableEq, Repr

namespace UpdateOptionFlags

def requestForceUpdate (flags : UpdateOptionFlags) : Bool := flags.bits % 2 == 1

def componentOpaqueData (flags : UpdateOptionFlags) : Bool := flags.bits / 2 % 2 == 1

def setRequestForceUpdate (flags : UpdateOptionFlags) (value : Bool) : UpdateOptionFlags :=
  ⟨flags.bits / 2 * 2 + if value then 1 else 0⟩

end UpdateOptionFlags

/-! ## Variable-length records -/

/-- A version string: the type, the number of valid bytes and the array. -/
structure PldmFirmwareString where
  strType : UInt8
  strLen : UInt8
  strData : FixedBytes pldmFwupImageSetVerStrMaxLen
  deriving DecidableEq

def PldmFirmwareString.default : PldmFirmwareString :=
  ⟨0, 0, FixedBytes.padTo _ []⟩

structure Descriptor where
  descriptorType : UInt16
  descriptorLength : UInt16
  descriptorData : FixedBytes descriptorDataMaxLen
  deriving DecidableEq

namespace Descriptor

def newEmpty : Descriptor := ⟨0, 0, FixedBytes.padTo _ []⟩

def codecSizeInBytes (descriptor : Descriptor) : ℕ :=
  4 + descriptor.descriptorLength.toNat

/-- Only the valid part of the data array goes on the wire. -/
def encode (descriptor : Descriptor) : Encoder := do
  let buffer ← Call.get
  if buffer.length < descriptor.codecSizeInBytes then
    Call.fail .bufferTooShort
  else do
    writeAt 0 (u16Bytes descriptor.descriptorType)
    writeAt 2 (u16Bytes descriptor.descriptorLength)
    let len := descriptor.descriptorLength.toNat
    writeAt 4 (← slicePrefix descriptor.descriptorData.toList len)
    pure (4 + len)

end Descriptor

structure ComponentParameterEntryFixed where
  compClassification : UInt16
  compIdentifier : UInt16
  compClassificationIndex : UInt8
  activeCompComparisonStamp : UInt32
  activeCompVerStrType : UInt8
  activeCompVerStrLen : UInt8
  activeCompReleaseDate : FixedBytes pldmFwupComponentReleaseDataLen
  pendingCompComparisonStamp : UInt32
  pendingCompVerStrType : UInt8
  pendingCompVerStrLen : UInt8
  pendingCompReleaseDate : FixedBytes pldmFwupComponentReleaseDataLen
  compActivationMethods : UInt16
  capabilitiesDuringUpdate : UInt32
  deriving DecidableEq

namespace ComponentParameterEntryFixed

def toBytes (fixed : ComponentParameterEntryFixed) : List UInt8 :=
  u16Bytes fixed.compClassification ++ u16Bytes fixed.compIdentifier ++
    [fixed.compClassificationIndex] ++ u32Bytes fixed.activeCompComparisonStamp ++
    [fixed.activeCompVerStrType, fixed.activeCompVerStrLen] ++
    fixed.activeCompReleaseDate.toList ++ u32Bytes fixed.pendingCompComparisonStamp ++
    [fixed.pendingCompVerStrType, fixed.pendingCompVerStrLen] ++
    fixed.pendingCompReleaseDate.toList ++ u16Bytes fixed.compActivationMethods ++
    u32Bytes fixed.capabilitiesDuringUpdate

def size : ℕ := 39

end ComponentParameterEntryFixed

structure ComponentParameterEntry where
  compParamEntryFixed : ComponentParameterEntryFixed
  activeCompVerStr : FixedBytes pldmFwupImageSetVerStrMaxLen
  pendingCompVerStr : Option (FixedBytes pldmFwupImageSetVerStrMaxLen)
  deriving DecidableEq

namespace ComponentParameterEntry

def default : ComponentParameterEntry where
  compParamEntryFixed :=
    { compClassification := 0
      compIdentifier := 0
      compClassificationIndex := 0
      activeCompComparisonStamp := 0
      activeCompVerStrType := 0
      activeCompVerStrLen := 0
      activeCompReleaseDate := FixedBytes.padTo _ []
      pendingCompComparisonStamp := 0
      pendingCompVerStrType := 0
      pendingCompVerStrLen := 0
      pendingCompReleaseDate := FixedBytes.padTo _ []
      compActivationMethods := 0
      capabilitiesDuringUpdate := 0 }
  activeCompVerStr := FixedBytes.padTo _ []
  pendingCompVerStr := none

def codecSizeInBytes (entry : ComponentParameterEntry) : ℕ :=
  ComponentParameterEntryFixed.size + entry.compParamEntryFixed.activeCompVerStrLen.toNat +
    if entry.pendingCompVerStr.isSome then
      entry.compParamEntryFixed.pendingCompVerStrLen.toNat
    else 0

def encode (entry : ComponentParameterEntry) : Encoder := do
  let buffer ← Call.get
  if buffer.length < entry.codecSizeInBytes then
    Call.fail .bufferTooShort
  else do
    writeAt 0 entry.compParamEntryFixed.toBytes
    let offset := ComponentParameterEntryFixed.size
    let len := entry.compParamEntryFixed.activeCompVerStrLen.toNat
    writeAt offset (← slicePrefix entry.activeCompVerStr.toList len)
    let offset := offset + len
    match entry.pendingCompVerStr with
    | some pendingCompVerStr => do
        let len := entry.compParamEntryFixed.pendingCompVerStrLen.toNat
        writeAt offset (← slicePrefix pendingCompVerStr.toList len)
        pure (offset + len)
    | none => pure offset

end ComponentParameterEntry

/-! ## Answers about a component -/

inductive ComponentResponse
  | compCanBeUpdated
  | compCannotBeUpdated
  deriving DecidableEq, Repr

def ComponentResponse.toU8 : ComponentResponse → UInt8
  | .compCanBeUpdated => 0
  | .compCannotBeUpdated => 1

inductive ComponentResponseCode
  | compCanBeUpdated
  | compComparisonStampIdentical
  | compComparisonStampLower
  | invalidCompComparisonStamp
  | compConflict
  | compPrerequisitesNotMet
  | compNotSupported
  | compSecurityRestrictions
  | incompleteCompImageSet
  | activeImageNotUpdateableSubsequently
  | compVerStrIdentical
  | compVerStrLower
  | vendorDefined
  deriving DecidableEq, Repr

/-- The discriminants. `VendorDefined` has none of its own in the source, so the
compiler gives it the one after its predecessor. -/
def ComponentResponseCode.toU8 : ComponentResponseCode → UInt8
  | .compCanBeUpdated => 0x00
  | .compComparisonStampIdentical => 0x01
  | .compComparisonStampLower => 0x02
  | .invalidCompComparisonStamp => 0x03
  | .compConflict => 0x04
  | .compPrerequisitesNotMet => 0x05
  | .compNotSupported => 0x06
  | .compSecurityRestrictions => 0x07
  | .incompleteCompImageSet => 0x08
  | .activeImageNotUpdateableSubsequently => 0x09
  | .compVerStrIdentical => 0x0a
  | .compVerStrLower => 0x0b
  | .vendorDefined => 0x0c

def ComponentResponseCode.tryFrom : UInt8 → Except PldmError ComponentResponseCode
  | 0x00 => .ok .compCanBeUpdated
  | 0x01 => .ok .compComparisonStampIdentical
  | 0x02 => .ok .compComparisonStampLower
  | 0x03 => .ok .invalidCompComparisonStamp
  | 0x04 => .ok .compConflict
  | 0x05 => .ok .compPrerequisitesNotMet
  | 0x06 => .ok .compNotSupported
  | 0x07 => .ok .compSecurityRestrictions
  | 0x08 => .ok .incompleteCompImageSet
  | 0x09 => .ok .activeImageNotUpdateableSubsequently
  | 0x0a => .ok .compVerStrIdentical
  | 0x0b => .ok .compVerStrLower
  | value =>
      if 0xd0 ≤ value ∧ value ≤ 0xef then .ok .vendorDefined
      else .error .invalidComponentResponseCode

/-- A code is read back from its byte, except for the vendor's own. -/
theorem ComponentResponseCode.tryFrom_toU8 {code : ComponentResponseCode} :
    tryFrom code.toU8 = .ok code ↔ code ≠ .vendorDefined := by
  cases code <;> decide

inductive ComponentCompatibilityResponse
  | compCanBeUpdated
  | compCannotBeUpdated
  deriving DecidableEq, Repr

def ComponentCompatibilityResponse.toU8 : ComponentCompatibilityResponse → UInt8
  | .compCanBeUpdated => 0
  | .compCannotBeUpdated => 1

inductive ComponentCompatibilityResponseCode
  | noResponseCode
  | compComparisonStampIdentical
  | compComparisonStampLower
  | invalidCompComparisonStamp
  | compConflict
  | compPrerequisitesNotMet
  | compNotSupported
  | compSecurityRestrictions
  | incompleteCompImageSet
  | compInfoNoMatch
  | compVerStrIdentical
  | compVerStrLower
  | vendorDefined
  deriving DecidableEq, Repr

def ComponentCompatibilityResponseCode.toU8 : ComponentCompatibilityResponseCode → UInt8
  | .noResponseCode => 0x00
  | .compComparisonStampIdentical => 0x01
  | .compComparisonStampLower => 0x02
  | .invalidCompComparisonStamp => 0x03
  | .compConflict => 0x04
  | .compPrerequisitesNotMet => 0x05
  | .compNotSupported => 0x06
  | .compSecurityRestrictions => 0x07
  | .incompleteCompImageSet => 0x08
  | .compInfoNoMatch => 0x09
  | .compVerStrIdentical => 0x0a
  | .compVerStrLower => 0x0b
  | .vendorDefined => 0x0c

def ComponentCompatibilityResponseCode.tryFrom :
    UInt8 → Except PldmError ComponentCompatibilityResponseCode
  | 0x00 => .ok .noResponseCode
  | 0x01 => .ok .compComparisonStampIdentical
  | 0x02 => .ok .compComparisonStampLower
  | 0x03 => .ok .invalidCompComparisonStamp
  | 0x04 => .ok .compConflict
  | 0x05 => .ok .compPrerequisitesNotMet
  | 0x06 => .ok .compNotSupported
  | 0x07 => .ok .compSecurityRestrictions
  | 0x08 => .ok .incompleteCompImageSet
  | 0x09 => .ok .compInfoNoMatch
  | 0x0a => .ok .compVerStrIdentical
  | 0x0b => .ok .compVerStrLower
  | value =>
      if 0xd0 ≤ value ∧ value ≤ 0xef then .ok .vendorDefined
      else .error .invalidComponentCompatibilityResponseCode

/-- The compatibility code that has the byte of a response code. The map is the model's own,
to state what a receiver reads: the source goes through the byte. The two enumerations share
their bytes but not all their meanings: `ActiveImageNotUpdateableSubsequently` is 0x09, which
is `CompInfoNoMatch` in the response to `UpdateComponent`. -/
def ComponentResponseCode.compatibility :
    ComponentResponseCode → ComponentCompatibilityResponseCode
  | .compCanBeUpdated => .noResponseCode
  | .compComparisonStampIdentical => .compComparisonStampIdentical
  | .compComparisonStampLower => .compComparisonStampLower
  | .invalidCompComparisonStamp => .invalidCompComparisonStamp
  | .compConflict => .compConflict
  | .compPrerequisitesNotMet => .compPrerequisitesNotMet
  | .compNotSupported => .compNotSupported
  | .compSecurityRestrictions => .compSecurityRestrictions
  | .incompleteCompImageSet => .incompleteCompImageSet
  | .activeImageNotUpdateableSubsequently => .compInfoNoMatch
  | .compVerStrIdentical => .compVerStrIdentical
  | .compVerStrLower => .compVerStrLower
  | .vendorDefined => .vendorDefined

theorem ComponentResponseCode.compatibility_toU8 (code : ComponentResponseCode) :
    code.compatibility.toU8 = code.toU8 := by
  cases code <;> rfl

theorem ComponentCompatibilityResponseCode.tryFrom_toU8 {code : ComponentResponseCode} :
    tryFrom code.toU8 = .ok code.compatibility ↔ code ≠ .vendorDefined := by
  cases code <;> decide

/-- The classification that names a device behind a firmware device proxy. -/
def ComponentClassification.downstreamDevice : UInt16 := 0xFFFF

end PldmLib.Protocol
