/-
# Identifiers

What a descriptor stands for: an identifier of one of the listed kinds, each of which has its
number of bytes. The library builds a descriptor from a kind and the bytes. A reader finds an
identifier in a descriptor of a listed kind that has the length of the kind, whatever the
array holds behind it.
-/

import PldmLib.Protocol.Records

namespace PldmLib.Protocol

open PldmLib.Machine

inductive DescriptorType
  | pciVendorId
  | ianaEnterpriseId
  | uuid
  | pnpVendorId
  | acpiVendorId
  | ieeeAssignedCompanyId
  | scsiVendorId
  | pciDeviceId
  | pciSubsystemVendorId
  | pciSubsystemId
  | pciRevisionId
  | pnpProductIdentifier
  | acpiProductIdentifier
  | asciiModelNumberLongString
  | asciiModelNumberShortString
  | scsiProductId
  | ubmControllerDeviceCode
  | vendorDefined
  deriving DecidableEq, Repr

def DescriptorType.toU16 : DescriptorType → UInt16
  | .pciVendorId => 0x0000
  | .ianaEnterpriseId => 0x0001
  | .uuid => 0x0002
  | .pnpVendorId => 0x0003
  | .acpiVendorId => 0x0004
  | .ieeeAssignedCompanyId => 0x0005
  | .scsiVendorId => 0x0006
  | .pciDeviceId => 0x0100
  | .pciSubsystemVendorId => 0x0101
  | .pciSubsystemId => 0x0102
  | .pciRevisionId => 0x0103
  | .pnpProductIdentifier => 0x0104
  | .acpiProductIdentifier => 0x0105
  | .asciiModelNumberLongString => 0x0106
  | .asciiModelNumberShortString => 0x0107
  | .scsiProductId => 0x0108
  | .ubmControllerDeviceCode => 0x0109
  | .vendorDefined => 0xFFFF

def DescriptorType.tryFrom : UInt16 → Except PldmError DescriptorType
  | 0x0000 => .ok .pciVendorId
  | 0x0001 => .ok .ianaEnterpriseId
  | 0x0002 => .ok .uuid
  | 0x0003 => .ok .pnpVendorId
  | 0x0004 => .ok .acpiVendorId
  | 0x0005 => .ok .ieeeAssignedCompanyId
  | 0x0006 => .ok .scsiVendorId
  | 0x0100 => .ok .pciDeviceId
  | 0x0101 => .ok .pciSubsystemVendorId
  | 0x0102 => .ok .pciSubsystemId
  | 0x0103 => .ok .pciRevisionId
  | 0x0104 => .ok .pnpProductIdentifier
  | 0x0105 => .ok .acpiProductIdentifier
  | 0x0106 => .ok .asciiModelNumberLongString
  | 0x0107 => .ok .asciiModelNumberShortString
  | 0x0108 => .ok .scsiProductId
  | 0x0109 => .ok .ubmControllerDeviceCode
  | 0xFFFF => .ok .vendorDefined
  | _ => .error .invalidDescriptorType

def getDescriptorLength : DescriptorType → ℕ
  | .pciVendorId => 2
  | .ianaEnterpriseId => 4
  | .uuid => 16
  | .pnpVendorId => 3
  | .acpiVendorId => 5
  | .ieeeAssignedCompanyId => 3
  | .scsiVendorId => 8
  | .pciDeviceId => 2
  | .pciSubsystemVendorId => 2
  | .pciSubsystemId => 2
  | .pciRevisionId => 1
  | .pnpProductIdentifier => 4
  | .acpiProductIdentifier => 4
  | .asciiModelNumberLongString => 40
  | .asciiModelNumberShortString => 10
  | .scsiProductId => 16
  | .ubmControllerDeviceCode => 4
  | .vendorDefined => descriptorDataMaxLen

theorem getDescriptorLength_le (kind : DescriptorType) :
    getDescriptorLength kind ≤ descriptorDataMaxLen := by
  cases kind <;> decide

theorem toNat_getDescriptorLength (kind : DescriptorType) :
    (UInt16.ofNat (getDescriptorLength kind)).toNat = getDescriptorLength kind := by
  cases kind <;> rfl

theorem DescriptorType.tryFrom_toU16 (kind : DescriptorType) :
    DescriptorType.tryFrom kind.toU16 = .ok kind := by
  cases kind <;> rfl

theorem DescriptorType.toU16_of_tryFrom {value : UInt16} {kind : DescriptorType}
    (listed : DescriptorType.tryFrom value = .ok kind) : kind.toU16 = value := by
  unfold DescriptorType.tryFrom at listed
  split at listed <;> cases listed <;> rfl

/-- An identifier of a device. -/
structure Identifier where
  kind : DescriptorType
  bytes : List UInt8
  sized : bytes.length = getDescriptorLength kind

namespace Identifier

variable {identifier : Identifier}

theorem bytes_le (identifier : Identifier) : identifier.bytes.length ≤ descriptorDataMaxLen :=
  identifier.sized.trans_le (getDescriptorLength_le _)

/-- The descriptor that the library builds for an identifier. -/
def descriptor (identifier : Identifier) : Descriptor where
  descriptorType := identifier.kind.toU16
  descriptorLength := UInt16.ofNat (getDescriptorLength identifier.kind)
  descriptorData := FixedBytes.padTo _ identifier.bytes

/-- The bytes that it takes on the wire. -/
def size (identifier : Identifier) : ℕ := 4 + identifier.bytes.length

theorem toNat_descriptorLength (identifier : Identifier) :
    identifier.descriptor.descriptorLength.toNat = identifier.bytes.length :=
  (toNat_getDescriptorLength _).trans identifier.sized.symm

theorem data_descriptor (identifier : Identifier) :
    identifier.descriptor.data = identifier.bytes := by
  unfold Descriptor.data
  rw [toNat_descriptorLength]
  exact FixedBytes.take_padTo identifier.bytes_le

end Identifier

namespace Descriptor

variable {descriptor : Descriptor}

theorem length_data (fits : descriptor.Fits) :
    descriptor.data.length = descriptor.descriptorLength.toNat :=
  FixedBytes.length_take _ fits

/-- The identifier that a reader finds in a descriptor, if the kind is listed and the length
is that of the kind. -/
def identifier (descriptor : Descriptor) : Option Identifier :=
  match DescriptorType.tryFrom descriptor.descriptorType with
  | .error _ => none
  | .ok kind =>
      if sized : descriptor.descriptorLength.toNat = getDescriptorLength kind then
        have fits : descriptor.Fits := sized.trans_le (getDescriptorLength_le kind)
        some ⟨kind, descriptor.data, (length_data fits).trans sized⟩
      else none

/-- The identifier has the kind, the length and the bytes of the descriptor. -/
theorem identifier_eq_some_iff {found : Identifier} :
    descriptor.identifier = some found ↔ descriptor.descriptorType = found.kind.toU16 ∧
      descriptor.descriptorLength.toNat = found.bytes.length ∧
      descriptor.data = found.bytes := by
  obtain ⟨kind, bytes, hbytes⟩ := found
  unfold identifier
  split
  · next unlisted =>
      refine iff_of_false nofun fun ⟨same, _⟩ => ?_
      rw [same, DescriptorType.tryFrom_toU16] at unlisted
      cases unlisted
  · next kind' listed =>
      have hkind := DescriptorType.toU16_of_tryFrom listed
      dsimp only
      split
      · next sized =>
          rw [Option.some.injEq, Identifier.mk.injEq]
          constructor
          · rintro ⟨rfl, rfl⟩
            exact ⟨hkind.symm, sized.trans hbytes.symm, rfl⟩
          · rintro ⟨same, _, data⟩
            rw [same, DescriptorType.tryFrom_toU16] at listed
            exact ⟨(Except.ok.inj listed).symm, data⟩
      · next unsized =>
          refine iff_of_false nofun fun ⟨same, length, _⟩ => unsized ?_
          rw [same, DescriptorType.tryFrom_toU16] at listed
          rw [length, hbytes, Except.ok.inj listed]

theorem fits_of_identifier {found : Identifier} (read : descriptor.identifier = some found) :
    descriptor.Fits := by
  obtain ⟨_, length, _⟩ := identifier_eq_some_iff.mp read
  exact length.trans_le found.bytes_le

theorem length_toBytes_of_identifier {found : Identifier}
    (read : descriptor.identifier = some found) : descriptor.toBytes.length = found.size := by
  obtain ⟨_, length, _⟩ := identifier_eq_some_iff.mp read
  rw [length_toBytes (fits_of_identifier read), codecSizeInBytes, length, Identifier.size]

/-- A reader finds the identifier that a descriptor was built for. -/
theorem identifier_descriptor (identifier : Identifier) :
    identifier.descriptor.identifier = some identifier :=
  identifier_eq_some_iff.mpr
    ⟨rfl, identifier.toNat_descriptorLength, identifier.data_descriptor⟩

/-- The descriptor without the bytes that its length leaves out. -/
def cleaned (descriptor : Descriptor) : Descriptor :=
  { descriptor with descriptorData := FixedBytes.padTo _ descriptor.data }

theorem data_cleaned (fits : descriptor.Fits) : descriptor.cleaned.data = descriptor.data := by
  have hlength := length_data fits
  have htake := FixedBytes.take_padTo (hlength.trans_le fits)
  rw [hlength] at htake
  exact htake

theorem canonical_cleaned (fits : descriptor.Fits) : descriptor.cleaned.Canonical := by
  have hlength := length_data fits
  have hpadded := FixedBytes.padded_padTo (hlength.trans_le fits)
  rw [hlength] at hpadded
  exact hpadded

theorem toBytes_cleaned (fits : descriptor.Fits) :
    descriptor.cleaned.toBytes = descriptor.toBytes := by
  unfold toBytes
  rw [data_cleaned fits]
  rfl

/-- What is left out makes no difference to a reader. -/
theorem identifier_cleaned (fits : descriptor.Fits) :
    descriptor.cleaned.identifier = descriptor.identifier := by
  apply Option.ext
  intro found
  rw [identifier_eq_some_iff, identifier_eq_some_iff, data_cleaned fits]
  rfl

end Descriptor

end PldmLib.Protocol
