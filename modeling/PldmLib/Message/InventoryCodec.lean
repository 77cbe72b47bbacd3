/-
# Codecs of the inventory messages

The answers to `QueryDeviceIdentifiers` and `GetFirmwareParameters` are tables whose
entries have codecs of their own. Their encoders walk the table and move an offset on
by what each entry has written; their decoders walk it by what each entry spells. Both
are reduced to one concatenation of the spelled entries.
-/

import PldmLib.Protocol.Records
import PldmLib.Message.Inventory

namespace PldmLib.Message

open PldmLib.Machine PldmLib.Protocol

/-! ## Tables -/

/-- An array of `size` entries that starts with `values` and goes on with `padding`. -/
def filled {α : Type} (size : ℕ) (padding : α) (values : List α) : List.Vector α size :=
  ⟨(values ++ List.replicate size padding).take size, by simp⟩

theorem take_filled {α : Type} {size count : ℕ} {padding : α} {values : List α}
    (counted : values.length = min count size) :
    (filled size padding values).toList.take count = values := by
  show ((values ++ List.replicate size padding).take size).take count = values
  rw [List.take_take, ← counted, List.take_left]

theorem mem_filled {α : Type} {size : ℕ} {padding element : α} {values : List α}
    (member : element ∈ (filled size padding values).toList) :
    element ∈ values ∨ element = padding := by
  have happend : element ∈ values ++ List.replicate size padding := List.mem_of_mem_take member
  rw [List.mem_append, List.mem_replicate] at happend
  exact happend.imp_right And.right

/-- An entry is written behind what has been written before. -/
theorem fills_encodeFrom {inner : Encoder} {offset : ℕ} {written fields : List UInt8}
    (encodes : inner = writeToPrefix fields) (here : offset = written.length) :
    Fills (encodeFrom offset inner) written fields fields.length := by
  subst here encodes
  intro tail room
  have hoffset : written.length ≤ (written ++ tail).length := by simp
  rw [encodeFrom, if_pos hoffset, List.drop_left, List.take_left, writeToPrefix_of_le room]
  simp

/-- A table is written entry after entry. -/
theorem fills_table {ι α : Type} {lookup : ι → Outcome PldmCodecError α} {encode : α → Encoder}
    {value : ι → α} {spell : α → List UInt8} (indices : List ι)
    (finds : ∀ index ∈ indices, lookup index = .ok (value index))
    (encodes : ∀ index ∈ indices, encode (value index) = writeToPrefix (spell (value index)))
    {offset : ℕ} {written : List UInt8} (here : offset = written.length) :
    Fills (indices.foldlM (fun offset index => do
        let found ← Call.ofOutcome (lookup index)
        let bytes ← encodeFrom offset (encode found)
        pure (offset + bytes)) offset) written (indices.flatMap fun index => spell (value index))
      (offset + (indices.flatMap fun index => spell (value index)).length) := by
  induction indices generalizing offset written with
  | nil => exact Fills.pure offset
  | cons index indices ih =>
      have hhere := finds index (by simp)
      have hwrites := encodes index (by simp)
      have hrest := ih (fun index member => finds index (by simp [member]))
        (fun index member => encodes index (by simp [member]))
        (show offset + (spell (value index)).length =
          (written ++ spell (value index)).length by simp [here])
      rw [List.foldlM_cons]
      apply Fills.congr
      · apply Fills.bind
        · apply Fills.bind
          · rw [hhere]
            exact Fills.ofOutcome (value index)
          apply Fills.bind
          · exact fills_encodeFrom hwrites (by rw [List.append_nil, here])
          exact Fills.pure _
        · simpa using hrest
      · simp
      · simp [Nat.add_assoc]

/-- The same for entries that are at hand. -/
theorem fills_entries {α : Type} {encode : α → Encoder} {spell : α → List UInt8}
    (values : List α) (encodes : ∀ value ∈ values, encode value = writeToPrefix (spell value))
    {offset : ℕ} {written : List UInt8} (here : offset = written.length) :
    Fills (values.foldlM (fun offset value => do
        let bytes ← encodeFrom offset (encode value)
        pure (offset + bytes)) offset) written (values.flatMap spell)
      (offset + (values.flatMap spell).length) :=
  @fills_table α α .ok encode id spell values (fun _ _ => rfl) encodes offset written here

/-! ## Device identifiers -/

namespace QueryDeviceIdentifiersResponse

variable {response : QueryDeviceIdentifiersResponse}

def toBytes (response : QueryDeviceIdentifiersResponse) : List UInt8 :=
  response.headBytes ++ response.initialDescriptor.toBytes ++
    response.additional.flatMap Descriptor.toBytes

/-- The count may announce more descriptors than the array has room for. -/
def additionalScanner (descriptorCount : UInt8) :
    FieldScanner (Option (List.Vector Descriptor additionalDescriptorsMaxCount)) := do
  if descriptorCount > 1 then
    let descriptors ← Scanner.repeated
      (Scanner.nested Descriptor.decode (·.codecSizeInBytes))
      (min (descriptorCount.toNat - 1) additionalDescriptorsMaxCount)
    pure (some (filled additionalDescriptorsMaxCount Descriptor.newEmpty descriptors))
  else
    pure none

def scanner : FieldScanner QueryDeviceIdentifiersResponse := do
  let hdr ← Look.get.header
  let completionCode ← Look.get.u8
  let deviceIdentifiersLen ← Look.get.u32
  let descriptorCount ← Look.get.u8
  let initialDescriptor ← Scanner.nested Descriptor.decode (·.codecSizeInBytes)
  let additionalDescriptors ← additionalScanner descriptorCount
  pure ⟨hdr, completionCode, deviceIdentifiersLen, descriptorCount, initialDescriptor,
    additionalDescriptors⟩

def decode (buffer : List UInt8) : Outcome PldmCodecError QueryDeviceIdentifiersResponse :=
  scanner.decode buffer

structure Canonical (response : QueryDeviceIdentifiersResponse) : Prop where
  initial : response.initialDescriptor.Canonical
  additional : ∀ descriptor ∈ response.additional, descriptor.Canonical
  counted : response.additionalDescriptors =
    if response.descriptorCount > 1 then
      some (filled additionalDescriptorsMaxCount Descriptor.newEmpty response.additional)
    else none

theorem length_headBytes (response : QueryDeviceIdentifiersResponse) :
    response.headBytes.length = 9 := by
  simp [headBytes]

theorem length_additional {descriptors : List Descriptor}
    (fits : ∀ descriptor ∈ descriptors, descriptor.Fits) :
    (descriptors.flatMap Descriptor.toBytes).length =
      (descriptors.map (·.codecSizeInBytes)).sum := by
  rw [List.length_flatMap]
  congr 1
  apply List.map_congr_left
  intro descriptor member
  exact Descriptor.length_toBytes (fits descriptor member)

/-- What the encoder needs of a response. -/
structure Fits (response : QueryDeviceIdentifiersResponse) : Prop where
  initial : response.initialDescriptor.Fits
  additional : ∀ descriptor ∈ response.additional, descriptor.Fits

theorem Canonical.fits (canonical : response.Canonical) : response.Fits :=
  ⟨canonical.initial.fits, fun descriptor member => (canonical.additional descriptor member).fits⟩

/-- The descriptors that do not count are canonical too. -/
theorem canonical_descriptor (canonical : response.Canonical) {descriptor : Descriptor}
    (member : descriptor ∈ response.initialDescriptor ::
      (response.additionalDescriptors.map (·.toList)).getD []) : descriptor.Canonical := by
  rw [List.mem_cons] at member
  obtain rfl | inside := member
  · exact canonical.initial
  · rw [canonical.counted] at inside
    by_cases more : response.descriptorCount > 1
    · rw [if_pos more] at inside
      obtain counted | rfl := mem_filled inside
      · exact canonical.additional descriptor counted
      · exact Descriptor.canonical_newEmpty
    · rw [if_neg more] at inside
      cases inside

theorem length_toBytes (fits : response.Fits) :
    response.toBytes.length = response.codecSizeInBytes := by
  simp only [toBytes, List.length_append, length_headBytes, length_additional fits.additional,
    Descriptor.length_toBytes fits.initial, codecSizeInBytes]

theorem encode_eq (fits : response.Fits) : response.encode = writeToPrefix response.toBytes := by
  have hsize := length_toBytes fits
  have hhead := response.length_headBytes
  apply encodes_of_fills (by rw [hsize]; rfl)
  apply Fills.congr
  · apply Fills.bind
    · exact Fills.writeAt rfl
    apply Fills.bind
    · exact fills_encodeFrom (Descriptor.encode_eq fits.initial) (by simp [hhead])
    apply fills_entries response.additional
    · intro descriptor member
      exact Descriptor.encode_eq (fits.additional descriptor member)
    · rw [List.nil_append, List.length_append, hhead]
  · simp [toBytes]
  · rw [toBytes, List.length_append, List.length_append, hhead]

theorem holds_descriptor (passed coming : List UInt8)
    (post : Descriptor → List UInt8 → List UInt8 → Prop)
    (found : ∀ descriptor after, coming = Descriptor.toBytes descriptor ++ after →
      descriptor.Canonical → post descriptor (passed ++ descriptor.toBytes) after) :
    (Scanner.nested Descriptor.decode (·.codecSizeInBytes)).Holds post passed coming :=
  Scanner.holds_nested Descriptor.spells
    (fun _ canonical => (Descriptor.length_toBytes canonical.fits).symm) found

theorem spells : Scanner.Spells decode toBytes Canonical := by
  apply Scanner.spells_of_holds
  intro buffer
  apply Scanner.holds_bind
  apply Look.holds_header Look.room_get
  intro hdr _ _
  apply Scanner.holds_bind
  apply Look.holds_u8 Look.room_get
  intro completionCode _ _
  apply Scanner.holds_bind
  apply Look.holds_u32 Look.room_get
  intro deviceIdentifiersLen _ _
  apply Scanner.holds_bind
  apply Look.holds_u8 Look.room_get
  intro descriptorCount _ _
  apply Scanner.holds_bind
  apply holds_descriptor
  intro initialDescriptor _ _ initial
  by_cases more : descriptorCount > 1
  · apply Scanner.holds_bind
    rw [additionalScanner, if_pos more]
    apply Scanner.holds_bind
    apply Scanner.holds_repeated holds_descriptor
    intro descriptors _ _ counted canonical
    apply Scanner.holds_pure
    apply Scanner.holds_pure
    have hadditional := @take_filled _ _ _ Descriptor.newEmpty _ counted
    refine ⟨?_, initial, ?_, ?_⟩
    · simp [toBytes, headBytes, additional, hadditional]
    · simpa [additional, hadditional] using canonical
    · simp [additional, hadditional, more]
  · apply Scanner.holds_bind
    rw [additionalScanner, if_neg more]
    apply Scanner.holds_pure
    apply Scanner.holds_pure
    refine ⟨?_, initial, ?_, ?_⟩
    · simp [toBytes, headBytes, additional]
    · simp [additional]
    · rw [if_neg more]

theorem runAt_descriptor {descriptor : Descriptor} (canonical : descriptor.Canonical)
    (passed after : List UInt8) :
    (Scanner.nested Descriptor.decode (·.codecSizeInBytes)).runAt passed
      (descriptor.toBytes ++ after) = .ok (descriptor, (passed ++ descriptor.toBytes).length) :=
  Scanner.runAt_nested (Descriptor.reads canonical after)
    (Descriptor.length_toBytes canonical.fits).symm

/-- What is in use is what is announced, as far as there is room for it. -/
theorem count_additional (canonical : response.Canonical) :
    response.additional.length =
      min (response.descriptorCount.toNat - 1) additionalDescriptorsMaxCount := by
  have hcounted := canonical.counted
  unfold additional
  by_cases more : response.descriptorCount > 1
  · rw [if_pos more] at hcounted
    rw [hcounted]
    dsimp only
    rw [List.length_take, List.Vector.toList_length]
  · rw [if_neg more] at hcounted
    have hfew : response.descriptorCount.toNat ≤ 1 :=
      UInt8.le_iff_toNat_le.mp (UInt8.not_lt.mp more)
    rw [hcounted, Nat.sub_eq_zero_of_le hfew, Nat.zero_min]
    rfl

theorem runAt_additionalScanner (canonical : response.Canonical) (passed after : List UInt8) :
    (additionalScanner response.descriptorCount).runAt passed
      (response.additional.flatMap Descriptor.toBytes ++ after) =
        .ok (response.additionalDescriptors,
          (passed ++ response.additional.flatMap Descriptor.toBytes).length) := by
  have hcounted := canonical.counted
  by_cases more : response.descriptorCount > 1
  · rw [if_pos more] at hcounted
    have hdescriptors := Scanner.runAt_repeated response.additional
      (fun descriptor member => runAt_descriptor (canonical.additional descriptor member))
      passed after
    rw [additionalScanner, if_pos more, ← count_additional canonical,
      Scanner.runAt_bind hdescriptors, hcounted]
    rfl
  · rw [if_neg more] at hcounted
    have hnone : response.additional = [] := by
      unfold additional
      rw [hcounted]
    rw [additionalScanner, if_neg more, hcounted, hnone]
    simp

theorem reads (canonical : response.Canonical) (after : List UInt8) :
    decode (response.toBytes ++ after) = .ok response := by
  have hinitial := runAt_descriptor canonical.initial
  have hadditional := runAt_additionalScanner canonical
  apply Scanner.decode_of_runAt
  · simp only [toBytes, headBytes, scanner, List.append_assoc, List.cons_append,
      List.nil_append, Look.runAt_header, Look.runAt_u32, Look.runAt_u8]
    rw [Scanner.runAt_bind (hinitial _ _), Scanner.runAt_bind (hadditional _ _)]
    rfl

/-- The count says how much of an array that has been filled is in use. -/
theorem additional_of_filled {descriptors : List Descriptor}
    (stored : response.additionalDescriptors =
      if response.descriptorCount > 1 then
        some (filled additionalDescriptorsMaxCount Descriptor.newEmpty descriptors)
      else none)
    (counted : descriptors.length =
      min (response.descriptorCount.toNat - 1) additionalDescriptorsMaxCount) :
    response.additional = descriptors := by
  unfold additional
  rw [stored]
  by_cases more : response.descriptorCount > 1
  · rw [if_pos more]
    exact take_filled counted
  · have hfew : response.descriptorCount.toNat ≤ 1 :=
      UInt8.le_iff_toNat_le.mp (UInt8.not_lt.mp more)
    rw [Nat.sub_eq_zero_of_le hfew, Nat.zero_min] at counted
    rw [if_neg more, List.eq_nil_of_length_eq_zero counted]

/-- The same where the list itself has been counted. -/
theorem additional_of_counted {descriptors : List Descriptor}
    (few : descriptors.length ≤ additionalDescriptorsMaxCount)
    (count : response.descriptorCount.toNat = 1 + descriptors.length)
    (stored : response.additionalDescriptors =
      if 1 + descriptors.length > 1 then
        some (filled additionalDescriptorsMaxCount Descriptor.newEmpty descriptors)
      else none) : response.additional = descriptors := by
  have hmore : 1 + descriptors.length > 1 ↔ response.descriptorCount > 1 := by
    rw [← count, gt_iff_lt, gt_iff_lt, UInt8.lt_iff_toNat_lt]
    rfl
  apply additional_of_filled
  · simpa only [hmore] using stored
  · rw [count, Nat.add_sub_cancel_left, min_eq_left few]

/-- The count of a table that is not too long fits its byte. -/
theorem toNat_count {descriptors : List Descriptor}
    (few : descriptors.length ≤ additionalDescriptorsMaxCount) :
    (UInt8.ofNat (1 + descriptors.length)).toNat = 1 + descriptors.length := by
  rw [UInt8.toNat_ofNat_of_lt']
  simp only [additionalDescriptorsMaxCount, UInt8.size] at few ⊢
  omega

/-- What the constructor builds from a table that is not too long. -/
theorem new_of_few {instanceId completionCode : UInt8} {initialDescriptor : Descriptor}
    {additionalDescriptors : Option (List Descriptor)}
    (few : (additionalDescriptors.getD []).length ≤ additionalDescriptorsMaxCount) :
    ∃ response, new instanceId completionCode initialDescriptor additionalDescriptors =
        .ok response ∧ response.hdr = responseHeader instanceId .queryDeviceIdentifiers ∧
      response.completionCode = completionCode ∧
      response.initialDescriptor = initialDescriptor ∧
      response.additional = additionalDescriptors.getD [] ∧
      response.descriptorCount.toNat = 1 + (additionalDescriptors.getD []).length := by
  have hfew : ¬ 1 + (additionalDescriptors.getD []).length > additionalDescriptorsMaxCount + 1 := by
    omega
  refine ⟨_, if_neg hfew, rfl, rfl, rfl, ?_, toNat_count few⟩
  exact additional_of_counted few (toNat_count few) rfl

/-- What the constructor builds from the counted entries of an array of the platform. -/
theorem new_of_counted (instanceId completionCode : UInt8)
    (descriptors : List.Vector Descriptor maxDescriptorsCount) {count : ℕ}
    (few : ¬ count > maxDescriptorsCount) :
    ∃ response, new instanceId completionCode descriptors.head
        (some ((descriptors.toList.take count).drop 1)) = .ok response ∧
      response.hdr = responseHeader instanceId .queryDeviceIdentifiers ∧
      response.completionCode = completionCode ∧
      response.initialDescriptor = descriptors.head ∧
      response.additional = (descriptors.toList.take count).drop 1 := by
  have hfew : ((descriptors.toList.take count).drop 1).length ≤ additionalDescriptorsMaxCount := by
    simp only [List.length_drop, List.length_take, maxDescriptorsCount,
      additionalDescriptorsMaxCount] at few ⊢
    omega
  obtain ⟨response, hnew, hhdr, hcode, hinitial, hadditional, _⟩ :=
    @new_of_few instanceId completionCode descriptors.head
      (some ((descriptors.toList.take count).drop 1)) hfew
  exact ⟨response, hnew, hhdr, hcode, hinitial, hadditional⟩

theorem fields_of_new {instanceId completionCode : UInt8} {initialDescriptor : Descriptor}
    {additionalDescriptors : Option (List Descriptor)}
    (built : new instanceId completionCode initialDescriptor additionalDescriptors =
      .ok response) :
    response.completionCode = completionCode ∧
      response.initialDescriptor = initialDescriptor ∧
      response.additional = additionalDescriptors.getD [] := by
  by_cases few : (additionalDescriptors.getD []).length ≤ additionalDescriptorsMaxCount
  · obtain ⟨_, hnew, _, hcode, hinitial, hadditional, _⟩ :=
      @new_of_few instanceId completionCode initialDescriptor additionalDescriptors few
    obtain rfl := Except.ok.inj (built.symm.trans hnew)
    exact ⟨hcode, hinitial, hadditional⟩
  · simp only [new] at built
    rw [if_pos (by omega)] at built
    cases built

theorem canonical_of_counted {descriptors : List Descriptor}
    (few : descriptors.length ≤ additionalDescriptorsMaxCount)
    (count : response.descriptorCount.toNat = 1 + descriptors.length)
    (stored : response.additionalDescriptors =
      if 1 + descriptors.length > 1 then
        some (filled additionalDescriptorsMaxCount Descriptor.newEmpty descriptors)
      else none)
    (initial : response.initialDescriptor.Canonical)
    (canonical : ∀ descriptor ∈ descriptors, descriptor.Canonical) : response.Canonical := by
  have hmore : response.descriptorCount > 1 ↔ 1 + descriptors.length > 1 := by
    rw [← count]
    exact UInt8.lt_iff_toNat_lt
  have hadditional := additional_of_counted few count stored
  refine ⟨initial, by rwa [hadditional], ?_⟩
  rw [stored, hadditional]
  simp only [hmore]

/-- What the constructor builds from canonical descriptors is canonical. -/
theorem canonical_of_new {instanceId completionCode : UInt8} {initialDescriptor : Descriptor}
    {additionalDescriptors : Option (List Descriptor)} (initial : initialDescriptor.Canonical)
    (canonical : ∀ descriptor ∈ additionalDescriptors.getD [], descriptor.Canonical)
    (built : new instanceId completionCode initialDescriptor additionalDescriptors =
      .ok response) : response.Canonical := by
  unfold new at built
  dsimp only at built
  split at built
  · cases built
  · next few =>
      obtain rfl := Except.ok.inj built
      have hfew : (additionalDescriptors.getD []).length ≤ additionalDescriptorsMaxCount := by
        omega
      exact canonical_of_counted hfew (toNat_count hfew) rfl initial canonical

theorem canonical_new_iff {instanceId completionCode : UInt8} {initialDescriptor : Descriptor}
    {additionalDescriptors : Option (List Descriptor)}
    (built : new instanceId completionCode initialDescriptor additionalDescriptors =
      .ok response) : response.Canonical ↔ ∀ descriptor ∈
        initialDescriptor :: additionalDescriptors.getD [], descriptor.Canonical := by
  obtain ⟨_, hinitial, hadditional⟩ := fields_of_new built
  rw [List.forall_mem_cons]
  constructor
  · intro canonical
    exact ⟨hinitial ▸ canonical.initial, hadditional ▸ canonical.additional⟩
  · rintro ⟨initial, additional⟩
    exact canonical_of_new initial additional built

theorem fits_new_iff {instanceId completionCode : UInt8} {initialDescriptor : Descriptor}
    {additionalDescriptors : Option (List Descriptor)}
    (built : new instanceId completionCode initialDescriptor additionalDescriptors =
      .ok response) : response.Fits ↔ ∀ descriptor ∈
        initialDescriptor :: additionalDescriptors.getD [], descriptor.Fits := by
  obtain ⟨_, hinitial, hadditional⟩ := fields_of_new built
  rw [List.forall_mem_cons]
  constructor
  · intro fits
    exact ⟨hinitial ▸ fits.initial, hadditional ▸ fits.additional⟩
  · rintro ⟨initial, additional⟩
    exact ⟨hinitial ▸ initial, hadditional ▸ additional⟩

theorem length_toBytes_new {instanceId completionCode : UInt8} {initialDescriptor : Descriptor}
    {additionalDescriptors : Option (List Descriptor)}
    (built : new instanceId completionCode initialDescriptor additionalDescriptors =
      .ok response) : response.toBytes.length = 9 + ((initialDescriptor ::
        additionalDescriptors.getD []).flatMap Descriptor.toBytes).length := by
  obtain ⟨_, hinitial, hadditional⟩ := fields_of_new built
  rw [toBytes, List.length_append, List.length_append, length_headBytes, hinitial, hadditional,
    List.flatMap_cons, List.length_append, Nat.add_assoc]

end QueryDeviceIdentifiersResponse

/-! ## Firmware parameters -/

theorem foldlM_sizes {ι α : Type} {lookup : ι → Outcome PldmCodecError α} {value : ι → α}
    {size : α → ℕ} (indices : List ι) (finds : ∀ index ∈ indices, lookup index = .ok (value index))
    (start : ℕ) :
    indices.foldlM (fun bytes index => do
        let found ← lookup index
        pure (bytes + size found)) start =
      (.ok (start + (indices.map fun index => size (value index)).sum) :
        Outcome PldmCodecError ℕ) := by
  induction indices generalizing start with
  | nil => rfl
  | cons index indices ih =>
      have hrest := ih (fun index member => finds index (by simp [member]))
        (start + size (value index))
      rw [List.foldlM_cons, finds index (by simp), List.map_cons, List.sum_cons,
        ← Nat.add_assoc]
      exact hrest

namespace FirmwareParameters

variable {params : FirmwareParameters}

/-- Entries above the table's size are dropped, a shorter table is filled up. -/
def new (capabilitiesDuringUpdate : UInt32) (compCount : UInt16)
    (activeCompImageSetVersion pendingCompImageSetVersion : PldmFirmwareString)
    (compParamTable : List ComponentParameterEntry) : FirmwareParameters where
  capabilitiesDuringUpdate := capabilitiesDuringUpdate
  compCount := compCount
  activeCompImageSetVerStrType := activeCompImageSetVersion.strType
  activeCompImageSetVerStrLen := activeCompImageSetVersion.strLen
  pendingCompImageSetVerStrType := pendingCompImageSetVersion.strType
  pendingCompImageSetVerStrLen := pendingCompImageSetVersion.strLen
  activeCompImageSetVerStr := activeCompImageSetVersion.strData
  pendingCompImageSetVerStr :=
    if pendingCompImageSetVersion.strLen > 0 then some pendingCompImageSetVersion.strData
    else none
  compParamTable := filled maxComponentCount ComponentParameterEntry.default compParamTable

/-- The entries that are announced. -/
def entries (params : FirmwareParameters) : List ComponentParameterEntry :=
  params.compParamTable.toList.take params.compCount.toNat

def toBytes (params : FirmwareParameters) : List UInt8 :=
  params.fixedBytes ++
    params.activeCompImageSetVerStr.toList.take params.activeCompImageSetVerStrLen.toNat ++
    pendingText params.pendingCompImageSetVerStrLen params.pendingCompImageSetVerStr ++
    params.entries.flatMap ComponentParameterEntry.toBytes

def scanner : FieldScanner FirmwareParameters := do
  let capabilitiesDuringUpdate ← Look.get.u32
  let compCount ← Look.get.u16
  let activeCompImageSetVerStrType ← Look.get.u8
  let activeCompImageSetVerStrLen ← Look.get.u8
  let pendingCompImageSetVerStrType ← Look.get.u8
  let pendingCompImageSetVerStrLen ← Look.get.u8
  let activeCompImageSetVerStr ← boundedData pldmFwupImageSetVerStrMaxLen
    activeCompImageSetVerStrLen.toNat
  let pendingCompImageSetVerStr ← pendingString pendingCompImageSetVerStrLen
  if compCount.toNat > maxComponentCount then
    Scanner.fail .invalidData
  else do
    let entries ← Scanner.repeated
      (Scanner.nestedGet .bufferTooShort ComponentParameterEntry.decode (·.codecSizeInBytes))
      compCount.toNat
    pure ⟨capabilitiesDuringUpdate, compCount, activeCompImageSetVerStrType,
      activeCompImageSetVerStrLen, pendingCompImageSetVerStrType, pendingCompImageSetVerStrLen,
      activeCompImageSetVerStr, pendingCompImageSetVerStr,
      filled maxComponentCount ComponentParameterEntry.default entries⟩

def decode (buffer : List UInt8) : Outcome PldmCodecError FirmwareParameters :=
  scanner.decode buffer

/-- What the encoder needs of the parameters. -/
structure Fits (params : FirmwareParameters) : Prop where
  active : params.activeCompImageSetVerStrLen.toNat ≤ pldmFwupImageSetVerStrMaxLen
  pending : params.pendingCompImageSetVerStr.isSome →
    params.pendingCompImageSetVerStrLen.toNat ≤ pldmFwupImageSetVerStrMaxLen
  count : params.compCount.toNat ≤ maxComponentCount
  entries : ∀ entry ∈ params.entries, entry.Fits

structure Canonical (params : FirmwareParameters) : Prop where
  active : FixedBytes.Padded params.activeCompImageSetVerStrLen.toNat
    params.activeCompImageSetVerStr
  pending : PendingCanonical params.pendingCompImageSetVerStrLen params.pendingCompImageSetVerStr
  count : params.compCount.toNat ≤ maxComponentCount
  entries : ∀ entry ∈ params.entries, entry.Canonical
  stored : params.compParamTable =
    filled maxComponentCount ComponentParameterEntry.default params.entries

theorem Canonical.fits (canonical : params.Canonical) : params.Fits where
  active := canonical.active.1
  pending := fun _ => pendingCanonical_length canonical.pending
  count := canonical.count
  entries := fun entry member => (canonical.entries entry member).fits

/-- The entries that are not announced are canonical too. -/
theorem canonical_table (canonical : params.Canonical) (entry : ComponentParameterEntry)
    (member : entry ∈ params.compParamTable.toList) : entry.Canonical := by
  rw [canonical.stored] at member
  obtain announced | rfl := mem_filled member
  · exact canonical.entries entry announced
  · exact ComponentParameterEntry.canonical_default

/-- The lookups of the encoder's loop find the announced entries. -/
theorem entry_eq (counted : params.compCount.toNat ≤ maxComponentCount) {index : ℕ}
    (member : index ∈ List.range params.compCount.toNat) :
    params.entry index =
      .ok (params.compParamTable.toList.getD index ComponentParameterEntry.default) := by
  have hindex : index < params.compParamTable.toList.length := by
    rw [List.mem_range] at member
    rw [List.Vector.toList_length]
    omega
  simp [entry, List.getElem?_eq_getElem hindex]

theorem map_range_entries (counted : params.compCount.toNat ≤ maxComponentCount) :
    (List.range params.compCount.toNat).map
      (params.compParamTable.toList.getD · ComponentParameterEntry.default) =
        params.entries := by
  have htable : params.compParamTable.toList.length = maxComponentCount :=
    List.Vector.toList_length _
  apply List.ext_getElem
  · simp [entries, htable, counted]
  · intro index hleft hright
    have hindex : index < params.compParamTable.toList.length := by
      rw [List.length_map, List.length_range] at hleft
      omega
    simp [entries, List.getElem?_eq_getElem hindex]

theorem length_entries {entries : List ComponentParameterEntry}
    (fits : ∀ entry ∈ entries, entry.Fits) :
    (entries.flatMap ComponentParameterEntry.toBytes).length =
      (entries.map (·.codecSizeInBytes)).sum := by
  have hlengths : entries.map (fun entry => entry.toBytes.length) =
      entries.map (·.codecSizeInBytes) :=
    List.map_congr_left fun entry member =>
      ComponentParameterEntry.length_toBytes (fits entry member)
  rw [List.length_flatMap, hlengths]

theorem length_fixedBytes (params : FirmwareParameters) : params.fixedBytes.length = 10 := by
  simp [fixedBytes]

/-- The size by the announced lengths. -/
def announcedSize (params : FirmwareParameters) : ℕ :=
  10 + (if params.pendingCompImageSetVerStr.isSome then
      params.pendingCompImageSetVerStrLen.toNat else 0) +
    params.activeCompImageSetVerStrLen.toNat + (params.entries.map (·.codecSizeInBytes)).sum

theorem codecSizeInBytes_of_counted (counted : params.compCount.toNat ≤ maxComponentCount) :
    params.codecSizeInBytes = .ok params.announcedSize := by
  rw [codecSizeInBytes, foldlM_sizes _ fun index member => entry_eq counted member,
    announcedSize, ← map_range_entries counted, List.map_map]
  rfl

theorem codecSizeInBytes_eq (fits : params.Fits) :
    params.codecSizeInBytes = .ok params.toBytes.length := by
  rw [codecSizeInBytes_of_counted fits.count]
  simp only [toBytes, announcedSize, List.length_append, length_fixedBytes,
    length_entries fits.entries, FixedBytes.length_take _ fits.active,
    length_pendingText fits.pending, Outcome.ok.injEq]
  omega

theorem encode_eq (fits : params.Fits) : params.encode = writeToPrefix params.toBytes := by
  have hsize := codecSizeInBytes_eq fits
  have hfixed := params.length_fixedBytes
  have hactive := FixedBytes.length_take params.activeCompImageSetVerStr fits.active
  have htable (offset : ℕ) (written : List UInt8) (here : offset = written.length) :=
    fills_table (List.range params.compCount.toNat) (fun index member => entry_eq fits.count member)
      (fun index member => ComponentParameterEntry.encode_eq (fits.entries _
        (map_range_entries fits.count ▸ List.mem_map_of_mem member))) here
  apply encodes_of_fills
  · unfold encode
    rw [hsize]
    rfl
  apply Fills.congr
  · apply Fills.bind
    · exact Fills.writeAt rfl
    apply Fills.bind
    · exact Fills.slicePrefix (by rw [List.Vector.toList_length]; exact fits.active)
    apply Fills.bind
    · exact Fills.writeAt (by simp [hfixed])
    exact @fills_pendingText_then _ _ _ _ _ _ (fun offset =>
        (List.range params.compCount.toNat).foldlM (fun offset index => do
          let found ← Call.ofOutcome (params.entry index)
          let bytes ← encodeFrom offset found.encode
          pure (offset + bytes)) offset) fits.pending (by simp [hfixed, hactive])
      (htable _ _ (by simp [hfixed, hactive, Nat.add_assoc]))
  · simp [toBytes, ← map_range_entries fits.count, List.flatMap_map]
  · simp [toBytes, ← map_range_entries fits.count, List.flatMap_map, hfixed, hactive, Nat.add_assoc]

theorem holds_entry (passed coming : List UInt8)
    (post : ComponentParameterEntry → List UInt8 → List UInt8 → Prop)
    (found : ∀ entry after, coming = ComponentParameterEntry.toBytes entry ++ after →
      entry.Canonical → post entry (passed ++ entry.toBytes) after) :
    (Scanner.nestedGet .bufferTooShort ComponentParameterEntry.decode
      (·.codecSizeInBytes)).Holds post passed coming :=
  Scanner.holds_nestedGet ComponentParameterEntry.spells
    (fun _ canonical => (ComponentParameterEntry.length_toBytes canonical.fits).symm) found

theorem spells : Scanner.Spells decode toBytes Canonical := by
  apply Scanner.spells_of_holds
  intro buffer
  unfold scanner
  apply Scanner.holds_bind
  apply Look.holds_u32 Look.room_get
  intro capabilitiesDuringUpdate _ _
  apply Scanner.holds_bind
  apply Look.holds_u16 Look.room_get
  intro compCount _ _
  apply Scanner.holds_bind
  apply Look.holds_u8 Look.room_get
  intro activeCompImageSetVerStrType _ _
  apply Scanner.holds_bind
  apply Look.holds_u8 Look.room_get
  intro activeCompImageSetVerStrLen _ _
  apply Scanner.holds_bind
  apply Look.holds_u8 Look.room_get
  intro pendingCompImageSetVerStrType _ _
  apply Scanner.holds_bind
  apply Look.holds_u8 Look.room_get
  intro pendingCompImageSetVerStrLen _ _
  apply Scanner.holds_bind
  apply holds_boundedData
  intro activeCompImageSetVerStr _ _ active
  apply Scanner.holds_bind
  apply holds_pendingString
  intro pendingCompImageSetVerStr _ _ pending
  by_cases many : compCount.toNat > maxComponentCount
  · rw [if_pos many]
    exact Scanner.holds_fail
  · rw [if_neg many]
    rw [not_lt] at many
    apply Scanner.holds_bind
    apply Scanner.holds_repeated holds_entry
    intro found _ _ counted canonical
    apply Scanner.holds_pure
    have hentries := @take_filled _ _ _ ComponentParameterEntry.default _
      (counted.trans (min_eq_left many).symm)
    refine ⟨?_, active, pending, many, ?_, ?_⟩
    · simp [toBytes, fixedBytes, entries, hentries]
    · simpa [entries, hentries] using canonical
    · simp [entries, hentries]

theorem runAt_entry {entry : ComponentParameterEntry} (canonical : entry.Canonical)
    (passed after : List UInt8) :
    (Scanner.nestedGet .bufferTooShort ComponentParameterEntry.decode
      (·.codecSizeInBytes)).runAt passed (entry.toBytes ++ after) =
        .ok (entry, (passed ++ entry.toBytes).length) :=
  Scanner.runAt_nestedGet (ComponentParameterEntry.reads canonical after)
    (ComponentParameterEntry.length_toBytes canonical.fits).symm

theorem length_entries_eq (fits : params.Fits) :
    params.entries.length = params.compCount.toNat := by
  rw [← map_range_entries fits.count, List.length_map, List.length_range]

theorem reads (canonical : params.Canonical) (after : List UInt8) :
    decode (params.toBytes ++ after) = .ok params := by
  have hentries := Scanner.runAt_repeated params.entries
    (fun entry member => runAt_entry (canonical.entries entry member))
  rw [length_entries_eq canonical.fits] at hentries
  apply Scanner.decode_of_runAt
  · simp only [toBytes, fixedBytes, scanner, List.append_assoc, List.cons_append,
      List.nil_append, Look.runAt_u32, Look.runAt_u16, Look.runAt_u8]
    rw [runAt_boundedData canonical.active, runAt_pendingString canonical.pending,
      if_neg (not_lt.mpr canonical.count), Scanner.runAt_bind (hentries _ _),
      ← canonical.stored]
    rfl

/-- What the constructor builds from canonical strings and entries is canonical, if the
count is the table's length. -/
theorem canonical_of_new {capabilitiesDuringUpdate : UInt32} {compCount : UInt16}
    {active pending : PldmFirmwareString} {table : List ComponentParameterEntry}
    (activeCanonical : active.Canonical) (pendingCanonical : pending.Canonical)
    (canonical : ∀ entry ∈ table, entry.Canonical) (counted : compCount.toNat = table.length)
    (few : table.length ≤ maxComponentCount) :
    (new capabilitiesDuringUpdate compCount active pending table).Canonical := by
  have hentries : entries (new capabilitiesDuringUpdate compCount active pending table) =
      table := by
    have hcount : table.length = min compCount.toNat maxComponentCount := by
      rw [counted, min_eq_left few]
    exact take_filled hcount
  refine ⟨activeCanonical, ?_, ?_, ?_, ?_⟩
  · show PendingCanonical pending.strLen
      (if pending.strLen > 0 then some pending.strData else none)
    by_cases present : pending.strLen > 0
    · rw [if_pos present]
      exact ⟨present, pendingCanonical⟩
    · rw [if_neg present]
      rw [gt_iff_lt, UInt8.not_lt] at present
      exact UInt8.le_zero_iff.mp present
  · exact counted.trans_le few
  · rwa [hentries]
  · rw [hentries]
    rfl

end FirmwareParameters

namespace GetFirmwareParametersResponse

variable {response : GetFirmwareParametersResponse}

def toBytes (response : GetFirmwareParametersResponse) : List UInt8 :=
  response.hdr.toBytes ++ [response.completionCode] ++ response.parms.toBytes

def codecSizeInBytes (response : GetFirmwareParametersResponse) : Outcome PldmCodecError ℕ :=
  response.parms.codecSizeInBytes.map (pldmMsgHeaderLen + 1 + ·)

/-- The parameters are the last field: where they end is not looked at. -/
def scanner : FieldScanner GetFirmwareParametersResponse := do
  let hdr ← Look.get.header
  let completionCode ← Look.get.u8
  let parms ← Scanner.nested FirmwareParameters.decode (·.toBytes.length)
  pure ⟨hdr, completionCode, parms⟩

def decode (buffer : List UInt8) : Outcome PldmCodecError GetFirmwareParametersResponse :=
  scanner.decode buffer

theorem length_toBytes (response : GetFirmwareParametersResponse) :
    response.toBytes.length = pldmMsgHeaderLen + 1 + response.parms.toBytes.length := by
  simp only [toBytes, List.length_append, PldmMsgHeader.length_toBytes]
  rfl

theorem encode_eq (fits : response.parms.Fits) :
    response.encode = writeToPrefix response.toBytes := by
  have hsize := FirmwareParameters.codecSizeInBytes_eq fits
  have hlength := response.length_toBytes
  apply encodes_of_fills
  · unfold encode
    rw [hsize, hlength]
    rfl
  apply Fills.congr
  · apply Fills.bind
    · exact Fills.writeAt rfl
    apply Fills.bind
    · exact fills_encodeFrom (FirmwareParameters.encode_eq fits) rfl
    exact Fills.pure _
  · simp [toBytes]
  · rw [hlength]
    rfl

theorem spells : Scanner.Spells decode toBytes fun response => response.parms.Canonical := by
  apply Scanner.spells_of_holds
  intro buffer
  apply Scanner.holds_bind
  apply Look.holds_header Look.room_get
  intro hdr _ _
  apply Scanner.holds_bind
  apply Look.holds_u8 Look.room_get
  intro completionCode _ _
  apply Scanner.holds_bind
  apply Scanner.holds_nested FirmwareParameters.spells (fun _ _ => rfl)
  intro parms _ _ canonical
  apply Scanner.holds_pure
  exact ⟨by simp [toBytes], canonical⟩

theorem reads (canonical : response.parms.Canonical) (after : List UInt8) :
    decode (response.toBytes ++ after) = .ok response := by
  have hparms := FirmwareParameters.reads canonical after
  apply Scanner.decode_of_runAt
  · simp only [toBytes, scanner, List.append_assoc, List.cons_append, List.nil_append,
      Look.runAt_header, Look.runAt_u8]
    rw [Scanner.runAt_bind (Scanner.runAt_nested hparms rfl)]
    rfl

end GetFirmwareParametersResponse

end PldmLib.Message
