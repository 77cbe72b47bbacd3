/-
# Iterating the devices of a portion

The answer to `QueryDownstreamIdentifiers` keeps its portion undecoded and is itself the
iterator over the devices in it. It finds the end of a device by walking through the
descriptors, and hands out a device that walks through them again. An index is looked up by
iterating a copy of the answer, which has the place of the original.
-/

import PldmLib.Message.DownstreamIterator

namespace PldmLib.Message

open PldmLib.Machine PldmLib.Protocol

/-- `&bytes[start..]`, which panics past the end. -/
def sliceFrom {ε : Type} (bytes : List UInt8) (start : ℕ) : Outcome ε (List UInt8) :=
  if start ≤ bytes.length then .ok (bytes.drop start) else .panic

/-! ## Headers -/

structure PortionHeader where
  downstreamDevicesLength : UInt32
  numberOfDownstreamDevices : UInt16

namespace PortionHeader

def size : ℕ := 6

def toBytes (hdr : PortionHeader) : List UInt8 :=
  u32Bytes hdr.downstreamDevicesLength ++ u16Bytes hdr.numberOfDownstreamDevices

def scanner : FieldScanner PortionHeader := do
  let downstreamDevicesLength ← Look.get.u32
  let numberOfDownstreamDevices ← Look.get.u16
  pure ⟨downstreamDevicesLength, numberOfDownstreamDevices⟩

theorem length_toBytes (hdr : PortionHeader) : hdr.toBytes.length = size := by
  rw [toBytes, List.length_append, length_u32Bytes, length_u16Bytes, size]

theorem spells : Scanner.Spells scanner.decode toBytes fun _ => True := by
  apply Scanner.spells_of_holds
  intro buffer
  apply Scanner.holds_bind
  apply Look.holds_u32 Look.room_get
  intro downstreamDevicesLength _ _
  apply Scanner.holds_bind
  apply Look.holds_u16 Look.room_get
  intro numberOfDownstreamDevices _ _
  apply Scanner.holds_pure
  exact ⟨by simp [toBytes], trivial⟩

theorem reads (hdr : PortionHeader) (after : List UInt8) :
    scanner.decode (hdr.toBytes ++ after) = .ok hdr := by
  apply Scanner.decode_of_runAt
  · simp only [toBytes, scanner, List.append_assoc, Look.runAt_u32, Look.runAt_u16]
    rfl

end PortionHeader

structure DownstreamDevicesHeader where
  downstreamDevicesIndex : UInt16
  downstreamDescriptorCount : UInt8

namespace DownstreamDevicesHeader

def size : ℕ := 3

def toBytes (hdr : DownstreamDevicesHeader) : List UInt8 :=
  u16Bytes hdr.downstreamDevicesIndex ++ [hdr.downstreamDescriptorCount]

def scanner : FieldScanner DownstreamDevicesHeader := do
  let downstreamDevicesIndex ← Look.get.u16
  let downstreamDescriptorCount ← Look.get.u8
  pure ⟨downstreamDevicesIndex, downstreamDescriptorCount⟩

theorem length_toBytes (hdr : DownstreamDevicesHeader) : hdr.toBytes.length = size := by
  rw [toBytes, List.length_append, length_u16Bytes, List.length_singleton, size]

theorem spells : Scanner.Spells scanner.decode toBytes fun _ => True := by
  apply Scanner.spells_of_holds
  intro buffer
  apply Scanner.holds_bind
  apply Look.holds_u16 Look.room_get
  intro downstreamDevicesIndex _ _
  apply Scanner.holds_bind
  apply Look.holds_u8 Look.room_get
  intro downstreamDescriptorCount _ _
  apply Scanner.holds_pure
  exact ⟨by simp [toBytes], trivial⟩

theorem reads (hdr : DownstreamDevicesHeader) (after : List UInt8) :
    scanner.decode (hdr.toBytes ++ after) = .ok hdr := by
  apply Scanner.decode_of_runAt
  · simp only [toBytes, scanner, List.append_assoc, List.cons_append, List.nil_append,
      Look.runAt_u16, Look.runAt_u8]
    rfl

end DownstreamDevicesHeader

end PldmLib.Message

namespace PldmLib.Protocol.Descriptor

open PldmLib.Machine

/-- How many bytes the first descriptors of a buffer take up. The length runs along with the
offset of the loop. -/
def tryGetDescriptorLengthFromBlob (blob : List UInt8) (descCount : ℕ) :
    Outcome PldmCodecError ℕ :=
  (Scanner.repeated (Scanner.nested decode (·.codecSizeInBytes)) descCount blob 0).map Prod.snd

theorem tryGetDescriptorLength_ensures (blob : List UInt8) (descCount : ℕ) :
    (tryGetDescriptorLengthFromBlob blob descCount).Ensures fun size =>
      ∃ descriptors : List Descriptor, ∃ after, blob = descriptors.flatMap toBytes ++ after ∧
        descriptors.length = descCount ∧ (∀ descriptor ∈ descriptors, descriptor.Canonical) ∧
        size = (descriptors.flatMap toBytes).length := by
  have hholds : (Scanner.repeated (Scanner.nested decode (·.codecSizeInBytes)) descCount).Holds
      (fun descriptors before _ => before = descriptors.flatMap toBytes ∧
        (∃ after, blob = descriptors.flatMap toBytes ++ after) ∧
        descriptors.length = descCount ∧ ∀ descriptor ∈ descriptors, descriptor.Canonical)
      [] blob := by
    apply Scanner.holds_repeated Message.QueryDeviceIdentifiersResponse.holds_descriptor
    intro descriptors after spelled counted canonical
    exact ⟨rfl, ⟨after, spelled⟩, counted, canonical⟩
  have hrun : Scanner.repeated (Scanner.nested decode (·.codecSizeInBytes)) descCount blob 0 =
      (Scanner.repeated (Scanner.nested decode (·.codecSizeInBytes)) descCount).runAt [] blob :=
    rfl
  unfold tryGetDescriptorLengthFromBlob
  rw [hrun]
  unfold Scanner.Holds at hholds
  cases hreached : (Scanner.repeated (Scanner.nested decode (·.codecSizeInBytes))
      descCount).runAt [] blob with
  | ok reached =>
      obtain ⟨before, _, _, hsize, rfl, ⟨after, spelled⟩, counted, canonical⟩ :=
        hholds.of_ok hreached
      exact ⟨reached.1, after, spelled, counted, canonical, hsize⟩
  | err error => trivial
  | panic => exact absurd hreached hholds.ne_panic

theorem tryGetDescriptorLength_reads {descriptors : List Descriptor}
    (canonical : ∀ descriptor ∈ descriptors, descriptor.Canonical) (after : List UInt8) :
    tryGetDescriptorLengthFromBlob (descriptors.flatMap toBytes ++ after) descriptors.length =
      .ok (descriptors.flatMap toBytes).length := by
  have hfinds : (Scanner.repeated (Scanner.nested decode (·.codecSizeInBytes))
      descriptors.length).runAt [] (descriptors.flatMap toBytes ++ after) =
        .ok (descriptors, ([] ++ descriptors.flatMap toBytes).length) :=
    Scanner.runAt_repeated descriptors (fun descriptor member =>
      Message.QueryDeviceIdentifiersResponse.runAt_descriptor (canonical descriptor member))
      [] after
  exact congrArg (Outcome.map Prod.snd) hfinds

end PldmLib.Protocol.Descriptor

namespace PldmLib.Message

open PldmLib.Machine PldmLib.Protocol

/-! ## The iterator -/

namespace QueryDownstreamIdentifiersResponse

variable {response : QueryDownstreamIdentifiersResponse}

def tryGetPortionHeader (response : QueryDownstreamIdentifiersResponse) :
    Outcome PldmError PortionHeader :=
  (PortionHeader.scanner.decode response.portion).mapErr fun _ => .invalidData

def tryGetDownstreamDeviceHeader (buf : List UInt8) :
    Outcome PldmError DownstreamDevicesHeader :=
  (DownstreamDevicesHeader.scanner.decode buf).mapErr fun _ => .invalidData

/-- The header at an offset, and how many bytes the descriptors behind it take up. -/
def deviceAt (portion : List UInt8) (offset : ℕ) :
    Outcome PldmError (DownstreamDevicesHeader × ℕ) := do
  let hdr ← sliceFrom portion offset >>= tryGetDownstreamDeviceHeader
  let blob ← sliceFrom portion (offset + DownstreamDevicesHeader.size)
  let descSize ← (Descriptor.tryGetDescriptorLengthFromBlob blob
    hdr.downstreamDescriptorCount.toNat).mapErr fun _ => .invalidData
  pure (hdr, descSize)

/-- The response while it is iterated. -/
def moved (response : QueryDownstreamIdentifiersResponse) (current offset : ℕ) :
    QueryDownstreamIdentifiersResponse :=
  { response with portionIterCurrent := current, portionOffsetNext := offset }

/-- Where the next device is looked for. -/
def offset (response : QueryDownstreamIdentifiersResponse) : ℕ :=
  if response.portionIterCurrent = 0 then PortionHeader.size else response.portionOffsetNext

def next : Call QueryDownstreamIdentifiersResponse Empty (Option DownstreamDevice) :=
  fun response =>
    match response.tryGetPortionHeader with
    | .ok portionHdr =>
        if response.portionIterCurrent ≥ portionHdr.numberOfDownstreamDevices.toNat then
          (.ok none, response.moved 0 0)
        else if response.offset ≥ response.portion.length then
          (.ok none, response)
        else
          match deviceAt response.portion response.offset with
          | .ok (hdr, descSize) =>
              let descriptorStart := response.offset + DownstreamDevicesHeader.size
              let nextOffset := descriptorStart + descSize
              if nextOffset > response.portion.length then
                (.ok none, response.moved 0 0)
              else
                -- the slice of the descriptors, whose end has been checked
                ((sliceAt response.portion descriptorStart descSize).map fun descriptors =>
                    some ⟨hdr.downstreamDevicesIndex, hdr.downstreamDescriptorCount,
                      descriptors, 0, 0⟩,
                  response.moved (response.portionIterCurrent + 1) nextOffset)
          | .err _ => (.ok none, response)
          | .panic => (.panic, response)
    | .err _ => (.ok none, response)
    | .panic => (.panic, response)

/-- The device at an index, looked for by iterating a copy. -/
def tryAt (response : QueryDownstreamIdentifiersResponse) (index : ℕ) :
    Outcome PldmError DownstreamDevice :=
  match (Iterator.nth next index response).1 with
  | .ok (some device) => .ok device
  | .ok none => .err .invalidData
  | .err impossible => impossible.elim
  | .panic => .panic

/-- The number of devices that the portion announces, if it has a header. -/
def numberOfDownstreamDevices (response : QueryDownstreamIdentifiersResponse) : ℕ :=
  match response.tryGetPortionHeader with
  | .ok portionHdr => portionHdr.numberOfDownstreamDevices.toNat
  | _ => 0

end QueryDownstreamIdentifiersResponse

/-! ## Records in a portion -/

namespace DeviceRecord

def hdr (record : DeviceRecord) : DownstreamDevicesHeader :=
  ⟨record.index, UInt8.ofNat record.descriptors.length⟩

def toBytes (record : DeviceRecord) : List UInt8 := record.hdr.toBytes ++ record.descriptorBytes

end DeviceRecord

namespace QueryDownstreamIdentifiersResponse

variable {response : QueryDownstreamIdentifiersResponse} {portion before after : List UInt8}
  {record : DeviceRecord}

theorem sliceFrom_append {ε : Type} (before after : List UInt8) :
    (sliceFrom (before ++ after) before.length : Outcome ε (List UInt8)) = .ok after := by
  simp [sliceFrom]

/-- Behind the header of a device its descriptors begin. -/
theorem sliceFrom_header {ε : Type} (before : List UInt8) (hdr : DownstreamDevicesHeader)
    (after : List UInt8) :
    (sliceFrom (before ++ (hdr.toBytes ++ after)) (before.length + DownstreamDevicesHeader.size) :
      Outcome ε (List UInt8)) = .ok after := by
  rw [← List.append_assoc, ← hdr.length_toBytes, ← List.length_append]
  exact sliceFrom_append _ _

theorem deviceAt_reads (record : DeviceRecord) (before after : List UInt8) :
    deviceAt (before ++ (record.toBytes ++ after)) before.length =
      .ok (record.hdr, record.descriptorBytes.length) := by
  have hheader := DownstreamDevicesHeader.reads record.hdr (record.descriptorBytes ++ after)
  have hlength : Descriptor.tryGetDescriptorLengthFromBlob (record.descriptorBytes ++ after)
      record.hdr.downstreamDescriptorCount.toNat = .ok record.descriptorBytes.length := by
    rw [show record.hdr.downstreamDescriptorCount.toNat = record.descriptors.length from
      record.count_device]
    exact Descriptor.tryGetDescriptorLength_reads record.canonical after
  rw [deviceAt, DeviceRecord.toBytes, List.append_assoc record.hdr.toBytes, sliceFrom_append,
    sliceFrom_header, Outcome.ok_bind, tryGetDownstreamDeviceHeader, hheader]
  simp only [Outcome.mapErr, Outcome.ok_bind, hlength, Outcome.pure_eq]

/-- What is found at an offset is a record, and it is spelled there. -/
theorem deviceAt_ensures {offset : ℕ} (inside : offset < portion.length) :
    (deviceAt portion offset).Ensures fun found => ∃ record : DeviceRecord, ∃ before after,
      portion = before ++ (record.toBytes ++ after) ∧ before.length = offset ∧
        found = (record.hdr, record.descriptorBytes.length) := by
  have hspells := DownstreamDevicesHeader.spells (portion.drop offset)
  rw [deviceAt, sliceFrom, if_pos inside.le, Outcome.ok_bind, tryGetDownstreamDeviceHeader]
  cases hdecode : DownstreamDevicesHeader.scanner.decode (portion.drop offset) with
  | err error => trivial
  | panic => exact absurd hdecode hspells.ne_panic
  | ok hdr =>
      obtain ⟨_, rest, hrest⟩ := hspells.of_ok hdecode
      have hbefore : (portion.take offset).length = offset :=
        List.length_take_of_le inside.le
      have hportion : portion = portion.take offset ++ (hdr.toBytes ++ rest) := by
        rw [← hrest, List.take_append_drop]
      have hblob : (sliceFrom portion (offset + DownstreamDevicesHeader.size) :
          Outcome PldmError (List UInt8)) = .ok rest := by
        have hslice := @sliceFrom_header PldmError (portion.take offset) hdr rest
        rwa [← hportion, hbefore] at hslice
      have hensures := Descriptor.tryGetDescriptorLength_ensures rest
        hdr.downstreamDescriptorCount.toNat
      simp only [Outcome.mapErr, Outcome.ok_bind, hblob]
      cases hsize : Descriptor.tryGetDescriptorLengthFromBlob rest
          hdr.downstreamDescriptorCount.toNat with
      | err error => trivial
      | panic => exact absurd hsize hensures.ne_panic
      | ok size =>
          obtain ⟨descriptors, after, rfl, counted, canonical, rfl⟩ := hensures.of_ok hsize
          have hfew : descriptors.length ≤ 255 := by
            rw [counted]
            exact Nat.le_of_lt_succ hdr.downstreamDescriptorCount.toNat_lt
          have hhdr : hdr = (⟨hdr.downstreamDevicesIndex, descriptors, hfew, canonical⟩ :
              DeviceRecord).hdr := by
            rw [DeviceRecord.hdr, counted, UInt8.ofNat_toNat]
          refine ⟨⟨hdr.downstreamDevicesIndex, descriptors, hfew, canonical⟩,
            portion.take offset, after, ?_, hbefore, ?_⟩
          · rw [DeviceRecord.toBytes, ← hhdr, List.append_assoc]
            exact hportion
          · rw [← hhdr]
            rfl

/-! ## One call -/

theorem next_of_end {portionHdr : PortionHeader}
    (header : response.tryGetPortionHeader = .ok portionHdr)
    (ended : portionHdr.numberOfDownstreamDevices.toNat ≤ response.portionIterCurrent) :
    next response = (.ok none, response.moved 0 0) := by
  simp only [next, header, ge_iff_le, ended, ↓reduceIte]

theorem length_record (record : DeviceRecord) : record.toBytes.length =
    DownstreamDevicesHeader.size + record.descriptorBytes.length := by
  rw [DeviceRecord.toBytes, List.length_append, DownstreamDevicesHeader.length_toBytes]

/-- A device that stands at the offset is returned. -/
theorem next_of_record {portionHdr : PortionHeader}
    (header : response.tryGetPortionHeader = .ok portionHdr)
    (more : response.portionIterCurrent < portionHdr.numberOfDownstreamDevices.toNat)
    (spelled : response.portion = before ++ (record.toBytes ++ after))
    (here : response.offset = before.length) :
    next response = (.ok (some record.device),
      response.moved (response.portionIterCurrent + 1) (before ++ record.toBytes).length) := by
  have hlength : response.portion.length = before.length +
      (DownstreamDevicesHeader.size + record.descriptorBytes.length + after.length) := by
    rw [spelled, List.length_append, List.length_append, length_record]
  have hinside : ¬ response.offset ≥ response.portion.length := by
    rw [hlength, here, DownstreamDevicesHeader.size]
    omega
  have hdevice : deviceAt response.portion response.offset =
      .ok (record.hdr, record.descriptorBytes.length) := by
    rw [spelled, here]
    exact deviceAt_reads record before after
  have hend : ¬ response.offset + DownstreamDevicesHeader.size + record.descriptorBytes.length >
      response.portion.length := by
    omega
  have hslice : (sliceAt response.portion (response.offset + DownstreamDevicesHeader.size)
      record.descriptorBytes.length : Outcome Empty (List UInt8)) =
        .ok record.descriptorBytes := by
    rw [spelled, DeviceRecord.toBytes, List.append_assoc record.hdr.toBytes, ← List.append_assoc]
    exact sliceAt_append (by
      rw [here, List.length_append, DownstreamDevicesHeader.length_toBytes]) rfl
  have hnext : (before ++ record.toBytes).length =
      response.offset + DownstreamDevicesHeader.size + record.descriptorBytes.length := by
    rw [List.length_append, length_record, here, Nat.add_assoc]
  simp only [next, header, ge_iff_le, not_le.mpr more, ↓reduceIte, hinside, hdevice, hend, hslice,
    hnext, Outcome.map]
  rfl

/-- A call does not panic, whatever the portion and the place. It returns a device that is
spelled in the portion, or none. -/
theorem next_cases (response : QueryDownstreamIdentifiersResponse) :
    (∃ final, next response = (.ok none, final)) ∨
      ∃ (record : DeviceRecord) (offset : ℕ), next response = (.ok (some record.device),
        response.moved (response.portionIterCurrent + 1) offset) ∧
        response.portionIterCurrent < response.numberOfDownstreamDevices := by
  have hspells := PortionHeader.spells response.portion
  cases hdecode : PortionHeader.scanner.decode response.portion with
  | err error =>
      left
      refine ⟨response, ?_⟩
      simp only [next, tryGetPortionHeader, hdecode, Outcome.mapErr]
  | panic => exact absurd hdecode hspells.ne_panic
  | ok portionHdr =>
      have hheader : response.tryGetPortionHeader = .ok portionHdr := by
        rw [tryGetPortionHeader, hdecode]
        rfl
      have hnumber : response.numberOfDownstreamDevices =
          portionHdr.numberOfDownstreamDevices.toNat := by
        rw [numberOfDownstreamDevices, hheader]
      by_cases more : response.portionIterCurrent <
          portionHdr.numberOfDownstreamDevices.toNat
      · by_cases inside : response.offset < response.portion.length
        · have hensures := deviceAt_ensures inside
          cases hdevice : deviceAt response.portion response.offset with
          | err error =>
              left
              refine ⟨response, ?_⟩
              simp only [next, hheader, ge_iff_le, not_le.mpr more, ↓reduceIte,
                not_le.mpr inside, hdevice]
          | panic => exact absurd hdevice hensures.ne_panic
          | ok found =>
              obtain ⟨record, before, after, spelled, here, _⟩ := hensures.of_ok hdevice
              right
              exact ⟨record, _, next_of_record hheader more spelled here.symm, hnumber ▸ more⟩
        · left
          refine ⟨response, ?_⟩
          simp only [next, hheader, ge_iff_le, not_le.mpr more, ↓reduceIte, not_lt.mp inside]
      · left
        exact ⟨_, next_of_end hheader (not_lt.mp more)⟩

/-! ## Any portion -/

/-- The nested iteration does not panic, returns no more devices than the portion announces,
and of each of them as many descriptors as the device announces. -/
structure IteratesNested (response : QueryDownstreamIdentifiersResponse) : Prop where
  safe : Iterator.NeverPanics next response
  bounded : ∃ devices final, Iterator.Yields next response devices final ∧
    devices.length ≤ response.numberOfDownstreamDevices ∧
    ∀ device ∈ devices, Iterator.NeverPanics DownstreamDevice.next device ∧
      ∃ descriptors last, Iterator.Yields DownstreamDevice.next device descriptors last ∧
        descriptors.length = device.downstreamDescriptorCount.toNat

theorem iteratesNested (response : QueryDownstreamIdentifiersResponse) :
    response.IteratesNested := by
  constructor
  · apply Iterator.neverPanics_of_invariant (fun _ => True) _ trivial
    intro state _
    rcases next_cases state with ⟨final, ends⟩ | ⟨record, offset, returns, _⟩
    · exact ⟨none, final, ends, trivial⟩
    · exact ⟨some record.device, _, returns, trivial⟩
  · obtain ⟨devices, final, yields, few, records⟩ := Iterator.exists_yields
      (fun state => state.numberOfDownstreamDevices - state.portionIterCurrent)
      (fun device => ∃ record : DeviceRecord, device = record.device) (fun state => by
        rcases next_cases state with ends | ⟨record, offset, returns, more⟩
        · exact .inl ends
        · refine .inr ⟨record.device, _, returns, ?_, record, rfl⟩
          show state.numberOfDownstreamDevices - (state.portionIterCurrent + 1) < _
          omega) response
    refine ⟨devices, final, yields, few.trans (Nat.sub_le _ _), fun device member => ?_⟩
    obtain ⟨record, rfl⟩ := records device member
    obtain ⟨hyields, hsafe⟩ := record.pass_device
    exact ⟨hsafe, record.descriptors, record.device, hyields, record.count_device.symm⟩

end QueryDownstreamIdentifiersResponse

/-! ## Well-formed portions -/

/-- A portion as it is described: a length that nothing looks at, and as many devices as its
header can announce. -/
structure PortionRecord where
  devicesLength : UInt32
  devices : List DeviceRecord
  few : devices.length < UInt16.size

namespace PortionRecord

variable {portion : PortionRecord}

def hdr (portion : PortionRecord) : PortionHeader :=
  ⟨portion.devicesLength, UInt16.ofNat portion.devices.length⟩

def toBytes (portion : PortionRecord) : List UInt8 :=
  portion.hdr.toBytes ++ portion.devices.flatMap DeviceRecord.toBytes

theorem count_hdr (portion : PortionRecord) :
    portion.hdr.numberOfDownstreamDevices.toNat = portion.devices.length :=
  UInt16.toNat_ofNat_of_lt' portion.few

/-- What a lookup of a device is to find. -/
def lookup (portion : PortionRecord) (index : ℕ) : Outcome PldmError DownstreamDevice :=
  match portion.devices[index]? with
  | some record => .ok record.device
  | none => .err .invalidData

end PortionRecord

namespace QueryDownstreamIdentifiersResponse

variable {response : QueryDownstreamIdentifiersResponse} {portion : PortionRecord}

/-- The response with another portion, and not yet iterated. -/
def fresh (response : QueryDownstreamIdentifiersResponse) (portion : List UInt8) :
    QueryDownstreamIdentifiersResponse :=
  { response with portion := portion, portionIterCurrent := 0, portionOffsetNext := 0 }

/-- The response behind the first devices of the portion. -/
def place (response : QueryDownstreamIdentifiersResponse) (portion : PortionRecord)
    (index : ℕ) : QueryDownstreamIdentifiersResponse :=
  (response.fresh portion.toBytes).moved index
    (if index = 0 then 0 else
      PortionHeader.size + ((portion.devices.take index).flatMap DeviceRecord.toBytes).length)

theorem place_zero : response.place portion 0 = response.fresh portion.toBytes := rfl

theorem header_place (index : ℕ) :
    (response.place portion index).tryGetPortionHeader = .ok portion.hdr := by
  have hreads := PortionHeader.reads portion.hdr (portion.devices.flatMap DeviceRecord.toBytes)
  show (PortionHeader.scanner.decode portion.toBytes).mapErr _ = _
  rw [PortionRecord.toBytes, hreads]
  rfl

theorem offset_place (index : ℕ) : (response.place portion index).offset =
    PortionHeader.size + ((portion.devices.take index).flatMap DeviceRecord.toBytes).length := by
  cases index with
  | zero => rfl
  | succ index => rfl

theorem walks : Iterator.Walks next (response.place portion)
    (portion.devices.map DeviceRecord.device) := by
  intro index device found
  rw [List.getElem?_map, Option.map_eq_some_iff] at found
  obtain ⟨record, hrecord, rfl⟩ := found
  obtain ⟨inside, rfl⟩ := List.getElem?_eq_some_iff.mp hrecord
  have hmore : (response.place portion index).portionIterCurrent <
      portion.hdr.numberOfDownstreamDevices.toNat := by
    rw [portion.count_hdr]
    exact inside
  have hsplit : (response.place portion index).portion =
      (portion.hdr.toBytes ++ (portion.devices.take index).flatMap DeviceRecord.toBytes) ++
        ((portion.devices[index]).toBytes ++
          (portion.devices.drop (index + 1)).flatMap DeviceRecord.toBytes) := by
    show portion.toBytes = _
    rw [PortionRecord.toBytes, List.append_assoc, ← List.flatMap_cons, ← List.flatMap_append,
      ← List.drop_eq_getElem_cons inside, List.take_append_drop]
  have hhere : (response.place portion index).offset =
      (portion.hdr.toBytes ++
        (portion.devices.take index).flatMap DeviceRecord.toBytes).length := by
    rw [offset_place, List.length_append, PortionHeader.length_toBytes]
  rw [next_of_record (header_place index) hmore hsplit hhere]
  have hplace : (response.place portion index).moved (index + 1)
      ((portion.hdr.toBytes ++ (portion.devices.take index).flatMap DeviceRecord.toBytes) ++
        (portion.devices[index]).toBytes).length = response.place portion (index + 1) := by
    rw [List.append_assoc, List.length_append, PortionHeader.length_toBytes,
      ← List.flatMap_singleton (f := DeviceRecord.toBytes), ← List.flatMap_append,
      ← List.take_succ_eq_append_getElem inside]
    rfl
  rw [← hplace]
  rfl

/-- After the last device the iteration starts again. -/
theorem next_of_last : next (response.place portion (portion.devices.map
    DeviceRecord.device).length) = (.ok none, response.place portion 0) := by
  rw [List.length_map]
  exact next_of_end (header_place _) portion.count_hdr.le

/-- The iteration of a portion inverts its serialization, and of any other portion it
returns no more than is announced. -/
theorem iteration_inverts_serialization :
    (∀ (response : QueryDownstreamIdentifiersResponse) (portion : PortionRecord),
      (∃ final, Iterator.Yields next (response.fresh portion.toBytes)
        (portion.devices.map DeviceRecord.device) final) ∧
      ∀ record ∈ portion.devices,
        Iterator.Yields DownstreamDevice.next record.device record.descriptors record.device) ∧
    ∀ response : QueryDownstreamIdentifiersResponse, response.IteratesNested := by
  refine ⟨fun response portion => ?_, iteratesNested⟩
  have hyields := (@walks response portion).yields next_of_last
    (Nat.zero_le _)
  rw [List.drop_zero] at hyields
  exact ⟨⟨_, hyields⟩, fun record _ => record.pass_device.1⟩

end QueryDownstreamIdentifiersResponse

/-! ## Random access -/

/-- A device tells its record: its descriptors are the ones that it iterates to. -/
theorem DeviceRecord.device_injective : Function.Injective DeviceRecord.device := by
  intro first second same
  have hdescriptors : first.descriptors = second.descriptors := by
    have hsecond := second.pass_device.1
    rw [← same] at hsecond
    exact (first.pass_device.1.unique hsecond).1
  have hindex : first.index = second.index :=
    congrArg DownstreamDevice.downstreamDeviceIndex same
  cases first
  cases second
  obtain rfl : _ = _ := hdescriptors
  obtain rfl : _ = _ := hindex
  rfl

theorem PortionRecord.lookup_eq_iff {portion : PortionRecord} {first second : ℕ} :
    portion.lookup first = portion.lookup second ↔
      portion.devices[first]? = portion.devices[second]? := by
  constructor
  · unfold PortionRecord.lookup
    intro same
    cases hfirst : portion.devices[first]? with
    | none =>
        cases hsecond : portion.devices[second]? with
        | none => rfl
        | some record =>
            rw [hfirst, hsecond] at same
            cases same
    | some record =>
        cases hsecond : portion.devices[second]? with
        | none =>
            rw [hfirst, hsecond] at same
            cases same
        | some other =>
            rw [hfirst, hsecond] at same
            rw [DeviceRecord.device_injective (Outcome.ok.inj same)]
  · intro same
    rw [PortionRecord.lookup, same, PortionRecord.lookup]

namespace QueryDownstreamIdentifiersResponse

variable {response : QueryDownstreamIdentifiersResponse} {portion : PortionRecord}

/-- A response with the portion, after a number of calls of its iterator. -/
def iterated (response : QueryDownstreamIdentifiersResponse) (portion : PortionRecord)
    (count : ℕ) : QueryDownstreamIdentifiersResponse :=
  (Iterator.calls next count (response.fresh portion.toBytes)).2

/-- The calls go round: one for each device, and one that returns none. -/
theorem iterated_eq_place (count : ℕ) : response.iterated portion count =
    response.place portion (count % (portion.devices.length + 1)) := by
  obtain ⟨returned, hcalls⟩ := (@walks response portion).calls_of_resets next_of_last count
    (Nat.zero_le _)
  rw [Nat.zero_add, List.length_map] at hcalls
  rw [iterated, ← place_zero, hcalls]

/-- The copy is looked through from its place on. -/
theorem tryAt_place {start : ℕ} (inside : start ≤ portion.devices.length) (index : ℕ) :
    (response.place portion start).tryAt index = portion.lookup (start + index) := by
  have hyields := (@walks response portion).yields next_of_last
    (inside.trans_eq (List.length_map _).symm)
  have hnth := Iterator.nth_of_yields hyields index
  rw [List.getElem?_drop, List.getElem?_map] at hnth
  unfold tryAt PortionRecord.lookup
  rw [hnth]
  cases portion.devices[start + index]? with
  | none => rfl
  | some record => rfl

/-- A lookup finds the device at the index if the iteration is at its start, there is no such
device, or the device that far behind the place of the iteration is the same one. -/
theorem tryAt_iterated_iff (response : QueryDownstreamIdentifiersResponse)
    (portion : PortionRecord) (count index : ℕ) :
    (response.iterated portion count).tryAt index = portion.lookup index ↔
      count % (portion.devices.length + 1) = 0 ∨ portion.devices.length ≤ index ∨
        ∃ record, portion.devices[index]? = some record ∧
          portion.devices[count % (portion.devices.length + 1) + index]? = some record := by
  have hplace : count % (portion.devices.length + 1) ≤ portion.devices.length :=
    Nat.lt_succ_iff.mp (Nat.mod_lt _ (Nat.succ_pos _))
  rw [iterated_eq_place, tryAt_place hplace, PortionRecord.lookup_eq_iff]
  constructor
  · intro same
    by_cases inside : index < portion.devices.length
    · have hrecord := List.getElem?_eq_getElem inside
      exact .inr (.inr ⟨_, hrecord, same.trans hrecord⟩)
    · exact .inr (.inl (not_lt.mp inside))
  · rintro (start | outside | ⟨record, hrecord, hbehind⟩)
    · rw [start, Nat.zero_add]
    · rw [List.getElem?_eq_none_iff.mpr outside,
        List.getElem?_eq_none_iff.mpr (outside.trans (Nat.le_add_left _ _))]
    · rw [hrecord, hbehind]

/-- After the first call the only device of a portion is not found. -/
theorem only_device_lost :
    ¬ ∀ (response : QueryDownstreamIdentifiersResponse) (portion : PortionRecord)
      (count index : ℕ), (response.iterated portion count).tryAt index = portion.lookup index := by
  intro agrees
  have found := agrees ⟨⟨default, 0, 0, 0, []⟩, 0, 0⟩
    ⟨0, [⟨1, [], by decide, by simp⟩], by decide⟩ 1 0
  rw [iterated_eq_place, tryAt_place (by decide), PortionRecord.lookup_eq_iff] at found
  cases found

end QueryDownstreamIdentifiersResponse

end PldmLib.Message
