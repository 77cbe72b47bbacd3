/-
# Iterating the descriptors of a downstream device

A downstream device keeps its descriptors undecoded and is itself the iterator over them. It
counts the descriptors that it has returned and keeps the offset behind them. The length of
the next descriptor is read before it is known whether there is one.
-/

import PldmLib.Machine.Iterator
import PldmLib.Message.Downstream

namespace PldmLib.Message

open PldmLib.Machine PldmLib.Protocol

/-- `&bytes[start..start + count]`, which panics past the end. -/
def sliceAt {ε : Type} (bytes : List UInt8) (start count : ℕ) : Outcome ε (List UInt8) :=
  if start + count ≤ bytes.length then .ok ((bytes.drop start).take count) else .panic

theorem sliceAt_append {ε : Type} {passed field after : List UInt8} {start count : ℕ}
    (here : start = passed.length) (length : count = field.length) :
    (sliceAt (passed ++ (field ++ after)) start count : Outcome ε (List UInt8)) = .ok field := by
  subst here length
  simp [sliceAt]

namespace DownstreamDevice

variable {device : DownstreamDevice} {passed coming : List UInt8} {returned : ℕ}

def next : Call DownstreamDevice Empty (Option Descriptor) := fun device =>
  if device.downstreamDescriptorCount = 0 then
    (.ok none, device)
  else if device.iterDevCount ≥ device.downstreamDescriptorCount.toNat then
    (.ok none, { device with iterDevCount := 0, iterOffset := 0 })
  else
    -- the slice is taken before the bounds are checked
    match (sliceAt device.downstreamDescriptors (device.iterOffset + 2) 2 :
        Outcome PldmCodecError (List UInt8)) with
    | .ok field =>
        let descriptorLength := leValue field
        if device.iterOffset + 4 + descriptorLength > device.downstreamDescriptors.length then
          (.ok none, device)
        else
          match sliceAt device.downstreamDescriptors device.iterOffset (4 + descriptorLength) >>=
              Descriptor.decode with
          | .ok descriptor =>
              (.ok (some descriptor), { device with
                iterOffset := device.iterOffset + (4 + descriptorLength)
                iterDevCount := device.iterDevCount + 1 })
          | .err _ => (.ok none, device)
          | .panic => (.panic, device)
    | .err _ => (.ok none, device)
    | .panic => (.panic, device)

/-- The device while it is iterated. -/
def moved (device : DownstreamDevice) (returned offset : ℕ) : DownstreamDevice :=
  { device with iterDevCount := returned, iterOffset := offset }

/-! ## One call -/

theorem next_of_end (ended : device.downstreamDescriptorCount.toNat ≤ returned) (offset : ℕ) :
    next (device.moved returned offset) =
      (.ok none, if device.downstreamDescriptorCount = 0 then device.moved returned offset
        else device.moved 0 0) := by
  unfold next
  by_cases none : device.downstreamDescriptorCount = 0
  · simp [moved, none]
  · simp [moved, none, ended]

theorem count_ne_zero (more : returned < device.downstreamDescriptorCount.toNat) :
    device.downstreamDescriptorCount ≠ 0 := by
  rintro none
  rw [none] at more
  exact Nat.not_lt_zero _ more

/-- Fewer than four bytes do not even hold the length that is read. -/
theorem next_of_short (more : returned < device.downstreamDescriptorCount.toNat)
    (spelled : device.downstreamDescriptors = passed ++ coming) (short : coming.length < 4) :
    next (device.moved returned passed.length) =
      (.panic, device.moved returned passed.length) := by
  have hsome := count_ne_zero more
  have hslice : (sliceAt device.downstreamDescriptors (passed.length + 2) 2 :
      Outcome PldmCodecError (List UInt8)) = .panic := by
    rw [sliceAt, if_neg]
    rw [spelled, List.length_append]
    omega
  unfold next
  simp only [moved, hsome, ↓reduceIte, ge_iff_le, not_le.mpr more, hslice]

/-- A descriptor that stands at the offset is returned. -/
theorem next_of_descriptor (more : returned < device.downstreamDescriptorCount.toNat)
    {descriptor : Descriptor} (canonical : descriptor.Canonical) {after : List UInt8}
    (spelled : device.downstreamDescriptors = passed ++ (descriptor.toBytes ++ after)) :
    next (device.moved returned passed.length) =
      (.ok (some descriptor),
        device.moved (returned + 1) (passed ++ descriptor.toBytes).length) := by
  have hsome := count_ne_zero more
  have hlength : 4 + descriptor.descriptorLength.toNat = descriptor.toBytes.length :=
    (Descriptor.length_toBytes canonical.fits).symm
  have hfield : (sliceAt device.downstreamDescriptors (passed.length + 2) 2 :
      Outcome PldmCodecError (List UInt8)) = .ok (u16Bytes descriptor.descriptorLength) := by
    have hsplit : device.downstreamDescriptors =
        (passed ++ u16Bytes descriptor.descriptorType) ++
          (u16Bytes descriptor.descriptorLength ++ (descriptor.data ++ after)) := by
      rw [spelled, Descriptor.toBytes]
      simp
    rw [hsplit]
    exact sliceAt_append (by simp) (by simp)
  have hvalue : leValue (u16Bytes descriptor.descriptorLength) =
      descriptor.descriptorLength.toNat := leValue_leBytes (UInt16.toNat_lt _)
  have hbounds : ¬ passed.length + 4 + descriptor.descriptorLength.toNat >
      device.downstreamDescriptors.length := by
    rw [spelled, List.length_append, List.length_append]
    omega
  have hslice : (sliceAt device.downstreamDescriptors passed.length descriptor.toBytes.length :
      Outcome PldmCodecError (List UInt8)) = .ok descriptor.toBytes := by
    rw [spelled]
    exact sliceAt_append rfl rfl
  have hdecode : Descriptor.decode descriptor.toBytes = .ok descriptor := by
    have hreads := Descriptor.reads canonical []
    rwa [List.append_nil] at hreads
  unfold next
  simp only [moved, hsome, ↓reduceIte, ge_iff_le, not_le.mpr more, hfield, hvalue, hbounds,
    hlength, hslice, Outcome.ok_bind, hdecode, List.length_append]

/-- What is not spelled by any descriptor ends the iteration. -/
theorem next_of_undecodable (more : returned < device.downstreamDescriptorCount.toNat)
    (spelled : device.downstreamDescriptors = passed ++ coming) (enough : 4 ≤ coming.length)
    (undecodable : ∀ descriptor after, descriptor.Canonical →
      coming ≠ Descriptor.toBytes descriptor ++ after) :
    next (device.moved returned passed.length) =
      (.ok none, device.moved returned passed.length) := by
  have hsome := count_ne_zero more
  have hfield : (sliceAt device.downstreamDescriptors (passed.length + 2) 2 :
      Outcome PldmCodecError (List UInt8)) = .ok ((coming.drop 2).take 2) := by
    rw [sliceAt, if_pos (by rw [spelled, List.length_append]; omega), spelled,
      List.drop_length_add_append]
  unfold next
  simp only [moved, hsome, ↓reduceIte, ge_iff_le, not_le.mpr more, hfield]
  by_cases outside : passed.length + 4 + leValue ((coming.drop 2).take 2) >
      device.downstreamDescriptors.length
  · simp only [outside, ↓reduceIte]
  · have hslice : (sliceAt device.downstreamDescriptors passed.length
        (4 + leValue ((coming.drop 2).take 2)) : Outcome PldmCodecError (List UInt8)) =
          .ok (coming.take (4 + leValue ((coming.drop 2).take 2))) := by
      rw [sliceAt, if_pos (by omega), spelled, List.drop_left]
    simp only [outside, ↓reduceIte, hslice, Outcome.ok_bind]
    have hspells := Descriptor.spells (coming.take (4 + leValue ((coming.drop 2).take 2)))
    cases hdecode : Descriptor.decode (coming.take (4 + leValue ((coming.drop 2).take 2))) with
    | ok descriptor =>
        obtain ⟨canonical, after, htake⟩ := hspells.of_ok hdecode
        refine absurd ?_ (undecodable descriptor
          (after ++ coming.drop (4 + leValue ((coming.drop 2).take 2))) canonical)
        rw [← List.append_assoc, ← htake, List.take_append_drop]
    | err error => rfl
    | panic => exact absurd hdecode hspells.ne_panic

/-! ## A pass -/

variable {descriptors : List Descriptor} {rest : List UInt8}

/-- The device behind the first descriptors. -/
def place (device : DownstreamDevice) (descriptors : List Descriptor) (index : ℕ) :
    DownstreamDevice :=
  device.moved index ((descriptors.take index).flatMap Descriptor.toBytes).length

theorem walks (canonical : ∀ descriptor ∈ descriptors, descriptor.Canonical)
    (few : descriptors.length ≤ device.downstreamDescriptorCount.toNat)
    (spelled : device.downstreamDescriptors =
      descriptors.flatMap Descriptor.toBytes ++ rest) :
    Iterator.Walks next (device.place descriptors) descriptors := by
  intro index descriptor found
  obtain ⟨inside, rfl⟩ := List.getElem?_eq_some_iff.mp found
  have hsplit : device.downstreamDescriptors =
      (descriptors.take index).flatMap Descriptor.toBytes ++
        ((descriptors[index]).toBytes ++
          ((descriptors.drop (index + 1)).flatMap Descriptor.toBytes ++ rest)) := by
    rw [spelled, ← List.append_assoc (descriptors[index]).toBytes, ← List.flatMap_cons,
      ← List.append_assoc, ← List.flatMap_append, ← List.drop_eq_getElem_cons inside,
      List.take_append_drop]
  have hnext := next_of_descriptor (inside.trans_le few)
    (canonical _ (List.getElem_mem inside)) hsplit
  rw [place, hnext, place, List.take_succ_eq_append_getElem inside, List.flatMap_append,
    List.flatMap_singleton]

/-- A pass over as many descriptors as are announced ends where it began. -/
theorem next_of_all (all : descriptors.length = device.downstreamDescriptorCount.toNat) :
    next (device.place descriptors descriptors.length) =
      (.ok none, device.place descriptors 0) := by
  rw [place, next_of_end all.ge]
  split
  · next none =>
      rw [none] at all
      obtain rfl := List.eq_nil_of_length_eq_zero all
      rfl
  · rfl

/-- Every buffer begins with as many descriptors as are looked for, or with fewer and
something that is none. -/
theorem exists_descriptors (count : ℕ) (coming : List UInt8) :
    ∃ descriptors : List Descriptor, ∃ rest,
      coming = descriptors.flatMap Descriptor.toBytes ++ rest ∧
      (∀ descriptor ∈ descriptors, descriptor.Canonical) ∧ (descriptors.length = count ∨
        descriptors.length < count ∧ ∀ descriptor after, descriptor.Canonical →
          rest ≠ Descriptor.toBytes descriptor ++ after) := by
  induction count generalizing coming with
  | zero => exact ⟨[], coming, rfl, by simp, .inl rfl⟩
  | succ count ih =>
      by_cases spelled : ∃ descriptor after, Descriptor.Canonical descriptor ∧
          coming = descriptor.toBytes ++ after
      · obtain ⟨descriptor, after, canonical, rfl⟩ := spelled
        obtain ⟨descriptors, rest, rfl, all, ends⟩ := ih after
        refine ⟨descriptor :: descriptors, rest, ?_, ?_, ?_⟩
        · rw [List.flatMap_cons, List.append_assoc]
        · rw [List.forall_mem_cons]
          exact ⟨canonical, all⟩
        · rw [List.length_cons]
          exact ends.imp (congrArg (· + 1)) (And.imp_left Nat.succ_lt_succ)
      · refine ⟨[], coming, rfl, by simp, .inr ⟨Nat.succ_pos count, ?_⟩⟩
        intro descriptor after canonical hcoming
        exact spelled ⟨descriptor, after, canonical, hcoming⟩

theorem place_last : device.place descriptors descriptors.length =
    device.moved descriptors.length (descriptors.flatMap Descriptor.toBytes).length := by
  rw [place, List.take_length]

theorem place_zero (fresh : device.Fresh) : device.place descriptors 0 = device := by
  cases device
  obtain ⟨rfl, rfl⟩ := fresh
  rfl

/-! ## Devices off the wire -/

/-- A pass over what has been received: no number of calls panics, and the descriptors that
are returned before the first none are no more than announced and those of the buffer in
order. -/
structure IteratesSafely (device : DownstreamDevice) : Prop where
  safe : Iterator.NeverPanics next device
  bounded : ∃ descriptors final rest, Iterator.Yields next device descriptors final ∧
    descriptors.length ≤ device.downstreamDescriptorCount.toNat ∧
    (∀ descriptor ∈ descriptors, descriptor.Canonical) ∧
    device.downstreamDescriptors = descriptors.flatMap Descriptor.toBytes ++ rest

/-- Behind fewer descriptors than are announced there is not enough for the type and the
length of another one. -/
def Truncated (buffer : List UInt8) : Prop :=
  ∃ (index : UInt16) (count : UInt8) (descriptors : List Descriptor) (rest : List UInt8),
    buffer = u16Bytes index ++ [count] ++ (descriptors.flatMap Descriptor.toBytes ++ rest) ∧
    (∀ descriptor ∈ descriptors, descriptor.Canonical) ∧
    descriptors.length < count.toNat ∧ rest.length < 4

/-- A pass goes wrong when it comes to the end of the bytes before the count. -/
theorem not_neverPanics_of_short (fresh : device.Fresh)
    (canonical : ∀ descriptor ∈ descriptors, descriptor.Canonical)
    (spelled : device.downstreamDescriptors = descriptors.flatMap Descriptor.toBytes ++ rest)
    (more : descriptors.length < device.downstreamDescriptorCount.toNat)
    (short : rest.length < 4) : ¬ Iterator.NeverPanics next device := by
  have hpanics := next_of_short more spelled short
  rw [← place_last] at hpanics
  rw [← @place_zero device descriptors fresh]
  exact (walks canonical more.le spelled).not_neverPanics hpanics

/-- A pass over as many descriptors as are announced returns them, and the next one does
so again. -/
theorem pass_of_all (fresh : device.Fresh)
    (canonical : ∀ descriptor ∈ descriptors, descriptor.Canonical)
    (spelled : device.downstreamDescriptors = descriptors.flatMap Descriptor.toBytes ++ rest)
    (all : descriptors.length = device.downstreamDescriptorCount.toNat) :
    Iterator.Yields next device descriptors device ∧ Iterator.NeverPanics next device := by
  have hwalks := walks canonical all.le spelled
  have hends := next_of_all all
  have hyields := hwalks.yields hends (Nat.zero_le _)
  have hsafe := hwalks.neverPanics_of_resets hends
  rw [List.drop_zero, place_zero fresh] at hyields
  rw [place_zero fresh] at hsafe
  exact ⟨hyields, hsafe⟩

/-- Otherwise it ends at the count, where it starts again, or at something that is no
descriptor, where it stays. -/
theorem iteratesSafely_of_room (fresh : device.Fresh)
    (room : ∀ descriptors : List Descriptor, ∀ rest,
      device.downstreamDescriptors = descriptors.flatMap Descriptor.toBytes ++ rest →
      (∀ descriptor ∈ descriptors, descriptor.Canonical) →
      descriptors.length < device.downstreamDescriptorCount.toNat → 4 ≤ rest.length) :
    device.IteratesSafely := by
  obtain ⟨descriptors, rest, spelled, canonical, ends⟩ :=
    exists_descriptors device.downstreamDescriptorCount.toNat device.downstreamDescriptors
  have hfew : descriptors.length ≤ device.downstreamDescriptorCount.toNat :=
    ends.elim le_of_eq fun fewer => fewer.1.le
  rcases ends with all | ⟨more, undecodable⟩
  · obtain ⟨hyields, hsafe⟩ := pass_of_all fresh canonical spelled all
    exact ⟨hsafe, descriptors, _, rest, hyields, hfew, canonical, spelled⟩
  · have hwalks := walks canonical hfew spelled
    have hends := next_of_undecodable more spelled (room _ _ spelled canonical more) undecodable
    rw [← place_last] at hends
    have hsafe := hwalks.neverPanics_of_stays hends
    have hyields := hwalks.yields hends (Nat.zero_le _)
    rw [place_zero fresh] at hsafe
    rw [List.drop_zero, place_zero fresh] at hyields
    exact ⟨hsafe, descriptors, _, rest, hyields, hfew, canonical, spelled⟩

/-- Iterating what has been received is safe unless it was cut off in the first four bytes
of a descriptor, or before them. -/
theorem iterates_safely_iff (buffer : List UInt8) :
    (∀ device, decode buffer = .ok device → device.IteratesSafely) ↔ ¬ Truncated buffer := by
  constructor
  · rintro iterates ⟨index, count, descriptors, rest, rfl, canonical, more, short⟩
    have hfresh : Fresh ⟨index, count, descriptors.flatMap Descriptor.toBytes ++ rest, 0, 0⟩ :=
      ⟨rfl, rfl⟩
    have hreads := reads hfresh
    simp only [toBytes, fixedBytes] at hreads
    exact not_neverPanics_of_short hfresh canonical rfl more short (iterates _ hreads).safe
  · intro complete device accepted
    obtain ⟨fresh, rfl⟩ := of_decode accepted
    refine iteratesSafely_of_room fresh fun descriptors rest spelled canonical more => ?_
    by_contra short
    refine complete ⟨device.downstreamDeviceIndex, device.downstreamDescriptorCount, descriptors,
      rest, ?_, canonical, more, not_le.mp short⟩
    rw [toBytes, fixedBytes, spelled]

/-- A device that announces a descriptor and is cut off behind its count. -/
theorem truncated_device_panics :
    ¬ ∀ device, decode [0, 0, 1] = .ok device → device.IteratesSafely := by
  intro iterates
  have hdecode : decode [0, 0, 1] = .ok ⟨0, 1, [], 0, 0⟩ := by decide
  exact (iterates _ hdecode).safe 1 (by decide)

end DownstreamDevice

/-! ## Devices that are constructed -/

/-- A downstream device as it is described, by its index and its descriptors. -/
structure DeviceRecord where
  index : UInt16
  descriptors : List Descriptor
  few : descriptors.length ≤ 255
  canonical : ∀ descriptor ∈ descriptors, descriptor.Canonical

namespace DeviceRecord

variable {record : DeviceRecord}

def descriptorBytes (record : DeviceRecord) : List UInt8 :=
  record.descriptors.flatMap Descriptor.toBytes

/-- The device that carries the record. -/
def device (record : DeviceRecord) : DownstreamDevice :=
  ⟨record.index, UInt8.ofNat record.descriptors.length, record.descriptorBytes, 0, 0⟩

theorem count_device (record : DeviceRecord) :
    record.device.downstreamDescriptorCount.toNat = record.descriptors.length :=
  UInt8.toNat_ofNat_of_lt' (Nat.lt_succ_of_le record.few)

theorem fresh_device (record : DeviceRecord) : record.device.Fresh := ⟨rfl, rfl⟩

/-- Iterating the device returns the record's descriptors. -/
theorem pass_device (record : DeviceRecord) :
    Iterator.Yields DownstreamDevice.next record.device record.descriptors record.device ∧
      Iterator.NeverPanics DownstreamDevice.next record.device :=
  DownstreamDevice.pass_of_all record.fresh_device record.canonical
    (List.append_nil _).symm record.count_device.symm

theorem length_descriptorBytes (record : DeviceRecord) : record.descriptorBytes.length =
    4 * record.descriptors.length +
      (record.descriptors.map (·.descriptorLength.toNat)).sum := by
  have hsum : (record.descriptors.map (·.codecSizeInBytes)).sum =
      4 * record.descriptors.length +
        (record.descriptors.map (·.descriptorLength.toNat)).sum := by
    induction record.descriptors with
    | nil => rfl
    | cons descriptor descriptors ih =>
        have hsize : descriptor.codecSizeInBytes = 4 + descriptor.descriptorLength.toNat := rfl
        rw [List.map_cons, List.sum_cons, ih, hsize, List.map_cons, List.sum_cons,
          List.length_cons]
        omega
  rw [descriptorBytes, QueryDeviceIdentifiersResponse.length_additional
    fun descriptor member => (record.canonical descriptor member).fits, hsum]

end DeviceRecord

namespace DownstreamDevice

/-- The device carries the descriptors through an iteration, and through its codec into
another one. -/
structure Carries (device : DownstreamDevice) (descriptors : List Descriptor) : Prop where
  counted : device.downstreamDescriptorCount.toNat = descriptors.length
  iterated : (∃ final, Iterator.Yields next device descriptors final) ∧
    Iterator.NeverPanics next device
  reiterated : ∀ buffer : List UInt8, device.toBytes.length ≤ buffer.length →
    ∃ bytes written copy, device.encode buffer = (.ok bytes, written) ∧
      decode (written.take bytes) = .ok copy ∧
      (∃ final, Iterator.Yields next copy descriptors final) ∧ Iterator.NeverPanics next copy

/-- The constructor takes the length of the descriptors in bytes for their number. -/
theorem carries_new_iff (index : DownstreamDeviceIndex) (record : DeviceRecord) :
    (new index record.descriptorBytes).Carries record.descriptors ↔
      (3 * record.descriptors.length +
        (record.descriptors.map (·.descriptorLength.toNat)).sum) % 256 = 0 := by
  have hcount : (new index record.descriptorBytes).downstreamDescriptorCount.toNat =
      record.descriptorBytes.length % 256 := UInt8.toNat_ofNat'
  have hlength := record.length_descriptorBytes
  have hfew := record.few
  constructor
  · intro carries
    have hcounted := carries.counted
    omega
  · intro multiple
    have hnew : new index record.descriptorBytes =
        { record with index := index.value }.device := by
      have hsame : UInt8.ofNat record.descriptorBytes.length =
          UInt8.ofNat record.descriptors.length := by
        apply UInt8.toNat_inj.mp
        rw [UInt8.toNat_ofNat', UInt8.toNat_ofNat']
        omega
      show (⟨index.value, UInt8.ofNat record.descriptorBytes.length, _, 0, 0⟩ :
        DownstreamDevice) = _
      rw [hsame]
      rfl
    rw [hnew]
    obtain ⟨hyields, hsafe⟩ := { record with index := index.value }.pass_device
    refine ⟨DeviceRecord.count_device _, ⟨⟨_, hyields⟩, hsafe⟩, fun buffer room => ?_⟩
    refine ⟨_, _, _, encode_of_room room, ?_, ⟨_, hyields⟩, hsafe⟩
    rw [List.take_left]
    exact reads (DeviceRecord.fresh_device _)

/-- A device with one descriptor of no data is taken for one with four. -/
theorem constructed_device_miscounted :
    ¬ (new ⟨0⟩ Descriptor.newEmpty.toBytes).Carries [Descriptor.newEmpty] := by
  intro carries
  exact absurd carries.counted (by decide)

end DownstreamDevice

end PldmLib.Message
