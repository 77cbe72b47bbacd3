/-
# Tables that overrun their arrays

The records of the inventory messages carry the length of a field next to the array
that holds it, and both are public. An encoder checks the buffer against the announced
lengths and then slices the arrays by them, so a length above the array's size is not
refused: the encoder turns a short buffer away and panics in any other.

`Breaks` is the counterpart of `Fills` for a sequence of writes that ends in a panic.
-/

import PldmLib.Message.InventoryCodec

namespace PldmLib.Message

open PldmLib.Machine PldmLib.Protocol

/-! ## Writes that end in a panic -/

/-- Behind the bytes `written`, and with `room` bytes to come, `write` panics. -/
def Breaks {α : Type} (write : Call (List UInt8) PldmCodecError α) (written : List UInt8)
    (room : ℕ) : Prop :=
  ∀ tail, room ≤ tail.length → ∃ left, write (written ++ tail) = (.panic, left)

namespace Breaks

variable {α β : Type} {written fields : List UInt8} {room more : ℕ}

theorem mono {write : Call (List UInt8) PldmCodecError α} (breaks : Breaks write written room)
    (wider : room ≤ more) : Breaks write written more := by
  intro tail enough
  exact breaks tail (wider.trans enough)

theorem bind {first : Call (List UInt8) PldmCodecError α}
    {next : α → Call (List UInt8) PldmCodecError β} (breaks : Breaks first written room) :
    Breaks (first >>= next) written room := by
  intro tail enough
  obtain ⟨left, hfirst⟩ := breaks tail enough
  refine ⟨left, ?_⟩
  show Call.bind first next (written ++ tail) = _
  rw [Call.bind, hfirst]

/-- What comes after a write that succeeds. -/
theorem fills_bind {first : Call (List UInt8) PldmCodecError α}
    {next : α → Call (List UInt8) PldmCodecError β} {value : α}
    (fills : Fills first written fields value)
    (breaks : Breaks (next value) (written ++ fields) room) :
    Breaks (first >>= next) written (fields.length + room) := by
  intro tail enough
  have hfirst := fills tail (by omega)
  obtain ⟨left, hnext⟩ := breaks (tail.drop fields.length) (by rw [List.length_drop]; omega)
  refine ⟨left, ?_⟩
  show Call.bind first next (written ++ tail) = _
  rw [Call.bind, hfirst]
  exact hnext

/-- A length above the array's. -/
theorem slicePrefix {data : List UInt8} {len : ℕ} (overlong : data.length < len) :
    Breaks (slicePrefix data len) written 0 := by
  intro tail _
  refine ⟨written ++ tail, ?_⟩
  rw [Protocol.slicePrefix, if_neg (not_le.mpr overlong)]
  rfl

end Breaks

/-- The encoder turns away a buffer of fewer than `size` bytes and panics in any other. -/
def Overruns (encode : Encoder) (size : ℕ) : Prop :=
  ∀ buffer, (buffer.length < size → encode buffer = (.err .bufferTooShort, buffer)) ∧
    (size ≤ buffer.length → ∃ left, encode buffer = (.panic, left))

theorem overruns_of_breaks {encode write : Encoder} {size : ℕ}
    (checks : encode = do
      let buffer ← Call.get
      if buffer.length < size then Call.fail .bufferTooShort else write)
    (breaks : Breaks write [] size) : Overruns encode size := by
  intro buffer
  have hruns : encode buffer =
      (if buffer.length < size then Call.fail .bufferTooShort else write) buffer := by
    rw [checks]
    rfl
  rw [hruns]
  constructor
  · intro short
    rw [if_pos short]
    rfl
  · intro enough
    rw [if_neg (not_lt.mpr enough)]
    exact breaks buffer enough

theorem breaks_encodeFrom {inner : Encoder} {size offset : ℕ} {written : List UInt8}
    (overruns : Overruns inner size) (here : offset = written.length) :
    Breaks (encodeFrom offset inner) written size := by
  subst here
  intro tail enough
  obtain ⟨left, hinner⟩ := (overruns tail).2 enough
  refine ⟨written ++ left, ?_⟩
  have hroom : written.length ≤ (written ++ tail).length := by simp
  have hdrop : (written ++ tail).drop written.length = tail := List.drop_left
  have htake : (written ++ tail).take written.length = written := List.take_left
  rw [encodeFrom, if_pos hroom, hdrop, hinner, htake]

/-- A table in which some entry overruns. -/
theorem breaks_table {ι α : Type} {lookup : ι → Outcome PldmCodecError α} {encode : α → Encoder}
    {value : ι → α} {spell : α → List UInt8} {size : α → ℕ} (indices : List ι)
    (finds : ∀ index ∈ indices, lookup index = .ok (value index))
    (ends : ∀ index ∈ indices, (encode (value index) = writeToPrefix (spell (value index)) ∧
      (spell (value index)).length = size (value index)) ∨
        Overruns (encode (value index)) (size (value index)))
    (overrun : ∃ index ∈ indices, Overruns (encode (value index)) (size (value index)))
    {offset : ℕ} {written : List UInt8} (here : offset = written.length) :
    Breaks (indices.foldlM (fun offset index => do
        let found ← Call.ofOutcome (lookup index)
        let bytes ← encodeFrom offset (encode found)
        pure (offset + bytes)) offset) written
      (indices.map fun index => size (value index)).sum := by
  induction indices generalizing offset written with
  | nil =>
      obtain ⟨_, member, _⟩ := overrun
      cases member
  | cons index rest ih =>
      have hfound : Fills (Call.ofOutcome (lookup index)) written [] (value index) := by
        rw [finds index List.mem_cons_self]
        exact Fills.ofOutcome _
      have hlast : offset = (written ++ []).length := by rw [List.append_nil, here]
      rw [List.foldlM_cons, List.map_cons, List.sum_cons]
      by_cases hhere : Overruns (encode (value index)) (size (value index))
      · apply Breaks.mono _ (Nat.le_add_right _ _)
        apply Breaks.bind
        rw [← Nat.zero_add (size (value index))]
        apply Breaks.fills_bind hfound
        apply Breaks.bind
        exact breaks_encodeFrom hhere hlast
      · obtain ⟨hwrites, hlength⟩ := (ends index List.mem_cons_self).resolve_right hhere
        have hrest := ih (fun other member => finds other (List.mem_cons_of_mem _ member))
          (fun other member => ends other (List.mem_cons_of_mem _ member))
          (by
            obtain ⟨other, member, hother⟩ := overrun
            rcases List.mem_cons.mp member with rfl | later
            · exact absurd hother hhere
            · exact ⟨other, later, hother⟩)
          (show offset + (spell (value index)).length =
            (written ++ spell (value index)).length by simp [here])
        have hfirst : Fills (do
            let found ← Call.ofOutcome (lookup index)
            let bytes ← encodeFrom offset (encode found)
            pure (offset + bytes)) written (spell (value index))
            (offset + (spell (value index)).length) := by
          apply Fills.congr
          · apply Fills.bind hfound
            apply Fills.bind
            · exact fills_encodeFrom hwrites hlast
            exact Fills.pure _
          · simp
          · rfl
        rw [← hlength]
        exact Breaks.fills_bind hfirst hrest

/-! ## Entries -/

/-- A descriptor longer than its array. -/
theorem overruns_descriptor {descriptor : Descriptor} (overlong : ¬ descriptor.Fits) :
    Overruns descriptor.encode descriptor.codecSizeInBytes := by
  unfold Descriptor.Fits at overlong
  apply overruns_of_breaks rfl
  apply Breaks.mono
  · apply Breaks.fills_bind
    · exact Fills.writeAt rfl
    apply Breaks.fills_bind
    · exact Fills.writeAt (by simp)
    apply Breaks.bind
    exact Breaks.slicePrefix (by rw [List.Vector.toList_length]; omega)
  · simp [Descriptor.codecSizeInBytes]

/-- An entry with a version string longer than its array. -/
theorem overruns_entry {entry : ComponentParameterEntry}
    (overlong : ¬ entry.Fits) : Overruns entry.encode entry.codecSizeInBytes := by
  have hfixed := ComponentParameterEntryFixed.length_toBytes entry.compParamEntryFixed
  apply overruns_of_breaks rfl
  by_cases active :
      entry.compParamEntryFixed.activeCompVerStrLen.toNat ≤ pldmFwupImageSetVerStrMaxLen
  · have hactive := FixedBytes.length_take entry.activeCompVerStr active
    cases hpending : entry.pendingCompVerStr with
    | none => exact absurd ⟨active, by simp [hpending]⟩ overlong
    | some data =>
        have hlong : ¬ entry.compParamEntryFixed.pendingCompVerStrLen.toNat ≤
            pldmFwupImageSetVerStrMaxLen := fun fits => overlong ⟨active, fun _ => fits⟩
        apply Breaks.mono
        · apply Breaks.fills_bind
          · exact Fills.writeAt rfl
          apply Breaks.fills_bind
          · exact Fills.slicePrefix (by rw [List.Vector.toList_length]; exact active)
          apply Breaks.fills_bind
          · exact Fills.writeAt (by simp [hfixed])
          apply Breaks.bind
          exact Breaks.slicePrefix (by rw [List.Vector.toList_length]; omega)
        · simp [ComponentParameterEntry.codecSizeInBytes, hfixed, hactive]
  · apply Breaks.mono
    · apply Breaks.fills_bind
      · exact Fills.writeAt rfl
      apply Breaks.bind
      exact Breaks.slicePrefix (by rw [List.Vector.toList_length]; omega)
    · simp [ComponentParameterEntry.codecSizeInBytes, hfixed, Nat.add_assoc]

theorem entry_ends (entry : ComponentParameterEntry) :
    (entry.encode = writeToPrefix entry.toBytes ∧
      entry.toBytes.length = entry.codecSizeInBytes) ∨
        Overruns entry.encode entry.codecSizeInBytes := by
  by_cases fits : entry.Fits
  · exact .inl ⟨ComponentParameterEntry.encode_eq fits,
      ComponentParameterEntry.length_toBytes fits⟩
  · exact .inr (overruns_entry fits)

theorem descriptor_ends (descriptor : Descriptor) :
    (descriptor.encode = writeToPrefix descriptor.toBytes ∧
      descriptor.toBytes.length = descriptor.codecSizeInBytes) ∨
        Overruns descriptor.encode descriptor.codecSizeInBytes := by
  by_cases fits : descriptor.Fits
  · exact .inl ⟨Descriptor.encode_eq fits, Descriptor.length_toBytes fits⟩
  · exact .inr (overruns_descriptor fits)

/-- What comes after an optional string that fits its array. -/
theorem breaks_pendingText_then {len : UInt8} {offset : ℕ} {written : List UInt8}
    {string : Option (FixedBytes pldmFwupImageSetVerStrMaxLen)} {room : ℕ}
    {next : ℕ → Encoder}
    (fits : string.isSome → len.toNat ≤ pldmFwupImageSetVerStrMaxLen)
    (here : offset = written.length)
    (breaks : Breaks (next (offset + (pendingText len string).length))
      (written ++ pendingText len string) room) :
    Breaks (match string with
      | some data => do
          writeAt offset (← slicePrefix data.toList len.toNat)
          next (offset + len.toNat)
      | none => next offset) written ((pendingText len string).length + room) := by
  cases string with
  | none => simpa [pendingText] using breaks
  | some data =>
      have hlength := FixedBytes.length_take data (fits rfl)
      have hsliced : (pendingText len (some data)).length + room =
          ([] : List UInt8).length + ((pendingText len (some data)).length + room) := by simp
      rw [hsliced]
      apply Breaks.fills_bind
      · exact Fills.slicePrefix (by rw [List.Vector.toList_length]; exact fits rfl)
      apply Breaks.fills_bind
      · exact Fills.writeAt (by rw [List.append_nil, here])
      simpa [pendingText, hlength] using breaks

/-! ## Messages -/

namespace QueryDeviceIdentifiersResponse

variable {response : QueryDeviceIdentifiersResponse}

/-- A response of which a counted descriptor is longer than its array. -/
theorem overruns (overlong : ¬ response.Fits) :
    Overruns response.encode response.codecSizeInBytes := by
  have hhead := response.length_headBytes
  apply overruns_of_breaks rfl
  by_cases initial : response.initialDescriptor.Fits
  · have hinitial := Descriptor.length_toBytes initial
    have hoverrun : ∃ descriptor ∈ response.additional,
        Overruns descriptor.encode descriptor.codecSizeInBytes := by
      by_contra none
      refine overlong ⟨initial, fun descriptor member => ?_⟩
      by_contra unfit
      exact none ⟨descriptor, member, overruns_descriptor unfit⟩
    apply Breaks.mono
    · apply Breaks.fills_bind
      · exact Fills.writeAt rfl
      apply Breaks.fills_bind
      · exact fills_encodeFrom (Descriptor.encode_eq initial) hhead.symm
      exact @breaks_table Descriptor Descriptor .ok Descriptor.encode id Descriptor.toBytes
        Descriptor.codecSizeInBytes response.additional (fun _ _ => rfl)
        (fun descriptor _ => descriptor_ends descriptor) hoverrun
        (9 + response.initialDescriptor.toBytes.length)
        (([] ++ response.headBytes) ++ response.initialDescriptor.toBytes)
        (by simp [hhead])
    · simp [codecSizeInBytes, hhead, hinitial, Nat.add_assoc]
  · apply Breaks.mono
    · apply Breaks.fills_bind
      · exact Fills.writeAt rfl
      apply Breaks.bind
      exact breaks_encodeFrom (overruns_descriptor initial) hhead.symm
    · simp [codecSizeInBytes, hhead, Nat.add_assoc]

end QueryDeviceIdentifiersResponse

namespace FirmwareParameters

variable {params : FirmwareParameters}

/-- A table that announces more entries than it holds has no size. -/
theorem codecSizeInBytes_of_many (many : maxComponentCount < params.compCount.toNat) :
    params.codecSizeInBytes = .panic := by
  have hmissing : params.entry maxComponentCount = .panic := by
    simp [entry, List.Vector.toList_length]
  have hfold (indices : List ℕ) (member : maxComponentCount ∈ indices) (start : ℕ) :
      indices.foldlM (fun bytes index => do
        let found ← params.entry index
        pure (bytes + found.codecSizeInBytes)) start = .panic := by
    induction indices generalizing start with
    | nil => cases member
    | cons index rest ih =>
        rw [List.foldlM_cons]
        rcases List.mem_cons.mp member with rfl | later
        · rw [hmissing]
          rfl
        · unfold entry
          split
          · simp only [Outcome.ok_bind, Outcome.pure_eq]
            exact ih later _
          · rfl
  exact hfold _ (List.mem_range.mpr many) _

/-- Parameters with a string longer than its array. -/
theorem overruns (counted : params.compCount.toNat ≤ maxComponentCount)
    (overlong : ¬ params.Fits) : Overruns params.encode params.announcedSize := by
  have hsize := codecSizeInBytes_of_counted counted
  have hfixed := params.length_fixedBytes
  apply overruns_of_breaks
  · unfold encode
    rw [hsize]
    rfl
  by_cases active : params.activeCompImageSetVerStrLen.toNat ≤ pldmFwupImageSetVerStrMaxLen
  · have hactive := FixedBytes.length_take params.activeCompImageSetVerStr active
    by_cases pending : params.pendingCompImageSetVerStr.isSome →
        params.pendingCompImageSetVerStrLen.toNat ≤ pldmFwupImageSetVerStrMaxLen
    · have hpending := length_pendingText pending
      have hoverrun : ∃ index ∈ List.range params.compCount.toNat,
          Overruns (params.compParamTable.toList.getD index
            ComponentParameterEntry.default).encode (params.compParamTable.toList.getD index
              ComponentParameterEntry.default).codecSizeInBytes := by
        by_contra none
        refine overlong ⟨active, pending, counted, fun entry member => ?_⟩
        by_contra unfit
        rw [← map_range_entries counted, List.mem_map] at member
        obtain ⟨index, inside, rfl⟩ := member
        exact none ⟨index, inside, overruns_entry unfit⟩
      have htable (offset : ℕ) (written : List UInt8) (here : offset = written.length) :=
        breaks_table (List.range params.compCount.toNat)
          (fun index member => entry_eq counted member)
          (fun index _ => entry_ends (params.compParamTable.toList.getD index
            ComponentParameterEntry.default)) hoverrun here
      have hsum : (List.range params.compCount.toNat).map (fun index =>
          (params.compParamTable.toList.getD index
            ComponentParameterEntry.default).codecSizeInBytes) =
          params.entries.map (·.codecSizeInBytes) := by
        rw [← map_range_entries counted, List.map_map]
        rfl
      apply Breaks.mono
      · apply Breaks.fills_bind
        · exact Fills.writeAt rfl
        apply Breaks.fills_bind
        · exact Fills.slicePrefix (by rw [List.Vector.toList_length]; exact active)
        apply Breaks.fills_bind
        · exact Fills.writeAt (by simp [hfixed])
        exact @breaks_pendingText_then _ _ _ _ _ (fun offset =>
            (List.range params.compCount.toNat).foldlM (fun offset index => do
              let found ← Call.ofOutcome (params.entry index)
              let bytes ← encodeFrom offset found.encode
              pure (offset + bytes)) offset) pending (by simp [hfixed, hactive])
          (htable _ _ (by simp [hfixed, hactive, Nat.add_assoc]))
      · rw [hsum, hpending]
        simp only [announcedSize, hfixed, hactive, List.length_nil]
        omega
    · obtain ⟨present, hlong⟩ := Classical.not_imp.mp pending
      obtain ⟨data, hdata⟩ := Option.isSome_iff_exists.mp present
      apply Breaks.mono
      · apply Breaks.fills_bind
        · exact Fills.writeAt rfl
        apply Breaks.fills_bind
        · exact Fills.slicePrefix (by rw [List.Vector.toList_length]; exact active)
        apply Breaks.fills_bind
        · exact Fills.writeAt (by simp [hfixed])
        rw [hdata]
        apply Breaks.bind
        exact Breaks.slicePrefix (by rw [List.Vector.toList_length]; omega)
      · simp only [announcedSize, hfixed, hactive, List.length_nil]
        omega
  · apply Breaks.mono
    · apply Breaks.fills_bind
      · exact Fills.writeAt rfl
      apply Breaks.bind
      exact Breaks.slicePrefix (by rw [List.Vector.toList_length]; omega)
    · simp only [announcedSize, hfixed]
      omega

end FirmwareParameters

/-- The response checks the size of its parameters before it writes anything. -/
theorem GetFirmwareParametersResponse.overruns {response : GetFirmwareParametersResponse}
    (counted : response.parms.compCount.toNat ≤ maxComponentCount)
    (overlong : ¬ response.parms.Fits) :
    Overruns response.encode (pldmMsgHeaderLen + 1 + response.parms.announcedSize) := by
  have hsize := FirmwareParameters.codecSizeInBytes_of_counted counted
  apply overruns_of_breaks
  · unfold encode
    rw [hsize]
    rfl
  apply Breaks.mono
  · apply Breaks.fills_bind
    · exact Fills.writeAt rfl
    apply Breaks.bind
    exact breaks_encodeFrom (FirmwareParameters.overruns counted overlong) rfl
  · simp [pldmMsgHeaderLen]

/-- The size of a table that announces too much is not even computed. -/
theorem GetFirmwareParametersResponse.overruns_of_many {response : GetFirmwareParametersResponse}
    (many : maxComponentCount < response.parms.compCount.toNat) :
    Overruns response.encode 0 := by
  intro buffer
  refine ⟨fun short => absurd short (Nat.not_lt_zero _), fun _ => ⟨buffer, ?_⟩⟩
  show Call.wp response.encode (fun outcome left => (outcome, left) = (.panic, buffer)) buffer
  simp only [encode, Call.wp_bind, Call.wp_get, Call.wp_ofOutcome,
    FirmwareParameters.codecSizeInBytes_of_many many]

end PldmLib.Message
