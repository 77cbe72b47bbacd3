/-
# Announced counts

The tables of the inventory messages are arrays of fixed size, and how many of their
entries are there is announced by a count that travels separately. A constructor takes the
count from its caller and a decoder takes it off the wire, so it may be any number. What
becomes of a message depends on whether the count is one that the array can have.
-/

import PldmLib.Message.Overrun
import PldmLib.Message.Eligibility

namespace PldmLib.Protocol

open PldmLib.Machine

namespace FixedBytes

variable {size len : ℕ}

/-- The array with zeros behind its valid part. -/
def cut (len : ℕ) (bytes : FixedBytes size) : FixedBytes size := padTo size (bytes.toList.take len)

theorem padded_cut (bytes : FixedBytes size) (fits : len ≤ size) : Padded len (bytes.cut len) := by
  have hlength := length_take bytes fits
  have hpadded := padded_padTo (hlength.trans_le fits)
  rwa [hlength] at hpadded

theorem take_cut (bytes : FixedBytes size) (fits : len ≤ size) :
    (bytes.cut len).toList.take len = bytes.toList.take len := by
  have hlength := length_take bytes fits
  have htake := take_padTo (hlength.trans_le fits)
  rwa [hlength] at htake

end FixedBytes

/-! ## Optional strings -/

section PendingStrings

variable {len : UInt8} {string : Option (FixedBytes pldmFwupImageSetVerStrMaxLen)}

/-- A string that is announced is there. -/
def PendingPresent (len : UInt8) (string : Option (FixedBytes pldmFwupImageSetVerStrMaxLen)) :
    Prop := len > 0 → string.isSome

instance : Decidable (PendingPresent len string) := inferInstanceAs (Decidable (_ → _))

/-- What the decoder makes of it. -/
def cutPending (len : UInt8) (string : Option (FixedBytes pldmFwupImageSetVerStrMaxLen)) :
    Option (FixedBytes pldmFwupImageSetVerStrMaxLen) :=
  if len > 0 then string.map (FixedBytes.cut len.toNat) else none

theorem pendingCanonical_cut (fits : string.isSome → len.toNat ≤ pldmFwupImageSetVerStrMaxLen)
    (present : PendingPresent len string) : PendingCanonical len (cutPending len string) := by
  by_cases announced : len > 0
  · obtain ⟨data, rfl⟩ := Option.isSome_iff_exists.mp (present announced)
    rw [cutPending, if_pos announced]
    exact ⟨announced, data.padded_cut (fits rfl)⟩
  · rw [cutPending, if_neg announced]
    rw [gt_iff_lt, UInt8.not_lt] at announced
    exact UInt8.le_zero_iff.mp announced

theorem pendingText_cut (fits : string.isSome → len.toNat ≤ pldmFwupImageSetVerStrMaxLen)
    (present : PendingPresent len string) :
    pendingText len (cutPending len string) = pendingText len string := by
  by_cases announced : len > 0
  · obtain ⟨data, rfl⟩ := Option.isSome_iff_exists.mp (present announced)
    rw [cutPending, if_pos announced]
    exact data.take_cut (fits rfl)
  · rw [cutPending, if_neg announced]
    rw [gt_iff_lt, UInt8.not_lt] at announced
    obtain rfl := UInt8.le_zero_iff.mp announced
    cases string <;> simp [pendingText]

end PendingStrings

namespace ComponentParameterEntry

variable {entry : ComponentParameterEntry}

/-- Each string that the entry announces is there. -/
def Present (entry : ComponentParameterEntry) : Prop :=
  PendingPresent entry.compParamEntryFixed.pendingCompVerStrLen entry.pendingCompVerStr

/-- The entry as the decoder returns it. -/
def trimmed (entry : ComponentParameterEntry) : ComponentParameterEntry where
  compParamEntryFixed := entry.compParamEntryFixed
  activeCompVerStr := entry.activeCompVerStr.cut entry.compParamEntryFixed.activeCompVerStrLen.toNat
  pendingCompVerStr :=
    cutPending entry.compParamEntryFixed.pendingCompVerStrLen entry.pendingCompVerStr

theorem canonical_trimmed (fits : entry.Fits) (present : entry.Present) :
    entry.trimmed.Canonical :=
  ⟨entry.activeCompVerStr.padded_cut fits.active, pendingCanonical_cut fits.pending present⟩

theorem toBytes_trimmed (fits : entry.Fits) (present : entry.Present) :
    entry.trimmed.toBytes = entry.toBytes := by
  have hactive := entry.activeCompVerStr.take_cut fits.active
  have hpending := pendingText_cut fits.pending present
  exact congrArg₂ (fun active pending => entry.compParamEntryFixed.toBytes ++ active ++ pending)
    hactive hpending

/-- The constructor announces no string that is not there. -/
theorem present_of_new {compClassification compIdentifier : UInt16}
    {compClassificationIndex : UInt8} {activeFirmwareVersion pendingFirmwareVersion :
      PldmFirmwareVersion} {compActivationMethods : UInt16} {capabilitiesDuringUpdate : UInt32}
    (built : new compClassification compIdentifier compClassificationIndex
      activeFirmwareVersion pendingFirmwareVersion compActivationMethods
      capabilitiesDuringUpdate = .ok entry) : entry.Present := by
  unfold new at built
  cases hactive : activeFirmwareVersion.str.copyText with
  | err error =>
      rw [hactive] at built
      cases built
  | panic =>
      rw [hactive] at built
      cases built
  | ok active =>
      rw [hactive] at built
      by_cases announced : pendingFirmwareVersion.str.strLen > 0
      · simp only [announced, ↓reduceIte, Outcome.ok_bind] at built
        cases hpending : pendingFirmwareVersion.str.copyText with
        | err error =>
            rw [hpending] at built
            cases built
        | panic =>
            rw [hpending] at built
            cases built
        | ok pending =>
            rw [hpending] at built
            obtain rfl := Outcome.ok.inj built
            exact fun _ => rfl
      · simp only [announced, ↓reduceIte, Outcome.ok_bind, Outcome.pure_eq] at built
        obtain rfl := Outcome.ok.inj built
        exact fun impossible => absurd impossible announced

end ComponentParameterEntry

end PldmLib.Protocol

namespace PldmLib.Message

open PldmLib.Machine PldmLib.Protocol

/-! ## Firmware parameters -/

namespace FirmwareParameters

variable {params : FirmwareParameters}

/-- What comes before the table. -/
def frontBytes (params : FirmwareParameters) : List UInt8 :=
  params.fixedBytes ++
    params.activeCompImageSetVerStr.toList.take params.activeCompImageSetVerStrLen.toNat ++
    pendingText params.pendingCompImageSetVerStrLen params.pendingCompImageSetVerStr

/-- The bytes go on with `count` entries. -/
def SpellsEntries (count : ℕ) (coming : List UInt8) : Prop :=
  ∃ entries : List ComponentParameterEntry, ∃ after,
    coming = entries.flatMap ComponentParameterEntry.toBytes ++ after ∧
      entries.length = count ∧ ∀ entry ∈ entries, entry.Canonical

/-- The front of a message says how many entries are looked for behind it. -/
theorem runAt_front (active : params.activeCompImageSetVerStrLen.toNat ≤
      pldmFwupImageSetVerStrMaxLen)
    (pending : params.pendingCompImageSetVerStr.isSome →
      params.pendingCompImageSetVerStrLen.toNat ≤ pldmFwupImageSetVerStrMaxLen)
    (present : PendingPresent params.pendingCompImageSetVerStrLen
      params.pendingCompImageSetVerStr) (coming : List UInt8) :
    scanner.runAt [] (params.frontBytes ++ coming) =
      (if params.compCount.toNat > maxComponentCount then
        Scanner.fail .invalidData
      else do
        let entries ← Scanner.repeated
          (Scanner.nestedGet .bufferTooShort ComponentParameterEntry.decode (·.codecSizeInBytes))
          params.compCount.toNat
        pure { params with
          activeCompImageSetVerStr := params.activeCompImageSetVerStr.cut
            params.activeCompImageSetVerStrLen.toNat
          pendingCompImageSetVerStr := cutPending params.pendingCompImageSetVerStrLen
            params.pendingCompImageSetVerStr
          compParamTable := filled maxComponentCount ComponentParameterEntry.default
            entries } : FieldScanner FirmwareParameters).runAt params.frontBytes coming := by
  have hactive := FixedBytes.take_cut params.activeCompImageSetVerStr active
  have hpending := pendingText_cut pending present
  have hpadded := FixedBytes.padded_cut params.activeCompImageSetVerStr active
  have hcanonical := pendingCanonical_cut pending present
  unfold frontBytes
  rw [← hactive, ← hpending]
  simp only [fixedBytes, scanner, List.append_assoc, List.cons_append, List.nil_append,
    Look.runAt_u32, Look.runAt_u16, Look.runAt_u8]
  rw [runAt_boundedData hpadded, runAt_pendingString hcanonical]
  simp only [List.append_assoc, List.cons_append, List.nil_append]

/-- What is behind the front is accepted if it spells as many entries as are announced, and
no more than the table has room for. -/
theorem accepts_front (active : params.activeCompImageSetVerStrLen.toNat ≤
      pldmFwupImageSetVerStrMaxLen)
    (pending : params.pendingCompImageSetVerStr.isSome →
      params.pendingCompImageSetVerStrLen.toNat ≤ pldmFwupImageSetVerStrMaxLen)
    (present : PendingPresent params.pendingCompImageSetVerStrLen
      params.pendingCompImageSetVerStr) (coming : List UInt8) :
    (∃ decoded, decode (params.frontBytes ++ coming) = .ok decoded) ↔
      params.compCount.toNat ≤ maxComponentCount ∧
        SpellsEntries params.compCount.toNat coming := by
  have hrun := runAt_front active pending present coming
  simp only [decode, Scanner.decode_eq_runAt, hrun, Outcome.map_eq_ok]
  by_cases many : params.compCount.toNat > maxComponentCount
  · rw [if_pos many]
    refine iff_of_false ?_ (fun few => absurd few.1 (not_le.mpr many))
    rintro ⟨_, _, failed, _⟩
    cases failed
  · rw [if_neg many]
    constructor
    · rintro ⟨_, returned, found, _⟩
      refine ⟨not_lt.mp many, ?_⟩
      refine Scanner.Holds.of_ok ?_ found
      apply Scanner.holds_bind
      apply Scanner.holds_repeated holds_entry
      intro entries after hcoming counted canonical
      apply Scanner.holds_pure
      exact ⟨entries, after, hcoming, counted, canonical⟩
    · rintro ⟨_, entries, after, rfl, counted, canonical⟩
      have hentries := Scanner.runAt_repeated entries
        (fun entry member => runAt_entry (canonical entry member)) params.frontBytes after
      rw [counted] at hentries
      rw [Scanner.runAt_bind hentries]
      exact ⟨_, _, rfl, rfl⟩

theorem toBytes_eq_front : params.toBytes =
    params.frontBytes ++ params.entries.flatMap ComponentParameterEntry.toBytes := rfl

/-- Entries of which each announced string is there are spelled as the decoder reads
them. -/
theorem spellsEntries_of_present (fits : params.Fits)
    (present : ∀ entry ∈ params.entries, entry.Present) :
    SpellsEntries params.compCount.toNat
      (params.entries.flatMap ComponentParameterEntry.toBytes) := by
  refine ⟨params.entries.map ComponentParameterEntry.trimmed, [], ?_, ?_, ?_⟩
  · rw [List.append_nil, List.flatMap_map]
    apply List.flatMap_congr
    intro entry member
    exact (ComponentParameterEntry.toBytes_trimmed (fits.entries entry member)
      (present entry member)).symm
  · rw [List.length_map, length_entries_eq fits]
  · intro trimmed member
    obtain ⟨entry, hentry, rfl⟩ := List.mem_map.mp member
    exact ComponentParameterEntry.canonical_trimmed (fits.entries entry hentry)
      (present entry hentry)

/-- The parameters, and every response that carries them, can be encoded and what is
written is accepted. -/
structure Encodable (params : FirmwareParameters) : Prop where
  safe : Safe params.encode
  accepted : Accepted params.encode fun message => ∃ decoded, decode message = .ok decoded
  response_safe : ∀ instanceId completionCode,
    Safe (GetFirmwareParametersResponse.new instanceId completionCode params).encode
  response_accepted : ∀ instanceId completionCode,
    Accepted (GetFirmwareParametersResponse.new instanceId completionCode params).encode
      fun message => (∃ decoded, GetFirmwareParametersResponse.decode message = .ok decoded) ∧
        ∃ decoded, decode (message.drop (pldmMsgHeaderLen + 1)) = .ok decoded

end FirmwareParameters

/-- A response is accepted when its parameters are. -/
theorem GetFirmwareParametersResponse.accepts_of_parms {hdr : PldmMsgHeader}
    {completionCode : UInt8} {coming : List UInt8} {parms : FirmwareParameters}
    (accepted : FirmwareParameters.decode coming = .ok parms) :
    decode (hdr.toBytes ++ [completionCode] ++ coming) = .ok ⟨hdr, completionCode, parms⟩ := by
  obtain ⟨canonical, after, rfl⟩ := (FirmwareParameters.spells coming).of_ok accepted
  have hreads := @reads ⟨hdr, completionCode, parms⟩ canonical after
  rw [toBytes, List.append_assoc] at hreads
  exact hreads

namespace FirmwareParameters

variable {params : FirmwareParameters}

theorem accepts_toBytes (fits : params.Fits)
    (present : PendingPresent params.pendingCompImageSetVerStrLen
      params.pendingCompImageSetVerStr) :
    (∃ decoded, decode params.toBytes = .ok decoded) ↔
      SpellsEntries params.compCount.toNat
        (params.entries.flatMap ComponentParameterEntry.toBytes) := by
  rw [toBytes_eq_front, accepts_front fits.active fits.pending present]
  exact and_iff_right fits.count

/-- A table that announces more than it holds is not even measured. -/
theorem not_safe_of_many (many : maxComponentCount < params.compCount.toNat) :
    ¬ Safe params.encode := by
  intro safe
  apply safe []
  have hwp : Call.wp params.encode (fun outcome _ => outcome = .panic) [] := by
    simp only [encode, Call.wp_bind, Call.wp_get, Call.wp_ofOutcome, codecSizeInBytes_of_many many]
  exact hwp

theorem encodable_iff_spells (active : params.activeCompImageSetVerStrLen.toNat ≤
      pldmFwupImageSetVerStrMaxLen)
    (pending : params.pendingCompImageSetVerStr.isSome →
      params.pendingCompImageSetVerStrLen.toNat ≤ pldmFwupImageSetVerStrMaxLen)
    (present : PendingPresent params.pendingCompImageSetVerStrLen
      params.pendingCompImageSetVerStr)
    (fits : ∀ entry ∈ params.entries, entry.Fits) :
    params.Encodable ↔ params.compCount.toNat ≤ maxComponentCount ∧
      SpellsEntries params.compCount.toNat
        (params.entries.flatMap ComponentParameterEntry.toBytes) := by
  by_cases few : params.compCount.toNat ≤ maxComponentCount
  · have hfits : params.Fits := ⟨active, pending, few, fits⟩
    have haccepts := accepts_toBytes hfits present
    have hencode := encode_eq hfits
    constructor
    · intro encodable
      have haccepted := encodable.accepted
      rw [hencode, accepted_writeToPrefix] at haccepted
      exact ⟨few, haccepts.mp haccepted⟩
    · rintro ⟨_, spelled⟩
      obtain ⟨decoded, hdecoded⟩ := haccepts.mpr spelled
      refine ⟨?_, ?_, ?_, ?_⟩
      · rw [hencode]
        exact safe_writeToPrefix _
      · rw [hencode, accepted_writeToPrefix]
        exact ⟨decoded, hdecoded⟩
      · intro instanceId completionCode
        rw [GetFirmwareParametersResponse.encode_eq hfits]
        exact safe_writeToPrefix _
      · intro instanceId completionCode
        rw [GetFirmwareParametersResponse.encode_eq hfits, accepted_writeToPrefix]
        exact ⟨⟨_, GetFirmwareParametersResponse.accepts_of_parms hdecoded⟩, decoded, hdecoded⟩
  · refine iff_of_false (fun encodable => ?_) (fun condition => few condition.1)
    exact not_safe_of_many (not_le.mp few) encodable.safe

variable {capabilitiesDuringUpdate : UInt32} {compCount : UInt16}
  {active pending : PldmFirmwareString} {table : List ComponentParameterEntry}

/-- What the constructor builds can be encoded if the table has room for the announced count
and its entries are spelled as they are read. They are if each string that an entry announces
is there, and then the count alone decides. -/
theorem encodable_new_iff (activeFits : active.Fits) (pendingFits : pending.Fits)
    (fits : ∀ entry ∈ table, entry.Fits) :
    ((new capabilitiesDuringUpdate compCount active pending table).Encodable ↔
      compCount.toNat ≤ maxComponentCount ∧ SpellsEntries compCount.toNat
        ((new capabilitiesDuringUpdate compCount active pending table).entries.flatMap
          ComponentParameterEntry.toBytes)) ∧
    ((∀ entry ∈ (new capabilitiesDuringUpdate compCount active pending table).entries,
        entry.Present) →
      ((new capabilitiesDuringUpdate compCount active pending table).Encodable ↔
        compCount.toNat ≤ maxComponentCount)) := by
  have hpending : (new capabilitiesDuringUpdate compCount active pending
      table).pendingCompImageSetVerStr =
        if pending.strLen > 0 then some pending.strData else none := rfl
  have hpresent : PendingPresent pending.strLen
      (new capabilitiesDuringUpdate compCount active pending table).pendingCompImageSetVerStr := by
    intro announced
    rw [hpending, if_pos announced]
    rfl
  have hfits : ∀ entry ∈ (new capabilitiesDuringUpdate compCount active pending table).entries,
      entry.Fits := by
    intro entry member
    obtain inside | rfl := mem_filled (List.mem_of_mem_take member)
    · exact fits entry inside
    · exact ComponentParameterEntry.canonical_default.fits
  have hencodable := @encodable_iff_spells
    (new capabilitiesDuringUpdate compCount active pending table) activeFits (fun _ => pendingFits)
    hpresent hfits
  refine ⟨hencodable, fun present => ?_⟩
  rw [hencodable]
  refine and_iff_left_of_imp fun few => ?_
  exact spellsEntries_of_present ⟨activeFits, fun _ => pendingFits, few, hfits⟩ present

/-- A version "1.x" of a component. -/
def builtVersion (digit : UInt8) : PldmFirmwareVersion :=
  .new 1 ⟨1, 3, .padTo _ [0x31, 0x2E, digit]⟩ none

theorem canonical_builtVersion (digit : UInt8) : (builtVersion digit).str.Canonical := by
  have hfits : [0x31, 0x2E, digit].length ≤ pldmFwupImageSetVerStrMaxLen :=
    show 3 ≤ pldmFwupImageSetVerStrMaxLen by decide
  exact FixedBytes.padded_padTo hfits

/-- A device that runs version 1.0 of its only component, with version 1.1 pending. -/
theorem encodable_new_iff_built : ∃ entry,
    ComponentParameterEntry.new 10 1 0 (builtVersion 0x30) (builtVersion 0x31) 0 0 = .ok entry ∧
    ((new 0 1 (builtVersion 0x30).str (builtVersion 0x31).str [entry]).Encodable ↔
      (1 : UInt16).toNat ≤ maxComponentCount) ∧
    (new 0 1 (builtVersion 0x30).str (builtVersion 0x31).str [entry]).Encodable := by
  obtain ⟨entry, built, canonical⟩ := @ComponentParameterEntry.canonical_of_new 10 1 0
    (builtVersion 0x30) (builtVersion 0x31) 0 0 (canonical_builtVersion _)
    (canonical_builtVersion _)
  have hpresent : ∀ other ∈ (new 0 1 (builtVersion 0x30).str (builtVersion 0x31).str
      [entry]).entries, other.Present := by
    intro other member
    obtain inside | rfl := mem_filled (List.mem_of_mem_take member)
    · obtain rfl := List.mem_singleton.mp inside
      exact ComponentParameterEntry.present_of_new built
    · exact fun announced => absurd announced (by decide)
  have hencodable := (@encodable_new_iff 0 1 _ _ _ (canonical_builtVersion 0x30).fits
    (canonical_builtVersion 0x31).fits (List.forall_mem_singleton.mpr canonical.fits)).2 hpresent
  exact ⟨entry, built, hencodable, hencodable.mpr (by decide)⟩

/-- Nine components are one too many for the table, however many of them are handed over. -/
theorem nine_components_panic :
    ¬ (new 0 9 PldmFirmwareString.default PldmFirmwareString.default []).Encodable := by
  intro encodable
  exact not_safe_of_many (by decide) encodable.safe

end FirmwareParameters

/-! ## Device identifiers -/

namespace QueryDeviceIdentifiersResponse

variable {response : QueryDeviceIdentifiersResponse} {buffer : List UInt8}

/-- The descriptors that a response holds. -/
def descriptors (response : QueryDeviceIdentifiersResponse) : List Descriptor :=
  response.initialDescriptor :: response.additional

/-- No descriptor is dropped: the response holds as many as are announced, they are those of
the buffer in order, and a count that it cannot hold is not accepted. -/
structure Faithful (buffer : List UInt8) : Prop where
  counted : ∀ response, decode buffer = .ok response →
    response.descriptors.length = response.descriptorCount.toNat
  ordered : ∀ response, decode buffer = .ok response →
    (∀ descriptor ∈ response.descriptors, descriptor.Canonical) ∧ ∃ after,
      buffer = response.headBytes ++ response.descriptors.flatMap Descriptor.toBytes ++ after
  rejected : ∀ descriptorCount, buffer[8]? = some descriptorCount →
    descriptorCount = 0 ∨ additionalDescriptorsMaxCount + 1 < descriptorCount.toNat →
      ∀ response, decode buffer ≠ .ok response

/-- One descriptor stands behind a count of zero, or as many as a response holds behind a
greater count. -/
def Misannounced (buffer : List UInt8) : Prop :=
  ∃ (hdr : PldmMsgHeader) (completionCode : UInt8) (deviceIdentifiersLen : UInt32)
    (descriptorCount : UInt8) (descriptors : List Descriptor) (after : List UInt8),
    buffer = hdr.toBytes ++ [completionCode] ++ u32Bytes deviceIdentifiersLen ++
      [descriptorCount] ++ descriptors.flatMap Descriptor.toBytes ++ after ∧
    (∀ descriptor ∈ descriptors, descriptor.Canonical) ∧
    (descriptorCount = 0 ∧ descriptors.length = 1 ∨
      additionalDescriptorsMaxCount + 1 < descriptorCount.toNat ∧
        descriptors.length = additionalDescriptorsMaxCount + 1)

theorem toBytes_eq_descriptors : response.toBytes =
    response.headBytes ++ response.descriptors.flatMap Descriptor.toBytes := by
  rw [toBytes, descriptors, List.flatMap_cons, List.append_assoc]

theorem canonical_descriptors (canonical : response.Canonical) :
    ∀ descriptor ∈ response.descriptors, descriptor.Canonical := by
  rw [descriptors, List.forall_mem_cons]
  exact ⟨canonical.initial, canonical.additional⟩

/-- A canonical response holds what is announced as far as there is room for it, and at
least one descriptor. -/
theorem length_descriptors (canonical : response.Canonical) :
    response.descriptors.length =
      min (response.descriptorCount.toNat - 1) additionalDescriptorsMaxCount + 1 := by
  rw [descriptors, List.length_cons, count_additional canonical]

/-- As many descriptors as the structure has room for are read, whatever is announced. -/
theorem decode_descriptors {hdr : PldmMsgHeader} {completionCode : UInt8}
    {deviceIdentifiersLen : UInt32} {descriptorCount : UInt8} {initial : Descriptor}
    {rest : List Descriptor} (canonical : ∀ descriptor ∈ initial :: rest, descriptor.Canonical)
    (read : rest.length = min (descriptorCount.toNat - 1) additionalDescriptorsMaxCount)
    (after : List UInt8) :
    ∃ response, decode (hdr.toBytes ++ [completionCode] ++ u32Bytes deviceIdentifiersLen ++
        [descriptorCount] ++ (initial :: rest).flatMap Descriptor.toBytes ++ after) =
          .ok response ∧ response.descriptorCount = descriptorCount ∧
      response.descriptors = initial :: rest := by
  rw [List.forall_mem_cons] at canonical
  let response : QueryDeviceIdentifiersResponse :=
    ⟨hdr, completionCode, deviceIdentifiersLen, descriptorCount, initial,
      if descriptorCount > 1 then
        some (filled additionalDescriptorsMaxCount Descriptor.newEmpty rest)
      else none⟩
  have hadditional : response.additional = rest := additional_of_filled rfl read
  have hdescriptors : response.descriptors = initial :: rest := by
    rw [descriptors, hadditional]
  have hcanonical : response.Canonical := by
    refine ⟨canonical.1, by rw [hadditional]; exact canonical.2, ?_⟩
    rw [hadditional]
  refine ⟨response, ?_, rfl, hdescriptors⟩
  have hreads := reads hcanonical after
  rwa [toBytes_eq_descriptors, hdescriptors] at hreads

/-- A message that is announced wrongly is accepted all the same. -/
theorem decode_of_misannounced (misannounced : Misannounced buffer) :
    ∃ response, decode buffer = .ok response ∧
      response.descriptors.length ≠ response.descriptorCount.toNat := by
  obtain ⟨hdr, completionCode, deviceIdentifiersLen, descriptorCount, descriptors, after, rfl,
    canonical, wrong⟩ := misannounced
  cases descriptors with
  | nil => rcases wrong with ⟨_, impossible⟩ | ⟨_, impossible⟩ <;> cases impossible
  | cons initial rest =>
      have hread : rest.length = min (descriptorCount.toNat - 1) additionalDescriptorsMaxCount ∧
          (initial :: rest).length ≠ descriptorCount.toNat := by
        rw [List.length_cons] at wrong ⊢
        rcases wrong with ⟨rfl, single⟩ | ⟨many, full⟩
        · exact ⟨by simp at single ⊢; exact single, by simp⟩
        · omega
      obtain ⟨response, hdecode, hcount, hdescriptors⟩ :=
        decode_descriptors canonical hread.1 after
      refine ⟨response, hdecode, ?_⟩
      rw [hdescriptors, hcount]
      exact hread.2

/-- The count is the ninth byte of a message that is accepted. -/
theorem count_of_decode (accepted : decode buffer = .ok response) :
    buffer[8]? = some response.descriptorCount := by
  obtain ⟨_, after, rfl⟩ := (spells buffer).of_ok accepted
  simp [toBytes, headBytes, PldmMsgHeader.toBytes, u32Bytes, leBytes]

/-- A message that is accepted with a count that the structure cannot hold is announced
wrongly. -/
theorem misannounced_of_decode (accepted : decode buffer = .ok response)
    (unheld : response.descriptorCount = 0 ∨
      additionalDescriptorsMaxCount + 1 < response.descriptorCount.toNat) :
    Misannounced buffer := by
  obtain ⟨canonical, after, rfl⟩ := (spells buffer).of_ok accepted
  have hlength := length_descriptors canonical
  refine ⟨response.hdr, response.completionCode, response.deviceIdentifiersLen,
    response.descriptorCount, response.descriptors, after, ?_, canonical_descriptors canonical,
    ?_⟩
  · rw [toBytes_eq_descriptors, headBytes]
  · rcases unheld with none | many
    · left
      rw [none] at hlength
      exact ⟨none, hlength⟩
    · right
      omega

/-- No descriptor is dropped, unless a message announces none or more than fit and goes on
with those that are read all the same. -/
theorem faithful_iff (buffer : List UInt8) : Faithful buffer ↔ ¬ Misannounced buffer := by
  constructor
  · intro faithful misannounced
    obtain ⟨response, accepted, different⟩ := decode_of_misannounced misannounced
    exact different (faithful.counted response accepted)
  · intro announced
    have hheld : ∀ response, decode buffer = .ok response →
        ¬ (response.descriptorCount = 0 ∨
          additionalDescriptorsMaxCount + 1 < response.descriptorCount.toNat) :=
      fun response accepted unheld => announced (misannounced_of_decode accepted unheld)
    refine ⟨?_, ?_, ?_⟩
    · intro response accepted
      obtain ⟨canonical, _⟩ := (spells buffer).of_ok accepted
      have hsome := hheld response accepted
      rw [length_descriptors canonical]
      have hpositive : response.descriptorCount.toNat ≠ 0 := fun zero =>
        hsome (.inl (UInt8.toNat_inj.mp zero))
      omega
    · intro response accepted
      obtain ⟨canonical, after, hbuffer⟩ := (spells buffer).of_ok accepted
      exact ⟨canonical_descriptors canonical, after, by rw [hbuffer, toBytes_eq_descriptors]⟩
    · intro descriptorCount announcedCount unheld response accepted
      rw [count_of_decode accepted] at announcedCount
      obtain rfl := Option.some.inj announcedCount
      exact hheld response accepted unheld

/-- A response that announces no descriptor and carries an empty one. -/
theorem unannounced_descriptor_accepted :
    ¬ Faithful [0, 5, 1, 0, 4, 0, 0, 0, 0, 0, 0, 0, 0] := by
  intro faithful
  have hmisannounced : Misannounced [0, 5, 1, 0, 4, 0, 0, 0, 0, 0, 0, 0, 0] := by
    refine ⟨⟨0, 5, 1⟩, 0, 4, 0, [Descriptor.newEmpty], [], by decide, ?_, .inl ⟨rfl, rfl⟩⟩
    intro descriptor member
    obtain rfl := List.mem_singleton.mp member
    exact Descriptor.canonical_newEmpty
  obtain ⟨response, accepted, different⟩ := decode_of_misannounced hmisannounced
  exact different (faithful.counted response accepted)

end QueryDeviceIdentifiersResponse

end PldmLib.Message
