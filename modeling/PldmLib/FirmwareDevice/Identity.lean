/-
# The identity of the device

The agent asks the device what it is, and selects the packages that it offers by the answer.
The platform describes the device by a table of descriptors and a count. The agent reads
exactly the identifiers that the counted descriptors stand for, if the buffer has room for
the answer, and otherwise it reads none.
-/

import PldmLib.Protocol.Identifier
import PldmLib.Message.AnnouncedCount
import PldmLib.FirmwareDevice.Understanding

namespace PldmLib.Message.QueryDeviceIdentifiersResponse

open PldmLib.Machine PldmLib.Protocol

variable {instanceId completionCode : UInt8} {initial : Descriptor} {rest : List Descriptor}
  {response cleaned : QueryDeviceIdentifiersResponse}

/-- What the lengths of the descriptors leave out is not sent. -/
theorem toBytes_new_cleaned
    (built : new instanceId completionCode initial (some rest) = .ok response)
    (built' : new instanceId completionCode initial.cleaned (some (rest.map Descriptor.cleaned)) =
      .ok cleaned) (fits : ∀ descriptor ∈ initial :: rest, descriptor.Fits) :
    cleaned.toBytes = response.toBytes := by
  rw [List.forall_mem_cons] at fits
  have hrest : (rest.map Descriptor.cleaned).flatMap Descriptor.toBytes =
      rest.flatMap Descriptor.toBytes := by
    rw [List.flatMap_map]
    exact List.flatMap_congr fun descriptor member =>
      Descriptor.toBytes_cleaned (fits.2 descriptor member)
  have hhead : cleaned.headBytes = response.headBytes := by
    unfold new at built built'
    simp only [Option.getD_some, List.length_map, List.map_map] at built built'
    split at built
    · cases built
    · next few =>
        rw [if_neg few] at built'
        obtain rfl := Except.ok.inj built
        obtain rfl := Except.ok.inj built'
        rfl
  obtain ⟨_, hinitial, hadditional⟩ := fields_of_new built
  obtain ⟨_, hinitial', hadditional'⟩ := fields_of_new built'
  rw [toBytes, toBytes, hhead, hinitial, hinitial', hadditional, hadditional',
    Option.getD_some, Option.getD_some, hrest, Descriptor.toBytes_cleaned fits.1]

/-- The bytes built for a table are read as the table, without what is left out. -/
theorem decode_toBytes_new
    (built : new instanceId completionCode initial (some rest) = .ok response)
    (few : rest.length ≤ additionalDescriptorsMaxCount)
    (fits : ∀ descriptor ∈ initial :: rest, descriptor.Fits) :
    ∃ read, decode response.toBytes = .ok read ∧
      read.hdr = responseHeader instanceId .queryDeviceIdentifiers ∧
      read.completionCode = completionCode ∧
      read.descriptors = (initial :: rest).map Descriptor.cleaned := by
  obtain ⟨read, built', hhdr, hcode, hinitial, hadditional, _⟩ :=
    @new_of_few instanceId completionCode initial.cleaned (some (rest.map Descriptor.cleaned))
      (by rwa [Option.getD_some, List.length_map])
  have hcanonical : read.Canonical := by
    rw [canonical_new_iff built', Option.getD_some, ← List.map_cons, List.forall_mem_map]
    exact fun descriptor member => Descriptor.canonical_cleaned (fits descriptor member)
  refine ⟨read, ?_, hhdr, hcode, ?_⟩
  · have hreads := reads hcanonical []
    rwa [List.append_nil, toBytes_new_cleaned built built' fits] at hreads
  · rw [descriptors, hinitial, hadditional, Option.getD_some, List.map_cons]

theorem long_of_decode {buffer : List UInt8} {count : ℕ}
    (decoded : decode (buffer.take count) = .ok response) : pldmFailureRespLen < count := by
  obtain ⟨canonical, after, hsplit⟩ := Outcome.Ensures.of_ok (spells _) decoded
  have hlength := congrArg List.length hsplit
  simp only [List.length_append, List.length_take, toBytes, length_headBytes] at hlength
  simp only [pldmFailureRespLen]
  omega

end PldmLib.Message.QueryDeviceIdentifiersResponse

namespace PldmLib.FirmwareDevice

open PldmLib.Machine PldmLib.Protocol PldmLib.Message

/-- The platform describes the device by a table of descriptors and their count. -/
def FdOps.Describes (ops : FdOps) (identifiers : List Identifier) : Prop :=
  identifiers ≠ [] ∧ ∃ descriptors,
    ops.getDeviceIdentifiers = .ok (descriptors, identifiers.length) ∧
    (announced descriptors identifiers.length).map Descriptor.identifier = identifiers.map some

/-- The agent reads the identifiers in a response of success. -/
def Told (instanceId : UInt8) (identifiers : List Identifier) (event : FdEvent) : Prop :=
  ∃ count response, event.output.outcome = .ok (.length count) ∧
    QueryDeviceIdentifiersResponse.decode (event.output.payload.take count) = .ok response ∧
    response.hdr = responseHeader instanceId .queryDeviceIdentifiers ∧
    response.completionCode = PldmBaseCompletionCode.success.toU8 ∧
    response.descriptors.map Descriptor.identifier = identifiers.map some

/-! ## The table -/

section Table

variable {descriptors : List Descriptor} {identifiers : List Identifier}

theorem forall₂_of_map_identifier
    (same : descriptors.map Descriptor.identifier = identifiers.map some) :
    List.Forall₂ (fun descriptor found => descriptor.identifier = some found) descriptors
      identifiers := by
  rwa [← List.forall₂_eq_eq_eq, List.forall₂_map_left_iff, List.forall₂_map_right_iff] at same

theorem length_flatMap_toBytes
    (same : descriptors.map Descriptor.identifier = identifiers.map some) :
    (descriptors.flatMap Descriptor.toBytes).length = (identifiers.map Identifier.size).sum := by
  have hreads := forall₂_of_map_identifier same
  clear same
  induction hreads with
  | nil => rfl
  | cons read _ ih =>
      rw [List.flatMap_cons, List.length_append, Descriptor.length_toBytes_of_identifier read, ih,
        List.map_cons, List.sum_cons]

theorem fits_of_map_identifier
    (same : descriptors.map Descriptor.identifier = identifiers.map some) :
    ∀ descriptor ∈ descriptors, descriptor.Fits := by
  intro descriptor member
  have hmem : descriptor.identifier ∈ identifiers.map some :=
    same ▸ List.mem_map_of_mem member
  obtain ⟨found, _, hfound⟩ := List.mem_map.mp hmem
  exact Descriptor.fits_of_identifier hfound.symm

theorem map_identifier_cleaned (fits : ∀ descriptor ∈ descriptors, descriptor.Fits) :
    (descriptors.map Descriptor.cleaned).map Descriptor.identifier =
      descriptors.map Descriptor.identifier := by
  rw [List.map_map]
  exact List.map_congr_left fun descriptor member =>
    Descriptor.identifier_cleaned (fits descriptor member)

end Table

/-- A description counts as many descriptors as the table has, at most. -/
theorem FdOps.Describes.inside {ops : FdOps} (describes : ops.Describes identifiers) :
    ¬ (identifiers.length = 0 ∨ identifiers.length > maxDescriptorsCount) := by
  obtain ⟨some, descriptors, _, same⟩ := describes
  have hlength := congrArg List.length same
  simp only [announced, List.length_map, List.length_take, List.Vector.toList_length] at hlength
  have hpos := List.length_pos_of_ne_nil some
  omega

/-! ## The answer -/

/-- Only a response is longer than a refusal. -/
theorem Finished.reply_of_long {payload final : List UInt8} {between post : FdInternal}
    {verdict : Verdict} {count : ℕ}
    (finished : Finished payload between verdict (.ok count) post final)
    (long : pldmFailureRespLen < count) :
    ∃ response commit, verdict = .reply response commit ∧ response.Fits ∧
      response.toBytes.length ≤ payload.length ∧ final.take count = response.toBytes := by
  cases finished with
  | refused => exact absurd long (lt_irrefl _)
  | answered fits room written => exact ⟨_, _, rfl, fits, room, written⟩
  | replaced _ refused =>
      cases refused
      exact absurd long (lt_irrefl _)

namespace Decides

variable {ops : FdOps} {payload : List UInt8} {pre between : FdInternal} {log : List Callback}
  {request : HeaderRequest} {identifiers : List Identifier}

/-- A platform that describes the device is asked, and its table answers. -/
theorem of_describes {verdict : Verdict}
    (decides : Decides ops payload pre .queryDevid verdict between log)
    (asked : HeaderRequest.decode payload = .ok request) (describes : ops.Describes identifiers) :
    ∃ descriptors response, verdict = .reply (.queryDeviceIdentifiers response) id ∧
      QueryDeviceIdentifiersResponse.new request.hdr.instanceId
        PldmBaseCompletionCode.success.toU8 descriptors.head
        (some ((descriptors.toList.take identifiers.length).drop 1)) = .ok response ∧
      (announced descriptors identifiers.length).map Descriptor.identifier =
        identifiers.map some := by
  have hinside := describes.inside
  obtain ⟨_, descriptors, answered, same⟩ := describes
  cases decides with
  | misplaced gated => cases gated
  | undecoded failed => simp [Handler.decodeError, asked, errorOf] at failed
  | identifiersUnknown failed =>
      rw [answered] at failed
      cases failed
  | identifiersMiscounted _ answered' outside =>
      obtain ⟨rfl, rfl⟩ := Prod.mk.inj (Except.ok.inj (answered.symm.trans answered'))
      exact absurd outside hinside
  | identified decoded answered' inside built =>
      obtain ⟨rfl, rfl⟩ := Prod.mk.inj (Except.ok.inj (answered.symm.trans answered'))
      obtain rfl := Except.ok.inj (asked.symm.trans decoded)
      exact ⟨_, _, rfl, built, same⟩
  | proxied serves => simp at serves
  | namedUnknown serves => simp at serves
  | cancelFailed cancels => cases cancels

end Decides

/-- What is read in the bytes that are built for the counted part of a table. -/
theorem decode_toBytes_announced {instanceId : UInt8}
    {descriptors : List.Vector Descriptor maxDescriptorsCount} {count : ℕ}
    {response : QueryDeviceIdentifiersResponse}
    (built : QueryDeviceIdentifiersResponse.new instanceId
      PldmBaseCompletionCode.success.toU8 descriptors.head
      (some ((descriptors.toList.take count).drop 1)) = .ok response)
    (inside : ¬ (count = 0 ∨ count > maxDescriptorsCount))
    (fits : ∀ descriptor ∈ announced descriptors count, descriptor.Fits) :
    ∃ read, QueryDeviceIdentifiersResponse.decode response.toBytes = .ok read ∧
      read.hdr = responseHeader instanceId .queryDeviceIdentifiers ∧
      read.completionCode = PldmBaseCompletionCode.success.toU8 ∧
      read.descriptors.map Descriptor.identifier =
        (announced descriptors count).map Descriptor.identifier := by
  have hfew : ((descriptors.toList.take count).drop 1).length ≤ additionalDescriptorsMaxCount := by
    simp only [List.length_drop, List.length_take, maxDescriptorsCount,
      additionalDescriptorsMaxCount] at inside ⊢
    omega
  rw [announced_eq_cons inside] at fits ⊢
  obtain ⟨read, hread, hhdr, hcode, hdescriptors⟩ :=
    QueryDeviceIdentifiersResponse.decode_toBytes_new built hfew fits
  exact ⟨read, hread, hhdr, hcode, by rw [hdescriptors, map_identifier_cleaned fits]⟩

/-- The agent reads what the platform describes, and nothing else, exactly if there is room for
the answer. -/
theorem identity_told_iff (profile : Profile) (pre : FdInternal) {payload : List UInt8}
    {ops : FdOps} {request : HeaderRequest} (asked : HeaderRequest.decode payload = .ok request)
    (identifiers : List Identifier) :
    Told request.hdr.instanceId identifiers
        (fdEvent profile pre ⟨.request .queryDevid payload, ops⟩) ↔
      ops.Describes identifiers ∧
        9 + (identifiers.map Identifier.size).sum ≤ payload.length := by
  obtain ⟨verdict, between, outcome, decides, finished, houtcome⟩ :=
    handler_ends profile pre .queryDevid payload ops
  generalize fdEvent profile pre ⟨.request .queryDevid payload, ops⟩ = event at *
  constructor
  · intro told
    obtain ⟨count, read, counted, decoded, _, _, hread⟩ := told
    have hlong : pldmFailureRespLen < count :=
      QueryDeviceIdentifiersResponse.long_of_decode decoded
    obtain rfl : outcome = .ok count := by
      cases outcome with
      | ok length =>
          injection houtcome.symm.trans counted with same
          injection same with same
          rw [same]
      | _ => cases houtcome.symm.trans counted
    obtain ⟨reply, commit, rfl, hfits, hroom, written⟩ := finished.reply_of_long hlong
    generalize event.callbacks = log at decides
    cases decides with
    | @identified descriptors counted _ response decoded' answered inside built =>
        obtain rfl := Except.ok.inj (asked.symm.trans decoded')
        have htable : ∀ descriptor ∈ announced descriptors counted, descriptor.Fits := by
          rw [announced_eq_cons inside]
          exact (QueryDeviceIdentifiersResponse.fits_new_iff built).mp hfits
        obtain ⟨_, decoded', _, _, hfound⟩ := decode_toBytes_announced built inside htable
        rw [written] at decoded
        obtain rfl := Outcome.ok.inj (decoded'.symm.trans decoded)
        have hsame := hfound.symm.trans hread
        have hcounted : identifiers.length = counted := by
          have hlength := congrArg List.length hsame
          simp only [announced, List.length_map, List.length_take,
            List.Vector.toList_length] at hlength
          omega
        have hlength := QueryDeviceIdentifiersResponse.length_toBytes_new built
        rw [Option.getD_some, ← announced_eq_cons inside, length_flatMap_toBytes hsame] at hlength
        subst hcounted
        refine ⟨⟨?_, descriptors, answered, hsame⟩, hlength.symm.trans_le hroom⟩
        rintro rfl
        exact inside (.inl rfl)
  · rintro ⟨describes, room⟩
    have hinside := describes.inside
    obtain ⟨descriptors, response, rfl, built, same⟩ := decides.of_describes asked describes
    have hfits := fits_of_map_identifier same
    obtain ⟨read, hread, hhdr, hcode, hfound⟩ := decode_toBytes_announced built hinside hfits
    have hlength := QueryDeviceIdentifiersResponse.length_toBytes_new built
    rw [Option.getD_some, ← announced_eq_cons hinside, length_flatMap_toBytes same] at hlength
    have hresponse : response.Fits := by
      rw [QueryDeviceIdentifiersResponse.fits_new_iff built, Option.getD_some,
        ← announced_eq_cons hinside]
      exact hfits
    obtain ⟨_, _, ended, written⟩ := finished.of_reply houtcome hresponse (hlength.trans_le room)
    refine ⟨_, read, ended, ?_, hhdr, hcode, hfound.trans same⟩
    rw [written]
    exact hread

def vendorId : Identifier := ⟨.pciVendorId, [0x86, 0x80], rfl⟩

def deviceId : Identifier := ⟨.pciDeviceId, [0x34, 0x12], rfl⟩

/-- A platform that is described by its vendor and its number. -/
def pciPlatform : FdOps :=
  { platform 0 with
    getDeviceIdentifiers := .ok (⟨[vendorId.descriptor, deviceId.descriptor, Descriptor.newEmpty,
      Descriptor.newEmpty], rfl⟩, 2) }

theorem identity_told_iff_pciPlatform : Told 0 [vendorId, deviceId]
    (fdEvent .release .default ⟨.request .queryDevid
      (Agent.plainRequest .queryDeviceIdentifiers 21), pciPlatform⟩) := by
  have asked : HeaderRequest.decode (Agent.plainRequest .queryDeviceIdentifiers 21) =
      .ok ⟨.new 0 .request .fwUpdate FwUpdateCmd.queryDeviceIdentifiers.toU8⟩ := rfl
  have describes : pciPlatform.Describes [vendorId, deviceId] := by
    refine ⟨nofun, _, rfl, ?_⟩
    show [vendorId.descriptor.identifier, deviceId.descriptor.identifier] = _
    rw [Descriptor.identifier_descriptor, Descriptor.identifier_descriptor]
    rfl
  exact (identity_told_iff .release .default asked _).mpr ⟨describes, by decide⟩

end PldmLib.FirmwareDevice
