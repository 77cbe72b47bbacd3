/-
# What the agent makes of an answer

The agent reads a response with the decoder of its type. The response that a handler built
is what it reads, with two exceptions. `UpdateComponent` gives the agent's option flags back
as they came and never adds the transfer size that one of them announces, so that the decoder
looks for a field that is not there. And the answers to the inventory commands carry records
of the platform; whatever those store behind the lengths they announce is not sent.
-/

import PldmLib.FirmwareDevice.Verdict
import PldmLib.FirmwareDevice.Session

namespace PldmLib.FirmwareDevice

open PldmLib.Machine PldmLib.Protocol PldmLib.Message

/-- The decoder of the type of the response reads the bytes returned, if they carry
success, as the response that the handler built. -/
def Understood (ops : FdOps) (payload : List UInt8) (pre : FdInternal) (handler : Handler)
    (event : FdEvent) : Prop :=
  event.completionCode = some PldmBaseCompletionCode.success.toU8 →
    ∃ response commit between count,
      Decides ops payload pre handler (.reply response commit) between event.callbacks ∧
      event.output.outcome = .ok (.length count) ∧
      response.decodeAs (event.output.payload.take count) = .ok response

/-- The descriptors that the platform answers with. -/
def announced (descriptors : List.Vector Descriptor maxDescriptorsCount) (count : ℕ) :
    List Descriptor :=
  descriptors.toList.take count

/-- The responses of success that are not read as they were built. -/
inductive Misread (ops : FdOps) (payload : List UInt8) (pre : FdInternal) : Handler → Prop
  | opaqueData {request : UpdateComponentRequest} {params : FirmwareParameters}
      {code : ComponentResponseCode} (ready : pre.state = .readyXfer)
      (decoded : UpdateComponentRequest.decode payload = .ok request)
      (announced : (⟨request.updateOptionFlags⟩ : UpdateOptionFlags).componentOpaqueData = true)
      (answered : ops.getFirmwareParms = .ok params)
      (handled : ops.handleComponent (FdContext.describedComponent request) params
        .updateComponent = .ok code) (known : code ≠ .vendorDefined) :
      Misread ops payload pre .updateComponent
  | identifiers {request : HeaderRequest}
      {descriptors : List.Vector Descriptor maxDescriptorsCount} {count : ℕ}
      (decoded : HeaderRequest.decode payload = .ok request)
      (answered : ops.getDeviceIdentifiers = .ok (descriptors, count))
      (inside : ¬ (count = 0 ∨ count > maxDescriptorsCount))
      (fits : ∀ descriptor ∈ announced descriptors count, descriptor.Fits)
      (room : 9 + ((announced descriptors count).flatMap Descriptor.toBytes).length ≤
        payload.length)
      (stray : ¬ ∀ descriptor ∈ announced descriptors count, descriptor.Canonical) :
      Misread ops payload pre .queryDevid
  | parameters {request : HeaderRequest} {params : FirmwareParameters}
      (decoded : HeaderRequest.decode payload = .ok request)
      (answered : ops.getFirmwareParms = .ok params) (fits : params.Fits)
      (room : 4 + params.toBytes.length ≤ payload.length) (stray : ¬ params.Canonical) :
      Misread ops payload pre .getFirmwareParameters

/-! ## The responses and their canonical form -/

theorem announced_eq_cons {descriptors : List.Vector Descriptor maxDescriptorsCount} {count : ℕ}
    (inside : ¬ (count = 0 ∨ count > maxDescriptorsCount)) :
    announced descriptors count =
      descriptors.head :: (descriptors.toList.take count).drop 1 := by
  rcases descriptors with ⟨_ | ⟨first, rest⟩, length⟩
  · cases length
  · cases count with
    | zero => exact absurd (.inl rfl) inside
    | succ count => rfl

/-- The flags come back, the transfer size does not. -/
theorem UpdateComponentResponse.canonical_new_iff {instanceId code : UInt8}
    {resp : ComponentCompatibilityResponse} {compatibility : ComponentCompatibilityResponseCode}
    {flags : UpdateOptionFlags} {time : UInt16} :
    (UpdateComponentResponse.new instanceId code resp compatibility flags time none).Canonical ↔
      flags.componentOpaqueData = false := by
  unfold UpdateComponentResponse.Canonical
  exact eq_comm

namespace Decides

variable {ops : FdOps} {payload : List UInt8} {pre between : FdInternal} {handler : Handler}
  {log : List Callback} {response : Response} {commit : FdInternal → FdInternal}

/-- A response that can be written is canonical, unless it is one of those misread. -/
theorem canonical_iff
    (decides : Decides ops payload pre handler (.reply response commit) between log)
    (fits : response.Fits) (room : response.toBytes.length ≤ payload.length) :
    response.Canonical ↔ ¬ Misread ops payload pre handler := by
  cases decides with
  | identified decoded answered inside built =>
      have hcanonical := QueryDeviceIdentifiersResponse.canonical_new_iff built
      have hfits := (QueryDeviceIdentifiersResponse.fits_new_iff built).mp fits
      have hroom := (QueryDeviceIdentifiersResponse.length_toBytes_new built).symm.trans_le room
      rw [Option.getD_some, ← announced_eq_cons inside] at hcanonical hfits hroom
      rw [Response.Canonical, hcanonical]
      constructor
      · intro canonical misread
        cases misread with
        | identifiers _ answered' _ _ _ stray =>
            obtain ⟨rfl, rfl⟩ := Prod.mk.inj (Except.ok.inj (answered.symm.trans answered'))
            exact stray canonical
      · intro read
        by_contra stray
        exact read (.identifiers decoded answered inside hfits hroom stray)
  | inventoried decoded answered =>
      constructor
      · intro canonical misread
        cases misread with
        | parameters _ answered' _ _ stray =>
            obtain rfl := Except.ok.inj (answered.symm.trans answered')
            exact stray canonical
      · intro read
        by_contra stray
        refine read (.parameters decoded answered fits ?_ stray)
        have hlength : (GetFirmwareParametersResponse.new _ _ _).toBytes.length ≤ _ := room
        rwa [GetFirmwareParametersResponse.toBytes, List.length_append] at hlength
  | described ready decoded answered handled known =>
      rw [Response.Canonical, UpdateComponentResponse.canonical_new_iff]
      constructor
      · intro unannounced misread
        cases misread with
        | opaqueData _ decoded' announced =>
            obtain rfl := Except.ok.inj (decoded.symm.trans decoded')
            rw [unannounced] at announced
            cases announced
      · intro read
        by_contra announced
        refine read (.opaqueData ready decoded (by simpa using announced) answered handled ?_)
        rintro rfl
        cases known
  | updateGranted => exact iff_of_true rfl (by rintro ⟨⟩)
  | _ => exact iff_of_true trivial (by rintro ⟨⟩)

/-- A call that finds a response misread builds it and has room for it. -/
theorem of_misread {verdict : Verdict}
    (decides : Decides ops payload pre handler verdict between log)
    (misread : Misread ops payload pre handler) :
    ∃ response commit, verdict = .reply response commit ∧ response.Fits ∧
      response.toBytes.length ≤ payload.length ∧
      response.completionCode = PldmBaseCompletionCode.success.toU8 := by
  cases misread with
  | opaqueData ready decoded announced answered handled known =>
      have hhandled {request : UpdateComponentRequest} {params : FirmwareParameters}
          {result : Except FdOpsError ComponentResponseCode}
          (decoded' : UpdateComponentRequest.decode payload = .ok request)
          (answered' : ops.getFirmwareParms = .ok params)
          (handled' : ops.handleComponent (FdContext.describedComponent request) params
            .updateComponent = result) : ∃ code, result = .ok code ∧ code ≠ .vendorDefined := by
        obtain rfl := Except.ok.inj (decoded.symm.trans decoded')
        obtain rfl := Except.ok.inj (answered.symm.trans answered')
        exact ⟨_, handled'.symm.trans handled, known⟩
      cases decides with
      | misplaced gated => simp [Handler.gate, ready] at gated
      | undecoded failed => simp [Handler.decodeError, decoded, errorOf] at failed
      | describedUnknown _ _ failed =>
          rw [answered] at failed
          cases failed
      | describedUnhandled _ decoded' answered' failed =>
          obtain ⟨_, succeeded, _⟩ := hhandled decoded' answered' failed
          cases succeeded
      | vendorAnswer _ decoded' answered' vendor =>
          obtain ⟨_, same, allowed⟩ := hhandled decoded' answered' vendor
          exact absurd (Except.ok.inj same).symm allowed
      | described _ decoded' =>
          refine ⟨_, _, rfl, trivial, ?_, rfl⟩
          have hroom := UpdateComponentRequest.length_le_of_decode decoded'
          rw [Response.toBytes, UpdateComponentResponse.length_toBytes]
          simp only [UpdateComponentResponse.codecSizeInBytes, UpdateComponentResponse.new]
          simp only [Option.isSome_none, Bool.false_eq_true, if_false]
          omega
      | proxied serves => simp at serves
      | namedUnknown serves => simp at serves
      | cancelFailed cancels => cases cancels
  | identifiers decoded answered inside fits room stray =>
      cases decides with
      | misplaced gated => cases gated
      | undecoded failed => simp [Handler.decodeError, decoded, errorOf] at failed
      | identifiersUnknown failed =>
          rw [answered] at failed
          cases failed
      | identifiersMiscounted _ answered' outside =>
          obtain ⟨rfl, rfl⟩ := Prod.mk.inj (Except.ok.inj (answered.symm.trans answered'))
          exact absurd outside inside
      | identified _ answered' _ built =>
          obtain ⟨rfl, rfl⟩ := Prod.mk.inj (Except.ok.inj (answered.symm.trans answered'))
          rw [announced_eq_cons inside] at fits room
          refine ⟨_, _, rfl, (QueryDeviceIdentifiersResponse.fits_new_iff built).mpr fits, ?_,
            (QueryDeviceIdentifiersResponse.fields_of_new built).1⟩
          exact (QueryDeviceIdentifiersResponse.length_toBytes_new built).trans_le room
      | proxied serves => simp at serves
      | namedUnknown serves => simp at serves
      | cancelFailed cancels => cases cancels
  | parameters decoded answered fits room stray =>
      cases decides with
      | misplaced gated => cases gated
      | undecoded failed => simp [Handler.decodeError, decoded, errorOf] at failed
      | inventoryUnknown failed =>
          rw [answered] at failed
          cases failed
      | inventoried _ answered' =>
          obtain rfl := Except.ok.inj (answered.symm.trans answered')
          refine ⟨_, _, rfl, fits, ?_, rfl⟩
          exact (GetFirmwareParametersResponse.length_toBytes _).trans_le room
      | proxied serves => simp at serves
      | namedUnknown serves => simp at serves
      | cancelFailed cancels => cases cancels

end Decides

/-- Exactly the responses listed are misread. -/
theorem understood_iff (profile : Profile) (pre : FdInternal) (handler : Handler)
    (payload : List UInt8) (ops : FdOps) :
    Understood ops payload pre handler
      (fdEvent profile pre ⟨.request handler payload, ops⟩) ↔
        ¬ Misread ops payload pre handler := by
  obtain ⟨verdict, between, outcome, decides, finished, houtcome⟩ :=
    handler_ends profile pre handler payload ops
  generalize fdEvent profile pre ⟨.request handler payload, ops⟩ = event at *
  constructor
  · intro understood misread
    obtain ⟨response, commit, rfl, fits, room, success⟩ := decides.of_misread misread
    obtain ⟨hcode, _, hcount, written⟩ := finished.of_reply houtcome fits room
    rw [success] at hcode
    obtain ⟨response', commit', between', count, decides', counted, reads⟩ := understood hcode
    obtain rfl := decides.reply_unique decides'
    rw [hcount] at counted
    injection counted with counted
    injection counted with counted
    rw [← counted, written, Response.decodeAs_toBytes_iff, decides.canonical_iff fits room] at reads
    exact reads misread
  · intro read succeeded
    rcases finished.answer_cases decides houtcome succeeded with
      refused | ⟨response, commit, rfl, fits, room, _, counted, written⟩
    · exact absurd refused (by decide)
    · refine ⟨response, commit, between, _, decides, counted, ?_⟩
      rw [written, Response.decodeAs_toBytes_iff, decides.canonical_iff fits room]
      exact read

/-- A component of 100 bytes with opaque data. -/
def opaqueComponent : List UInt8 :=
  Agent.requestHeader .updateComponent ++ [10, 0, 1, 0, 0, 1, 0, 0, 0] ++ u32Bytes 100 ++
    [2, 0, 0, 0, 1, 0]

/-- The agent cannot read that the device takes a component with opaque data. -/
theorem answer_unreadable : ∃ events state, FdTrace .release events state ∧
    ¬ Understood (platform 0) opaqueComponent state .updateComponent
      (fdEvent .release state (receive .updateComponent opaqueComponent (platform 0))) := by
  obtain ⟨events, state, trace, hcheck⟩ := exists_run .release untilReady
    (fun _ state =>
      let event := fdEvent .release state (receive .updateComponent opaqueComponent (platform 0))
      event.completionCode = some PldmBaseCompletionCode.success.toU8 &&
      event.output.outcome = .ok (.length 12) &&
      UpdateComponentResponse.scanner.decode (event.output.payload.take 12) =
        .err .bufferTooShort) (by decide +kernel)
  simp only [Bool.and_eq_true, decide_eq_true_eq] at hcheck
  obtain ⟨⟨hcode, hlength⟩, hshort⟩ := hcheck
  refine ⟨events, state, trace, fun understood => ?_⟩
  obtain ⟨response, commit, between, count, decides, counted, reads⟩ := understood hcode
  obtain rfl : 12 = count := by
    rw [hlength] at counted
    injection counted with counted
    injection counted
  cases decides with
  | described =>
      rw [Response.decodeAs, hshort] at reads
      cases reads

end PldmLib.FirmwareDevice
