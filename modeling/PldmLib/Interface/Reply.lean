/-
# Replies

What a handler may do to the request in its buffer. A call that returns has written
one message over the front of it: a header that answers the request, a completion code
and whatever belongs to the command. A response that does not fit leaves the request
untouched, so the refusal that takes its place still finds the header. A handler panics
exactly when the platform hands it a table or a code that it cannot encode.

The rules below carry this from the encoders to the handlers of both contexts.
-/

import PldmLib.Interface.Dispatch
import PldmLib.Message.Overrun
import PldmLib.Message.UpdateCodec

namespace PldmLib.Interface

open PldmLib.Machine PldmLib.Protocol PldmLib.Message PldmLib.FirmwareDevice

/-! ## Messages that answer a request -/

/-- The header of a response to a request. -/
structure Answering (request response : PldmMsgHeader) : Prop where
  rq : response.rq = 0
  instanceId : response.instanceId = request.instanceId
  pldmType : response.pldmType = request.pldmType
  cmdCode : response.cmdCode = request.cmdCode

/-- The completion codes of a type. The platform chooses the one of an activation. -/
inductive CompletionCode (ops : FdOps) : UInt8 → UInt8 → Prop
  | base (pldmType : UInt8) (code : PldmBaseCompletionCode) :
      CompletionCode ops pldmType code.toU8
  | control (code : PldmControlCompletionCode) :
      CompletionCode ops PldmSupportedType.base.toU8 code.toU8
  | fwUpdate (code : FwUpdateCompletionCode) :
      CompletionCode ops PldmSupportedType.fwUpdate.toU8 code.toU8
  | activation {selfContained code : UInt8} {time : UInt16}
      (answered : ops.activate selfContained = .ok (code, time)) :
      CompletionCode ops PldmSupportedType.fwUpdate.toU8 code

/-- A whole message that answers a request. -/
def Reply (ops : FdOps) (request : PldmMsgHeader) (message : List UInt8) : Prop :=
  ∃ header code body, message = header.toBytes ++ code :: body ∧ Answering request header ∧
    CompletionCode ops request.pldmType code

/-- What a call that serves a request leaves in place of the payload `before`. -/
structure Served (ops : FdOps) (request : PldmMsgHeader) (crash : Prop) (before : List UInt8)
    (outcome : Outcome MsgHandlerError ℕ) (after : List UInt8) : Prop where
  panics : outcome = .panic ↔ crash
  ready : outcome ≠ .err .notReady
  replies : ∀ count, outcome = .ok count →
    after.length = before.length ∧ count ≤ after.length ∧ Reply ops request (after.take count)

section Headers

variable {request : PldmMsgHeader}

theorem PldmMsgHeader.answering_intoResponse : Answering request request.intoResponse where
  rq := by
    simp only [PldmMsgHeader.rq, PldmMsgHeader.intoResponse, ← UInt8.toNat_inj,
      UInt8.toNat_div, UInt8.toNat_mod, UInt8.reduceToNat]
    omega
  instanceId := by
    simp only [PldmMsgHeader.instanceId, PldmMsgHeader.intoResponse, ← UInt8.toNat_inj,
      UInt8.toNat_mod, UInt8.reduceToNat]
    omega
  pldmType := rfl
  cmdCode := rfl

/-- A header built from scratch for a response. -/
theorem answering_new {pldmType : PldmSupportedType} {command : UInt8}
    (typed : request.pldmType = pldmType.toU8) (commanded : request.cmdCode = command) :
    Answering request (.new request.instanceId .response pldmType command) where
  rq := by
    simp only [PldmMsgHeader.rq, PldmMsgHeader.new, PldmMsgType.toU8, ← UInt8.toNat_inj,
      UInt8.toNat_div, UInt8.toNat_add, UInt8.toNat_mul, UInt8.toNat_mod, UInt8.reduceToNat]
    omega
  instanceId := by
    simp only [PldmMsgHeader.instanceId, PldmMsgHeader.new, PldmMsgType.toU8,
      ← UInt8.toNat_inj, UInt8.toNat_add, UInt8.toNat_mul, UInt8.toNat_mod, UInt8.reduceToNat]
    omega
  pldmType := by
    rw [typed]
    cases pldmType <;> rfl
  cmdCode := commanded.symm

end Headers

/-! ## Requests -/

/-- A decoded request carries the header of its payload. -/
def CarriesHeader {β : Type} (decode : List UInt8 → Except PldmCodecError β)
    (hdr : β → PldmMsgHeader) : Prop :=
  ∀ payload request, decode payload = .ok request →
    PldmMsgHeader.decode payload = .ok (hdr request)

/-- A decoder that begins with the header and keeps it. -/
theorem carriesHeader_of_reader {β : Type} {next : PldmMsgHeader → Decoder β}
    {hdr : β → PldmMsgHeader}
    (kept : ∀ header, (next header).Yields fun request => hdr request = header) :
    CarriesHeader (Reader.decode (PldmMsgHeader.reader >>= next)) hdr := by
  intro payload request decoded
  have hbind : Reader.decode (PldmMsgHeader.reader >>= next) payload =
      ((PldmMsgHeader.reader payload).bind fun found => next found.1 found.2).map Prod.fst := rfl
  rw [hbind] at decoded
  rw [PldmMsgHeader.decode, Reader.decode]
  cases hheader : PldmMsgHeader.reader payload with
  | error error =>
      rw [hheader] at decoded
      cases decoded
  | ok found =>
      rw [hheader] at decoded
      cases hrest : next found.1 found.2 with
      | error error => simp [Except.bind, hrest, Except.map] at decoded
      | ok value =>
          obtain rfl : value.1 = request := by
            simpa [Except.bind, hrest, Except.map] using decoded
          rw [kept found.1 found.2 value.1 value.2 hrest]
          rfl

theorem carriesHeader_request : CarriesHeader HeaderRequest.decode HeaderRequest.hdr := by
  intro payload request decoded
  unfold HeaderRequest.decode at decoded
  cases hheader : PldmMsgHeader.decode payload with
  | error error => simp [hheader, Except.map] at decoded
  | ok header =>
      obtain rfl : HeaderRequest.mk header = request := by
        simpa [hheader, Except.map] using decoded
      rfl

theorem carriesHeader_activateFirmware :
    CarriesHeader ActivateFirmwareRequest.decode ActivateFirmwareRequest.hdr :=
  carriesHeader_of_reader fun _ => Reader.yields_bind fun _ => Reader.yields_pure rfl

theorem carriesHeader_component : CarriesHeader ComponentRequest.decode ComponentRequest.hdr :=
  carriesHeader_of_reader fun _ => by
    iterate 3 refine Reader.yields_bind fun _ => ?_
    exact Reader.yields_pure rfl

theorem carriesHeader_requestUpdate :
    CarriesHeader RequestUpdateRequest.decode RequestUpdateRequest.hdr :=
  carriesHeader_of_reader fun _ => by
    iterate 7 refine Reader.yields_bind fun _ => ?_
    exact Reader.yields_pure rfl

theorem carriesHeader_passComponentTable :
    CarriesHeader PassComponentTableRequest.decode PassComponentTableRequest.hdr :=
  carriesHeader_of_reader fun _ => by
    iterate 8 refine Reader.yields_bind fun _ => ?_
    exact Reader.yields_pure rfl

theorem carriesHeader_updateComponent :
    CarriesHeader UpdateComponentRequest.decode UpdateComponentRequest.hdr :=
  carriesHeader_of_reader fun _ => by
    iterate 9 refine Reader.yields_bind fun _ => ?_
    exact Reader.yields_pure rfl

theorem carriesHeader_setTid : CarriesHeader SetTidRequest.decode SetTidRequest.hdr :=
  carriesHeader_of_reader fun _ => Reader.yields_bind fun _ => Reader.yields_pure rfl

theorem carriesHeader_getPldmCommands :
    CarriesHeader GetPldmCommandsRequest.decode GetPldmCommandsRequest.hdr :=
  carriesHeader_of_reader fun _ => by
    iterate 2 refine Reader.yields_bind fun _ => ?_
    exact Reader.yields_pure rfl

theorem carriesHeader_getPldmVersion :
    CarriesHeader GetPldmVersionRequest.decode GetPldmVersionRequest.hdr :=
  carriesHeader_of_reader fun _ => by
    iterate 3 refine Reader.yields_bind fun _ => ?_
    exact Reader.yields_pure rfl

/-! ## Encoders -/

section Encoders

variable {ops : FdOps} {request : PldmMsgHeader} {crash : Prop} {payload : List UInt8}

/-- A reply that was written. -/
theorem served_written {message final : List UInt8} {count : ℕ} (reply : Reply ops request message)
    (calm : ¬ crash) (written : writeToPrefix message payload = (.ok count, final)) :
    Served ops request crash payload (.ok count) final := by
  obtain ⟨room, hcount, htake⟩ := writeToPrefix_ok written
  have hlength := length_of_written written
  refine ⟨⟨nofun, fun crashed => absurd crashed calm⟩, nofun, ?_⟩
  rintro returned ⟨⟩
  exact ⟨hlength, by omega, htake.symm ▸ reply⟩

/-- A call that failed has replied nothing. -/
theorem served_err {error : MsgHandlerError} {final : List UInt8} (calm : ¬ crash)
    (ready : error ≠ .notReady) : Served ops request crash payload (.err error) final :=
  ⟨⟨nofun, fun crashed => absurd crashed calm⟩, fun busy => ready (Outcome.err.inj busy), nofun⟩

theorem served_panic {final : List UInt8} (crashed : crash) :
    Served ops request crash payload .panic final :=
  ⟨⟨fun _ => crashed, fun _ => rfl⟩, nofun, nofun⟩

/-- A refusal answers whatever request the payload holds. -/
theorem PayloadCall.generateFailureResponse_served {completionCode : UInt8}
    (decoded : PldmMsgHeader.decode payload = .ok request)
    (code : CompletionCode ops request.pldmType completionCode) (calm : ¬ crash) :
    (PayloadCall.generateFailureResponse completionCode).wp
      (Served ops request crash payload) payload := by
  simp only [PayloadCall.generateFailureResponse, Call.wp_bind, Call.wp_get, decoded,
    PayloadCall.encode, Call.wp_mapErr]
  rw [Call.wp_iff]
  rcases hrun : writeToPrefix (PldmFailureResponse.toBytes
    ⟨request.intoResponse, completionCode⟩) payload with ⟨_ | _ | _, final⟩
  · exact served_written ⟨_, completionCode, [], rfl, PldmMsgHeader.answering_intoResponse, code⟩
      calm hrun
  · exact served_err calm (by rintro ⟨⟩)
  · exact absurd hrun (writeToPrefix_ne_panic _ _ _)

end Encoders

/-! ## Calls of the device context -/

section FdCalls

variable {ops : FdOps} {request : PldmMsgHeader} {crash : Prop} {payload : List UInt8}
  {state : CallState}

/-- The postcondition of a handler of the device context. -/
def FdServed (ops : FdOps) (request : PldmMsgHeader) (crash : Prop) (payload : List UInt8)
    (outcome : Outcome MsgHandlerError ℕ) (final : CallState) : Prop :=
  Served ops request crash payload outcome final.payload

theorem generateFailureResponse_eq (completionCode : UInt8) :
    FdCall.generateFailureResponse completionCode =
      (PayloadCall.generateFailureResponse completionCode).on CallState.payload
        fun state payload => { state with payload := payload } := by
  funext state
  show FdCall.generateFailureResponse completionCode state =
    ((PayloadCall.generateFailureResponse completionCode state.payload).1,
      { state with
        payload := (PayloadCall.generateFailureResponse completionCode state.payload).2 })
  simp only [FdCall.generateFailureResponse, PayloadCall.generateFailureResponse,
    FdCall.payload, Call.get, bind, Call.bind, pure]
  cases PldmMsgHeader.decode state.payload with
  | error error => rfl
  | ok header =>
      simp only [FdCall.encode, FdCall.tryEncode, PayloadCall.encode, Call.attemptOn,
        Call.mapErr, bind, Call.bind]
      rcases writeToPrefix (PldmFailureResponse.toBytes ⟨header.intoResponse, completionCode⟩)
        state.payload with ⟨_ | _ | _, final⟩ <;> rfl

theorem generateFailureResponse_served {completionCode : UInt8}
    (addressed : PldmMsgHeader.decode payload = .ok request) (same : state.payload = payload)
    (code : CompletionCode ops request.pldmType completionCode) (calm : ¬ crash) :
    (FdCall.generateFailureResponse completionCode).wp (FdServed ops request crash payload)
      state := by
  rw [generateFailureResponse_eq, Call.wp_on, same]
  exact PayloadCall.generateFailureResponse_served addressed code calm

theorem withRequest_served {β : Type} {decode : List UInt8 → Except PldmCodecError β}
    {hdr : β → PldmMsgHeader} {handle : β → FdCall ℕ} (carries : CarriesHeader decode hdr)
    (addressed : PldmMsgHeader.decode payload = .ok request) (same : state.payload = payload)
    (calm : ∀ error, decode payload = .error error → ¬ crash)
    (handled : ∀ decoded, decode payload = .ok decoded → hdr decoded = request →
      (handle decoded).wp (FdServed ops request crash payload) state) :
    (FdCall.withRequest decode handle).wp (FdServed ops request crash payload) state := by
  simp only [FdCall.withRequest, Call.wp_bind, FdCall.wp_payload, same]
  cases hdecode : decode payload with
  | error error =>
      refine generateFailureResponse_served addressed same ?_ (calm error hdecode)
      cases error
      · exact .base _ .invalidLength
      · exact .base _ .invalidData
      · exact .base _ .invalidData
  | ok decoded =>
      refine handled decoded hdecode ?_
      exact Except.ok.inj ((carries payload decoded hdecode).symm.trans addressed)

/-- A request without a body is decoded whenever it has a header. -/
theorem headerRequest_served {handle : HeaderRequest → FdCall ℕ}
    (addressed : PldmMsgHeader.decode payload = .ok request) (same : state.payload = payload)
    (handled : (handle ⟨request⟩).wp (FdServed ops request crash payload) state) :
    (FdCall.withRequest HeaderRequest.decode handle).wp (FdServed ops request crash payload)
      state := by
  have hdecode : HeaderRequest.decode payload = .ok ⟨request⟩ := by
    rw [HeaderRequest.decode, addressed]
    rfl
  apply withRequest_served carriesHeader_request addressed same
  · intro error failed
    rw [hdecode] at failed
    cases failed
  · intro decoded found _
    obtain rfl := Except.ok.inj (hdecode.symm.trans found)
    exact handled

/-- A response of which an encoder is a prefix write. -/
theorem respond_served {encoder : Encoder} {message : List UInt8}
    {commit : FdInternal → FdInternal} (encodes : encoder = writeToPrefix message)
    (addressed : PldmMsgHeader.decode payload = .ok request) (same : state.payload = payload)
    (reply : Reply ops request message) (calm : ¬ crash) :
    (FdCall.respond encoder commit).wp (FdServed ops request crash payload) state := by
  subst encodes
  rw [FdCall.respond, Call.wp_bind]
  apply FdCall.tryEncode_rule
  · intro bytes final written
    rw [same] at written
    exact served_written reply calm written
  · intro error final failed
    rw [same] at failed
    refine generateFailureResponse_served addressed ?_ (.base _ .invalidLength) calm
    exact (writeToPrefix_err failed).2.2
  · intro final panicked
    exact absurd panicked (writeToPrefix_ne_panic _ _ _)

/-- A response that cannot be encoded. -/
theorem respond_overruns {encoder : Encoder} {size : ℕ} {commit : FdInternal → FdInternal}
    (overruns : Overruns encoder size)
    (addressed : PldmMsgHeader.decode payload = .ok request) (same : state.payload = payload)
    (crashes : crash ↔ size ≤ payload.length) :
    (FdCall.respond encoder commit).wp (FdServed ops request crash payload) state := by
  obtain ⟨hshort, hroom⟩ := overruns payload
  rw [FdCall.respond, Call.wp_bind]
  by_cases room : size ≤ payload.length
  · obtain ⟨left, hpanic⟩ := hroom room
    rw [← same] at hpanic
    apply FdCall.tryEncode_rule
    · intro bytes final written
      rw [hpanic] at written
      cases written
    · intro error final failed
      rw [hpanic] at failed
      cases failed
    · intro final _
      exact served_panic (crashes.mpr room)
  · have hfails := hshort (not_le.mp room)
    rw [← same] at hfails
    apply FdCall.tryEncode_rule
    · intro bytes final written
      rw [hfails] at written
      cases written
    · intro error final failed
      rw [hfails] at failed
      refine generateFailureResponse_served addressed ?_ (.base _ .invalidLength) ?_
      · exact (Prod.mk.inj failed).2.symm.trans same
      · exact fun crashed => room (crashes.mp crashed)
    · intro final panicked
      rw [hfails] at panicked
      cases panicked

end FdCalls

/-! ## The handlers of the device context -/

/-- The descriptors that are counted, one of them longer than its array, in a payload with
room for all of them as announced. -/
def DescriptorsOverrun (descriptors : List Descriptor) (payload : List UInt8) : Prop :=
  (∃ descriptor ∈ descriptors, ¬ descriptor.Fits) ∧
    9 + (descriptors.map (·.codecSizeInBytes)).sum ≤ payload.length

/-- Parameters that announce more entries than they hold, or a string longer than its array
in a payload with room for it. -/
def ParametersOverrun (params : FirmwareParameters) (payload : List UInt8) : Prop :=
  maxComponentCount < params.compCount.toNat ∨
    ¬ params.Fits ∧ pldmMsgHeaderLen + 1 + params.announcedSize ≤ payload.length

/-- A progress that is reported and is not a percentage. -/
def ProgressOverrun (internal : FdInternal) : Prop :=
  (∃ percent, internal.state = .verify ∧ internal.getFdVerifyProgress = some percent ∧
      progressPercentNotSupported < percent.toNat) ∨
    ∃ percent, internal.state = .apply ∧ internal.getFdApplyProgress = some percent ∧
      progressPercentNotSupported < percent.toNat

/-- The answers of the platform, and the progress recorded earlier, that a handler does not
survive. -/
def HandlerCrashes (ops : FdOps) (payload : List UInt8) (pre : FdInternal) : Handler → Prop
  | .queryDevid => ∃ descriptors count, ops.getDeviceIdentifiers = .ok (descriptors, count) ∧
      count ≤ maxDescriptorsCount ∧ DescriptorsOverrun (descriptors.toList.take count) payload
  | .getFirmwareParameters => ∃ params, ops.getFirmwareParms = .ok params ∧
      ParametersOverrun params payload
  | .updateComponent => pre.state = .readyXfer ∧ ∃ request params,
      UpdateComponentRequest.decode payload = .ok request ∧ ops.getFirmwareParms = .ok params ∧
      ops.handleComponent (FdContext.describedComponent request) params .updateComponent =
        .ok .vendorDefined
  | .getStatus => ProgressOverrun pre
  | _ => False

section Handlers

open FdContext

theorem descriptorsOverrun_iff {response : QueryDeviceIdentifiersResponse} :
    DescriptorsOverrun (response.initialDescriptor :: response.additional) payload ↔
      ¬ response.Fits ∧ response.codecSizeInBytes ≤ payload.length := by
  have hsize : response.codecSizeInBytes = 9 +
      ((response.initialDescriptor :: response.additional).map (·.codecSizeInBytes)).sum := by
    simp [QueryDeviceIdentifiersResponse.codecSizeInBytes, Nat.add_assoc]
  rw [DescriptorsOverrun, hsize]
  refine and_congr_left fun _ => ⟨?_, ?_⟩
  · rintro ⟨descriptor, member, unfit⟩ fits
    rcases List.mem_cons.mp member with rfl | additional
    · exact unfit fits.initial
    · exact unfit (fits.additional descriptor additional)
  · intro unfit
    by_contra none
    apply unfit
    constructor
    · by_contra initial
      exact none ⟨_, List.mem_cons_self, initial⟩
    · intro descriptor member
      by_contra additional
      exact none ⟨descriptor, List.mem_cons_of_mem _ member, additional⟩

/-- The part of an array in use, from its first element on. -/
theorem take_eq_head_cons {α : Type} {size count : ℕ} {values : List.Vector α (size + 1)}
    (used : count ≠ 0) :
    values.toList.take count = values.head :: (values.toList.take count).drop 1 := by
  obtain ⟨before, rfl⟩ := Nat.exists_eq_succ_of_ne_zero used
  obtain ⟨first, rest, rfl⟩ := List.Vector.exists_eq_cons values
  simp

variable {ops : FdOps} {request : PldmMsgHeader} {payload : List UInt8} {pre : FdInternal}

/-- A reply built on the header of its request. -/
theorem reply_of_header {command : FwUpdateCmd} {code : UInt8} {body : List UInt8}
    (typed : request.pldmType = PldmSupportedType.fwUpdate.toU8)
    (commanded : request.cmdCode = command.toU8)
    (completion : CompletionCode ops PldmSupportedType.fwUpdate.toU8 code) :
    Reply ops request ((responseHeader request.instanceId command).toBytes ++ code :: body) :=
  ⟨_, code, body, rfl, answering_new typed commanded, typed ▸ completion⟩

/-- A progress that is not a percentage is what cannot be reported. -/
theorem progressOverrun_iff :
    ProgressOverrun pre ↔ ∃ error, recordedProgress pre = .error error := by
  have hnew (percent : UInt8) : progressPercentNotSupported < percent.toNat ↔
      ∃ error, ProgressPercent.new percent = .error error := by
    rw [ProgressPercent.new]
    split
    · next within => exact iff_of_false (not_lt.mpr within) (by rintro ⟨_, ⟨⟩⟩)
    · next beyond => exact iff_of_true (not_le.mp beyond) ⟨_, rfl⟩
  unfold recordedProgress
  cases hstate : pre.state with
  | verify => cases hprogress : pre.getFdVerifyProgress <;> simp [ProgressOverrun, *]
  | apply => cases hprogress : pre.getFdApplyProgress <;> simp [ProgressOverrun, *]
  | _ => simp [ProgressOverrun, hstate]

variable (addressed : PldmMsgHeader.decode payload = .ok request)
  (typed : request.pldmType = PldmSupportedType.fwUpdate.toU8)
include addressed typed

theorem queryDevidRsp_served
    (commanded : request.cmdCode = FwUpdateCmd.queryDeviceIdentifiers.toU8) :
    (queryDevidRsp ops).wp
      (FdServed ops request (HandlerCrashes ops payload pre .queryDevid) payload)
      ⟨pre, payload, []⟩ := by
  apply headerRequest_served addressed rfl
  simp only [Call.wp_bind, FdCall.wp_invoke]
  apply FdCall.ofOps_rule
  · rintro ⟨descriptors, count⟩ answered
    simp only [Call.wp_ite, Call.wp_fail]
    split
    · next outside =>
        refine served_err ?_ (by rintro ⟨⟩)
        rintro ⟨_, _, answered', few, ⟨descriptor, member, _⟩, _⟩
        obtain ⟨rfl, rfl⟩ := Prod.mk.inj (Except.ok.inj (answered.symm.trans answered'))
        rcases outside with rfl | many
        · cases member
        · omega
    · next inside =>
        obtain ⟨hcount, hfew⟩ := not_or.mp inside
        obtain ⟨response, hnew, hhdr, hcode, hinitial, hadditional⟩ :=
          QueryDeviceIdentifiersResponse.new_of_counted request.instanceId
            PldmBaseCompletionCode.success.toU8 descriptors hfew
        have htable : descriptors.toList.take count =
            response.initialDescriptor :: response.additional := by
          rw [hinitial, hadditional]
          exact take_eq_head_cons hcount
        have hreply : Reply ops request response.toBytes := by
          refine ⟨response.hdr, response.completionCode, u32Bytes response.deviceIdentifiersLen ++
            [response.descriptorCount] ++ response.initialDescriptor.toBytes ++
              response.additional.flatMap Descriptor.toBytes, ?_, ?_, ?_⟩
          · simp [QueryDeviceIdentifiersResponse.toBytes, QueryDeviceIdentifiersResponse.headBytes]
          · rw [hhdr]
            exact answering_new typed commanded
          · rw [hcode]
            exact .base _ .success
        have hcrashes : HandlerCrashes ops payload pre .queryDevid ↔
            ¬ response.Fits ∧ response.codecSizeInBytes ≤ payload.length := by
          rw [← descriptorsOverrun_iff, ← htable]
          constructor
          · rintro ⟨_, _, answered', _, overrun⟩
            obtain ⟨rfl, rfl⟩ := Prod.mk.inj (Except.ok.inj (answered.symm.trans answered'))
            exact overrun
          · intro overrun
            exact ⟨descriptors, count, answered, by omega, overrun⟩
        rw [hnew]
        by_cases fits : response.Fits
        · apply respond_served (QueryDeviceIdentifiersResponse.encode_eq fits) addressed rfl hreply
          exact fun crashed => (hcrashes.mp crashed).1 fits
        · apply respond_overruns (QueryDeviceIdentifiersResponse.overruns fits) addressed rfl
          exact hcrashes.trans (and_iff_right fits)
  · rintro error answered
    refine served_err ?_ (by rintro ⟨⟩)
    rintro ⟨_, _, answered', _⟩
    rw [answered] at answered'
    cases answered'

theorem getFirmwareParametersRsp_served
    (commanded : request.cmdCode = FwUpdateCmd.getFirmwareParameters.toU8) :
    (getFirmwareParametersRsp ops).wp
      (FdServed ops request (HandlerCrashes ops payload pre .getFirmwareParameters) payload)
      ⟨pre, payload, []⟩ := by
  apply headerRequest_served addressed rfl
  simp only [Call.wp_bind, FdCall.wp_invoke]
  apply FdCall.ofOps_rule
  · intro params answered
    have hcrashes : HandlerCrashes ops payload pre .getFirmwareParameters ↔
        ParametersOverrun params payload := by
      constructor
      · rintro ⟨_, answered', overrun⟩
        obtain rfl := Except.ok.inj (answered.symm.trans answered')
        exact overrun
      · exact fun overrun => ⟨params, answered, overrun⟩
    by_cases counted : params.compCount.toNat ≤ maxComponentCount
    · by_cases fits : params.Fits
      · apply respond_served (GetFirmwareParametersResponse.encode_eq fits) addressed rfl
        · refine ⟨_, PldmBaseCompletionCode.success.toU8, params.toBytes, ?_,
            answering_new typed commanded, .base _ .success⟩
          simp [GetFirmwareParametersResponse.toBytes, GetFirmwareParametersResponse.new,
            responseHeader]
        · rw [hcrashes]
          rintro (many | ⟨unfit, _⟩)
          · omega
          · exact unfit fits
      · apply respond_overruns (GetFirmwareParametersResponse.overruns counted fits) addressed rfl
        rw [hcrashes, ParametersOverrun, or_iff_right (not_lt.mpr counted), and_iff_right fits]
        rfl
    · have hmany : maxComponentCount < params.compCount.toNat := by omega
      apply respond_overruns (GetFirmwareParametersResponse.overruns_of_many hmany) addressed rfl
      rw [hcrashes]
      exact iff_of_true (.inl hmany) (Nat.zero_le _)
  · rintro error answered
    refine served_err ?_ (by rintro ⟨⟩)
    rintro ⟨_, answered', _⟩
    rw [answered] at answered'
    cases answered'

theorem requestUpdateRsp_served (commanded : request.cmdCode = FwUpdateCmd.requestUpdate.toU8) :
    (requestUpdateRsp ops).wp (FdServed ops request False payload) ⟨pre, payload, []⟩ := by
  simp only [requestUpdateRsp, Call.wp_bind, FdCall.wp_internal, Call.wp_ite]
  split
  · exact generateFailureResponse_served addressed rfl (typed ▸ .fwUpdate .alreadyInUpdateMode) id
  · simp only [FdCall.wp_setFdT1Ts]
    apply withRequest_served carriesHeader_requestUpdate addressed rfl (fun _ _ => id)
    rintro decoded - rfl
    simp only [Call.wp_ite, Call.wp_bind, FdCall.wp_invoke]
    split
    · exact generateFailureResponse_served addressed rfl
        (typed ▸ .fwUpdate .invalidTransferLength) id
    · apply FdCall.ofOps_rule
      · intro transferSize _
        simp only [FdCall.wp_modify]
        apply respond_served (RequestUpdateResponse.encode_eq _) addressed rfl _ id
        · rfl
        · exact reply_of_header typed commanded (.base _ .success)
      · exact fun _ _ => served_err id (by rintro ⟨⟩)

theorem passComponentRsp_served
    (commanded : request.cmdCode = FwUpdateCmd.passComponentTable.toU8) :
    (passComponentRsp ops).wp (FdServed ops request False payload) ⟨pre, payload, []⟩ := by
  simp only [passComponentRsp, Call.wp_bind, FdCall.wp_internal, Call.wp_ite]
  split
  · exact generateFailureResponse_served addressed rfl
      (typed ▸ .fwUpdate .invalidStateForCommand) id
  · simp only [FdCall.wp_setFdT1Ts]
    apply withRequest_served carriesHeader_passComponentTable addressed rfl (fun _ _ => id)
    rintro decoded - rfl
    split
    · exact generateFailureResponse_served addressed rfl (.base _ .invalidData) id
    · simp only [Call.wp_bind, FdCall.wp_invoke]
      apply FdCall.ofOps_rule
      · intro firmwareParams _
        apply FdCall.ofOps_rule
        · intro compRespCode _
          apply respond_served rfl addressed rfl _ id
          exact reply_of_header typed commanded (.base _ .success)
        · exact fun _ _ => served_err id (by rintro ⟨⟩)
      · exact fun _ _ => served_err id (by rintro ⟨⟩)

theorem updateComponentRsp_served
    (commanded : request.cmdCode = FwUpdateCmd.updateComponent.toU8) :
    (updateComponentRsp ops).wp
      (FdServed ops request (HandlerCrashes ops payload pre .updateComponent) payload)
      ⟨pre, payload, []⟩ := by
  simp only [updateComponentRsp, Call.wp_bind, FdCall.wp_internal, Call.wp_ite]
  split
  · next elsewhere =>
      exact generateFailureResponse_served addressed rfl
        (typed ▸ .fwUpdate .invalidStateForCommand) fun crashed => elsewhere crashed.1
  · next ready =>
      rw [not_not] at ready
      simp only [FdCall.wp_setFdT1Ts]
      apply withRequest_served carriesHeader_updateComponent addressed rfl
      · rintro error failed ⟨_, _, _, decoded, _⟩
        rw [failed] at decoded
        cases decoded
      · rintro decoded hdecoded rfl
        simp only [Call.wp_bind, FdCall.wp_modify, FdCall.wp_invoke]
        apply FdCall.ofOps_rule
        · intro params answered
          have hcrashes : HandlerCrashes ops payload pre .updateComponent ↔
              ops.handleComponent (describedComponent decoded) params .updateComponent =
                .ok .vendorDefined := by
            constructor
            · rintro ⟨_, _, _, hdecoded', answered', vendor⟩
              obtain rfl := Except.ok.inj (hdecoded.symm.trans hdecoded')
              obtain rfl := Except.ok.inj (answered.symm.trans answered')
              exact vendor
            · exact fun vendor => ⟨ready, decoded, params, hdecoded, answered, vendor⟩
          apply FdCall.ofOps_rule
          · intro code handled
            simp only [Call.wp_ofOutcome]
            have hvendor : ops.handleComponent (describedComponent decoded) params
                .updateComponent = .ok .vendorDefined ↔ code = .vendorDefined := by
              rw [handled, Except.ok.injEq]
            by_cases vendor : code = .vendorDefined
            · have hunknown : ComponentCompatibilityResponseCode.tryFrom code.toU8 =
                  .error .invalidComponentCompatibilityResponseCode := by
                rw [vendor]
                rfl
              rw [hunknown]
              exact served_panic (hcrashes.mpr (hvendor.mpr vendor))
            · rw [ComponentCompatibilityResponseCode.tryFrom_toU8.mpr vendor]
              apply respond_served (UpdateComponentResponse.encode_toBytes _) addressed rfl
              · exact reply_of_header typed commanded (.base _ .success)
              · exact fun crashed => vendor (hvendor.mp (hcrashes.mp crashed))
          · intro error handled
            refine served_err ?_ (by rintro ⟨⟩)
            intro crashed
            have hvendor := hcrashes.mp crashed
            rw [handled] at hvendor
            cases hvendor
        · intro error answered
          refine served_err ?_ (by rintro ⟨⟩)
          rintro ⟨_, _, _, _, answered', _⟩
          rw [answered] at answered'
          cases answered'

theorem activateFirmwareRsp_served
    (commanded : request.cmdCode = FwUpdateCmd.activateFirmware.toU8) :
    (activateFirmwareRsp ops).wp (FdServed ops request False payload) ⟨pre, payload, []⟩ := by
  simp only [activateFirmwareRsp, Call.wp_bind, FdCall.wp_internal, Call.wp_ite]
  split
  · exact generateFailureResponse_served addressed rfl
      (typed ▸ .fwUpdate .invalidStateForCommand) id
  · apply withRequest_served carriesHeader_activateFirmware addressed rfl (fun _ _ => id)
    rintro decoded - rfl
    simp only [Call.wp_ite, Call.wp_bind, FdCall.wp_invoke]
    split
    · exact generateFailureResponse_served addressed rfl (.base _ .invalidData) id
    · apply FdCall.ofOps_rule
      · rintro ⟨completionCode, estimatedTime⟩ answered
        apply respond_served rfl addressed rfl _ id
        exact reply_of_header typed commanded (.activation answered)
      · exact fun _ _ => served_err id (by rintro ⟨⟩)

/-- The checks of the two commands served while idle. -/
theorem componentCommandRsp_served
    {handle : ComponentRequest → FirmwareParameters → FdCall ℕ}
    (handled : ∀ decoded params, decoded.hdr = request → (handle decoded params).wp
      (FdServed ops request False payload) ⟨pre, payload, [⟨.getFirmwareParms, ops.now 0⟩]⟩) :
    (componentCommandRsp ops ComponentRequest.decode handle).wp
      (FdServed ops request False payload) ⟨pre, payload, []⟩ := by
  simp only [componentCommandRsp, Call.wp_bind, FdCall.wp_internal, Call.wp_ite]
  split
  · exact generateFailureResponse_served addressed rfl
      (typed ▸ .fwUpdate .invalidStateForCommand) id
  · apply withRequest_served carriesHeader_component addressed rfl (fun _ _ => id)
    intro decoded _ same
    simp only [Call.wp_ite, Call.wp_bind, FdCall.wp_invoke]
    split
    · exact generateFailureResponse_served addressed rfl (.base _ .invalidData) id
    · apply FdCall.ofOps_rule
      · exact fun params _ => handled decoded params same
      · exact fun _ _ => served_err id (by rintro ⟨⟩)

theorem activatePendingComponentImageRsp_served
    (commanded : request.cmdCode = FwUpdateCmd.activatePendingComponentImage.toU8) :
    (activatePendingComponentImageRsp ops).wp (FdServed ops request False payload)
      ⟨pre, payload, []⟩ := by
  apply componentCommandRsp_served addressed typed
  rintro decoded params rfl
  simp only [Call.wp_bind, FdCall.wp_invoke]
  apply FdCall.ofOps_rule
  · intro outcome _
    apply respond_served rfl addressed rfl _ id
    cases outcome with
    | activated estimatedTime => exact reply_of_header typed commanded (.base _ .success)
    | activationNotRequired =>
        exact reply_of_header typed commanded (.fwUpdate .activationNotRequired)
    | notPermitted =>
        exact reply_of_header typed commanded (.fwUpdate .activatePendingImageNotPermitted)
  · exact fun _ _ => served_err id (by rintro ⟨⟩)

theorem updateSecurityRevisionRsp_served
    (commanded : request.cmdCode = FwUpdateCmd.updateSecurityRevision.toU8) :
    (updateSecurityRevisionRsp ops).wp (FdServed ops request False payload)
      ⟨pre, payload, []⟩ := by
  apply componentCommandRsp_served addressed typed
  rintro decoded params rfl
  simp only [Call.wp_bind, FdCall.wp_invoke]
  apply FdCall.ofOps_rule
  · intro outcome _
    apply respond_served rfl addressed rfl _ id
    cases outcome with
    | updated => exact reply_of_header typed commanded (.base _ .success)
    | notPermitted =>
        exact reply_of_header typed commanded (.fwUpdate .updateSecurityRevisionNotPermitted)
  · exact fun _ _ => served_err id (by rintro ⟨⟩)

/-! ### Cancellation and status -/

theorem cancelUpdateComponentRsp_served
    (commanded : request.cmdCode = FwUpdateCmd.cancelUpdateComponent.toU8) :
    (cancelUpdateComponentRsp ops).wp (FdServed ops request False payload)
      ⟨pre, payload, []⟩ := by
  have hanswer (cancel : Bool) (log : List Invocation) : (answerCancelUpdateComponent cancel).wp
      (FdServed ops request False payload) ⟨pre, payload, log⟩ := by
    apply headerRequest_served addressed rfl
    apply respond_served rfl addressed rfl _ id
    apply reply_of_header typed commanded
    cases cancel
    · exact .base _ .error
    · exact .base _ .success
  apply RequestStep.cancelUpdateComponentRsp_rule
  · intro _
    exact generateFailureResponse_served addressed rfl (typed ▸ .fwUpdate .notInUpdateMode) id
  · intro _ _
    exact generateFailureResponse_served addressed rfl
      (typed ▸ .fwUpdate .invalidStateForCommand) id
  · exact fun _ => hanswer false _
  · exact fun _ _ => hanswer true _
  · exact fun _ _ _ => served_err id (by rintro ⟨⟩)

theorem cancelUpdateRsp_served (commanded : request.cmdCode = FwUpdateCmd.cancelUpdate.toU8) :
    (cancelUpdateRsp ops).wp (FdServed ops request False payload) ⟨pre, payload, []⟩ := by
  have hanswer (cancel : Bool) (touched : FdInternal) (log : List Invocation) :
      (answerCancelUpdate ops cancel).wp (FdServed ops request False payload)
        ⟨touched, payload, log⟩ := by
    apply headerRequest_served addressed rfl
    simp only [Call.wp_bind, FdCall.wp_invoke]
    apply FdCall.ofOps_rule
    · rintro ⟨indication, bitmap⟩ _
      apply respond_served rfl addressed rfl _ id
      apply reply_of_header typed commanded
      cases cancel
      · exact .base _ .error
      · exact .base _ .success
    · exact fun _ _ => served_err id (by rintro ⟨⟩)
  apply RequestStep.cancelUpdateRsp_rule
  · intro _
    exact generateFailureResponse_served addressed rfl (typed ▸ .fwUpdate .notInUpdateMode) id
  · exact fun _ => hanswer false _ _
  · exact fun _ _ => hanswer true _ _
  · exact fun _ _ _ => served_err id (by rintro ⟨⟩)

theorem getStatusRsp_served (commanded : request.cmdCode = FwUpdateCmd.getStatus.toU8) :
    (getStatusRsp ops).wp
      (FdServed ops request (HandlerCrashes ops payload pre .getStatus) payload)
      ⟨pre, payload, []⟩ := by
  apply headerRequest_served addressed rfl
  rw [Call.wp_bind]
  apply statusProgress_reports
  · intro known progress log
    have hknown : ¬ ProgressOverrun pre := by
      rw [progressOverrun_iff, not_exists]
      exact known
    simp only [Call.wp_bind, FdCall.wp_internal]
    cases auxStatus pre.req with
    | mk auxState auxStateStatus =>
        apply respond_served rfl addressed rfl _ hknown
        exact reply_of_header typed commanded (.base _ .success)
  · exact fun error unclear => served_panic (progressOverrun_iff.mpr ⟨error, unclear⟩)

/-- Every handler replies to its request, fails, or panics on an answer of the platform. -/
theorem handler_served {handler : Handler}
    (commanded : request.cmdCode = (handledCommand handler).toU8) :
    (handler.run ops).wp (FdServed ops request (HandlerCrashes ops payload pre handler) payload)
      ⟨pre, payload, []⟩ := by
  cases handler with
  | queryDevid => exact queryDevidRsp_served addressed typed commanded
  | getFirmwareParameters => exact getFirmwareParametersRsp_served addressed typed commanded
  | requestUpdate => exact requestUpdateRsp_served addressed typed commanded
  | passComponent => exact passComponentRsp_served addressed typed commanded
  | updateComponent => exact updateComponentRsp_served addressed typed commanded
  | activateFirmware => exact activateFirmwareRsp_served addressed typed commanded
  | activatePendingComponentImage =>
      exact activatePendingComponentImageRsp_served addressed typed commanded
  | updateSecurityRevision => exact updateSecurityRevisionRsp_served addressed typed commanded
  | cancelUpdateComponent => exact cancelUpdateComponentRsp_served addressed typed commanded
  | cancelUpdate => exact cancelUpdateRsp_served addressed typed commanded
  | getStatus => exact getStatusRsp_served addressed typed commanded

end Handlers

end PldmLib.Interface
