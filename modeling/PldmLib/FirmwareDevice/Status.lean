/-
# What `GetStatus` says of the operation

The auxiliary state is read off the request slot alone, while the result of an operation that
has ended is stored beside it. Between a transfer that failed and the poll that reports it the
slot looks like the one of a transfer that succeeded. Once a failure has been acknowledged the
result itself is sent as the status byte, and the bytes of some results are not status bytes.
-/

import PldmLib.FirmwareDevice.Progress
import PldmLib.FirmwareDevice.Verdict
import PldmLib.FirmwareDevice.Session

namespace PldmLib.FirmwareDevice

open PldmLib.Machine PldmLib.Protocol PldmLib.Message

/-! ## The end of an operation -/

/-- The results of an operation that are a success. -/
def Success : FirmwareDeviceState → UInt8 → Prop
  | .download, result => result = TransferResult.transferSuccess.toU8
  | .verify, result => result = VerifyResult.verifySuccess.toU8
  | .apply, result => result = ApplyResult.applySuccess.toU8 ∨
      result = ApplyResult.applySuccessWithActivationMethod.toU8
  | _, _ => False

/-- The result with which the current operation has ended. -/
def FdInternal.ended (internal : FdInternal) : Option UInt8 :=
  if internal.req.complete then internal.req.result else none

/-- What the device says about its operation. A failure waits to be sent in a ready slot,
and was acknowledged in a failed one. -/
structure Truthful (internal : FdInternal) (response : GetStatusResponse) : Prop where
  success : response.auxState = AuxState.operationSuccessful.toU8 →
    ∃ result, internal.ended = some result ∧ Success internal.state result
  failure : ∀ result, internal.ended = some result → ¬ Success internal.state result →
    internal.req.state = .ready ∨ internal.req.state = .failed →
      response.auxState = AuxState.operationFailed.toU8
  status : ∃ status, AuxStateStatus.tryFrom response.auxStateStatus = .ok status

/-- The call changes nothing, and a response of success that it writes tells the truth. -/
def TellsTheTruth (event : FdEvent) : Prop :=
  event.after = event.before ∧ ∀ count response,
    event.output.outcome = .ok (.length count) →
    event.completionCode = some PldmBaseCompletionCode.success.toU8 →
    GetStatusResponse.scanner.decode (event.output.payload.take count) = .ok response →
      Truthful event.before response

/-- The slots that make the device say something else. -/
inductive Misleads (internal : FdInternal) : Prop
  | unreported {result : UInt8} (ready : internal.req.state = .ready)
      (complete : internal.req.complete = true) (stores : internal.req.result = some result)
      (failure : result ≠ TransferResult.transferSuccess.toU8)
  | unnamed {result : UInt8} (failed : internal.req.state = .failed)
      (stores : internal.req.result = some result) (high : 0x0a < result)
      (foreign : result < 0x70 ∨ 0xef < result)

namespace FdContext

variable {ops : FdOps} {payload : List UInt8} {pre : FdInternal}

/-- A recorded percentage can be reported. -/
theorem statusProgress_ne_panic (measured : Measured pre) :
    (statusProgress ops ⟨pre, payload, []⟩).1 ≠ .panic := by
  obtain ⟨progress, recorded⟩ := measured.recordedProgress
  rw [statusProgress_eq, recorded]
  split
  · rintro ⟨⟩
  · rintro ⟨⟩

theorem getStatusRsp_unchanged :
    (getStatusRsp ops).wp (fun _ final => final.internal = pre) ⟨pre, payload, []⟩ := by
  apply FdCall.withRequest_rule
  · intros
    rfl
  · intro request _
    rw [Call.wp_bind]
    apply statusProgress_reports
    · intro _ progress log
      simp only [Call.wp_bind, FdCall.wp_internal]
      exact FdCall.respond_rule (fun _ _ _ => rfl) fun _ _ _ => rfl
    · exact fun _ _ => rfl

end FdContext

/-! ## What the slot says -/

/-- The bytes that stand for a status. -/
theorem auxStateStatus_known_iff {value : UInt8} :
    (∃ status, AuxStateStatus.tryFrom value = .ok status) ↔
      ¬ (0x0a < value ∧ (value < 0x70 ∨ 0xef < value)) := by
  simp only [AuxStateStatus.tryFrom, UInt8.le_iff_toNat_le, UInt8.lt_iff_toNat_lt,
    ← UInt8.toNat_inj, UInt8.reduceToNat]
  split_ifs
  all_goals simp
  all_goals omega

/-- An operation in progress is said to be in progress. -/
theorem Truthful.of_progress {internal : FdInternal} {response : GetStatusResponse}
    (state : response.auxState = AuxState.operationInProgress.toU8)
    (status : response.auxStateStatus = AuxStateStatus.auxStateInProgressOrSuccess.toU8)
    (unsettled : ∀ result, internal.ended = some result → internal.req.state = .sent) :
    Truthful internal response where
  success succeeded := by
    rw [state] at succeeded
    cases succeeded
  failure result ended _ waiting := by
    rw [unsettled result ended] at waiting
    rcases waiting with waiting | waiting
    · cases waiting
    · cases waiting
  status := by
    rw [status]
    exact ⟨_, rfl⟩

/-- The device tells the truth about its slot unless the slot is one of those listed. -/
theorem truthful_iff {internal : FdInternal} {response : GetStatusResponse}
    (slot : ActiveSlot internal.state internal.req)
    (state : response.auxState = (FdContext.auxStatus internal.req).1.toU8)
    (status : response.auxStateStatus = (FdContext.auxStatus internal.req).2) :
    Truthful internal response ↔ ¬ Misleads internal := by
  rcases internal with ⟨fdState, prevState, reason, component, flags, size, req, mode, time, t1, t2⟩
  dsimp only at slot state status
  cases slot with
  | working id active =>
      refine iff_of_true (.of_progress state status (by rintro _ ⟨⟩)) ?_
      rintro (⟨_, complete, _⟩ | ⟨failed, _⟩)
      · cases complete
      · cases failed
  | awaitingData id time =>
      refine iff_of_true (.of_progress state status (by rintro _ ⟨⟩)) ?_
      rintro (⟨ready, _⟩ | ⟨failed, _⟩)
      · cases ready
      · cases failed
  | reported result id time reports =>
      refine iff_of_true (.of_progress state status fun _ _ => rfl) ?_
      rintro (⟨ready, _⟩ | ⟨failed, _⟩)
      · cases ready
      · cases failed
  | transferred result id =>
      constructor
      · rintro truthful (⟨_, _, stores, failure⟩ | ⟨failed, _⟩)
        · obtain rfl := Option.some.inj stores
          obtain ⟨_, ended, success⟩ := truthful.success state
          obtain rfl := Option.some.inj ended
          exact failure success
        · cases failed
      · intro led
        have hsuccess : result = TransferResult.transferSuccess.toU8 := by
          by_contra failure
          exact led (.unreported rfl rfl rfl failure)
        refine ⟨fun _ => ⟨result, rfl, hsuccess⟩, ?_, ?_⟩
        · intro _ ended failure _
          obtain rfl := Option.some.inj ended
          exact absurd hsuccess failure
        · rw [status]
          exact ⟨_, rfl⟩
  | failed result active =>
      have hstatus : response.auxStateStatus = result := status
      constructor
      · rintro truthful (⟨ready, _⟩ | ⟨_, stores, high, foreign⟩)
        · cases ready
        · obtain rfl := Option.some.inj stores
          have hknown := truthful.status
          rw [hstatus, auxStateStatus_known_iff] at hknown
          exact hknown ⟨high, foreign⟩
      · intro led
        refine ⟨?_, fun _ _ _ _ => state, ?_⟩
        · intro succeeded
          rw [state] at succeeded
          cases succeeded
        · rw [hstatus, auxStateStatus_known_iff]
          exact fun outside => led (.unnamed rfl rfl outside.1 outside.2)

/-! ## What the device says -/

/-- Exactly the slots listed make the device say something else than the truth, if there
is room to say it. -/
theorem tellsTheTruth_iff {profile : Profile} {events : List FdEvent} {state : FdInternal}
    (trace : FdTrace profile events state) (active : state.state.isInitiator = true)
    (payload : List UInt8) (ops : FdOps) :
    TellsTheTruth (fdEvent profile state ⟨.request .getStatus payload, ops⟩) ↔
      ¬ (14 ≤ payload.length ∧ Misleads state) := by
  have hslot := trace.coherent.slot active
  have hreads (sent : GetStatusResponse) :
      GetStatusResponse.scanner.decode sent.toBytes = .ok sent := by
    simpa using sent.reads []
  have hunchanged : (fdEvent profile state ⟨.request .getStatus payload, ops⟩).after = state := by
    obtain ⟨_, final, hfinal, _, hafter, _⟩ :=
      @request_rule profile state .getStatus payload ops _ FdContext.getStatusRsp_unchanged
    exact hafter.trans hfinal
  obtain ⟨verdict, between, outcome, decides, finished, houtcome⟩ :=
    handler_ends profile state .getStatus payload ops
  have hbefore : (fdEvent profile state ⟨.request .getStatus payload, ops⟩).before = state := rfl
  generalize fdEvent profile state ⟨.request .getStatus payload, ops⟩ = event at *
  generalize event.callbacks = log at decides
  constructor
  · rintro ⟨_, tells⟩ ⟨room, misleads⟩
    cases decides with
    | misplaced gated => cases gated
    | undecoded failed =>
        cases decoded : HeaderRequest.decode payload with
        | error error =>
            have hshort := HeaderRequest.length_of_error decoded
            simp only [pldmMsgHeaderLen] at hshort
            omega
        | ok request => simp [Handler.decodeError, decoded, errorOf] at failed
    | progressUnclear unclear =>
        exact FdContext.statusProgress_ne_panic trace.measured unclear
    | statusReported decoded =>
        obtain ⟨hcode, _, hcount, written⟩ := finished.of_reply houtcome trivial room
        have htruthful := tells _ _ hcount hcode (by rw [written, Response.toBytes, hreads])
        rw [hbefore, truthful_iff hslot rfl rfl] at htruthful
        exact htruthful misleads
    | proxied serves => simp at serves
    | namedUnknown serves => simp at serves
    | cancelFailed cancels => cases cancels
  · intro plain
    refine ⟨hunchanged.trans hbefore.symm, fun count response counted succeeded reads => ?_⟩
    rcases finished.answer_cases decides houtcome succeeded with
      refused | ⟨reply, commit, rfl, _, room, _, hcount, written⟩
    · exact absurd refused (by decide)
    · cases decides with
      | statusReported decoded =>
          rw [hcount] at counted
          injection counted with counted
          injection counted with counted
          rw [← counted, written, Response.toBytes, hreads] at reads
          obtain rfl := Outcome.ok.inj reads
          rw [hbefore, truthful_iff hslot rfl rfl]
          exact fun misleads => plain ⟨room, misleads⟩

/-- The platform finds the image corrupt. -/
def corrupted : FdOps :=
  { platform 2 with downloadFwData := fun _ _ _ => .ok .transferErrorImageCorrupt }

/-- The device has got data that the platform finds corrupt. -/
def untilCorrupted : List FdInput :=
  opening 100 ++ [poll (platform 1), respond (Agent.response 1 .requestFirmwareData
    PldmBaseCompletionCode.success.toU8 (List.replicate 32 0)) corrupted]

/-- The agent asks for the status. -/
def askStatus : FdInput := receive .getStatus (Agent.plainRequest .getStatus 11) (platform 3)

/-- A transfer that has failed is said to be successful. -/
theorem failure_misreported : ∃ events state, FdTrace .release events state ∧
    state.state = .download ∧ ¬ TellsTheTruth (fdEvent .release state askStatus) := by
  obtain ⟨events, state, trace, hcheck⟩ := exists_run .release untilCorrupted
    (fun _ state => state.state = .download &&
      state.ended = some TransferResult.transferErrorImageCorrupt.toU8 &&
      (fdEvent .release state askStatus).output.outcome = .ok (.length 14) &&
      (fdEvent .release state askStatus).completionCode =
        some PldmBaseCompletionCode.success.toU8 &&
      (GetStatusResponse.scanner.decode
        ((fdEvent .release state askStatus).output.payload.take 14)).map
          GetStatusResponse.auxState = .ok AuxState.operationSuccessful.toU8) (by decide +kernel)
  simp only [Bool.and_eq_true, decide_eq_true_eq] at hcheck
  obtain ⟨⟨⟨⟨hstate, hended⟩, hcount⟩, hcode⟩, hread⟩ := hcheck
  obtain ⟨response, hdecode, hsuccessful⟩ := Outcome.map_eq_ok.mp hread
  refine ⟨events, state, trace, hstate, fun tells => ?_⟩
  obtain ⟨result, ended, success⟩ := (tells.2 14 response hcount hcode hdecode).success hsuccessful
  obtain rfl := Option.some.inj (hended.symm.trans ended)
  rw [show (fdEvent .release state askStatus).before.state = .download from hstate] at success
  cases success

theorem tellsTheTruth_iff_corrupted : ∃ events state, FdTrace .release events state ∧
    state.state.isInitiator = true ∧ (TellsTheTruth (fdEvent .release state askStatus) ↔
      ¬ (14 ≤ (Agent.plainRequest .getStatus 11).length ∧ Misleads state)) := by
  obtain ⟨events, state, trace, hcheck⟩ := exists_run .release untilCorrupted
    (fun _ state => state.state.isInitiator) (by decide +kernel)
  exact ⟨events, state, trace, hcheck, tellsTheTruth_iff trace hcheck
    (Agent.plainRequest .getStatus 11) (platform 3)⟩

end PldmLib.FirmwareDevice
