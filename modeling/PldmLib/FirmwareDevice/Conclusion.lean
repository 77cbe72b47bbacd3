/-
# How an operation ended

A transfer, a verification and an application each end with a result of the
platform, unless the agent breaks the transfer off. The call that ends an
operation completes the slot; from then on the slot may hold the result, or that
of a repeated report. This file says which call it was, and what the platform
answered in it.
-/

import PldmLib.FirmwareDevice.Step

namespace PldmLib.FirmwareDevice

open PldmLib.Machine PldmLib.Protocol PldmLib.Message

/-! ## Results of operations -/

/-- What the platform says about an operation. -/
inductive OperationResult
  | transfer (result : TransferResult)
  | verify (result : VerifyResult)
  | apply (result : ApplyResult)
  deriving DecidableEq, Repr

namespace OperationResult

def toU8 : OperationResult → UInt8
  | .transfer result => result.toU8
  | .verify result => result.toU8
  | .apply result => result.toU8

/-- The byte is read back as this result. -/
def ReadFrom (byte : UInt8) : OperationResult → Prop
  | .transfer result => TransferResult.tryFrom byte = .ok result
  | .verify result => VerifyResult.tryFrom byte = .ok result
  | .apply result => ApplyResult.tryFrom byte = .ok result

def isVendorDefined : OperationResult → Bool
  | .transfer result => result = .vendorDefined
  | .verify result => result = .vendorDefined
  | .apply result => result = .vendorDefined

/-- The result that a repeated report carries. -/
def isGenericError : OperationResult → Bool
  | .transfer _ => false
  | .verify result => result = .verifyGenericError
  | .apply result => result = .applyGenericError

theorem readFrom_toU8 (result : OperationResult) :
    result.ReadFrom result.toU8 ↔ result.isVendorDefined = false := by
  cases result with
  | transfer result => simp [ReadFrom, toU8, isVendorDefined, TransferResult.tryFrom_toU8]
  | verify result => simp [ReadFrom, toU8, isVendorDefined, VerifyResult.tryFrom_toU8]
  | apply result => simp [ReadFrom, toU8, isVendorDefined, ApplyResult.tryFrom_toU8]

theorem not_vendor_of_success {result : OperationResult} (success : result.toU8 = 0) :
    result.isVendorDefined = false := by
  cases result with
  | transfer result => cases result <;> first | rfl | cases success
  | verify result => cases result <;> first | rfl | cases success
  | apply result => cases result <;> first | rfl | cases success

theorem verify_readFrom (result : VerifyResult) :
    (verify result).ReadFrom 0x0a ↔ (verify result).isGenericError = true := by
  show VerifyResult.tryFrom 0x0a = .ok result ↔ decide (result = _) = true
  cases result <;> decide

theorem apply_readFrom (result : ApplyResult) :
    (apply result).ReadFrom 0x0a ↔ (apply result).isGenericError = true := by
  show ApplyResult.tryFrom 0x0a = .ok result ↔ decide (result = _) = true
  cases result <;> decide

end OperationResult

/-- The result in a callback of an operation that did not fail. -/
def Callback.operationResult : Callback → Option OperationResult
  | .downloadFwData _ _ _ (.ok result) => some (.transfer result)
  | .verify _ (.ok answer) => some (.verify answer.1)
  | .apply _ (.ok answer) => some (.apply answer.1)
  | _ => none

/-- The platform gave this result in the call. -/
def Answered (event : FdEvent) (result : OperationResult) : Prop :=
  ∃ callback ∈ works event.log, callback.operationResult = some result

/-- The call brought an operation to its end. -/
def Concludes (event : FdEvent) : Prop :=
  event.before.req.complete = false ∧ event.after.req.complete = true

/-- The last call of a run that brought an operation to its end. -/
def LastConclusion (events : List FdEvent) (call : FdEvent) : Prop :=
  ∃ earlier since, events = earlier ++ call :: since ∧ Concludes call ∧
    ∀ event ∈ since, ¬ Concludes event

theorem LastConclusion.unique {events : List FdEvent} {call other : FdEvent}
    (last : LastConclusion events call) (also : LastConclusion events other) : call = other := by
  obtain ⟨_, since, rfl, concludes, hsince⟩ := last
  obtain ⟨_, since', hsplit, concludes', hsince'⟩ := also
  exact (last_unique Concludes hsplit concludes concludes' hsince hsince').1

theorem LastConclusion.of_concludes {event : FdEvent} (concludes : Concludes event)
    (events : List FdEvent) : LastConclusion (events ++ [event]) event :=
  ⟨events, [], rfl, concludes, by simp⟩

theorem LastConclusion.append {events : List FdEvent} {call event : FdEvent}
    (last : LastConclusion events call) (open_ : ¬ Concludes event) :
    LastConclusion (events ++ [event]) call := by
  obtain ⟨earlier, since, rfl, concludes, hsince⟩ := last
  exact ⟨earlier, since ++ [event], by simp, concludes, forall_mem_concat.mpr ⟨hsince, open_⟩⟩

/-- How a call concluded the operation of a state. A transfer that the agent broke
off is concluded without the platform. -/
def SettledBy (internal : FdInternal) (call : FdEvent) : Prop :=
  match internal.state with
  | .download => ∃ result : TransferResult, internal.req.result = some result.toU8 ∧
      (∀ answer, Answered call answer → answer = .transfer result) ∧
      (result = .vendorDefined → Answered call (.transfer result))
  | .verify => ∃ result, ∀ answer, Answered call answer ↔ answer = .verify result
  | .apply => ∃ result, ∀ answer, Answered call answer ↔ answer = .apply result
  | _ => False

/-- What a call does about the end of an operation that is over afterwards. -/
def KeepsConclusion (pre : FdInternal) (event : FdEvent) : Prop :=
  pre.req.complete = true ∧ event.after.state = pre.state ∧
      (event.after.state = .download → event.after.req.result = pre.req.result) ∨
    pre.req.complete = false ∧ SettledBy event.after event

namespace KeepsConclusion

variable {pre post : FdInternal} {input : FdInput} {returned : Outcome MsgHandlerError Returned}
  {final : List UInt8} {log : List Invocation}

theorem of_same (complete : post.req.complete = true) (state : post.state = pre.state)
    (req : post.req.complete = pre.req.complete) (result : post.req.result = pre.req.result) :
    KeepsConclusion pre ⟨pre, input, ⟨returned, post, final, log⟩⟩ :=
  .inl ⟨req.symm.trans complete, state, fun _ => result⟩

theorem of_touched (touched : Touched log pre post) (complete : post.req.complete = true) :
    KeepsConclusion pre ⟨pre, input, ⟨returned, post, final, log⟩⟩ :=
  of_same complete touched.state (congrArg FdReq.complete touched.req)
    (congrArg FdReq.result touched.req)

theorem request {ops : FdOps} {payload : List UInt8} {handler : Handler}
    {outcome : Outcome MsgHandlerError ℕ}
    (step : RequestStep ops payload pre handler outcome post log)
    (active : post.state.isInitiator = true) (complete : post.req.complete = true) :
    KeepsConclusion pre ⟨pre, input, ⟨returned, post, final, log⟩⟩ := by
  rcases step.of_operating active with touched | ⟨_, internal, rfl⟩
  · exact of_touched touched complete
  · rw [FdContext.enterDownload_req] at complete
    cases complete

/-- The platform answered a verification or an application in this call alone. -/
theorem settledBy_of_operation {kind : OperationKind} {result : UInt8}
    {progress : ProgressPercent} {component : FirmwareComponent}
    (state : post.state = kind.state)
    (ran : kind.answer input.ops component = .ok (result, progress))
    (worked : works log = [kind.callback input.ops component]) :
    SettledBy post ⟨pre, input, ⟨returned, post, final, log⟩⟩ := by
  have hanswered (answer : OperationResult) :
      Answered ⟨pre, input, ⟨returned, post, final, log⟩⟩ answer ↔
        (kind.callback input.ops component).operationResult = some answer := by
    simp [Answered, FdEvent.log, worked]
  unfold SettledBy
  rw [state]
  cases kind with
  | verify =>
      simp only [OperationKind.state, OperationKind.answer] at ran ⊢
      cases hverify : input.ops.verify component with
      | error error => simp [hverify, Except.map] at ran
      | ok answer =>
          refine ⟨answer.1, fun other => ?_⟩
          rw [hanswered]
          simp [OperationKind.callback, hverify, Callback.operationResult, eq_comm]
  | apply =>
      simp only [OperationKind.state, OperationKind.answer] at ran ⊢
      cases happly : input.ops.apply component with
      | error error => simp [happly, Except.map] at ran
      | ok answer =>
          refine ⟨answer.1, fun other => ?_⟩
          rw [hanswered]
          simp [OperationKind.callback, happly, Callback.operationResult, eq_comm]

theorem poll {profile : Profile} {ops : FdOps} {payload : List UInt8} {sent : Option FdRequest}
    {outcome : Outcome MsgHandlerError ℕ} {operation : FdOperation}
    (step : PollStep profile ops payload pre outcome post log sent)
    (active : post.state.isInitiator = true) (complete : post.req.complete = true) :
    KeepsConclusion pre ⟨pre, ⟨operation, ops⟩, ⟨returned, post, final, log⟩⟩ := by
  cases step with
  | timedOut => simp [FirmwareDeviceState.isInitiator] at active
  | transferReported _ _ already stored => exact of_same complete rfl already.symm stored.symm
  | dataRequested => cases complete
  | operationPending => exact of_same complete (by simp) (by simp) (by simp)
  | operationUnsent => exact of_same complete (by simp) (by simp) (by simp)
  | operationReported state _ unfinished ran =>
      refine .inr ⟨unfinished,
        settledBy_of_operation ((OperationKind.setProgress_state ..).trans state) ran ?_⟩
      simp [works_cons]
  | @reportRepeated kind state _ already =>
      refine .inl ⟨already, rfl, ?_⟩
      intro downloading
      have hdownload : kind.state = .download := state.symm.trans downloading
      cases kind <;> cases hdownload
  | _ => exact of_same complete rfl rfl rfl

theorem response {ops : FdOps} {payload : List UInt8} {outcome : Outcome MsgHandlerError PUnit}
    {operation : FdOperation} (step : ResponseStep ops payload pre outcome post log)
    (active : post.state.isInitiator = true) (complete : post.req.complete = true) :
    KeepsConclusion pre ⟨pre, ⟨operation, ops⟩, ⟨returned, post, final, log⟩⟩ := by
  cases step with
  | @dataRejected offset data result _ delivery _ failed =>
      refine .inr ⟨delivery.complete, ?_⟩
      simp only [SettledBy, FdEvent.after, FdInternal.setFdReq_state,
        FdInternal.setFdT1UpdateTs_state, delivery.state]
      refine ⟨result, rfl, ?_, ?_⟩
      · rintro answer ⟨callback, member, hanswer⟩
        simp [FdEvent.log, works_cons, Callback.isWork] at member
        subst member
        exact (Option.some.inj hanswer).symm
      · intro _
        refine ⟨.downloadFwData offset.toNat data pre.updateComp (.ok result), ?_, rfl⟩
        simp [FdEvent.log, works_cons, Callback.isWork]
  | dataStored => cases complete
  | dataCompleted _ delivery =>
      refine .inr ⟨delivery.complete, ?_⟩
      simp only [SettledBy, FdEvent.after, FdInternal.setFdReq_state,
        FdInternal.setFdT1UpdateTs_state, delivery.state]
      refine ⟨.transferSuccess, rfl, ?_, (by rintro ⟨⟩)⟩
      rintro answer ⟨callback, member, hanswer⟩
      simp [FdEvent.log, works_cons, Callback.isWork] at member
      rcases member with rfl | rfl
      · exact (Option.some.inj hanswer).symm
      · cases hanswer
  | transferAborted _ state unfinished =>
      refine .inr ⟨unfinished, ?_⟩
      simp only [SettledBy, FdEvent.after, FdInternal.setFdReq_state,
        FdInternal.setFdT1UpdateTs_state, state]
      refine ⟨.fdAbortedTransfer, rfl, ?_, (by rintro ⟨⟩)⟩
      rintro answer ⟨callback, member, _⟩
      simp [FdEvent.log, works_cons] at member
  | acknowledged _ busy =>
      rw [advance_incomplete busy] at complete
      cases complete
  | disappointed _ _ already => exact .inl ⟨already, rfl, fun _ => rfl⟩
  | _ => exact of_same complete rfl rfl rfl

theorem step {profile : Profile} {output : FdOutput} {sent : Option FdRequest}
    (step : FdStep profile pre input output sent)
    (active : output.internal.state.isInitiator = true)
    (complete : output.internal.req.complete = true) :
    KeepsConclusion pre ⟨pre, input, output⟩ := by
  cases step with
  | request step => exact request step active complete
  | poll step => exact poll step active complete
  | response step => exact response step active complete
  | touch => exact of_same complete rfl rfl rfl
  | query => exact of_same complete rfl rfl rfl

end KeepsConclusion

/-- The run lemma: an operation that is over was concluded by a call of the run, and
the device knows how. -/
theorem settledBy_of_trace {profile : Profile} {events : List FdEvent} {state : FdInternal}
    (trace : FdTrace profile events state) (active : state.state.isInitiator = true)
    (complete : state.req.complete = true) :
    ∃ call, LastConclusion events call ∧ SettledBy state call := by
  refine (FdRun.induct trace Coherent.init (fun events state =>
    state.state.isInitiator = true → state.req.complete = true →
      ∃ call, LastConclusion events call ∧ SettledBy state call) ?_ ?_).1 active complete
  · intro active
    cases active
  · intro events pre input output sent _ ih step _ _ active complete
    rcases KeepsConclusion.step step active complete with ⟨already, hstate, hresult⟩ |
      ⟨unfinished, settled⟩
    · obtain ⟨call, last, settled⟩ := ih (hstate ▸ active) already
      refine ⟨call, last.append ?_, ?_⟩
      · rintro ⟨unfinished, _⟩
        exact absurd (unfinished.symm.trans already) nofun
      · unfold SettledBy at settled ⊢
        rw [show output.internal.state = pre.state from hstate]
        cases hpre : pre.state with
        | download =>
            rw [hpre] at settled
            dsimp only at settled ⊢
            rw [show output.internal.req.result = pre.req.result from
              hresult (hstate.trans hpre)]
            exact settled
        | verify => rwa [hpre] at settled
        | apply => rwa [hpre] at settled
        | _ => simp [hpre] at settled
    · have concludes : Concludes ⟨pre, input, output⟩ := ⟨unfinished, complete⟩
      exact ⟨⟨pre, input, output⟩, .of_concludes concludes events, settled⟩

section Settled

variable {profile : Profile} {events : List FdEvent} {state : FdInternal}

/-- A call on an operation that is over does not change how it was concluded. -/
theorem lastConclusion_append (complete : state.req.complete = true) (input : FdInput)
    {call : FdEvent} (last : LastConclusion events call) :
    LastConclusion (events ++ [fdEvent profile state input]) call := by
  apply last.append
  rintro ⟨unfinished, _⟩
  exact absurd (unfinished.symm.trans complete) nofun

/-- The result of a transfer that is over, as the slot and the platform have it. -/
theorem settled_transfer (trace : FdTrace profile events state) (download : state.state = .download)
    (complete : state.req.complete = true) :
    ∃ call, LastConclusion events call ∧ ∃ result : TransferResult,
      state.req.result = some result.toU8 ∧
      (∀ answer, Answered call answer → answer = .transfer result) ∧
      (result = .vendorDefined → Answered call (.transfer result)) := by
  obtain ⟨call, last, settled⟩ := settledBy_of_trace trace (by rw [download]; rfl) complete
  rw [SettledBy, download] at settled
  exact ⟨call, last, settled⟩

/-- The result of an operation that is over, as the platform gave it. -/
theorem settled_operation (trace : FdTrace profile events state) {kind : OperationKind}
    (operating : state.state = kind.state) (complete : state.req.complete = true) :
    ∃ call, LastConclusion events call ∧ ∀ result, Answered call result →
      (result.ReadFrom 0x0a ↔ result.isGenericError = true) := by
  obtain ⟨call, last, settled⟩ :=
    settledBy_of_trace trace (by rw [operating]; exact kind.state_isInitiator) complete
  refine ⟨call, last, ?_⟩
  rw [SettledBy, operating] at settled
  cases kind with
  | verify =>
      obtain ⟨result, hanswered⟩ := settled
      intro answer answered
      rw [(hanswered answer).mp answered]
      exact OperationResult.verify_readFrom result
  | apply =>
      obtain ⟨result, hanswered⟩ := settled
      intro answer answered
      rw [(hanswered answer).mp answered]
      exact OperationResult.apply_readFrom result

end Settled

end PldmLib.FirmwareDevice
