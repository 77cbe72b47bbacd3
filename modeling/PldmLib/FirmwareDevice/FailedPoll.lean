/-
# Polls that fail

A poll that finds a request due takes the next instance ID before it does anything else.
When the request then does not get out, because the platform names no range to ask for or
the message does not fit the buffer, the slot is left with an ID that no request has
carried. For a fresh request that is of no consequence. For a request that is being
repeated it means that the answer to the one that did get out is not recognised any more.
-/

import PldmLib.FirmwareDevice.Retransmission

namespace PldmLib.FirmwareDevice

open PldmLib.Machine PldmLib.Protocol PldmLib.Message

/-- The repeated request does not get out. -/
inductive Unrepeated (profile : Profile) (ops : FdOps) (payload : List UInt8)
    (pre : FdInternal) : Prop
  | reportUnsent (complete : pre.req.complete = true)
      (short : payload.length < reportLength pre.state)
  | rangeUnknown {error : FdOpsError} (complete : pre.req.complete = false)
      (asked : ops.queryDownloadOffsetAndLength pre.updateComp = .error error)
  | rangeRefused {range : ℕ × ℕ} (complete : pre.req.complete = false)
      (asked : ops.queryDownloadOffsetAndLength pre.updateComp = .ok range)
      (outside : pre.getFdDownloadChunk profile (UInt32.ofNat range.1) (UInt32.ofNat range.2) =
        (.ok none : Outcome MsgHandlerError _))
  | dataUnsent {range : ℕ × ℕ} {chunk : UInt32 × UInt32} (complete : pre.req.complete = false)
      (asked : ops.queryDownloadOffsetAndLength pre.updateComp = .ok range)
      (inside : pre.getFdDownloadChunk profile (UInt32.ofNat range.1) (UInt32.ofNat range.2) =
        (.ok (some chunk) : Outcome MsgHandlerError _))
      (short : payload.length < 11)

/-- A request is due again, and this time it does not get out. -/
structure RetryFails (profile : Profile) (ops : FdOps) (payload : List UInt8)
    (pre : FdInternal) : Prop where
  active : pre.state.isInitiator = true
  passed : Open ops pre
  unrepeated : Unrepeated profile ops payload pre

/-- Every response that was acceptable before the call is acceptable after it, and has
the same effect. -/
def KeepsAnswers (event : FdEvent) : Prop :=
  ∀ payload ops, accepts event.before.req payload = true →
    accepts event.after.req payload = true ∧
      FdContext.handleResponse ops ⟨event.after, payload, []⟩ =
        FdContext.handleResponse ops ⟨event.before, payload, []⟩

section Steps

variable {profile : Profile} {ops : FdOps} {payload : List UInt8} {pre post : FdInternal}
  {outcome : Outcome MsgHandlerError ℕ} {log : List Invocation} {sent : Option FdRequest}

/-- What a poll that is due does while the transfer goes on: ask for a range of it. -/
inductive RangeStep (profile : Profile) (ops : FdOps) (payload : List UInt8)
    (pre : FdInternal) : Outcome MsgHandlerError ℕ → FdInternal → Prop
  | unknown {error : FdOpsError}
      (asked : ops.queryDownloadOffsetAndLength pre.updateComp = .error error) :
      RangeStep profile ops payload pre (.err (.fdOps error)) pre.allocNextInstanceId
  | refused {range : ℕ × ℕ} (asked : ops.queryDownloadOffsetAndLength pre.updateComp = .ok range)
      (outside : pre.getFdDownloadChunk profile (UInt32.ofNat range.1) (UInt32.ofNat range.2) =
        (.ok none : Outcome MsgHandlerError _)) :
      RangeStep profile ops payload pre (.err .fdInitiatorModeError) pre.allocNextInstanceId
  | overflowed {range : ℕ × ℕ}
      (asked : ops.queryDownloadOffsetAndLength pre.updateComp = .ok range)
      (overflowed : pre.getFdDownloadChunk profile (UInt32.ofNat range.1)
        (UInt32.ofNat range.2) = (.panic : Outcome MsgHandlerError _)) :
      RangeStep profile ops payload pre .panic pre.allocNextInstanceId
  | unsent {range : ℕ × ℕ} {chunk : UInt32 × UInt32}
      (asked : ops.queryDownloadOffsetAndLength pre.updateComp = .ok range)
      (inside : pre.getFdDownloadChunk profile (UInt32.ofNat range.1) (UInt32.ofNat range.2) =
        (.ok (some chunk) : Outcome MsgHandlerError _)) (short : payload.length < 11) :
      RangeStep profile ops payload pre (.err (.codec .bufferTooShort)) pre.allocNextInstanceId
  | requested {range : ℕ × ℕ} {chunk : UInt32 × UInt32} {post : FdInternal}
      (asked : ops.queryDownloadOffsetAndLength pre.updateComp = .ok range)
      (inside : pre.getFdDownloadChunk profile (UInt32.ofNat range.1) (UInt32.ofNat range.2) =
        (.ok (some chunk) : Outcome MsgHandlerError _)) (room : 11 ≤ payload.length) :
      RangeStep profile ops payload pre (.ok 11) post

theorem PollStep.of_incomplete (step : PollStep profile ops payload pre outcome post log sent)
    (state : pre.state = .download) (passed : Open ops pre) (incomplete : pre.req.complete = false) :
    RangeStep profile ops payload pre outcome post := by
  have hsilent (silence : silent ops pre = true) : False := by
    rw [passed.heard] at silence
    cases silence
  have hfinished (complete : pre.req.complete = true) : False := by
    rw [incomplete] at complete
    cases complete
  have hoperation {kind : OperationKind} (operating : pre.state = kind.state) : False := by
    rw [state] at operating
    cases kind <;> cases operating
  cases step with
  | rangeUnknown _ _ _ asked => exact .unknown asked
  | rangeRefused _ _ _ asked outside => exact .refused asked outside
  | rangeOverflowed _ _ _ asked overflowed => exact .overflowed asked overflowed
  | dataUnsent _ _ _ asked inside short => exact .unsent asked inside short
  | dataRequested _ _ _ asked inside room => exact .requested asked inside room
  | inactive passive =>
      rw [state] at passive
      cases passive
  | timedOut _ silence => exact (hsilent silence).elim
  | timeoutRefused _ silence => exact (hsilent silence).elim
  | undue _ _ early =>
      rw [passed.due] at early
      cases early
  | transferUnsent _ _ complete => exact (hfinished complete).elim
  | transferUnknown _ _ complete => exact (hfinished complete).elim
  | transferReported _ _ complete => exact (hfinished complete).elim
  | operationFailed operating => exact (hoperation operating).elim
  | operationPending operating => exact (hoperation operating).elim
  | operationUnsent operating => exact (hoperation operating).elim
  | operationReported operating => exact (hoperation operating).elim
  | reportUnsent operating => exact (hoperation operating).elim
  | reportRepeated operating => exact (hoperation operating).elim

/-- The request that is outstanding while an operation is unfinished asks for data. -/
theorem Coherent.download_of_sent (coherent : Coherent pre)
    (active : pre.state.isInitiator = true) (outstanding : pre.req.state = .sent)
    (incomplete : pre.req.complete = false) : pre.state = .download := by
  rcases outstanding_cases coherent active outstanding with ⟨state, _⟩ | ⟨complete, _⟩
  · exact state
  · rw [incomplete] at complete
    cases complete

/-- A poll that fails to repeat a request has taken an ID for it. -/
theorem PollStep.of_retryFails (step : PollStep profile ops payload pre outcome post log sent)
    (coherent : Coherent pre) (outstanding : pre.req.state = .sent)
    (readable : pre.state = .download → ∀ stored, pre.req.result = some stored →
      ∃ known, TransferResult.tryFrom stored = .ok known)
    (fails : RetryFails profile ops payload pre) :
    post = pre.allocNextInstanceId ∧ ∃ error, outcome = .err error ∧ error ≠ .t1Timeout := by
  obtain ⟨active, passed, unrepeated⟩ := fails
  have hrange (incomplete : pre.req.complete = false) :
      RangeStep profile ops payload pre outcome post :=
    step.of_incomplete (coherent.download_of_sent active outstanding incomplete) passed incomplete
  cases unrepeated with
  | reportUnsent complete short =>
      cases step.of_complete active passed complete with
      | unknown state stores unknown =>
          obtain ⟨known, reads⟩ := readable state _ stores
          rw [reads] at unknown
          cases unknown
      | unsent => exact ⟨rfl, _, rfl, by simp⟩
      | transfer state _ _ room =>
          rw [state] at short
          exact absurd short (Nat.not_lt.mpr room)
      | repeated state room =>
          rw [state, OperationKind.reportLength_state] at short
          exact absurd short (Nat.not_lt.mpr room)
  | rangeUnknown incomplete asked =>
      cases hrange incomplete with
      | unknown => exact ⟨rfl, _, rfl, by simp⟩
      | _ asked' =>
          rw [asked] at asked'
          cases asked'
  | rangeRefused incomplete asked outside =>
      cases hrange incomplete with
      | unknown => exact ⟨rfl, _, rfl, by simp⟩
      | refused => exact ⟨rfl, _, rfl, by simp⟩
      | overflowed asked' overflowed =>
          obtain rfl := Except.ok.inj (asked.symm.trans asked')
          rw [outside] at overflowed
          cases overflowed
      | unsent => exact ⟨rfl, _, rfl, by simp⟩
      | requested asked' inside =>
          obtain rfl := Except.ok.inj (asked.symm.trans asked')
          rw [outside] at inside
          cases inside
  | dataUnsent incomplete asked inside short =>
      cases hrange incomplete with
      | unknown => exact ⟨rfl, _, rfl, by simp⟩
      | refused => exact ⟨rfl, _, rfl, by simp⟩
      | overflowed asked' overflowed =>
          obtain rfl := Except.ok.inj (asked.symm.trans asked')
          rw [inside] at overflowed
          cases overflowed
      | unsent => exact ⟨rfl, _, rfl, by simp⟩
      | requested _ _ room => exact absurd short (Nat.not_lt.mpr room)

/-- A poll that fails otherwise leaves the device as it was. -/
theorem PollStep.of_err {error : MsgHandlerError}
    (step : PollStep profile ops payload pre (.err error) post log sent)
    (coherent : Coherent pre) (outstanding : pre.req.state = .sent)
    (patient : error ≠ .t1Timeout) : post = pre ∨ RetryFails profile ops payload pre := by
  cases step with
  | inactive => exact .inl rfl
  | timedOut => exact absurd rfl patient
  | timeoutRefused => exact .inl rfl
  | undue => exact .inl rfl
  | transferUnsent state passed complete _ _ short =>
      refine .inr ⟨by rw [state]; rfl, passed, .reportUnsent complete ?_⟩
      rwa [state]
  | rangeUnknown state passed incomplete asked =>
      exact .inr ⟨by rw [state]; rfl, passed, .rangeUnknown incomplete asked⟩
  | rangeRefused state passed incomplete asked outside =>
      exact .inr ⟨by rw [state]; rfl, passed, .rangeRefused incomplete asked outside⟩
  | dataUnsent state passed incomplete asked inside short =>
      exact .inr ⟨by rw [state]; rfl, passed, .dataUnsent incomplete asked inside short⟩
  | operationFailed => exact .inl rfl
  | @operationUnsent kind _ _ operating _ incomplete =>
      have hactive : pre.state.isInitiator = true := by rw [operating, kind.state_isInitiator]
      have hdownload := coherent.download_of_sent hactive outstanding incomplete
      rw [operating] at hdownload
      cases kind <;> cases hdownload
  | @reportUnsent kind operating passed complete short =>
      refine .inr ⟨by rw [operating, kind.state_isInitiator], passed, .reportUnsent complete ?_⟩
      rwa [operating, kind.reportLength_state]

/-- The ID after the one in the slot is another one. -/
theorem Coherent.nextInstanceId_ne (coherent : Coherent pre) {id : UInt8}
    (stored : pre.req.instanceId = some id) : pre.nextInstanceId ≠ id := by
  have hlt := coherent.id_lt id stored
  rw [FdInternal.nextInstanceId, stored]
  simp only [instanceIdCount, UInt8.lt_iff_toNat_lt] at hlt ⊢
  intro same
  have htoNat := congrArg UInt8.toNat same
  simp only [UInt8.toNat_mod, UInt8.toNat_add] at htoNat
  change (id.toNat + 1) % 256 % 32 = id.toNat at htoNat
  change id.toNat < 32 at hlt
  omega

/-- The response that answers the request in the slot. -/
def answerTo (id command : UInt8) : List UInt8 := [id, PldmSupportedType.fwUpdate.toU8, command]

theorem accepts_answerTo {req : FdReq} {id command : UInt8} (small : id < instanceIdCount) :
    accepts req (answerTo id command) = true ↔
      req.state = .sent ∧ req.instanceId = some id ∧ req.command = some command := by
  have hid : id % 32 = id := by
    apply UInt8.toNat_inj.mp
    rw [UInt8.toNat_mod]
    exact Nat.mod_eq_of_lt small
  rw [ResponseStep.accepts_iff, answerTo]
  simp only [PldmMsgHeader.decode_cons, Except.ok.injEq, exists_eq_left', PldmMsgHeader.instanceId,
    PldmMsgHeader.cmdCode, hid]

/-- With another ID in the slot the answer to the outstanding request is lost. -/
theorem Coherent.loses_of_realloc (coherent : Coherent pre)
    (active : pre.state.isInitiator = true) (outstanding : pre.req.state = .sent) :
    ∃ response, accepts pre.req response = true ∧
      accepts pre.allocNextInstanceId.req response = false := by
  obtain ⟨id, command, hid, hcommand⟩ : ∃ id command, pre.req.instanceId = some id ∧
      pre.req.command = some command := by
    have hslot := coherent.slot active
    generalize pre.req = req at hslot outstanding ⊢
    generalize pre.state = fdState at hslot
    cases hslot with
    | awaitingData => exact ⟨_, _, rfl, rfl⟩
    | reported => exact ⟨_, _, rfl, rfl⟩
    | working => cases outstanding
    | transferred => cases outstanding
    | failed => cases outstanding
  have hsmall := coherent.id_lt id hid
  refine ⟨answerTo id command, (accepts_answerTo hsmall).mpr ⟨outstanding, hid, hcommand⟩, ?_⟩
  rw [← Bool.not_eq_true]
  intro accepted
  obtain ⟨_, same, _⟩ := (accepts_answerTo hsmall).mp accepted
  exact coherent.nextInstanceId_ne hid (Option.some.inj same)

end Steps

section Runs

variable {profile : Profile} {events : List FdEvent} {state : FdInternal}

/-- The result of a transfer whose report is outstanding can be read. -/
theorem readable_of_trace (trace : FdTrace profile events state)
    (outstanding : state.req.state = .sent) (download : state.state = .download) {stored : UInt8}
    (stores : state.req.result = some stored) :
    ∃ known, TransferResult.tryFrom stored = .ok known := by
  have hactive : state.state.isInitiator = true := by rw [download]; rfl
  have hcomplete : state.req.complete = true := by
    have hslot := trace.coherent.slot hactive
    generalize state.req = req at hslot outstanding stores ⊢
    generalize state.state = fdState at hslot
    cases hslot with
    | working => cases stores
    | awaitingData => cases stores
    | _ => rfl
  obtain ⟨before, first, interim, command, result, split, hfirst, waits⟩ :=
    first_of_outstanding trace hactive outstanding hcomplete
  obtain ⟨final, hfinal⟩ := outstanding_of_split trace split hfirst waits
  obtain rfl := Option.some.inj (hfinal.stored.symm.trans stores)
  obtain ⟨known, reads, _⟩ := hfinal.readable download
  exact ⟨known, reads⟩

/-- In every state a run reaches with a request outstanding, a poll that fails, other than
by giving up, keeps the answers to that request, exactly unless it fails to repeat it. -/
theorem failedPoll_keepsAnswers_iff (trace : FdTrace profile events state)
    (outstanding : state.req.state = .sent) (payload : List UInt8) (ops : FdOps) :
    ((∀ error, (fdEvent profile state ⟨.fdProgress payload, ops⟩).output.outcome = .err error →
      error ≠ .t1Timeout → KeepsAnswers (fdEvent profile state ⟨.fdProgress payload, ops⟩)) ↔
        ¬ RetryFails profile ops payload state) := by
  obtain ⟨outcome, houtcome, step⟩ := (trace.step ⟨.fdProgress payload, ops⟩).of_poll
  constructor
  · intro keeps fails
    obtain ⟨hpost, error, rfl, hpatient⟩ := step.of_retryFails trace.coherent outstanding
      (fun download _ stores => readable_of_trace trace outstanding download stores) fails
    obtain ⟨response, before, after⟩ := trace.coherent.loses_of_realloc fails.active outstanding
    have hkept := (keeps error houtcome hpatient response ops before).1
    rw [FdEvent.after, hpost, after] at hkept
    cases hkept
  · intro repeats error failed patient response ops' accepted
    cases outcome with
    | err error' =>
        obtain rfl : error' = error := by
          rw [houtcome] at failed
          injection failed
        rcases step.of_err trace.coherent outstanding patient with same | fails
        · rw [FdEvent.after, same]
          exact ⟨accepted, rfl⟩
        · exact absurd fails repeats
    | ok count => rw [houtcome] at failed; cases failed
    | panic => rw [houtcome] at failed; cases failed

end Runs

/-- A request for data is outstanding and due again. -/
def untilRequest : List FdInput := opening 100 ++ [poll (platform 1)]

/-- The platform does not say which data it wants next. -/
def undecided : FdOps :=
  { platform 10000 with queryDownloadOffsetAndLength := fun _ => .error .fwDownloadError }

/-- The device asks for data, and the agent's answer arrives after a poll that failed. -/
theorem answer_lost : ∃ events state, FdTrace .release events state ∧ state.req.state = .sent ∧
    (fdEvent .release state (poll undecided)).output.outcome = .err (.fdOps .fwDownloadError) ∧
    ¬ KeepsAnswers (fdEvent .release state (poll undecided)) := by
  obtain ⟨events, state, trace, hcheck⟩ := exists_run .release untilRequest
    (fun _ state => state.req.state = .sent &&
      (fdEvent .release state (poll undecided)).output.outcome =
        .err (.fdOps .fwDownloadError) &&
      accepts state.req (answerTo 1 FwUpdateCmd.requestFirmwareData.toU8) &&
      !accepts (fdEvent .release state (poll undecided)).after.req
        (answerTo 1 FwUpdateCmd.requestFirmwareData.toU8)) (by decide +kernel)
  simp only [Bool.and_eq_true, decide_eq_true_eq, Bool.not_eq_true'] at hcheck
  obtain ⟨⟨⟨hsent, hfailed⟩, hbefore⟩, hafter⟩ := hcheck
  refine ⟨events, state, trace, hsent, hfailed, fun keeps => ?_⟩
  have hkept := (keeps _ (platform 0) hbefore).1
  rw [hafter] at hkept
  cases hkept

theorem failedPoll_keepsAnswers_iff_undecided : ∃ events state, FdTrace .release events state ∧
    ((∀ error, (fdEvent .release state (poll undecided)).output.outcome = .err error →
      error ≠ .t1Timeout → KeepsAnswers (fdEvent .release state (poll undecided))) ↔
        ¬ RetryFails .release undecided (List.replicate 16 0) state) := by
  obtain ⟨events, state, trace, hcheck⟩ := exists_run .release untilRequest
    (fun _ state => state.req.state = .sent) (by decide +kernel)
  exact ⟨events, state, trace, failedPoll_keepsAnswers_iff trace (by simpa using hcheck)
    (List.replicate 16 0) undecided⟩

end PldmLib.FirmwareDevice
