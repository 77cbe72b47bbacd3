/-
# What a poll can do

A poll in an active state passes two gates before it does anything: the silence
of the agent ends the update, and a request that is not due ends the call.
`PollStep` lists what happens behind them. The slot of an active state has few
shapes, collected in `ActiveSlot`; they decide which of the branches a poll can
take, so the list is for coherent states, and coherence is kept by it.
-/

import PldmLib.FirmwareDevice.RequestStep

namespace PldmLib.FirmwareDevice

open PldmLib.Machine PldmLib.Protocol PldmLib.Message

/-! ## The two operations -/

inductive OperationKind
  | verify
  | apply
  deriving DecidableEq, Repr

namespace OperationKind

def state : OperationKind → FirmwareDeviceState
  | .verify => .verify
  | .apply => .apply

def command : OperationKind → FwUpdateCmd
  | .verify => .verifyComplete
  | .apply => .applyComplete

def messageLength : OperationKind → ℕ
  | .verify => 4
  | .apply => 6

def setProgress : OperationKind → UInt8 → FdInternal → FdInternal
  | .verify => FdInternal.setFdVerifyProgress
  | .apply => FdInternal.setFdApplyProgress

/-- Recording progress changes the operation data alone. -/
theorem setProgress_eq (kind : OperationKind) (progress : UInt8) (internal : FdInternal) :
    kind.setProgress progress internal = internal.setInitiatorMode
      (kind.setProgress progress internal).initiatorModeState := by
  cases kind with
  | verify =>
      simp only [setProgress, FdInternal.setFdVerifyProgress]
      split <;> rfl
  | apply =>
      simp only [setProgress, FdInternal.setFdApplyProgress]
      split <;> rfl

@[simp] theorem setProgress_state (kind : OperationKind) (progress : UInt8)
    (internal : FdInternal) : (kind.setProgress progress internal).state = internal.state := by
  rw [setProgress_eq]
  rfl

@[simp] theorem setProgress_req (kind : OperationKind) (progress : UInt8)
    (internal : FdInternal) : (kind.setProgress progress internal).req = internal.req := by
  rw [setProgress_eq]
  rfl

@[simp] theorem setProgress_fdT1UpdateTs (kind : OperationKind) (progress : UInt8)
    (internal : FdInternal) :
    (kind.setProgress progress internal).fdT1UpdateTs = internal.fdT1UpdateTs := by
  rw [setProgress_eq]
  rfl

@[simp] theorem setProgress_updateComp (kind : OperationKind) (progress : UInt8)
    (internal : FdInternal) :
    (kind.setProgress progress internal).updateComp = internal.updateComp := by
  rw [setProgress_eq]
  rfl

/-- The callback of an operation with what the platform answers to it. -/
def callback (ops : FdOps) (component : FirmwareComponent) : OperationKind → Callback
  | .verify => .verify component (ops.verify component)
  | .apply => .apply component (ops.apply component)

/-- The answer of the platform, with the result as the byte that is stored. -/
def answer (ops : FdOps) (component : FirmwareComponent) :
    OperationKind → Except FdOpsError (UInt8 × ProgressPercent)
  | .verify => (ops.verify component).map fun answer => (answer.1.toU8, answer.2)
  | .apply => (ops.apply component).map fun answer => (answer.1.toU8, answer.2)

end OperationKind

/-- An operation is not over: it succeeds so far and has not reached 100 percent. -/
def pending (result : UInt8) (progress : ProgressPercent) : Bool :=
  decide (result = 0 ∧ progress.value < 100)

/-! ## Coherent states -/

/-- The report that ends the operation of an active state. -/
def reportCommand : FirmwareDeviceState → Option FwUpdateCmd
  | .download => some .transferComplete
  | .verify => some .verifyComplete
  | .apply => some .applyComplete
  | _ => none

/-- The length of its message. -/
def reportLength : FirmwareDeviceState → ℕ
  | .apply => 6
  | _ => 4

theorem OperationKind.reportCommand_state (kind : OperationKind) :
    reportCommand kind.state = some kind.command := by
  cases kind <;> rfl

theorem OperationKind.reportLength_state (kind : OperationKind) :
    reportLength kind.state = kind.messageLength := by
  cases kind <;> rfl

/-- The slots an active state can have. An ID without a request is left behind by
a call that took it and then failed. -/
inductive ActiveSlot : FirmwareDeviceState → FdReq → Prop
  | working {state : FirmwareDeviceState} (id : Option UInt8)
      (active : state.isInitiator = true) :
      ActiveSlot state ⟨.ready, false, none, id, none, none⟩
  | awaitingData (id : UInt8) (time : PldmFdTime) :
      ActiveSlot .download
        ⟨.sent, false, none, some id, some FwUpdateCmd.requestFirmwareData.toU8, some time⟩
  | transferred (result : UInt8) (id : Option UInt8) :
      ActiveSlot .download ⟨.ready, true, some result, id, none, none⟩
  | reported {state : FirmwareDeviceState} {report : FwUpdateCmd} (result id : UInt8)
      (time : PldmFdTime) (reports : reportCommand state = some report) :
      ActiveSlot state ⟨.sent, true, some result, some id, some report.toU8, some time⟩
  | failed {state : FirmwareDeviceState} (result : UInt8) (active : state.isInitiator = true) :
      ActiveSlot state ⟨.failed, true, some result, none, none, none⟩

namespace ActiveSlot

variable {state : FirmwareDeviceState} {req : FdReq}

theorem isInitiator (slot : ActiveSlot state req) : state.isInitiator = true := by
  cases slot with
  | working id active => exact active
  | awaitingData id time => rfl
  | transferred result id => rfl
  | reported result id time reports => cases state <;> first | rfl | cases reports
  | failed result active => exact active

/-- The slot of an outstanding request has its time. -/
theorem sentTime (slot : ActiveSlot state req) (sent : req.state = .sent) :
    req.sentTime ≠ none := by
  cases slot <;> simp_all

/-- An operation outstanding is complete. -/
theorem not_sent {kind : OperationKind} (slot : ActiveSlot kind.state req)
    (unfinished : req.complete = false) : req.state ≠ .sent := by
  generalize hstate : kind.state = active at slot
  cases slot with
  | awaitingData id time => cases kind <;> cases hstate
  | _ => simp_all

/-- What is complete has a result. -/
theorem result (slot : ActiveSlot state req) (complete : req.complete = true) :
    ∃ result, req.result = some result := by
  cases slot <;> simp_all

end ActiveSlot

/-- The operation data belongs to the active state. -/
def ModeOf : FirmwareDeviceState → InitiatorModeState → Prop
  | .download, mode => ∃ offset length, mode = .download offset length
  | .verify, mode => ∃ progress, mode = .verify progress
  | .apply, mode => ∃ progress, mode = .apply progress
  | _, _ => True

/-- The slot and the operation data fit the state of the device. -/
structure Coherent (internal : FdInternal) : Prop where
  slot : internal.state.isInitiator = true → ActiveSlot internal.state internal.req
  mode : ModeOf internal.state internal.initiatorModeState
  id_lt : ∀ id, internal.req.instanceId = some id → id < instanceIdCount

/-- A download has a range. -/
theorem Coherent.downloads {internal : FdInternal} (coherent : Coherent internal)
    (state : internal.state = .download) :
    ∃ offset length, internal.initiatorModeState = .download offset length := by
  have hmode := coherent.mode
  rwa [state] at hmode

/-! ## The gates -/

/-- The agent has been silent for longer than T1. -/
def silent (ops : FdOps) (internal : FdInternal) : Bool :=
  internal.req.state == .sent &&
    decide (internal.fdT1Timeout < ops.now 0 - internal.fdT1UpdateTs)

/-- The reading of the first gate. -/
def listened (ops : FdOps) (internal : FdInternal) : List Invocation :=
  if internal.req.state = .sent then [⟨.now, ops.now 0⟩] else []

/-- The reading a poll decides by whether to send. -/
def gateTime (ops : FdOps) (internal : FdInternal) : PldmFdTime :=
  ops.now (listened ops internal).length

/-- The readings of both gates. -/
def gates (ops : FdOps) (internal : FdInternal) : List Invocation :=
  listened ops internal ++ [⟨.now, gateTime ops internal⟩]

/-- The gates ask for the time and for nothing else. -/
@[simp] theorem works_gates (ops : FdOps) (internal : FdInternal) :
    works (gates ops internal) = [] := by
  unfold gates listened
  split <;> rfl

/-- A request is due at a reading. -/
def FdInternal.due (internal : FdInternal) (reading : PldmFdTime) : Bool :=
  match internal.req.state, internal.req.sentTime with
  | .ready, _ => true
  | .sent, some sentTime =>
      decide (sentTime ≤ reading) && decide (internal.fdT2RetryTime ≤ reading - sentTime)
  | _, _ => false

/-- A poll gets past both gates. -/
structure Open (ops : FdOps) (pre : FdInternal) : Prop where
  heard : silent ops pre = false
  due : pre.due (gateTime ops pre) = true

/-! ## The steps -/

/-- `PollStep profile ops payload pre outcome post log sent`: a poll takes the
device from `pre` to `post` and hands over the request `sent`. -/
inductive PollStep (profile : Profile) (ops : FdOps) (payload : List UInt8)
    (pre : FdInternal) :
    Outcome MsgHandlerError ℕ → FdInternal → List Invocation → Option FdRequest → Prop
  | inactive (state : pre.state.isInitiator = false) :
      PollStep profile ops payload pre (.err .fdInitiatorModeError) pre [] none
  | timedOut (active : pre.state.isInitiator = true) (silence : silent ops pre = true)
      (cancelled : ops.cancelUpdateComponent pre.updateComp = .ok ()) :
      PollStep profile ops payload pre (.err .t1Timeout)
        (pre.fdIdleTimeout.setFdReq .unused false none none none none)
        [⟨.now, ops.now 0⟩, ⟨.cancelUpdateComponent pre.updateComp (.ok ()), ops.now 1⟩] none
  | timeoutRefused {error : FdOpsError} (active : pre.state.isInitiator = true)
      (silence : silent ops pre = true)
      (refused : ops.cancelUpdateComponent pre.updateComp = .error error) :
      PollStep profile ops payload pre (.err (.fdOps error)) pre
        [⟨.now, ops.now 0⟩, ⟨.cancelUpdateComponent pre.updateComp (.error error), ops.now 1⟩]
        none
  | undue (active : pre.state.isInitiator = true) (heard : silent ops pre = false)
      (early : pre.due (gateTime ops pre) = false) :
      PollStep profile ops payload pre (.err .fdInitiatorModeError) pre (gates ops pre) none
  -- The transfer is complete: report it.
  | transferUnsent {result : UInt8} {transferResult : TransferResult}
      (state : pre.state = .download) (passed : Open ops pre)
      (complete : pre.req.complete = true) (stored : pre.req.result = some result)
      (known : TransferResult.tryFrom result = .ok transferResult)
      (short : payload.length < 4) :
      PollStep profile ops payload pre (.err (.codec .bufferTooShort))
        pre.allocNextInstanceId (gates ops pre) none
  | transferUnknown {result : UInt8} {error : PldmError} (state : pre.state = .download)
      (passed : Open ops pre) (complete : pre.req.complete = true)
      (stored : pre.req.result = some result)
      (unknown : TransferResult.tryFrom result = .error error) :
      PollStep profile ops payload pre .panic pre.allocNextInstanceId (gates ops pre) none
  | transferReported {result : UInt8} {transferResult : TransferResult}
      (state : pre.state = .download) (passed : Open ops pre)
      (complete : pre.req.complete = true) (stored : pre.req.result = some result)
      (known : TransferResult.tryFrom result = .ok transferResult)
      (room : 4 ≤ payload.length) :
      PollStep profile ops payload pre (.ok 4)
        (pre.allocNextInstanceId.setFdReq .sent true (some result) (some pre.nextInstanceId)
          (some FwUpdateCmd.transferComplete.toU8) (some (ops.now (gates ops pre).length)))
        (gates ops pre ++ [⟨.now, ops.now (gates ops pre).length⟩])
        (some (.complete .transferComplete (pre.nextInstanceId % 32) transferResult.toU8))
  -- The transfer goes on: ask the platform for a range.
  | rangeUnknown {error : FdOpsError} (state : pre.state = .download) (passed : Open ops pre)
      (complete : pre.req.complete = false)
      (asked : ops.queryDownloadOffsetAndLength pre.updateComp = .error error) :
      PollStep profile ops payload pre (.err (.fdOps error)) pre.allocNextInstanceId
        (gates ops pre ++ [⟨.queryDownloadOffsetAndLength pre.updateComp (.error error),
          ops.now (gates ops pre).length⟩]) none
  | rangeRefused {range : ℕ × ℕ} (state : pre.state = .download) (passed : Open ops pre)
      (complete : pre.req.complete = false)
      (asked : ops.queryDownloadOffsetAndLength pre.updateComp = .ok range)
      (outside : pre.getFdDownloadChunk profile (UInt32.ofNat range.1) (UInt32.ofNat range.2) =
        (.ok none : Outcome MsgHandlerError _)) :
      PollStep profile ops payload pre (.err .fdInitiatorModeError) pre.allocNextInstanceId
        (gates ops pre ++ [⟨.queryDownloadOffsetAndLength pre.updateComp (.ok range),
          ops.now (gates ops pre).length⟩]) none
  | rangeOverflowed {range : ℕ × ℕ} (state : pre.state = .download) (passed : Open ops pre)
      (complete : pre.req.complete = false)
      (asked : ops.queryDownloadOffsetAndLength pre.updateComp = .ok range)
      (overflowed : pre.getFdDownloadChunk profile (UInt32.ofNat range.1)
        (UInt32.ofNat range.2) = (.panic : Outcome MsgHandlerError _)) :
      PollStep profile ops payload pre .panic pre.allocNextInstanceId
        (gates ops pre ++ [⟨.queryDownloadOffsetAndLength pre.updateComp (.ok range),
          ops.now (gates ops pre).length⟩]) none
  | dataUnsent {range : ℕ × ℕ} {offset length : UInt32} (state : pre.state = .download)
      (passed : Open ops pre) (complete : pre.req.complete = false)
      (asked : ops.queryDownloadOffsetAndLength pre.updateComp = .ok range)
      (inside : pre.getFdDownloadChunk profile (UInt32.ofNat range.1) (UInt32.ofNat range.2) =
        (.ok (some (offset, length)) : Outcome MsgHandlerError _))
      (short : payload.length < 11) :
      PollStep profile ops payload pre (.err (.codec .bufferTooShort))
        pre.allocNextInstanceId
        (gates ops pre ++ [⟨.queryDownloadOffsetAndLength pre.updateComp (.ok range),
          ops.now (gates ops pre).length⟩]) none
  | dataRequested {range : ℕ × ℕ} {offset length : UInt32} (state : pre.state = .download)
      (passed : Open ops pre) (complete : pre.req.complete = false)
      (asked : ops.queryDownloadOffsetAndLength pre.updateComp = .ok range)
      (inside : pre.getFdDownloadChunk profile (UInt32.ofNat range.1) (UInt32.ofNat range.2) =
        (.ok (some (offset, length)) : Outcome MsgHandlerError _))
      (room : 11 ≤ payload.length) :
      PollStep profile ops payload pre (.ok 11)
        ((pre.allocNextInstanceId.setFdDownloadState offset length).setFdReq .sent false none
          (some pre.nextInstanceId) (some FwUpdateCmd.requestFirmwareData.toU8)
          (some (ops.now ((gates ops pre).length + 1))))
        (gates ops pre ++ [⟨.queryDownloadOffsetAndLength pre.updateComp (.ok range),
          ops.now (gates ops pre).length⟩, ⟨.now, ops.now ((gates ops pre).length + 1)⟩])
        (some (.requestFirmwareData (pre.nextInstanceId % 32) offset.toNat length.toNat))
  -- Verify and apply: run the callback, or repeat the report.
  | operationFailed {kind : OperationKind} {error : FdOpsError} (state : pre.state = kind.state)
      (passed : Open ops pre) (complete : pre.req.complete = false)
      (failed : kind.answer ops pre.updateComp = .error error) :
      PollStep profile ops payload pre (.err (.fdOps error)) pre
        (gates ops pre ++ [⟨kind.callback ops pre.updateComp, ops.now (gates ops pre).length⟩])
        none
  | operationPending {kind : OperationKind} {result : UInt8} {progress : ProgressPercent}
      (state : pre.state = kind.state) (passed : Open ops pre)
      (complete : pre.req.complete = false)
      (ran : kind.answer ops pre.updateComp = .ok (result, progress))
      (unfinished : pending result progress = true) :
      PollStep profile ops payload pre (.ok 0)
        ((kind.setProgress progress.value pre).setFdT1UpdateTs
          (ops.now ((gates ops pre).length + 1)))
        (gates ops pre ++ [⟨kind.callback ops pre.updateComp, ops.now (gates ops pre).length⟩,
          ⟨.now, ops.now ((gates ops pre).length + 1)⟩]) none
  | operationUnsent {kind : OperationKind} {result : UInt8} {progress : ProgressPercent}
      (state : pre.state = kind.state) (passed : Open ops pre)
      (complete : pre.req.complete = false)
      (ran : kind.answer ops pre.updateComp = .ok (result, progress))
      (finished : pending result progress = false)
      (short : payload.length < kind.messageLength) :
      PollStep profile ops payload pre (.err (.codec .bufferTooShort))
        (kind.setProgress progress.value pre).allocNextInstanceId
        (gates ops pre ++ [⟨kind.callback ops pre.updateComp, ops.now (gates ops pre).length⟩])
        none
  | operationReported {kind : OperationKind} {result : UInt8} {progress : ProgressPercent}
      (state : pre.state = kind.state) (passed : Open ops pre)
      (complete : pre.req.complete = false)
      (ran : kind.answer ops pre.updateComp = .ok (result, progress))
      (finished : pending result progress = false)
      (room : kind.messageLength ≤ payload.length) :
      PollStep profile ops payload pre (.ok kind.messageLength)
        ((kind.setProgress progress.value pre).allocNextInstanceId.setFdReq .sent true
          (some result) (some pre.nextInstanceId) (some kind.command.toU8)
          (some (ops.now ((gates ops pre).length + 1))))
        (gates ops pre ++ [⟨kind.callback ops pre.updateComp, ops.now (gates ops pre).length⟩,
          ⟨.now, ops.now ((gates ops pre).length + 1)⟩])
        (some (.complete kind.command (pre.nextInstanceId % 32) result))
  | reportUnsent {kind : OperationKind} (state : pre.state = kind.state)
      (passed : Open ops pre) (complete : pre.req.complete = true)
      (short : payload.length < kind.messageLength) :
      PollStep profile ops payload pre (.err (.codec .bufferTooShort))
        pre.allocNextInstanceId (gates ops pre) none
  /-- A repeated report does not carry the result it repeats. -/
  | reportRepeated {kind : OperationKind} (state : pre.state = kind.state)
      (passed : Open ops pre) (complete : pre.req.complete = true)
      (room : kind.messageLength ≤ payload.length) :
      PollStep profile ops payload pre (.ok kind.messageLength)
        (pre.allocNextInstanceId.setFdReq .sent true (some 0x0a) (some pre.nextInstanceId)
          (some kind.command.toU8) (some (ops.now (gates ops pre).length)))
        (gates ops pre ++ [⟨.now, ops.now (gates ops pre).length⟩])
        (some (.complete kind.command (pre.nextInstanceId % 32) 0x0a))

/-- What a poll that is due does once the operation is over: report it. -/
inductive ReportStep (ops : FdOps) (payload : List UInt8) (pre : FdInternal) :
    Outcome MsgHandlerError ℕ → FdInternal → Option FdRequest → Prop
  | unknown {stored : UInt8} {error : PldmError} (state : pre.state = .download)
      (stores : pre.req.result = some stored)
      (unknown : TransferResult.tryFrom stored = .error error) :
      ReportStep ops payload pre .panic pre.allocNextInstanceId none
  | unsent (short : payload.length < reportLength pre.state)
      (readable : pre.state = .download → ∃ stored known,
        pre.req.result = some stored ∧ TransferResult.tryFrom stored = .ok known) :
      ReportStep ops payload pre (.err (.codec .bufferTooShort)) pre.allocNextInstanceId none
  | transfer {stored : UInt8} {known : TransferResult} (state : pre.state = .download)
      (stores : pre.req.result = some stored)
      (reads : TransferResult.tryFrom stored = .ok known) (room : 4 ≤ payload.length) :
      ReportStep ops payload pre (.ok 4)
        (pre.allocNextInstanceId.setFdReq .sent true (some stored) (some pre.nextInstanceId)
          (some FwUpdateCmd.transferComplete.toU8) (some (ops.now (gates ops pre).length)))
        (some (.complete .transferComplete (pre.nextInstanceId % 32) known.toU8))
  | repeated {kind : OperationKind} (state : pre.state = kind.state)
      (room : kind.messageLength ≤ payload.length) :
      ReportStep ops payload pre (.ok kind.messageLength)
        (pre.allocNextInstanceId.setFdReq .sent true (some 0x0a) (some pre.nextInstanceId)
          (some kind.command.toU8) (some (ops.now (gates ops pre).length)))
        (some (.complete kind.command (pre.nextInstanceId % 32) 0x0a))

theorem PollStep.of_complete {profile : Profile} {ops : FdOps} {payload : List UInt8}
    {pre post : FdInternal} {outcome : Outcome MsgHandlerError ℕ} {log : List Invocation}
    {sent : Option FdRequest}
    (step : PollStep profile ops payload pre outcome post log sent)
    (active : pre.state.isInitiator = true) (passed : Open ops pre)
    (complete : pre.req.complete = true) : ReportStep ops payload pre outcome post sent := by
  have hsilent (silence : silent ops pre = true) : False :=
    absurd (silence.symm.trans passed.heard) nofun
  have hunfinished (unfinished : pre.req.complete = false) : False :=
    absurd (complete.symm.trans unfinished) nofun
  have hoperation {kind : OperationKind} (state : pre.state = kind.state)
      (download : pre.state = .download) : False := by
    rw [state] at download
    cases kind <;> cases download
  cases step with
  | transferUnsent state _ _ stored known short =>
      exact .unsent (by rwa [state]) fun _ => ⟨_, _, stored, known⟩
  | transferUnknown state _ _ stored unknown => exact .unknown state stored unknown
  | transferReported state _ _ stored known room => exact .transfer state stored known room
  | reportUnsent state _ _ short =>
      refine .unsent ?_ fun download => (hoperation state download).elim
      rwa [state, OperationKind.reportLength_state]
  | reportRepeated state _ _ room => exact .repeated state room
  | inactive passive => exact absurd (active.symm.trans passive) nofun
  | timedOut _ silence => exact (hsilent silence).elim
  | timeoutRefused _ silence => exact (hsilent silence).elim
  | undue _ _ early => exact absurd (passed.due.symm.trans early) nofun
  | rangeUnknown _ _ unfinished => exact (hunfinished unfinished).elim
  | rangeRefused _ _ unfinished => exact (hunfinished unfinished).elim
  | rangeOverflowed _ _ unfinished => exact (hunfinished unfinished).elim
  | dataUnsent _ _ unfinished => exact (hunfinished unfinished).elim
  | dataRequested _ _ unfinished => exact (hunfinished unfinished).elim
  | operationFailed _ _ unfinished => exact (hunfinished unfinished).elim
  | operationPending _ _ unfinished => exact (hunfinished unfinished).elim
  | operationUnsent _ _ unfinished => exact (hunfinished unfinished).elim
  | operationReported _ _ unfinished => exact (hunfinished unfinished).elim

/-- A poll that is stopped at a gate times out, or leaves everything as it was. -/
theorem PollStep.of_not_open {profile : Profile} {ops : FdOps} {payload : List UInt8}
    {pre post : FdInternal} {outcome : Outcome MsgHandlerError ℕ} {log : List Invocation}
    {sent : Option FdRequest}
    (step : PollStep profile ops payload pre outcome post log sent) (shut : ¬ Open ops pre) :
    sent = none ∧
      ((pre.state.isInitiator = true ∧ silent ops pre = true ∧
          ops.cancelUpdateComponent pre.updateComp = .ok () ∧ outcome = .err .t1Timeout ∧
          post = pre.fdIdleTimeout.setFdReq .unused false none none none none) ∨
        (∃ error, ops.cancelUpdateComponent pre.updateComp = .error error ∧
          outcome = .err (.fdOps error) ∧ post = pre) ∨
        (outcome = .err .fdInitiatorModeError ∧ post = pre ∧
          (pre.state.isInitiator = true → silent ops pre = false))) := by
  cases step with
  | inactive state => exact ⟨rfl, .inr (.inr ⟨rfl, rfl, by simp [state]⟩)⟩
  | timedOut active silence cancelled =>
      exact ⟨rfl, .inl ⟨active, silence, cancelled, rfl, rfl⟩⟩
  | timeoutRefused active silence refused => exact ⟨rfl, .inr (.inl ⟨_, refused, rfl, rfl⟩)⟩
  | undue active heard early => exact ⟨rfl, .inr (.inr ⟨rfl, rfl, fun _ => heard⟩)⟩
  | transferUnsent _ passed => exact absurd passed shut
  | transferUnknown _ passed => exact absurd passed shut
  | transferReported _ passed => exact absurd passed shut
  | rangeUnknown _ passed => exact absurd passed shut
  | rangeRefused _ passed => exact absurd passed shut
  | rangeOverflowed _ passed => exact absurd passed shut
  | dataUnsent _ passed => exact absurd passed shut
  | dataRequested _ passed => exact absurd passed shut
  | operationFailed _ passed => exact absurd passed shut
  | operationPending _ passed => exact absurd passed shut
  | operationUnsent _ passed => exact absurd passed shut
  | operationReported _ passed => exact absurd passed shut
  | reportUnsent _ passed => exact absurd passed shut
  | reportRepeated _ passed => exact absurd passed shut

/-- The polls that crash: the report of a transfer that cannot be read, and a range
check that overflows in a debug build. -/
theorem PollStep.panics {profile : Profile} {ops : FdOps} {payload : List UInt8}
    {pre post : FdInternal} {log : List Invocation} {sent : Option FdRequest}
    (step : PollStep profile ops payload pre .panic post log sent) :
    (pre.state = .download ∧ Open ops pre ∧ pre.req.complete = true ∧
      ∃ stored error, pre.req.result = some stored ∧
        TransferResult.tryFrom stored = .error error) ∨
    pre.state = .download ∧ ∃ range,
      ops.queryDownloadOffsetAndLength pre.updateComp = .ok range ∧
      .queryDownloadOffsetAndLength pre.updateComp (.ok range) ∈ works log ∧
      pre.getFdDownloadChunk profile (UInt32.ofNat range.1) (UInt32.ofNat range.2) =
        (.panic : Outcome MsgHandlerError _) := by
  cases step with
  | transferUnknown state passed complete stored unknown =>
      exact .inl ⟨state, passed, complete, _, _, stored, unknown⟩
  | @rangeOverflowed range state _ _ asked overflowed =>
      exact .inr ⟨state, range, asked, by simp [works_cons, Callback.isWork], overflowed⟩

/-! ## Every poll takes one of the steps -/

namespace PollStep

open FdContext FdCall

variable {profile : Profile} {ops : FdOps} {payload : List UInt8} {pre : FdInternal}

/-- The request that a call hands over: the front of the payload it returns. -/
def handedOver (outcome : Outcome MsgHandlerError ℕ) (payload : List UInt8) :
    Option FdRequest :=
  match outcome with
  | .ok count => FdRequest.parse (payload.take count)
  | _ => none

/-- The postcondition of a poll: what it did is one of the steps. -/
def After (profile : Profile) (ops : FdOps) (payload : List UInt8) (pre : FdInternal)
    (outcome : Outcome MsgHandlerError ℕ) (final : CallState) : Prop :=
  PollStep profile ops payload pre outcome final.internal final.log
    (handedOver outcome final.payload)

/-- A poll that hands over a request, from what the agent reads. -/
theorem After.of_sent {count : ℕ} {internal : FdInternal} {written : List UInt8}
    {log : List Invocation} {sent : Option FdRequest}
    (parsed : FdRequest.parse (written.take count) = sent)
    (step : PollStep profile ops payload pre (.ok count) internal log sent) :
    After profile ops payload pre (.ok count) ⟨internal, written, log⟩ := by
  simp only [After, handedOver, parsed]
  exact step

theorem shouldSendFdRequest_rule {state : CallState}
    {post : Outcome MsgHandlerError Bool → CallState → Prop}
    (timed : state.internal.req.state = .sent → state.internal.req.sentTime ≠ none)
    (answered : post (.ok (state.internal.due (ops.now state.log.length)))
      { state with log := state.log ++ [⟨.now, ops.now state.log.length⟩] }) :
    (shouldSendFdRequest ops).wp post state := by
  simp only [shouldSendFdRequest, Call.wp_bind, wp_now, wp_internal]
  unfold FdInternal.due at answered
  cases hstate : state.internal.req.state with
  | sent =>
      cases htime : state.internal.req.sentTime with
      | none => exact absurd htime (timed hstate)
      | some sentTime =>
          simp only [hstate, htime] at answered
          simp only [Call.wp_ite, Call.wp_pure]
          split
          · next backwards =>
              have hearly : ¬ sentTime ≤ ops.now state.log.length := Nat.not_le.mpr backwards
              simpa [hearly] using answered
          · next forwards =>
              have hlate : sentTime ≤ ops.now state.log.length := Nat.not_lt.mp forwards
              simpa [hlate] using answered
  | _ => simpa only [hstate, Call.wp_pure] using answered

theorem t1Expired_rule {post : Outcome MsgHandlerError Bool → CallState → Prop}
    (answered : post (.ok (silent ops pre)) ⟨pre, payload, listened ops pre⟩) :
    (t1Expired ops).wp post ⟨pre, payload, []⟩ := by
  simp only [t1Expired, Call.wp_bind, wp_internal, Call.wp_ite]
  split
  · next sent =>
      simpa [silent, listened, sent] using answered
  · next unsent =>
      have hslot : (pre.req.state == .sent) = false := by simpa using unsent
      simpa [silent, listened, unsent, hslot] using answered

/-- An encoder that copies a whole message either fits it or reports a short
buffer. -/
theorem encode_message_rule {message : List UInt8} {state : CallState}
    {post : Outcome MsgHandlerError ℕ → CallState → Prop}
    (fits : message.length ≤ state.payload.length → ∀ written,
      written.take message.length = message →
        post (.ok message.length) { state with payload := written })
    (short : state.payload.length < message.length →
      post (.err (.codec .bufferTooShort)) state) :
    (encode (writeToPrefix message)).wp post state := by
  refine encode_rule (fun bytes written ran => ?_) (fun error written ran => ?_)
    fun written ran => ?_
  · obtain ⟨room, rfl, hfront⟩ := writeToPrefix_ok ran
    exact fits room written hfront
  · unfold writeToPrefix at ran
    split at ran
    · simp at ran
    · next full =>
        simp only [Prod.mk.injEq, Outcome.err.injEq] at ran
        obtain ⟨rfl, rfl⟩ := ran
        exact short (by omega)
  · unfold writeToPrefix at ran
    split at ran <;> simp at ran

/-! ### Download -/

theorem sendTransferComplete_rule {state : CallState} {instanceId result : UInt8}
    {post : Outcome MsgHandlerError ℕ → CallState → Prop}
    (stored : state.internal.req.result = some result)
    (unknown : ∀ error, TransferResult.tryFrom result = .error error → post .panic state)
    (short : ∀ transferResult, TransferResult.tryFrom result = .ok transferResult →
      state.payload.length < 4 → post (.err (.codec .bufferTooShort)) state)
    (reported : ∀ transferResult written, TransferResult.tryFrom result = .ok transferResult →
      4 ≤ state.payload.length →
      FdRequest.parse (written.take 4) =
        some (.complete .transferComplete (instanceId % 32) transferResult.toU8) →
      post (.ok 4)
        { internal := state.internal.setFdReq .sent true (some result) (some instanceId)
            (some FwUpdateCmd.transferComplete.toU8) (some (ops.now state.log.length))
          payload := written
          log := state.log ++ [⟨.now, ops.now state.log.length⟩] }) :
    (sendTransferComplete ops instanceId).wp post state := by
  simp only [sendTransferComplete, Call.wp_bind, wp_internal, stored, Call.wp_ofOutcome]
  cases hknown : TransferResult.tryFrom result with
  | error error => exact unknown error hknown
  | ok transferResult =>
      simp only [Outcome.unwrap]
      refine encode_message_rule (fun room written hfront => ?_) (short transferResult hknown)
      simp only [markSent, Call.wp_bind, wp_now, wp_modify, Call.wp_pure]
      refine reported transferResult written hknown room ?_
      rw [show 4 = (TransferCompleteRequest.new instanceId .request transferResult).toBytes.length
        from rfl, hfront]
      exact FdRequest.parse_transferComplete instanceId transferResult

theorem getFdDownloadChunk_allocNextInstanceId (offset length : UInt32) :
    (pre.allocNextInstanceId.getFdDownloadChunk profile offset length :
      Outcome MsgHandlerError _) = pre.getFdDownloadChunk profile offset length := rfl

theorem sendRequestFirmwareData_step (state : pre.state = .download) (passed : Open ops pre)
    (complete : pre.req.complete = false) :
    (sendRequestFirmwareData profile ops pre.nextInstanceId).wp (After profile ops payload pre)
      ⟨pre.allocNextInstanceId, payload, gates ops pre⟩ := by
  simp only [sendRequestFirmwareData, Call.wp_bind, wp_internal, wp_invoke]
  refine ofOps_rule (fun range asked => ?_) fun error asked => ?_
  · have hasked : ops.queryDownloadOffsetAndLength pre.updateComp = .ok range := asked
    obtain ⟨requestedOffset, requestedLength⟩ := range
    simp only [Call.wp_ofOutcome, getFdDownloadChunk_allocNextInstanceId, asked]
    cases hchunk : (pre.getFdDownloadChunk profile (UInt32.ofNat requestedOffset)
        (UInt32.ofNat requestedLength) : Outcome MsgHandlerError _) with
    | panic => exact .rangeOverflowed state passed complete hasked hchunk
    | err error => exact absurd hchunk (pre.getFdDownloadChunk_ne_err profile _ _ error)
    | ok chunk =>
        cases chunk with
        | none => exact .rangeRefused state passed complete hasked hchunk
        | some chunk =>
            obtain ⟨offset, length⟩ := chunk
            simp only [Call.wp_bind]
            refine encode_message_rule (fun room written hfront => ?_) fun short => ?_
            · simp only [markSent, Call.wp_bind, wp_modify, wp_now, Call.wp_pure]
              have hparse := FdRequest.parse_requestFirmwareData pre.nextInstanceId offset length
              rw [← hfront] at hparse
              simp only [List.length_append, List.append_assoc]
              exact After.of_sent hparse (.dataRequested state passed complete hasked hchunk room)
            · exact .dataUnsent state passed complete hasked hchunk short
  · have hasked : ops.queryDownloadOffsetAndLength pre.updateComp = .error error := asked
    unfold After
    simp only [asked]
    exact .rangeUnknown state passed complete hasked

/-- The gate in front of what a poll sends. -/
theorem gated_rule {next : FdCall ℕ} {post : Outcome MsgHandlerError ℕ → CallState → Prop}
    (coherent : Coherent pre) (active : pre.state.isInitiator = true)
    (heard : silent ops pre = false)
    (early : pre.due (gateTime ops pre) = false →
      post (.err .fdInitiatorModeError) ⟨pre, payload, gates ops pre⟩)
    (passed : Open ops pre → next.wp post ⟨pre, payload, gates ops pre⟩) :
    (do
      if !(← shouldSendFdRequest ops) then Call.fail .fdInitiatorModeError else next :
        FdCall ℕ).wp post ⟨pre, payload, listened ops pre⟩ := by
  simp only [Call.wp_bind]
  refine shouldSendFdRequest_rule (coherent.slot active).sentTime ?_
  cases hdue : pre.due (gateTime ops pre) with
  | false =>
      have hearly := early hdue
      simp only [gateTime] at hdue
      simp only [hdue, Bool.not_false, ↓reduceIte]
      exact hearly
  | true =>
      have hpassed := passed ⟨heard, hdue⟩
      simp only [gateTime] at hdue
      simp only [hdue, Bool.not_true, Bool.false_eq_true, ↓reduceIte]
      exact hpassed

theorem fdProgressDownload_step (coherent : Coherent pre) (state : pre.state = .download)
    (heard : silent ops pre = false) :
    (fdProgressDownload profile ops).wp (After profile ops payload pre)
      ⟨pre, payload, listened ops pre⟩ := by
  have hactive : pre.state.isInitiator = true := by rw [state]; rfl
  refine gated_rule coherent hactive heard (.undue hactive heard) fun hpassed => ?_
  simp only [Call.wp_bind, allocInstanceId, wp_internal, wp_modify, Call.wp_pure, Call.wp_ite]
  split
  · next complete =>
      obtain ⟨result, stored⟩ := (coherent.slot hactive).result complete
      refine sendTransferComplete_rule stored ?_ ?_ ?_
      · exact fun error unknown => .transferUnknown state hpassed complete stored unknown
      · exact fun _ known short =>
          .transferUnsent state hpassed complete stored known short
      · intro transferResult written known room hparse
        exact After.of_sent hparse
          (.transferReported state hpassed complete stored known room)
  · next unfinished =>
      have hcomplete : pre.req.complete = false := Bool.eq_false_of_not_eq_true unfinished
      exact sendRequestFirmwareData_step state hpassed hcomplete

/-! ### Verify and apply -/

theorem setProgress_nextInstanceId (kind : OperationKind) (progress : UInt8) :
    (kind.setProgress progress pre).nextInstanceId = pre.nextInstanceId := by
  simp only [FdInternal.nextInstanceId, OperationKind.setProgress_req]

/-- An `Operation` of the source is one of the two kinds. -/
structure Models {R : Type} (operation : Operation R) (kind : OperationKind) : Prop where
  command : operation.command = kind.command
  setProgress : operation.setProgress = kind.setProgress
  callback : ∀ ops component,
    operation.callback component (operation.run ops component) = kind.callback ops component
  answer : ∀ ops component, kind.answer ops component =
    (operation.run ops component).map fun answer => (operation.toU8 answer.1, answer.2)
  success : ∀ result, operation.toU8 result = 0 ↔ result = operation.success
  default : operation.toU8 operation.default = 0x0a
  message : ∀ instanceId result, ∃ message,
    operation.encode instanceId result = writeToPrefix message ∧
      message.length = kind.messageLength ∧
      FdRequest.parse message =
        some (.complete kind.command (instanceId % 32) (operation.toU8 result))

theorem verifyOperation_models : Models verifyOperation .verify where
  command := rfl
  setProgress := rfl
  callback _ _ := rfl
  answer _ _ := rfl
  success result := by cases result <;> decide
  default := rfl
  message instanceId result :=
    ⟨_, rfl, rfl, FdRequest.parse_verifyComplete instanceId result⟩

theorem applyOperation_models : Models applyOperation .apply where
  command := rfl
  setProgress := rfl
  callback _ _ := rfl
  answer _ _ := rfl
  success result := by cases result <;> decide
  default := rfl
  message instanceId result :=
    ⟨_, rfl, by simp [ApplyCompleteRequest.toBytes, PldmMsgHeader.toBytes, u16Bytes,
      OperationKind.messageLength], FdRequest.parse_applyComplete instanceId result 0⟩

theorem sendComplete_rule {R : Type} {operation : Operation R} {kind : OperationKind}
    (models : Models operation kind) {result : R} {state : CallState}
    {post : Outcome MsgHandlerError ℕ → CallState → Prop}
    (short : state.payload.length < kind.messageLength →
      post (.err (.codec .bufferTooShort))
        { state with internal := state.internal.allocNextInstanceId })
    (sent : kind.messageLength ≤ state.payload.length → ∀ written,
      FdRequest.parse (written.take kind.messageLength) = some (.complete kind.command
        (state.internal.nextInstanceId % 32) (operation.toU8 result)) →
      post (.ok kind.messageLength)
        { internal := state.internal.allocNextInstanceId.setFdReq .sent true
            (some (operation.toU8 result)) (some state.internal.nextInstanceId)
            (some kind.command.toU8) (some (ops.now state.log.length))
          payload := written
          log := state.log ++ [⟨.now, ops.now state.log.length⟩] }) :
    (sendComplete operation ops result).wp post state := by
  obtain ⟨message, hencode, hlength, hparse⟩ :=
    models.message state.internal.nextInstanceId result
  simp only [sendComplete, allocInstanceId, Call.wp_bind, wp_internal, wp_modify, Call.wp_pure,
    hencode]
  rw [← hlength] at short sent
  refine encode_message_rule (fun room written hfront => ?_) short
  simp only [markSent, Call.wp_bind, wp_now, wp_modify, models.command]
  exact sent room written (by rw [hfront, hparse])

/-- The ends of a progress call of an operation. The T1 timestamp is the caller's
business. -/
theorem fdProgressOperation_rule {R : Type} [DecidableEq R] {operation : Operation R}
    {kind : OperationKind} (models : Models operation kind) (coherent : Coherent pre)
    (state : pre.state = kind.state) (heard : silent ops pre = false) (profile : Profile)
    {post : Outcome MsgHandlerError ℕ → CallState → Prop}
    (stepped : ∀ outcome final, After profile ops payload pre outcome final →
      final.internal.req.state = .sent ∨ (∀ count, outcome ≠ .ok count) → post outcome final)
    (pended : ∀ result progress, Open ops pre → pre.req.complete = false →
      kind.answer ops pre.updateComp = .ok (result, progress) → pending result progress = true →
      post (.ok 0) ⟨kind.setProgress progress.value pre, payload, gates ops pre ++
        [⟨kind.callback ops pre.updateComp, ops.now (gates ops pre).length⟩]⟩) :
    (fdProgressOperation operation ops).wp post ⟨pre, payload, listened ops pre⟩ := by
  have hactive : pre.state.isInitiator = true := by rw [state]; cases kind <;> rfl
  refine gated_rule coherent hactive heard (fun early => ?_) fun hpassed => ?_
  · exact stepped (.err .fdInitiatorModeError) _ (.undue hactive heard early) (.inr (by simp))
  · simp only [Call.wp_bind, wp_internal, Call.wp_ite]
    split
    · next complete =>
        refine sendComplete_rule models (fun short => ?_) fun room written hparse => ?_
        · exact stepped _ _ (.reportUnsent state hpassed complete short) (.inr (by simp))
        · rw [models.default] at hparse ⊢
          exact stepped _ _
            (After.of_sent hparse (.reportRepeated state hpassed complete room)) (.inl rfl)
    · next unfinished =>
        have hcomplete : pre.req.complete = false := Bool.eq_false_of_not_eq_true unfinished
        simp only [wp_invoke, models.callback]
        refine ofOps_rule (fun answer ran => ?_) fun error ran => ?_
        · obtain ⟨result, progress⟩ := answer
          have hanswer : kind.answer ops pre.updateComp =
              .ok (operation.toU8 result, progress) := by
            rw [models.answer, ran]
            rfl
          simp only [wp_modify, models.setProgress]
          split
          · next more =>
              refine pended _ _ hpassed hcomplete hanswer ?_
              simp [pending, models.success, more]
          · next finished =>
              have hover : pending (operation.toU8 result) progress = false := by
                simpa [pending, models.success] using finished
              refine sendComplete_rule models (fun short => ?_) fun room written hparse => ?_
              · exact stepped _ _
                  (.operationUnsent state hpassed hcomplete hanswer hover short)
                  (.inr (by simp))
              · simp only [setProgress_nextInstanceId, List.length_append, List.append_assoc]
                  at hparse ⊢
                refine stepped _ _ ?_ (.inl rfl)
                exact After.of_sent hparse
                  (.operationReported state hpassed hcomplete hanswer hover room)
        · refine stepped _ _ (.operationFailed state hpassed hcomplete ?_) (.inr (by simp))
          rw [models.answer, ran]
          rfl

/-! ### The poll as a whole -/

theorem giveUp_step (active : pre.state.isInitiator = true) (silence : silent ops pre = true) :
    (giveUp ops).wp (After profile ops payload pre) ⟨pre, payload, listened ops pre⟩ := by
  have hlistened : listened ops pre = [⟨.now, ops.now 0⟩] := by
    have hsent : pre.req.state = .sent := by
      simp only [silent, Bool.and_eq_true, beq_iff_eq] at silence
      exact silence.1
    simp [listened, hsent]
  simp only [giveUp, Call.wp_bind, wp_internal, wp_invoke, hlistened]
  refine ofOps_rule (fun done cancelled => ?_) fun error refused => ?_
  · simp only [wp_modify, Call.wp_fail, After, cancelled]
    exact .timedOut active silence cancelled
  · simp only [After, refused]
    exact .timeoutRefused active silence refused

/-- The part of a poll behind the first gate. -/
def heardPoll (profile : Profile) (ops : FdOps) (fdState : FirmwareDeviceState) : FdCall ℕ := do
  let result ← progressCall profile ops fdState
  if (fdState = .verify ∨ fdState = .apply) ∧ (← internal).req.state ≠ .sent then
    setFdT1Ts ops
  else pure ⟨⟩
  pure result

theorem heardPoll_download (coherent : Coherent pre) (state : pre.state = .download)
    (heard : silent ops pre = false) :
    (heardPoll profile ops .download).wp (After profile ops payload pre)
      ⟨pre, payload, listened ops pre⟩ := by
  simp only [heardPoll, progressCall, Call.wp_bind]
  refine Call.wp_mono (fdProgressDownload_step coherent state heard) fun outcome final step => ?_
  cases outcome with
  | ok count => simpa using step
  | err error => exact step
  | panic => exact step

theorem heardPoll_operation {R : Type} [DecidableEq R] {operation : Operation R}
    {kind : OperationKind} (models : Models operation kind)
    (calls : progressCall profile ops kind.state = fdProgressOperation operation ops)
    (coherent : Coherent pre) (state : pre.state = kind.state)
    (heard : silent ops pre = false) :
    (heardPoll profile ops kind.state).wp (After profile ops payload pre)
      ⟨pre, payload, listened ops pre⟩ := by
  have hkind : kind.state = .verify ∨ kind.state = .apply := by
    cases kind with
    | verify => exact .inl rfl
    | apply => exact .inr rfl
  have hactive : pre.state.isInitiator = true := by rw [state]; cases kind <;> rfl
  simp only [heardPoll, calls, Call.wp_bind, wp_internal, Call.wp_ite, hkind, true_and]
  refine fdProgressOperation_rule models coherent state heard profile
    (fun outcome final step ends => ?_) fun result progress passed complete ran unfinished => ?_
  · cases outcome with
    | ok count =>
        have hsent : final.internal.req.state = .sent := by simpa using ends
        simpa [hsent] using step
    | err error => exact step
    | panic => exact step
  · -- The slot was ready, since a sent one is complete: T1 is refreshed.
    have hready : pre.req.state ≠ .sent := by
      have hslot := coherent.slot hactive
      rw [state] at hslot
      exact hslot.not_sent complete
    have hunsent : (kind.setProgress progress.value pre).req.state ≠ .sent := by
      rwa [OperationKind.setProgress_req]
    simp only [hunsent, ne_eq, not_false_eq_true, ↓reduceIte, wp_setFdT1Ts, Call.wp_pure,
      List.length_append, List.append_assoc]
    exact .operationPending state passed complete ran unfinished

/-- Every poll of a coherent device takes one of the steps. -/
theorem run (coherent : Coherent pre) :
    (fdProgress profile ops).wp (After profile ops payload pre) ⟨pre, payload, []⟩ := by
  simp only [fdProgress, Call.wp_bind, wp_internal]
  cases hactive : pre.state.isInitiator with
  | false => exact .inactive hactive
  | true =>
      simp only [Bool.not_true, Bool.false_eq_true, ↓reduceIte]
      rw [Call.wp_bind]
      refine t1Expired_rule ?_
      cases hsilent : silent ops pre with
      | true => exact giveUp_step hactive hsilent
      | false =>
          simp only [Bool.false_eq_true, ↓reduceIte]
          cases hstate : pre.state with
          | download => exact heardPoll_download coherent hstate hsilent
          | verify =>
              exact heardPoll_operation verifyOperation_models rfl coherent hstate hsilent
          | apply =>
              exact heardPoll_operation applyOperation_models rfl coherent hstate hsilent
          | _ => simp [hstate, FirmwareDeviceState.isInitiator] at hactive

end PollStep

end PldmLib.FirmwareDevice
