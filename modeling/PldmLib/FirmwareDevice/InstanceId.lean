/-
# The instance IDs of requests

A poll that is due takes the instance ID after the one in the slot, whether or not it goes on
to hand over a request. The slot is cleared when a download begins and when the platform takes
data, and then the IDs start over at 1.

So the ID of a request for data can be told from the calls of a run. The platform is asked for
a range once for each ID that is taken, and the ID is the number of times it has been asked
since the IDs started over.
-/

import PldmLib.FirmwareDevice.DownloadRange

namespace PldmLib.Message

/-- The instance ID that the agent is to answer with. -/
def FdRequest.instanceId : FdRequest → UInt8
  | .requestFirmwareData instanceId _ _ => instanceId
  | .complete _ instanceId _ => instanceId

end PldmLib.Message

namespace PldmLib.FirmwareDevice

open PldmLib.Machine PldmLib.Protocol PldmLib.Message

/-! ## The ID in the slot -/

def FdOperation.isPoll : FdOperation → Bool
  | .fdProgress _ => true
  | _ => false

/-- What a call does to the ID in the slot: it leaves it, or clears the slot, or is a poll that
takes the next one, which is that of a request it hands over. -/
inductive IdStep (pre post : FdInternal) (operation : FdOperation) : Option FdRequest → Prop
  | left (same : post.req.instanceId = pre.req.instanceId) : IdStep pre post operation none
  | taken {sent : Option FdRequest} (polls : operation.isPoll = true)
      (next : post.req.instanceId = some pre.nextInstanceId)
      (carried : ∀ request, sent = some request → request.instanceId = pre.nextInstanceId % 32) :
      IdStep pre post operation sent
  | cleared (emptied : post.req.instanceId = none) : IdStep pre post operation none

section Steps

variable {profile : Profile} {ops : FdOps} {payload : List UInt8} {pre post : FdInternal}
  {log : List Invocation}

theorem RequestStep.idStep {handler : Handler} {outcome : Outcome MsgHandlerError ℕ}
    (step : RequestStep ops payload pre handler outcome post log) :
    post.req.instanceId = pre.req.instanceId ∨ post.req.instanceId = none := by
  rcases step.slot_cases with ⟨same, _⟩ | ⟨internal, rfl⟩
  · exact .inl (congrArg FdReq.instanceId same)
  · exact .inr (by rw [FdContext.enterDownload_req])

theorem ResponseStep.idStep {outcome : Outcome MsgHandlerError PUnit}
    (step : ResponseStep ops payload pre outcome post log) :
    post.req.instanceId = pre.req.instanceId ∨ post.req.instanceId = none := by
  cases step with
  | ignored => exact .inl rfl
  | heard => exact .inl rfl
  | dataRefused => exact .inl rfl
  | acknowledged _ active => exact .inr (by rw [advance_req active])
  | _ => exact .inr rfl

theorem PollStep.idStep {outcome : Outcome MsgHandlerError ℕ} {sent : Option FdRequest}
    (step : PollStep profile ops payload pre outcome post log sent) :
    IdStep pre post (.fdProgress payload) sent := by
  cases step with
  | inactive => exact .left rfl
  | timedOut => exact .cleared rfl
  | timeoutRefused => exact .left rfl
  | undue => exact .left rfl
  | operationFailed => exact .left rfl
  | operationPending => exact .left (by simp)
  | @operationUnsent kind _ progress =>
      exact .taken rfl (congrArg some (setProgress_nextInstanceId kind progress.value)) nofun
  | transferReported => exact .taken rfl rfl (by rintro _ ⟨⟩; rfl)
  | dataRequested => exact .taken rfl rfl (by rintro _ ⟨⟩; rfl)
  | operationReported => exact .taken rfl rfl (by rintro _ ⟨⟩; rfl)
  | reportRepeated => exact .taken rfl rfl (by rintro _ ⟨⟩; rfl)
  | _ => exact .taken rfl rfl nofun

theorem FdStep.idStep {input : FdInput} {output : FdOutput} {sent : Option FdRequest}
    (step : FdStep profile pre input output sent) :
    IdStep pre output.internal input.operation sent := by
  cases step with
  | request step =>
      rcases step.idStep with same | emptied
      · exact .left same
      · exact .cleared emptied
  | poll step => exact step.idStep
  | response step =>
      rcases step.idStep with same | emptied
      · exact .left same
      · exact .cleared emptied
  | touch => exact .left rfl
  | query => exact .left rfl

end Steps

/-! ## Counting -/

/-- The ID that comes so many places after another one. -/
def idAfter (id : UInt8) (places : ℕ) : UInt8 := .ofNat ((id.toNat + places) % 32)

section Ids

variable {id : UInt8}

theorem idAfter_zero (small : id < instanceIdCount) : idAfter id 0 = id := by
  have hlt : id.toNat < 32 := small
  rw [idAfter, Nat.add_zero, Nat.mod_eq_of_lt hlt, UInt8.ofNat_toNat]

theorem toNat_idAfter (places : ℕ) : (idAfter id places).toNat = (id.toNat + places) % 32 := by
  have hlt : (id.toNat + places) % 32 < 32 := Nat.mod_lt _ (by decide)
  rw [idAfter, UInt8.toNat_ofNat_of_lt' (by simp [UInt8.size]; omega)]

theorem nextInstanceId_idAfter {internal : FdInternal} {places : ℕ}
    (held : internal.req.instanceId = some (idAfter id places)) :
    internal.nextInstanceId = idAfter id (places + 1) := by
  have hplaces := @toNat_idAfter id places
  have hnext := @toNat_idAfter id (places + 1)
  rw [FdInternal.nextInstanceId, held]
  apply UInt8.toNat_inj.mp
  simp only [instanceIdCount, UInt8.toNat_mod, UInt8.toNat_add, UInt8.reduceToNat]
  omega

/-- Fewer than 32 places on, the ID is another one. -/
theorem idAfter_ne (small : id < instanceIdCount) {places : ℕ} (on : 0 < places)
    (few : places < 32) : idAfter id places ≠ id := by
  intro same
  have hlt : id.toNat < 32 := small
  have hplaces := @toNat_idAfter id places
  rw [same] at hplaces
  omega

end Ids

/-! ## The IDs of a download -/

def Callback.takesData : Callback → Bool
  | .downloadFwData _ _ _ (.ok _) => true
  | _ => false

def Callback.asksRange : Callback → Bool
  | .queryDownloadOffsetAndLength _ _ => true
  | _ => false

/-- The IDs start over: a download begins, or the platform takes data. -/
def FdEvent.startsOver (event : FdEvent) : Bool :=
  decide (MovesToDownload event) || event.callbacks.any Callback.takesData

/-- The platform is asked which range to request. -/
def FdEvent.asksRange (event : FdEvent) : Bool := event.callbacks.any Callback.asksRange

/-- How often the platform has been asked for a range since the IDs last started over. -/
def rangesAsked (events : List FdEvent) : ℕ :=
  events.foldl (fun count event =>
    if event.startsOver then 0 else if event.asksRange then count + 1 else count) 0

theorem rangesAsked_append (events : List FdEvent) (event : FdEvent) :
    rangesAsked (events ++ [event]) = if event.startsOver then 0
      else if event.asksRange then rangesAsked events + 1 else rangesAsked events := by
  rw [rangesAsked, List.foldl_append]
  rfl

/-- The ID in the slot after so many ranges. -/
def idAt (count : ℕ) : Option UInt8 := if count = 0 then none else some (idAfter 0 count)

theorem nextInstanceId_idAt {internal : FdInternal} {count : ℕ}
    (held : internal.req.instanceId = idAt count) :
    some internal.nextInstanceId = idAt (count + 1) := by
  rw [idAt, if_neg count.succ_ne_zero]
  by_cases fresh : count = 0
  · rw [idAt, if_pos fresh] at held
    rw [FdInternal.nextInstanceId, held, fresh]
    rfl
  · rw [idAt, if_neg fresh] at held
    rw [nextInstanceId_idAfter held]

/-- Two IDs are the same if they are a whole number of rounds apart. -/
theorem idAt_inj {count count' : ℕ} (held : idAt count ≠ none) (held' : idAt count' ≠ none) :
    idAt count = idAt count' ↔
      count % instanceIdCount.toNat = count' % instanceIdCount.toNat := by
  have hidAt {count : ℕ} (held : idAt count ≠ none) : idAt count = some (idAfter 0 count) :=
    if_neg fun zero => held (if_pos zero)
  have hplace (count : ℕ) : (idAfter 0 count).toNat = count % instanceIdCount.toNat := by
    rw [toNat_idAfter, UInt8.toNat_zero, Nat.zero_add]
    rfl
  rw [hidAt held, hidAt held', Option.some_inj, ← UInt8.toNat_inj, hplace, hplace]

/-- The transfer of a component is under way. -/
structure Transferring (internal : FdInternal) : Prop where
  state : internal.state = .download
  incomplete : internal.req.complete = false

theorem AwaitsData.transferring {internal : FdInternal} (awaits : AwaitsData internal) :
    Transferring internal := ⟨awaits.state, awaits.incomplete⟩

/-- What a call can do for a transfer that is under way afterwards. -/
inductive TransferStep (event : FdEvent) : Prop
  | begun (startsOver : event.startsOver = true) (cleared : event.after.req.instanceId = none)
  | kept (continued : Transferring event.before) (goesOn : event.startsOver = false)
      (unasked : event.asksRange = false)
      (same : event.after.req.instanceId = event.before.req.instanceId)
  | asked (continued : Transferring event.before) (goesOn : event.startsOver = false)
      (asks : event.asksRange = true)
      (next : event.after.req.instanceId = some event.before.nextInstanceId)

section Steps

variable {profile : Profile} {pre : FdInternal} {input : FdInput} {output : FdOutput}
  {sent : Option FdRequest}

/-- What is found among the callbacks is found among the work. -/
theorem any_callbacks {kind : Callback → Bool} (works_of : ∀ callback, kind callback = true →
    callback.isWork = true) (event : FdEvent) :
    event.callbacks.any kind = (works event.log).any kind := by
  rw [FdEvent.callbacks, works, Bool.eq_iff_iff, List.any_eq_true, List.any_eq_true]
  constructor
  · rintro ⟨callback, member, found⟩
    exact ⟨callback, List.mem_filter.mpr ⟨member, works_of callback found⟩, found⟩
  · rintro ⟨callback, member, found⟩
    exact ⟨callback, List.mem_of_mem_filter member, found⟩

theorem asksRange_eq (event : FdEvent) :
    event.asksRange = (works event.log).any Callback.asksRange := by
  apply any_callbacks
  intro callback asks
  cases callback <;> first | rfl | cases asks

/-- Within a download the IDs start over with the data alone. -/
theorem startsOver_eq (state : pre.state = .download) : FdEvent.startsOver ⟨pre, input, output⟩ =
    (works output.log).any Callback.takesData := by
  have hstays : decide (MovesToDownload ⟨pre, input, output⟩) = false :=
    decide_eq_false fun moves => moves.1 state
  rw [FdEvent.startsOver, hstays, Bool.false_or]
  apply any_callbacks
  intro callback takes
  cases callback <;> first | rfl | cases takes

namespace TransferStep

/-- A call whose work is neither of the two kinds leaves the ID alone. -/
theorem of_same (continued : Transferring pre)
    (same : output.internal.req.instanceId = pre.req.instanceId)
    (calm : (works output.log).any Callback.takesData = false ∧
      (works output.log).any Callback.asksRange = false) : TransferStep ⟨pre, input, output⟩ :=
  .kept continued ((startsOver_eq continued.state).trans calm.1)
    ((asksRange_eq _).trans calm.2) same

theorem request {ops : FdOps} {payload final : List UInt8} {handler : Handler}
    {outcome : Outcome MsgHandlerError ℕ} {post : FdInternal} {log : List Invocation}
    (step : RequestStep ops payload pre handler outcome post log)
    (transferring : Transferring post) : TransferStep ⟨pre, ⟨.request handler payload, ops⟩,
      ⟨outcome.map .length, post, final, log⟩⟩ := by
  have hactive : post.state.isInitiator = true := by
    rw [transferring.state]
    rfl
  rcases step.of_operating hactive with touched | ⟨ready, internal, rfl⟩
  · refine of_same ⟨touched.state ▸ transferring.state, touched.req ▸ transferring.incomplete⟩
      (congrArg FdReq.instanceId touched.req) ?_
    rcases step.works_eq with hnone | ⟨_, _, _, _, hcancel⟩
    · simp [hnone]
    · simp [hcancel, Callback.takesData, Callback.asksRange]
  · refine .begun ?_ (congrArg FdReq.instanceId (FdContext.enterDownload_req internal))
    have hmoves : MovesToDownload ⟨pre, ⟨.request handler payload, ops⟩,
        ⟨outcome.map .length, FdContext.enterDownload internal, final, log⟩⟩ :=
      ⟨by rw [ready]; exact nofun, transferring.state⟩
    rw [FdEvent.startsOver, decide_eq_true hmoves]
    rfl

theorem poll {ops : FdOps} {payload final : List UInt8} {outcome : Outcome MsgHandlerError ℕ}
    {post : FdInternal} {log : List Invocation}
    (step : PollStep profile ops payload pre outcome post log sent)
    (transferring : Transferring post) : TransferStep ⟨pre, ⟨.fdProgress payload, ops⟩,
      ⟨outcome.map .length, post, final, log⟩⟩ := by
  obtain ⟨hstate, hincomplete⟩ := transferring
  have hkind {kind : OperationKind} (state : pre.state = kind.state)
      (same : post.state = pre.state) : False := by
    rw [same, state] at hstate
    cases kind <;> cases hstate
  have hasked {range : Except FdOpsError (ℕ × ℕ)} (state : pre.state = .download)
      (unfinished : pre.req.complete = false)
      (asks : works log = [.queryDownloadOffsetAndLength pre.updateComp range])
      (next : post.req.instanceId = some pre.nextInstanceId) :
      TransferStep ⟨pre, ⟨.fdProgress payload, ops⟩, ⟨outcome.map .length, post, final, log⟩⟩ := by
    refine .asked ⟨state, unfinished⟩ ?_ ?_ next
    · rw [startsOver_eq state, asks]
      rfl
    · rw [asksRange_eq, FdEvent.log, asks]
      rfl
  cases step with
  | inactive => exact of_same ⟨hstate, hincomplete⟩ rfl ⟨rfl, rfl⟩
  | timedOut => simp at hstate
  | timeoutRefused => exact of_same ⟨hstate, hincomplete⟩ rfl ⟨rfl, rfl⟩
  | undue => exact of_same ⟨hstate, hincomplete⟩ rfl (by simp)
  | transferUnsent _ _ complete => cases complete.symm.trans hincomplete
  | transferUnknown _ _ complete => cases complete.symm.trans hincomplete
  | transferReported => cases hincomplete
  | rangeUnknown state _ unfinished => exact hasked state unfinished (by simp; rfl) rfl
  | rangeRefused state _ unfinished => exact hasked state unfinished (by simp; rfl) rfl
  | rangeOverflowed state _ unfinished => exact hasked state unfinished (by simp; rfl) rfl
  | dataUnsent state _ unfinished => exact hasked state unfinished (by simp; rfl) rfl
  | dataRequested state _ unfinished => exact hasked state unfinished (by simp; rfl) rfl
  | operationFailed state => exact (hkind state rfl).elim
  | operationPending state => exact (hkind state (by simp)).elim
  | operationUnsent state => exact (hkind state (by simp)).elim
  | operationReported state => exact (hkind state (by simp)).elim
  | reportUnsent state => exact (hkind state rfl).elim
  | reportRepeated state => exact (hkind state rfl).elim

theorem response {ops : FdOps} {payload final : List UInt8}
    {outcome : Outcome MsgHandlerError PUnit} {post : FdInternal} {log : List Invocation}
    (step : ResponseStep ops payload pre outcome post log)
    (transferring : Transferring post) : TransferStep ⟨pre, ⟨.handleResponse payload, ops⟩,
      ⟨outcome.map fun _ => .done, post, final, log⟩⟩ := by
  obtain ⟨hstate, hincomplete⟩ := transferring
  cases step with
  | ignored => exact of_same ⟨hstate, hincomplete⟩ rfl ⟨rfl, rfl⟩
  | heard => exact of_same ⟨hstate, hincomplete⟩ rfl ⟨rfl, rfl⟩
  | dataRefused => exact of_same ⟨hstate, hincomplete⟩ rfl ⟨rfl, rfl⟩
  | dataStored _ delivery =>
      refine .begun ?_ rfl
      rw [startsOver_eq delivery.state]
      rfl
  | acknowledged _ active => exact absurd hstate (advance_state_ne_download active)
  | _ => cases hincomplete

end TransferStep

/-- The step lemma. -/
theorem FdStep.transferStep (step : FdStep profile pre input output sent)
    (transferring : Transferring output.internal) : TransferStep ⟨pre, input, output⟩ := by
  cases step with
  | request step => exact .request step transferring
  | poll step => exact .poll step transferring
  | response step => exact .response step transferring
  | touch => exact .of_same ⟨transferring.state, transferring.incomplete⟩ rfl ⟨rfl, rfl⟩
  | query => exact .of_same transferring rfl ⟨rfl, rfl⟩

end Steps

section Runs

variable {profile : Profile} {events : List FdEvent} {state : FdInternal}

/-- The run lemma: the ID in the slot of a transfer counts the ranges asked for. -/
theorem FdTrace.instanceId_eq (trace : FdTrace profile events state)
    (transferring : Transferring state) : state.req.instanceId = idAt (rangesAsked events) := by
  refine (FdRun.induct trace Coherent.init (fun events state => Transferring state →
    state.req.instanceId = idAt (rangesAsked events)) ?_ ?_).1 transferring
  · intro transferring
    cases transferring.state
  · intro events pre input output sent _ ih step _ _ transferring
    rw [rangesAsked_append]
    cases step.transferStep transferring with
    | begun startsOver cleared =>
        rw [startsOver]
        exact cleared
    | kept continued goesOn unasked same =>
        rw [goesOn, unasked]
        exact same.trans (ih continued)
    | asked continued goesOn asks next =>
        rw [goesOn, asks]
        exact next.trans (nextInstanceId_idAt (ih continued))

/-- The slot carries the ID of the request that a poll hands over. -/
theorem FdTrace.instanceId_of_sent {asked : FdEvent} {request : FdRequest}
    (trace : FdTrace profile events asked.before)
    (called : asked = fdEvent profile asked.before asked.input)
    (sent : asked.sent = some request) :
    asked.after.req.instanceId = some request.instanceId ∧
      request.instanceId < instanceIdCount := by
  have hsmall := asked.before.nextInstanceId_lt
  have hid := (trace.step asked.input).idStep
  rw [← called, sent] at hid
  cases hid with
  | taken polled next carried =>
      have hcarried : request.instanceId = asked.before.nextInstanceId := by
        rw [carried request rfl]
        apply UInt8.toNat_inj.mp
        rw [UInt8.toNat_mod]
        exact Nat.mod_eq_of_lt hsmall
      rw [hcarried]
      exact ⟨next, hsmall⟩

end Runs

end PldmLib.FirmwareDevice
