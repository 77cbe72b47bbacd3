/-
# An installation comes to its end

A component that the device has accepted is downloaded, verified and applied. The calls in
which that happens are chosen by the surroundings of the device: the update agent, which has
the image and answers every request truthfully, the network, which may lose an answer, and
the platform, which does what it is asked to do, in as many steps as it likes.

However they choose, the image is installed after a number of calls that is known
beforehand, as long as they do not idle for ever and the network does not lose the answer to
the report of a verification or an application. The number is made up of two calls for each
byte of the image, since the platform may ask for one byte at a time, of two for each report,
and of the calls that may be spared.
-/

import PldmLib.Machine.ClosedLoop
import PldmLib.FirmwareDevice.Inquiry
import PldmLib.FirmwareDevice.Network
import PldmLib.FirmwareDevice.Pacing
import PldmLib.FirmwareDevice.FailedPoll

namespace PldmLib.FirmwareDevice

open PldmLib.Machine PldmLib.Protocol PldmLib.Message

/-! ## The surroundings -/

/-- The answer of an agent that has the image and is content with every report. -/
def agentAnswer (image : List UInt8) : FdRequest → List UInt8
  | .requestFirmwareData instanceId offset length =>
      DataRequest.answer image ⟨instanceId, offset, length⟩
  | .complete command instanceId _ =>
      Agent.response instanceId command PldmBaseCompletionCode.success.toU8 []

/-- What the surroundings know: the bytes that the platform has stored, the request that the
agent has not been heard to answer yet, and the number of calls that may still be wasted. -/
structure Surroundings where
  stored : List UInt8
  unanswered : Option FdRequest
  spare : ℕ
  deriving DecidableEq

/-- Write data over what is stored. -/
def overwrite (stored : List UInt8) (offset : ℕ) (data : List UInt8) : List UInt8 :=
  stored.take offset ++ data ++ stored.drop (offset + data.length)

/-- The platform stores the data that it accepts. -/
def store (stored : List UInt8) : Callback → List UInt8
  | .downloadFwData offset data _ (.ok .transferSuccess) => overwrite stored offset data
  | _ => stored

/-- A platform that does what it is asked to do. An operation that is not over is continued
as long as calls may be wasted. -/
structure Obliges (image : List UInt8) (state : FdInternal) (noted : Surroundings)
    (ops : FdOps) : Prop where
  asks : noted.stored.length < image.length → ∃ length, 0 < length ∧
    noted.stored.length + length ≤ image.length ∧
    ops.queryDownloadOffsetAndLength state.updateComp = .ok (noted.stored.length, length)
  stores : ∀ offset data, ops.downloadFwData offset data state.updateComp = .ok .transferSuccess
  finishes : ∀ id offset length,
    noted.unanswered = some (.requestFirmwareData id offset length) →
      ops.isDownloadComplete state.updateComp = decide (image.length ≤ offset + length)
  operates : ∀ kind : OperationKind, ∃ progress,
    kind.answer ops state.updateComp = .ok (0, progress) ∧
      (100 ≤ progress.value ∨ 0 < noted.spare)

/-- Calls beside the installation: those that the device ignores, the requests that do not
cancel, and the restart of the T1 timer. -/
def Beside (state : FdInternal) (input : FdInput) : Prop :=
  state.ignores input = true ∨ input.operation = .setFdT1Ts ∨
    ∃ handler payload, input.operation = .request handler payload ∧ handler.isCancel = false

/-- The calls that the surroundings may choose next. -/
inductive Chooses (profile : Profile) (image : List UInt8) (state : FdInternal)
    (noted : Surroundings) : FdInput → Prop
  | poll {payload : List UInt8} {ops : FdOps} (free : noted.unanswered = none)
      (room : 11 ≤ payload.length) (obliges : Obliges image state noted ops) :
      Chooses profile image state noted ⟨.fdProgress payload, ops⟩
  | answer {request : FdRequest} {ops : FdOps} (asked : noted.unanswered = some request)
      (obliges : Obliges image state noted ops) :
      Chooses profile image state noted ⟨.handleResponse (agentAnswer image request), ops⟩
  /-- The answer is taken for lost. -/
  | retry {request : FdRequest} {payload : List UInt8} {ops : FdOps}
      (downloading : state.state = .download) (asked : noted.unanswered = some request)
      (heard : silent ops state = false) (spare : 0 < noted.spare)
      (room : 11 ≤ payload.length) (obliges : Obliges image state noted ops) :
      Chooses profile image state noted ⟨.fdProgress payload, ops⟩
  | beside {input : FdInput} (aside : Beside state input) (spare : 0 < noted.spare)
      (live : (fdEvent profile state input).output.outcome ≠ .panic) :
      Chooses profile image state noted input

namespace Surroundings

/-- The message is the one that the device waits for. -/
def Awaits (image : List UInt8) (noted : Surroundings) (operation : FdOperation) : Prop :=
  ∃ request, noted.unanswered = some request ∧
    operation = .handleResponse (agentAnswer image request)

instance (image : List UInt8) (noted : Surroundings) (operation : FdOperation) :
    Decidable (noted.Awaits image operation) :=
  decidable_of_iff (∃ request ∈ noted.unanswered.toList,
    operation = .handleResponse (agentAnswer image request)) (by simp [Awaits])

/-- A call is well spent if it sends a request that was not sent before, or brings the
answer to one. -/
def after (image : List UInt8) (noted : Surroundings) (event : FdEvent) : Surroundings where
  stored := event.callbacks.foldl store noted.stored
  unanswered :=
    if noted.Awaits image event.input.operation then none else event.sent.or noted.unanswered
  spare :=
    if noted.Awaits image event.input.operation ∨
        noted.unanswered = none ∧ event.sent ≠ none then noted.spare
    else noted.spare - 1

end Surroundings

/-- The agent, the network and the platform. -/
def surroundings (profile : Profile) (image : List UInt8) :
    Environment FdInternal FdInput FdOutput Surroundings where
  allows := Chooses profile image
  react noted event := noted.after image event

/-! ## Single calls -/

section Calls

variable {profile : Profile} {ops : FdOps} {payload : List UInt8} {pre post : FdInternal}
  {outcome : Outcome MsgHandlerError ℕ} {log : List Invocation} {sent : Option FdRequest}
  {image : List UInt8}

/-- A request from a ready slot is due at once, and the silence of the agent does not count. -/
theorem open_of_ready (ready : pre.req.state = .ready) (ops : FdOps) : Open ops pre where
  heard := by simp [silent, ready]
  due := by simp [FdInternal.due, ready]

/-- A response with the ID and the command of the outstanding request is its answer. -/
theorem accepts_response (coherent : Coherent pre) (outstanding : pre.req.state = .sent)
    {id : UInt8} {command : FwUpdateCmd} (held : pre.req.instanceId = some id)
    (slot : pre.req.command = some command.toU8) (rest : List UInt8) :
    accepts pre.req ((PldmMsgHeader.new (id % 32) .response .fwUpdate command.toU8).toBytes ++
      rest) = true := by
  have hsmall : id.toNat < 32 := coherent.id_lt id held
  have hid : id % 32 = id := by
    apply UInt8.toNat_inj.mp
    rw [UInt8.toNat_mod]
    exact Nat.mod_eq_of_lt hsmall
  rw [hid]
  exact (accepts_response_iff (coherent.id_lt id held) command rest).mpr ⟨outstanding, held, slot⟩

/-- The range that the platform asks for is cut down to the transfer size and nothing else. -/
theorem chunk_of_asked (profile : Profile) (downloading : pre.state = .download)
    (announced : pre.imageSize = image.length) (small : image.length + 32 < UInt32.size)
    {offset length : ℕ} (inside : offset + length ≤ image.length) :
    (pre.getFdDownloadChunk profile (UInt32.ofNat offset) (UInt32.ofNat length) :
      Outcome MsgHandlerError _) =
        .ok (some (UInt32.ofNat offset, min (UInt32.ofNat length) pre.maxXferSize)) := by
  have hoffset : (UInt32.ofNat offset).toNat = offset := UInt32.toNat_ofNat_of_lt' (by omega)
  have hlength : (UInt32.ofNat length).toNat = length := UInt32.toNat_ofNat_of_lt' (by omega)
  rw [getFdDownloadChunk_of_fits MsgHandlerError profile downloading, if_pos]
  · rw [hoffset, hlength, announced]
    exact ⟨by omega, by omega⟩
  · rw [hoffset, hlength, announced]
    exact fun _ => ⟨by omega, small⟩

/-- A poll with a range to ask for sends the request and remembers the range. -/
theorem PollStep.of_asked {range : ℕ × ℕ} {offset length : UInt32}
    (step : PollStep profile ops payload pre outcome post log sent) (coherent : Coherent pre)
    (state : pre.state = .download) (passed : Open ops pre) (complete : pre.req.complete = false)
    (asked : ops.queryDownloadOffsetAndLength pre.updateComp = .ok range)
    (inside : pre.getFdDownloadChunk profile (UInt32.ofNat range.1) (UInt32.ofNat range.2) =
      (.ok (some (offset, length)) : Outcome MsgHandlerError _)) (room : 11 ≤ payload.length) :
    outcome = .ok 11 ∧ post.state = .download ∧ post.req.state = .sent ∧
      post.req.complete = false ∧ post.req.instanceId = some pre.nextInstanceId ∧
      post.req.command = some FwUpdateCmd.requestFirmwareData.toU8 ∧
      post.initiatorModeState = .download offset length ∧
      sent = some (.requestFirmwareData (pre.nextInstanceId % 32) offset.toNat length.toNat) := by
  have hcount := step.of_range state passed complete asked inside room
  cases step with
  | dataRequested _ _ _ asked' inside' =>
      obtain rfl := Except.ok.inj (asked'.symm.trans asked)
      rw [inside'] at inside
      simp only [Outcome.ok.injEq, Option.some.injEq, Prod.mk.injEq] at inside
      obtain ⟨rfl, rfl⟩ := inside
      obtain ⟨_, _, hmode⟩ := coherent.downloads state
      refine ⟨hcount, ?_, rfl, rfl, rfl, rfl, ?_, rfl⟩
      · simpa using state
      · simp [FdInternal.setFdDownloadState, hmode]
  | transferReported _ _ already => cases complete.symm.trans already
  | @operationPending kind _ _ operating =>
      rw [state] at operating
      cases kind <;> cases operating
  | @operationReported kind _ _ operating =>
      rw [state] at operating
      cases kind <;> cases operating
  | reportRepeated _ _ already => cases complete.symm.trans already
  | _ => cases hcount

/-- A poll that runs an operation goes on with it, or reports its success. -/
theorem PollStep.of_operation {kind : OperationKind} {progress : ProgressPercent}
    (step : PollStep profile ops payload pre outcome post log sent) (state : pre.state = kind.state)
    (passed : Open ops pre) (complete : pre.req.complete = false)
    (ran : kind.answer ops pre.updateComp = .ok (0, progress))
    (room : kind.messageLength ≤ payload.length) :
    outcome ≠ .panic ∧ post.state = kind.state ∧
      (progress.value < 100 ∧ post.req = pre.req ∧ sent = none ∨
        post.req.state = .sent ∧ post.req.complete = true ∧ post.req.result = some 0 ∧
          post.req.instanceId = some pre.nextInstanceId ∧
          post.req.command = some kind.command.toU8 ∧
          sent = some (.complete kind.command (pre.nextInstanceId % 32) 0)) := by
  have hdownload (downloading : pre.state = .download) : False := by
    rw [state] at downloading
    cases kind <;> cases downloading
  have hcomplete (already : pre.req.complete = true) : False :=
    absurd (complete.symm.trans already) nofun
  have hkind {other : OperationKind} (operating : pre.state = other.state) : other = kind := by
    rw [state] at operating
    cases kind <;> cases other <;> first | rfl | cases operating
  cases step with
  | operationPending operating _ _ ran' unfinished =>
      obtain rfl := hkind operating
      obtain ⟨rfl, rfl⟩ := Prod.mk.inj (Except.ok.inj (ran'.symm.trans ran))
      refine ⟨nofun, ?_, .inl ⟨(of_decide_eq_true unfinished).2, ?_, rfl⟩⟩
      · simpa using state
      · simp
  | operationReported operating _ _ ran' =>
      obtain rfl := hkind operating
      obtain ⟨rfl, rfl⟩ := Prod.mk.inj (Except.ok.inj (ran'.symm.trans ran))
      refine ⟨nofun, ?_, .inr ⟨rfl, rfl, rfl, rfl, rfl, rfl⟩⟩
      simpa using state
  | operationFailed operating _ _ failed =>
      obtain rfl := hkind operating
      rw [ran] at failed
      cases failed
  | operationUnsent operating _ _ _ _ short =>
      obtain rfl := hkind operating
      exact absurd short (Nat.not_lt.mpr room)
  | inactive passive =>
      rw [state, kind.state_isInitiator] at passive
      cases passive
  | timedOut _ silence =>
      rw [passed.heard] at silence
      cases silence
  | timeoutRefused _ silence =>
      rw [passed.heard] at silence
      cases silence
  | undue _ _ early =>
      rw [passed.due] at early
      cases early
  | transferUnsent downloading => exact (hdownload downloading).elim
  | transferUnknown downloading => exact (hdownload downloading).elim
  | transferReported downloading => exact (hdownload downloading).elim
  | rangeUnknown downloading => exact (hdownload downloading).elim
  | rangeRefused downloading => exact (hdownload downloading).elim
  | rangeOverflowed downloading => exact (hdownload downloading).elim
  | dataUnsent downloading => exact (hdownload downloading).elim
  | dataRequested downloading => exact (hdownload downloading).elim
  | reportUnsent _ _ already => exact (hcomplete already).elim
  | reportRepeated _ _ already => exact (hcomplete already).elim

/-- A poll reports the success of a transfer, whether or not it has been reported before. -/
theorem PollStep.of_transfer_success (step : PollStep profile ops payload pre outcome post log sent)
    (state : pre.state = .download) (passed : Open ops pre) (complete : pre.req.complete = true)
    (success : pre.req.result = some 0) (room : 4 ≤ payload.length) :
    outcome = .ok 4 ∧ Outstanding post 0 ∧ post.state = .download ∧
      post.req.instanceId = some pre.nextInstanceId ∧
      post.req.command = some FwUpdateCmd.transferComplete.toU8 ∧
      sent = some (.complete .transferComplete (pre.nextInstanceId % 32) 0) := by
  have hactive : pre.state.isInitiator = true := by
    rw [state]
    rfl
  cases step.of_complete hactive passed complete with
  | unknown _ stores unknown =>
      obtain rfl := Option.some.inj (success.symm.trans stores)
      cases unknown
  | unsent short =>
      rw [state] at short
      exact absurd short (Nat.not_lt.mpr room)
  | transfer _ stores reads =>
      obtain rfl := Option.some.inj (success.symm.trans stores)
      obtain rfl := Except.ok.inj reads
      exact ⟨rfl, ⟨hactive, rfl, rfl, rfl, fun _ => ⟨_, rfl, rfl⟩⟩, state, rfl, rfl, rfl⟩
  | @repeated kind operating =>
      rw [state] at operating
      cases kind <;> cases operating

/-- The data of an answer goes to the platform, and the next request can be made. -/
theorem ResponseStep.of_data {result : Outcome MsgHandlerError PUnit} {id : UInt8}
    {offset length : UInt32}
    (step : ResponseStep ops (DataRequest.answer image ⟨id, offset.toNat, length.toNat⟩) pre
      result post log)
    (handed : HandsOver offset (portion image offset.toNat length.toNat) pre.updateComp log)
    (mode : pre.initiatorModeState = .download offset length)
    (stores : ∀ offset data, ops.downloadFwData offset data pre.updateComp = .ok .transferSuccess) :
    post.state = pre.state ∧ post.req.state = .ready ∧
      post.req.complete = ops.isDownloadComplete pre.updateComp ∧
      (post.req.complete = true → post.req.result = some 0) ∧
      ∀ stored, (log.map Invocation.callback).foldl store stored =
        overwrite stored offset.toNat (portion image offset.toNat length.toNat) := by
  have hstarted {start : UInt32} {data : List UInt8}
      (delivery : Delivery (DataRequest.answer image ⟨id, offset.toNat, length.toNat⟩) pre start
        data) : start = offset ∧ data = portion image offset.toNat length.toNat := by
    obtain ⟨count, range, hdata, _⟩ := delivery.range
    simp only [FdInternal.getFdDownloadState, mode, Option.some.injEq, Prod.mk.injEq] at range
    obtain ⟨rfl, rfl⟩ := range
    rw [DataRequest.drop_answer] at hdata
    exact ⟨rfl, hdata.trans (portion_take (Nat.le_refl _))⟩
  have hnow {time : PldmFdTime} (handed : HandsOver offset
      (portion image offset.toNat length.toNat) pre.updateComp [⟨.now, time⟩]) : False := by
    obtain ⟨_, ⟨⟩⟩ := handed
  cases step with
  | ignored =>
      obtain ⟨_, ⟨⟩⟩ := handed
  | heard => exact (hnow handed).elim
  | dataRefused _ _ refused => cases (stores _ _).symm.trans refused
  | dataRejected _ _ ran failed =>
      exact absurd (Except.ok.inj (ran.symm.trans (stores _ _))) failed
  | dataStored _ delivery _ more =>
      obtain ⟨rfl, rfl⟩ := hstarted delivery
      exact ⟨rfl, rfl, more.symm, by rintro ⟨⟩, fun _ => rfl⟩
  | dataCompleted _ delivery _ done =>
      obtain ⟨rfl, rfl⟩ := hstarted delivery
      exact ⟨rfl, rfl, done.symm, fun _ => rfl, fun _ => rfl⟩
  | transferAborted => exact (hnow handed).elim
  | acknowledged => exact (hnow handed).elim
  | disappointed => exact (hnow handed).elim

end Calls

/-! ## The stages -/

/-- The image has been stored, verified and applied. -/
def Installed (image : List UInt8) (state : FdInternal) (noted : Surroundings) : Prop :=
  state.state = .readyXfer ∧ noted.stored = image

/-- Where an installation stands: what the slot of the device holds, and the request that is
unanswered. -/
inductive Stage (image : List UInt8) (state : FdInternal) (stored : List UInt8) :
    Option FdRequest → Prop
  | fetching (downloading : state.state = .download) (ready : state.req.state = .ready)
      (incomplete : state.req.complete = false) (fits : stored <+: image)
      (short : stored.length < image.length) : Stage image state stored none
  | awaiting {id : UInt8} {offset length : UInt32} (downloading : state.state = .download)
      (outstanding : state.req.state = .sent) (incomplete : state.req.complete = false)
      (held : state.req.instanceId = some id)
      (slot : state.req.command = some FwUpdateCmd.requestFirmwareData.toU8)
      (mode : state.initiatorModeState = .download offset length) (fits : stored <+: image)
      (next : offset.toNat = stored.length) (more : 0 < length.toNat)
      (inside : offset.toNat + length.toNat ≤ image.length) :
      Stage image state stored
        (some (.requestFirmwareData (id % 32) offset.toNat length.toNat))
  | fetched (downloading : state.state = .download) (ready : state.req.state = .ready)
      (complete : state.req.complete = true) (success : state.req.result = some 0)
      (whole : stored = image) : Stage image state stored none
  | reported {id : UInt8} {command : FwUpdateCmd} (outstanding : Outstanding state 0)
      (held : state.req.instanceId = some id) (slot : state.req.command = some command.toU8)
      (whole : stored = image) : Stage image state stored (some (.complete command (id % 32) 0))
  | operating {kind : OperationKind} (operates : state.state = kind.state)
      (ready : state.req.state = .ready) (incomplete : state.req.complete = false)
      (whole : stored = image) : Stage image state stored none
  | installed (arrived : state.state = .readyXfer) (whole : stored = image) :
      Stage image state stored none

/-- The invariant of an installation. -/
structure Installing (image : List UInt8) (state : FdInternal) (noted : Surroundings) : Prop where
  coherent : Coherent state
  announced : state.imageSize = image.length
  transfers : 0 < state.maxXferSize.toNat
  stage : Stage image state noted.stored noted.unanswered

/-- The calls that are left for the operations of a state, without the next poll. -/
def callsLeft : FirmwareDeviceState → ℕ
  | .download => 5
  | .verify => 3
  | .apply => 1
  | _ => 0

/-- The measure of an installation: the calls that are left at most. -/
def remaining (image : List UInt8) (state : FdInternal) (noted : Surroundings) : ℕ :=
  2 * (image.length - noted.stored.length) + callsLeft state.state +
    (if state.req.state = .ready then 1 else 0) + noted.spare

/-- A call takes the installation further. -/
structure Furthers (image : List UInt8) (noted : Surroundings) (event : FdEvent) : Prop where
  live : event.output.outcome ≠ .panic
  kept : Kept event.before event.after
  stage : Stage image event.after (noted.after image event).stored
    (noted.after image event).unanswered
  less : remaining image event.after (noted.after image event) <
    remaining image event.before noted

namespace Stage

variable {image stored : List UInt8} {pre post : FdInternal} {unanswered : Option FdRequest}

/-- A stage is about the state, the slot and the operation data. -/
theorem congr (stage : Stage image pre stored unanswered) (state : post.state = pre.state)
    (req : post.req = pre.req) (mode : post.initiatorModeState = pre.initiatorModeState) :
    Stage image post stored unanswered := by
  have hslot {α : Type} (field : FdReq → α) : field post.req = field pre.req := congrArg field req
  cases stage with
  | fetching downloading ready incomplete fits short =>
      exact .fetching (state.trans downloading) ((hslot FdReq.state).trans ready)
        ((hslot FdReq.complete).trans incomplete) fits short
  | awaiting downloading outstanding incomplete held slot range fits next more inside =>
      exact .awaiting (state.trans downloading) ((hslot FdReq.state).trans outstanding)
        ((hslot FdReq.complete).trans incomplete) ((hslot FdReq.instanceId).trans held)
        ((hslot FdReq.command).trans slot) (mode.trans range) fits next more inside
  | fetched downloading ready complete success whole =>
      exact .fetched (state.trans downloading) ((hslot FdReq.state).trans ready)
        ((hslot FdReq.complete).trans complete) ((hslot FdReq.result).trans success) whole
  | reported outstanding held slot whole =>
      exact .reported (outstanding.congr state (hslot FdReq.state) (hslot FdReq.complete)
        (hslot FdReq.result)) ((hslot FdReq.instanceId).trans held)
        ((hslot FdReq.command).trans slot) whole
  | operating operates ready incomplete whole =>
      exact .operating (state.trans operates) ((hslot FdReq.state).trans ready)
        ((hslot FdReq.complete).trans incomplete) whole
  | installed arrived whole => exact .installed (state.trans arrived) whole

end Stage

/-! ## What is noted of a call -/

section After

variable {profile : Profile} {image : List UInt8} {state : FdInternal} {noted : Surroundings}
  {event : FdEvent} {request : FdRequest}

theorem foldl_store_of_quiet {callbacks : List Callback} (quiet : ∀ offset data component result,
    .downloadFwData offset data component result ∉ callbacks) (stored : List UInt8) :
    callbacks.foldl store stored = stored := by
  induction callbacks with
  | nil => rfl
  | cons callback rest ih =>
      have hkept : store stored callback = stored := by
        cases callback with
        | downloadFwData => exact absurd List.mem_cons_self (quiet _ _ _ _)
        | _ => rfl
      rw [List.foldl_cons, hkept]
      apply ih
      intro offset data component result member
      exact quiet _ _ _ _ (List.mem_cons_of_mem _ member)

/-- Only an accepted response brings data. -/
theorem foldl_store_of_unaccepted (coherent : Coherent state) {input : FdInput}
    (unaccepted : ∀ payload, input.operation = .handleResponse payload →
      accepts state.req payload = false) (stored : List UInt8) :
    (fdEvent profile state input).callbacks.foldl store stored = stored := by
  apply foldl_store_of_quiet
  intro offset data component result member
  obtain ⟨payload, _, responds, accepted, _⟩ :=
    (@FdStep.run profile state coherent input).of_downloadFwData ((mem_works rfl).mp member)
  exact absurd (accepted.symm.trans (unaccepted payload responds)) nofun

theorem foldl_store_of_poll {payload : List UInt8} {ops : FdOps} (coherent : Coherent state)
    (stored : List UInt8) :
    (fdEvent profile state ⟨.fdProgress payload, ops⟩).callbacks.foldl store stored = stored := by
  apply foldl_store_of_unaccepted coherent
  intro _ responds
  cases responds

namespace Surroundings

theorem not_awaits_poll (payload : List UInt8) : ¬ noted.Awaits image (.fdProgress payload) := by
  rintro ⟨_, _, ⟨⟩⟩

theorem after_of_sent (image : List UInt8) (other : ¬ noted.Awaits image event.input.operation)
    (stores : event.callbacks.foldl store noted.stored = noted.stored)
    (sent : event.sent = some request) : noted.after image event =
      ⟨noted.stored, some request,
        if noted.unanswered = none then noted.spare else noted.spare - 1⟩ := by
  simp [after, other, stores, sent]

theorem after_of_silent (image : List UInt8) (other : ¬ noted.Awaits image event.input.operation)
    (stores : event.callbacks.foldl store noted.stored = noted.stored)
    (silence : event.sent = none) :
    noted.after image event = ⟨noted.stored, noted.unanswered, noted.spare - 1⟩ := by
  simp [after, other, stores, silence]

theorem after_of_answer (asked : noted.unanswered = some request)
    (answers : event.input.operation = .handleResponse (agentAnswer image request)) :
    noted.after image event = ⟨event.callbacks.foldl store noted.stored, none, noted.spare⟩ := by
  have hawaits : noted.Awaits image event.input.operation := ⟨request, asked, answers⟩
  simp [after, hawaits]

end Surroundings

end After

/-! ## Steps -/

section Steps

variable {profile : Profile} {image payload : List UInt8} {state : FdInternal}
  {noted : Surroundings} {ops : FdOps} {request : FdRequest}

theorem poll_step (profile : Profile) (coherent : Coherent state) (payload : List UInt8)
    (ops : FdOps) : ∃ outcome,
    (fdEvent profile state ⟨.fdProgress payload, ops⟩).output.outcome = outcome.map .length ∧
      PollStep profile ops payload state outcome
        (fdEvent profile state ⟨.fdProgress payload, ops⟩).after
        (fdEvent profile state ⟨.fdProgress payload, ops⟩).log
        (fdEvent profile state ⟨.fdProgress payload, ops⟩).sent :=
  (FdStep.run coherent ⟨.fdProgress payload, ops⟩).of_poll

theorem response_step (profile : Profile) (coherent : Coherent state) (payload : List UInt8)
    (ops : FdOps) :
    (fdEvent profile state ⟨.handleResponse payload, ops⟩).output.outcome ≠ .panic ∧
      ∃ outcome : Outcome MsgHandlerError PUnit.{1}, ResponseStep ops payload state outcome
        (fdEvent profile state ⟨.handleResponse payload, ops⟩).after
        (fdEvent profile state ⟨.handleResponse payload, ops⟩).log := by
  obtain ⟨_, outcome, returned, step⟩ :=
    (@FdStep.run profile state coherent ⟨.handleResponse payload, ops⟩).of_response
  refine ⟨fun panicked => ?_, outcome, step⟩
  exact step.ne_panic (Outcome.map_eq_panic.mp (returned.symm.trans panicked))

/-- A poll that is not due does not panic. -/
theorem live_of_early (coherent : Coherent state)
    (early : state.due (gateTime ops state) = false) :
    (fdEvent profile state ⟨.fdProgress payload, ops⟩).output.outcome ≠ .panic := by
  obtain ⟨outcome, returned, step⟩ := poll_step profile coherent payload ops
  have hclosed : ¬ Open ops state := fun passed => absurd (passed.due.symm.trans early) nofun
  rw [returned]
  obtain ⟨_, ⟨_, _, _, rfl, _⟩ | ⟨_, _, rfl, _⟩ | ⟨rfl, _⟩⟩ := step.of_not_open hclosed
  · exact nofun
  · exact nofun
  · exact nofun

/-- A request is sent while none is unanswered, or at the cost of a call. -/
def Affords (state : FdInternal) (noted : Surroundings) : Prop :=
  noted.unanswered = none ∧ state.req.state = .ready ∨ noted.unanswered ≠ none ∧ 0 < noted.spare

theorem Furthers.of_sent (coherent : Coherent state)
    (live : (fdEvent profile state ⟨.fdProgress payload, ops⟩).output.outcome ≠ .panic)
    (sent : (fdEvent profile state ⟨.fdProgress payload, ops⟩).sent = some request)
    (same : (fdEvent profile state ⟨.fdProgress payload, ops⟩).after.state = state.state)
    (outstanding : (fdEvent profile state ⟨.fdProgress payload, ops⟩).after.req.state = .sent)
    (affords : Affords state noted)
    (stage : Stage image (fdEvent profile state ⟨.fdProgress payload, ops⟩).after noted.stored
      (some request)) :
    Furthers image noted (fdEvent profile state ⟨.fdProgress payload, ops⟩) := by
  obtain ⟨_, _, step⟩ := poll_step profile coherent payload ops
  have hafter := Surroundings.after_of_sent image
    (Surroundings.not_awaits_poll payload) (foldl_store_of_poll coherent noted.stored) sent
  refine ⟨live, step.kept, ?_, ?_⟩
  · rw [hafter]
    exact stage
  · have hbefore : (fdEvent profile state ⟨.fdProgress payload, ops⟩).before = state := rfl
    rw [hafter, hbefore, remaining, remaining, same, outstanding]
    rcases affords with ⟨free, ready⟩ | ⟨asked, spare⟩
    · simp only [free, ready, ↓reduceIte, reduceCtorEq]
      omega
    · simp only [asked, ↓reduceIte, reduceCtorEq]
      omega

/-- The next bytes are asked for, or the same ones again. -/
theorem Installing.furthers_of_asked (installing : Installing image state noted)
    (small : image.length + 32 < UInt32.size) (downloading : state.state = .download)
    (passed : Open ops state) (incomplete : state.req.complete = false)
    (fits : noted.stored <+: image) (short : noted.stored.length < image.length)
    (obliges : Obliges image state noted ops) (room : 11 ≤ payload.length)
    (affords : Affords state noted) :
    Furthers image noted (fdEvent profile state ⟨.fdProgress payload, ops⟩) := by
  obtain ⟨length, more, inside, asked⟩ := obliges.asks short
  obtain ⟨outcome, returned, step⟩ := poll_step profile installing.coherent payload ops
  have hchunk := chunk_of_asked profile downloading installing.announced small inside
  obtain ⟨rfl, hstate, hsent, hincomplete, hid, hcommand, hmode, hrequest⟩ :=
    step.of_asked installing.coherent downloading passed incomplete asked hchunk room
  apply Furthers.of_sent installing.coherent (returned ▸ nofun) hrequest
    (hstate.trans downloading.symm) hsent affords
  have hoffset : (UInt32.ofNat noted.stored.length).toNat = noted.stored.length :=
    UInt32.toNat_ofNat_of_lt' (by omega)
  have hlength : (UInt32.ofNat length).toNat = length := UInt32.toNat_ofNat_of_lt' (by omega)
  have hpositive := installing.transfers
  apply Stage.awaiting hstate hsent hincomplete hid hcommand hmode fits hoffset
  · rw [toNat_min]
    omega
  · rw [toNat_min]
    omega

/-- The success of the transfer is reported, or is reported again. -/
theorem Installing.furthers_of_transferred (installing : Installing image state noted)
    (downloading : state.state = .download) (passed : Open ops state)
    (complete : state.req.complete = true) (success : state.req.result = some 0)
    (whole : noted.stored = image) (room : 11 ≤ payload.length) (affords : Affords state noted) :
    Furthers image noted (fdEvent profile state ⟨.fdProgress payload, ops⟩) := by
  obtain ⟨outcome, returned, step⟩ := poll_step profile installing.coherent payload ops
  obtain ⟨rfl, outstanding, hstate, hid, hcommand, hrequest⟩ :=
    step.of_transfer_success downloading passed complete success (by omega)
  exact Furthers.of_sent installing.coherent (returned ▸ nofun) hrequest
    (hstate.trans downloading.symm) outstanding.sent affords
    (.reported outstanding hid hcommand whole)

/-- A call that does nothing for the installation costs a call. -/
theorem Furthers.of_silent {input : FdInput} (coherent : Coherent state)
    (live : (fdEvent profile state input).output.outcome ≠ .panic)
    (kept : Kept state (fdEvent profile state input).after)
    (unaccepted : ∀ payload, input.operation = .handleResponse payload →
      accepts state.req payload = false)
    (other : ¬ noted.Awaits image input.operation)
    (silence : (fdEvent profile state input).sent = none)
    (same : (fdEvent profile state input).after.state = state.state)
    (slot : (fdEvent profile state input).after.req = state.req) (spare : 0 < noted.spare)
    (stage : Stage image (fdEvent profile state input).after noted.stored noted.unanswered) :
    Furthers image noted (fdEvent profile state input) := by
  have hafter := Surroundings.after_of_silent image other
    (foldl_store_of_unaccepted coherent unaccepted noted.stored) silence
  refine ⟨live, kept, ?_, ?_⟩
  · rw [hafter]
    exact stage
  · have hbefore : (fdEvent profile state input).before = state := rfl
    rw [hafter, hbefore, remaining, remaining, same, slot]
    dsimp only
    omega

/-- The platform goes on with an operation, or its success is reported. -/
theorem Installing.furthers_of_operation {kind : OperationKind}
    (installing : Installing image state noted) (operates : state.state = kind.state)
    (passed : Open ops state) (ready : state.req.state = .ready)
    (incomplete : state.req.complete = false) (free : noted.unanswered = none)
    (whole : noted.stored = image) (obliges : Obliges image state noted ops)
    (room : 11 ≤ payload.length) :
    Furthers image noted (fdEvent profile state ⟨.fdProgress payload, ops⟩) := by
  obtain ⟨progress, ran, enough⟩ := obliges.operates kind
  obtain ⟨outcome, returned, step⟩ := poll_step profile installing.coherent payload ops
  have hroom : kind.messageLength ≤ payload.length := by
    cases kind <;> exact le_trans (by decide) room
  obtain ⟨hlive, hstate, hoperation⟩ := step.of_operation operates passed incomplete ran hroom
  have live : (fdEvent profile state ⟨.fdProgress payload, ops⟩).output.outcome ≠ .panic :=
    fun panicked => hlive (Outcome.map_eq_panic.mp (returned.symm.trans panicked))
  rcases hoperation with ⟨unfinished, hslot, silence⟩ |
    ⟨hsent, hcomplete, hresult, hid, hcommand, hrequest⟩
  · have spare : 0 < noted.spare := enough.resolve_left (UInt8.not_le.mpr unfinished)
    apply Furthers.of_silent installing.coherent live step.kept (by rintro _ ⟨⟩)
      (Surroundings.not_awaits_poll payload) silence (hstate.trans operates.symm) hslot spare
    rw [free]
    exact .operating hstate ((congrArg FdReq.state hslot).trans ready)
      ((congrArg FdReq.complete hslot).trans incomplete) whole
  · have outstanding :
        Outstanding (fdEvent profile state ⟨.fdProgress payload, ops⟩).after 0 := by
      refine ⟨?_, hsent, hcomplete, hresult, fun _ => ⟨.transferSuccess, rfl, rfl⟩⟩
      rw [hstate]
      exact kind.state_isInitiator
    exact Furthers.of_sent installing.coherent live hrequest (hstate.trans operates.symm) hsent
      (.inl ⟨free, ready⟩) (.reported outstanding hid hcommand whole)

/-! ### Answers -/

/-- What is written at the end of a part of the image, and comes from there, makes it longer. -/
theorem overwrite_portion {stored : List UInt8} (fits : stored <+: image) (length : ℕ) :
    overwrite stored stored.length (portion image stored.length length) =
      image.take (stored.length + length) := by
  have hstored : stored = image.take stored.length := List.prefix_iff_eq_take.mp fits
  rw [overwrite, List.take_length, List.drop_eq_nil_of_le (Nat.le_add_right _ _), List.append_nil,
    List.take_add, ← hstored]
  rfl

/-- The stage after an answer, by what is stored then. -/
theorem Furthers.of_answer {written : List UInt8} (coherent : Coherent state)
    (asked : noted.unanswered = some request)
    (stores : (fdEvent profile state
      ⟨.handleResponse (agentAnswer image request), ops⟩).callbacks.foldl store noted.stored =
        written)
    (stage : Stage image
      (fdEvent profile state ⟨.handleResponse (agentAnswer image request), ops⟩).after written none)
    (less : remaining image
      (fdEvent profile state ⟨.handleResponse (agentAnswer image request), ops⟩).after
        ⟨written, none, noted.spare⟩ < remaining image state noted) :
    Furthers image noted
      (fdEvent profile state ⟨.handleResponse (agentAnswer image request), ops⟩) := by
  obtain ⟨live, outcome, step⟩ :=
    response_step profile coherent (agentAnswer image request) ops
  have hafter : noted.after image (fdEvent profile state
      ⟨.handleResponse (agentAnswer image request), ops⟩) = ⟨written, none, noted.spare⟩ := by
    rw [Surroundings.after_of_answer asked rfl, stores]
  refine ⟨live, step.kept, ?_, ?_⟩
  · rw [hafter]
    exact stage
  · rw [hafter]
    exact less

/-- Data that was asked for is stored. -/
theorem Installing.furthers_of_data {id : UInt8} {offset length : UInt32}
    (installing : Installing image state noted) (downloading : state.state = .download)
    (outstanding : state.req.state = .sent) (held : state.req.instanceId = some id)
    (slot : state.req.command = some FwUpdateCmd.requestFirmwareData.toU8)
    (mode : state.initiatorModeState = .download offset length) (fits : noted.stored <+: image)
    (next : offset.toNat = noted.stored.length) (more : 0 < length.toNat)
    (inside : offset.toNat + length.toNat ≤ image.length)
    (asked : noted.unanswered =
      some (.requestFirmwareData (id % 32) offset.toNat length.toNat))
    (obliges : Obliges image state noted ops) :
    Furthers image noted (fdEvent profile state ⟨.handleResponse (agentAnswer image
      (.requestFirmwareData (id % 32) offset.toNat length.toNat)), ops⟩) := by
  have accepted : accepts state.req (DataRequest.answer image
      ⟨id % 32, offset.toNat, length.toNat⟩) = true :=
    accepts_response installing.coherent outstanding held slot _
  have range : state.getFdDownloadState = some (offset, length) := by
    simp [FdInternal.getFdDownloadState, mode]
  have hportion : (portion image offset.toNat length.toNat).length = length.toNat := by
    rw [portion, List.length_take, List.length_drop]
    omega
  have handed : HandsOver offset (((DataRequest.answer image ⟨id % 32, offset.toNat,
      length.toNat⟩).drop RequestFirmwareDataResponseFixed.size).take length.toNat)
        state.updateComp (fdEvent profile state ⟨.handleResponse (DataRequest.answer image
          ⟨id % 32, offset.toNat, length.toNat⟩), ops⟩).log := by
    apply handsOver_of_accepts installing.coherent downloading accepted
      DataRequest.command_answer DataRequest.code_answer range
    rw [DataRequest.length_answer, hportion]
  rw [DataRequest.drop_answer, List.take_of_length_le hportion.le] at handed
  obtain ⟨live, outcome, step⟩ := response_step profile installing.coherent
    (DataRequest.answer image ⟨id % 32, offset.toNat, length.toNat⟩) ops
  obtain ⟨hstate, hready, hcomplete, hresult, hstored⟩ := step.of_data handed mode obliges.stores
  have hdone := obliges.finishes _ _ _ asked
  have hwritten : overwrite noted.stored offset.toNat (portion image offset.toNat length.toNat) =
      image.take (offset.toNat + length.toNat) := by
    rw [next]
    exact overwrite_portion fits length.toNat
  have hlength : (image.take (offset.toNat + length.toNat)).length =
      offset.toNat + length.toNat := List.length_take_of_le inside
  apply Furthers.of_answer installing.coherent asked ((hstored noted.stored).trans hwritten)
  · by_cases finished : image.length ≤ offset.toNat + length.toNat
    · rw [decide_eq_true finished] at hdone
      exact .fetched (hstate.trans downloading) hready (hcomplete.trans hdone)
        (hresult (hcomplete.trans hdone)) (List.take_of_length_le finished)
    · rw [decide_eq_false finished] at hdone
      exact .fetching (hstate.trans downloading) hready (hcomplete.trans hdone)
        (List.take_prefix _ _) (by rw [hlength]; omega)
  · have hstate' : (fdEvent profile state ⟨.handleResponse (agentAnswer image
        (.requestFirmwareData (id % 32) offset.toNat length.toNat)), ops⟩).after.state =
          state.state := hstate
    rw [remaining, remaining, hstate', outstanding]
    dsimp only
    rw [hlength]
    split <;> simp only [reduceCtorEq, ↓reduceIte] <;> omega

/-- A report that is acknowledged leads on to the next operation. -/
theorem Installing.furthers_of_acknowledged {id : UInt8} {command : FwUpdateCmd}
    (installing : Installing image state noted) (outstanding : Outstanding state 0)
    (held : state.req.instanceId = some id) (slot : state.req.command = some command.toU8)
    (whole : noted.stored = image)
    (asked : noted.unanswered = some (.complete command (id % 32) 0)) :
    Furthers image noted (fdEvent profile state ⟨.handleResponse (agentAnswer image
      (.complete command (id % 32) 0)), ops⟩) := by
  have accepted : accepts state.req
      (agentAnswer image (.complete command (id % 32) 0)) = true :=
    accepts_response installing.coherent outstanding.sent held slot _
  have hsettled : (fdEvent profile state ⟨.handleResponse (agentAnswer image
      (.complete command (id % 32) 0)), ops⟩).after =
        advance state.state (state.setFdT1UpdateTs (ops.now 0)) :=
    outstanding.answered installing.coherent accepted ops
  apply Furthers.of_answer installing.coherent asked
  · apply foldl_store_of_quiet
    intro offset data component result member
    obtain ⟨_, _, _, _, delivery, _⟩ := (@FdStep.run profile state installing.coherent
      ⟨.handleResponse (agentAnswer image (.complete command (id % 32) 0)), ops⟩).of_downloadFwData
        ((mem_works rfl).mp member)
    exact absurd (delivery.complete.symm.trans outstanding.complete) nofun
  · rw [hsettled]
    have hactive := outstanding.active
    have hreached : (advance state.state (state.setFdT1UpdateTs (ops.now 0))).state = _ :=
      advance_state hactive
    have hslot : (advance state.state (state.setFdT1UpdateTs (ops.now 0))).req = _ :=
      advance_req hactive
    cases hstate : state.state with
    | download =>
        rw [hstate] at hreached hslot
        exact @Stage.operating _ _ _ .verify hreached (congrArg FdReq.state hslot)
          (congrArg FdReq.complete hslot) whole
    | verify =>
        rw [hstate] at hreached hslot
        exact @Stage.operating _ _ _ .apply hreached (congrArg FdReq.state hslot)
          (congrArg FdReq.complete hslot) whole
    | apply =>
        rw [hstate] at hreached
        exact .installed hreached whole
    | _ =>
        rw [hstate] at hactive
        cases hactive
  · rw [hsettled, remaining, remaining, advance_state outstanding.active,
      advance_req outstanding.active, outstanding.sent]
    have hactive := outstanding.active
    cases hstate : state.state with
    | download => simp [successor, callsLeft]
    | verify => simp [successor, callsLeft]
    | apply => simp [successor, callsLeft]
    | _ =>
        rw [hstate] at hactive
        cases hactive

/-! ### Any call -/

/-- Before its end an installation is in one of the operations. -/
theorem Stage.active {stored : List UInt8} {unanswered : Option FdRequest}
    (stage : Stage image state stored unanswered)
    (pending : ¬ (state.state = .readyXfer ∧ stored = image)) : state.state.isInitiator = true := by
  have hdownload (downloading : state.state = .download) : state.state.isInitiator = true := by
    rw [downloading]
    rfl
  cases stage with
  | fetching downloading => exact hdownload downloading
  | awaiting downloading => exact hdownload downloading
  | fetched downloading => exact hdownload downloading
  | reported outstanding => exact outstanding.active
  | @operating kind operates =>
      rw [operates]
      exact kind.state_isInitiator
  | installed arrived whole => exact absurd ⟨arrived, whole⟩ pending

/-- The answer that is waited for is recognised. -/
theorem Stage.accepts_answer {stored : List UInt8} (coherent : Coherent state)
    (stage : Stage image state stored (some request)) :
    accepts state.req (agentAnswer image request) = true := by
  cases stage with
  | awaiting _ outstanding _ held slot => exact accepts_response coherent outstanding held slot _
  | reported outstanding held slot =>
      exact accepts_response coherent outstanding.sent held slot _

/-- A call that changes the time at most costs a call. -/
theorem Installing.furthers_of_touched {input : FdInput} {log : List Invocation}
    (installing : Installing image state noted)
    (live : (fdEvent profile state input).output.outcome ≠ .panic)
    (unaccepted : ∀ payload, input.operation = .handleResponse payload →
      accepts state.req payload = false)
    (silence : (fdEvent profile state input).sent = none)
    (touched : Touched log state (fdEvent profile state input).after) (spare : 0 < noted.spare) :
    Furthers image noted (fdEvent profile state input) := by
  apply Furthers.of_silent installing.coherent live (.touched touched) unaccepted _ silence
    touched.state touched.req spare
    (installing.stage.congr touched.state touched.req touched.initiatorModeState)
  rintro ⟨request, asked, answers⟩
  have hstage := installing.stage
  rw [asked] at hstage
  exact absurd ((unaccepted _ answers).symm.trans (hstage.accepts_answer installing.coherent)) nofun

theorem Installing.furthers_of_beside {input : FdInput}
    (installing : Installing image state noted) (pending : ¬ Installed image state noted)
    (aside : Beside state input) (spare : 0 < noted.spare)
    (live : (fdEvent profile state input).output.outcome ≠ .panic) :
    Furthers image noted (fdEvent profile state input) := by
  rcases aside with ignored | touches | ⟨handler, received, requests, spares⟩
  · have touched : Touched [] state (fdEvent profile state input).after := by
      rw [unmoved_of_ignores installing.coherent ignored]
      exact .kept rfl
    apply installing.furthers_of_touched live _ (sent_of_ignores installing.coherent ignored)
      touched spare
    intro received responds
    simpa [FdInternal.ignores, responds] using ignored
  · obtain ⟨operation, answers⟩ := input
    obtain rfl : operation = .setFdT1Ts := touches
    have touched : Touched [⟨.now, answers.now 0⟩] state
        (fdEvent profile state ⟨.setFdT1Ts, answers⟩).after := .refreshed (answers.now 0) rfl
    exact installing.furthers_of_touched live (by rintro _ ⟨⟩) rfl touched spare
  · obtain ⟨operation, answers⟩ := input
    obtain rfl : operation = .request handler received := requests
    obtain ⟨_, _, _, step⟩ := (@FdStep.run profile state installing.coherent
      ⟨.request handler received, answers⟩).of_request
    apply installing.furthers_of_touched live (by rintro _ ⟨⟩) rfl _ spare
    · exact (fdEvent profile state ⟨.request handler received, answers⟩).log
    · apply step.of_active (installing.stage.active pending)
      intro cancels
      cases cancels.1.symm.trans spares

/-- The step lemma. -/
theorem Installing.furthers {input : FdInput} (installing : Installing image state noted)
    (small : image.length + 32 < UInt32.size) (pending : ¬ Installed image state noted)
    (chosen : Chooses profile image state noted input) :
    Furthers image noted (fdEvent profile state input) := by
  have hstage := installing.stage
  cases chosen with
  | poll free room obliges =>
      rw [free] at hstage
      cases hstage with
      | fetching downloading ready incomplete fits short =>
          exact installing.furthers_of_asked small downloading (open_of_ready ready _) incomplete
            fits short obliges room (.inl ⟨free, ready⟩)
      | fetched downloading ready complete success whole =>
          exact installing.furthers_of_transferred downloading (open_of_ready ready _) complete
            success whole room (.inl ⟨free, ready⟩)
      | operating operates ready incomplete whole =>
          exact installing.furthers_of_operation operates (open_of_ready ready _) ready incomplete
            free whole obliges room
      | installed arrived whole => exact absurd ⟨arrived, whole⟩ pending
  | answer asked obliges =>
      rw [asked] at hstage
      cases hstage with
      | awaiting downloading outstanding _ held slot mode fits next more inside =>
          exact installing.furthers_of_data downloading outstanding held slot mode fits next more
            inside asked obliges
      | reported outstanding held slot whole =>
          exact installing.furthers_of_acknowledged outstanding held slot whole asked
  | @retry request received answers downloading asked heard spare room obliges =>
      have affords : Affords state noted := .inr ⟨by rw [asked]; exact nofun, spare⟩
      cases early : state.due (gateTime answers state) with
      | false =>
          have ignored : state.ignores ⟨.fdProgress received, answers⟩ = true := by
            simp [FdInternal.ignores, heard, early]
          exact installing.furthers_of_beside pending (.inl ignored) spare
            (live_of_early installing.coherent early)
      | true =>
          rw [asked] at hstage
          cases hstage with
          | awaiting downloading outstanding incomplete held slot mode fits next more inside =>
              exact installing.furthers_of_asked small downloading ⟨heard, early⟩ incomplete fits
                (by omega) obliges room affords
          | reported outstanding held slot whole =>
              exact installing.furthers_of_transferred downloading ⟨heard, early⟩
                outstanding.complete outstanding.stored whole room affords
  | beside aside spare live => exact installing.furthers_of_beside pending aside spare live

end Steps

/-! ## Runs -/

section Runs

variable {profile : Profile} {image : List UInt8} {events : List FdEvent} {state : FdInternal}
  {noted : Surroundings}

/-- A platform that asks for everything that is missing at once. -/
def obliging (image : List UInt8) (noted : Surroundings) : FdOps :=
  { platform 0 with
    queryDownloadOffsetAndLength := fun _ =>
      .ok (noted.stored.length, image.length - noted.stored.length)
    isDownloadComplete := fun _ =>
      match noted.unanswered with
      | some (.requestFirmwareData _ offset length) => decide (image.length ≤ offset + length)
      | _ => true }

theorem obliges_obliging (image : List UInt8) (state : FdInternal) (noted : Surroundings) :
    Obliges image state noted (obliging image noted) where
  asks short := ⟨image.length - noted.stored.length, by omega, by omega, rfl⟩
  stores _ _ := rfl
  finishes id offset length asked := by simp [obliging, asked]
  operates kind := ⟨⟨100, by decide⟩, by cases kind <;> rfl, .inl (by decide)⟩

theorem headed_agentAnswer (image : List UInt8) (request : FdRequest) :
    pldmMsgHeaderLen ≤ (agentAnswer image request).length := by
  cases request with
  | requestFirmwareData instanceId offset length =>
      rw [agentAnswer, DataRequest.answer, RequestFirmwareDataResponse.length_toBytes]
      exact (Nat.le_add_right 3 1).trans (Nat.le_add_right 4 _)
  | complete command instanceId result => exact Nat.le_add_right 3 _

/-- There is a call to choose. -/
theorem exists_chooses (profile : Profile) (image : List UInt8) (state : FdInternal)
    (noted : Surroundings) :
    ∃ operation ops, ByTheBook operation ∧ Chooses profile image state noted ⟨operation, ops⟩ := by
  have obliges := obliges_obliging image state noted
  cases unanswered : noted.unanswered with
  | none => exact ⟨_, _, .poll, .poll unanswered (by simp) obliges⟩
  | some request =>
      exact ⟨_, _, .answer (headed_agentAnswer image request), .answer unanswered obliges⟩

/-- What a call takes further is still an installation. -/
theorem Installing.step {input : FdInput} (installing : Installing image state noted)
    (furthers : Furthers image noted (fdEvent profile state input)) :
    Installing image (fdEvent profile state input).after
      (noted.after image (fdEvent profile state input)) where
  coherent := installing.coherent.step (FdStep.run installing.coherent input)
  announced := by
    rw [FdInternal.imageSize, furthers.kept.updateComp]
    exact installing.announced
  transfers := by
    rw [furthers.kept.maxXferSize]
    exact installing.transfers
  stage := furthers.stage

theorem installing_variant (profile : Profile) (small : image.length + 32 < UInt32.size) :
    (fdSystem profile).Variant (surroundings profile image) (Installed image) (Installing image)
      (remaining image) where
  offers := by
    intro state noted _ _
    obtain ⟨operation, ops, _, chosen⟩ := exists_chooses profile image state noted
    exact ⟨⟨operation, ops⟩, chosen⟩
  step := by
    intro state noted input installing pending chosen
    have furthers := installing.furthers small pending chosen
    exact ⟨_, fdSystem_next_of_live furthers.live, installing.step furthers, furthers.less⟩

/-- An installation comes to its end within the calls that remain. -/
theorem Installing.within (installing : Installing image state noted)
    (small : image.length + 32 < UInt32.size) :
    (fdSystem profile).Within (surroundings profile image) (Installed image)
      (remaining image state noted) state noted :=
  (installing_variant profile small).within installing (Nat.le_refl _)

/-- The beginning of a download. -/
theorem Installing.begun (coherent : Coherent state) (downloading : state.state = .download)
    (ready : state.req.state = .ready) (incomplete : state.req.complete = false)
    (announced : state.imageSize = image.length) (transfers : 0 < state.maxXferSize.toNat)
    (nonempty : image ≠ []) (spare : ℕ) : Installing image state ⟨[], none, spare⟩ where
  coherent := coherent
  announced := announced
  transfers := transfers
  stage := .fetching downloading ready incomplete List.nil_prefix (List.length_pos_iff.mpr nonempty)

/-- However the agent, the network and the platform choose among their calls, a component
whose download has begun is installed within two calls for each byte of its image, six more
for the reports, and the calls that were spared. -/
theorem installation_completes (trace : FdTrace profile events state)
    (downloading : state.state = .download) (ready : state.req.state = .ready)
    (incomplete : state.req.complete = false) (announced : state.imageSize = image.length)
    (transfers : 0 < state.maxXferSize.toNat) (nonempty : image ≠ [])
    (small : image.length + 32 < UInt32.size) (spare : ℕ) :
    (fdSystem profile).Within (surroundings profile image) (Installed image)
      (2 * image.length + 6 + spare) state ⟨[], none, spare⟩ := by
  have begun : Installing image state ⟨[], none, spare⟩ := .begun trace.coherent downloading ready
    incomplete announced transfers nonempty spare
  apply (begun.within small).mono
  rw [remaining, downloading, ready]
  simp only [callsLeft, List.length_nil, ↓reduceIte]
  omega

theorem installation_completes_opening : ∃ events state, FdTrace .release events state ∧
    (fdSystem .release).Within (surroundings .release (List.replicate 64 7))
      (Installed (List.replicate 64 7)) (2 * 64 + 6 + 10) state ⟨[], none, 10⟩ := by
  obtain ⟨events, state, trace, hcheck⟩ := exists_run .release (opening 64)
    (fun _ state => decide (state.state = .download ∧ state.req.state = .ready ∧
      state.req.complete = false ∧ state.imageSize = 64 ∧ 0 < state.maxXferSize.toNat))
    (by decide +kernel)
  obtain ⟨downloading, ready, incomplete, announced, transfers⟩ := of_decide_eq_true hcheck
  have hannounced : state.imageSize = (List.replicate 64 (7 : UInt8)).length := announced
  have within := installation_completes trace downloading ready incomplete hannounced transfers
    (by decide) (by decide) 10
  exact ⟨events, state, trace, within⟩

end Runs

end PldmLib.FirmwareDevice
