/-
# Answers that come late

An answer of the agent takes its time, and the network may keep it back, let a later
one pass, or lose it. The device knows an answer by its instance ID alone. It takes
the IDs from the slot of the outstanding request, which is cleared whenever data has
been stored, so the IDs start again at 1 long before all of them have been used. An
answer to an earlier request can therefore carry the ID of the latest one, and its data
then goes where the data of the latest one belongs.

An exchange is what happens from some state on while the device downloads, together with
the answers that are under way. A lost answer is one that never arrives.
-/

import PldmLib.FirmwareDevice.InstanceId

namespace PldmLib.FirmwareDevice

open PldmLib.Machine PldmLib.Protocol PldmLib.Message

/-! ## Requests and their answers -/

/-- A request for a range of the image, as the agent reads it. -/
structure DataRequest where
  instanceId : UInt8
  offset : ℕ
  length : ℕ
  deriving DecidableEq, Repr

/-- The bytes of an image in a range. -/
def portion (image : List UInt8) (offset length : ℕ) : List UInt8 :=
  (image.drop offset).take length

/-- The truthful answer to a request. -/
def DataRequest.answer (image : List UInt8) (request : DataRequest) : List UInt8 :=
  (RequestFirmwareDataResponse.new request.instanceId PldmBaseCompletionCode.success.toU8
    (portion image request.offset request.length)).toBytes

/-- The request for data that a call hands over for sending. -/
def FdEvent.dataRequest (event : FdEvent) : Option DataRequest :=
  match event.sent with
  | some (.requestFirmwareData instanceId offset length) => some ⟨instanceId, offset, length⟩
  | _ => none

/-- The message of the agent has the command of the requests for data. -/
def BringsData (input : FdInput) : Prop :=
  ∃ payload, input.operation = .handleResponse payload ∧
    payload[2]? = some FwUpdateCmd.requestFirmwareData.toU8

/-- An answer under way, and the number of requests sent since the one it answers. -/
structure Letter where
  request : DataRequest
  since : ℕ
  deriving DecidableEq, Repr

/-- The answers under way after a call: each request sent makes the others older, and
each request for data is answered. -/
def lettersAfter (event : FdEvent) (letters : List Letter) : List Letter :=
  letters.map (fun letter =>
    { letter with since := letter.since + if event.sent.isSome then 1 else 0 }) ++
    event.dataRequest.toList.map (⟨·, 0⟩)

/-- One call of an exchange, and the request that is answered by the message it handles. -/
structure Passage where
  event : FdEvent
  answered : Option DataRequest

/-- `Exchange profile image origin passages letters state`: the device came from `origin`
to `state` by these calls, all of them during the download, and these answers are still
under way. Any of them may arrive next, unless it is too old. -/
inductive Exchange (profile : Profile) (image : List UInt8) (origin : FdInternal) :
    List Passage → List Letter → FdInternal → Prop
  | start : Exchange profile image origin [] [] origin
  | call {passages : List Passage} {letters : List Letter} {state : FdInternal}
      (prior : Exchange profile image origin passages letters state)
      (downloading : state.state = .download) (input : FdInput) (other : ¬ BringsData input)
      (live : (fdEvent profile state input).output.outcome ≠ .panic) :
      Exchange profile image origin (passages ++ [⟨fdEvent profile state input, none⟩])
        (lettersAfter (fdEvent profile state input) letters) (fdEvent profile state input).after
  | arrival {passages : List Passage} {before after : List Letter} {letter : Letter}
      {state : FdInternal}
      (prior : Exchange profile image origin passages (before ++ letter :: after) state)
      (downloading : state.state = .download) (timely : letter.since < instanceIdCount.toNat)
      (ops : FdOps) :
      Exchange profile image origin
        (passages ++ [⟨fdEvent profile state ⟨.handleResponse (letter.request.answer image), ops⟩,
          some letter.request⟩])
        (before ++ after)
        (fdEvent profile state ⟨.handleResponse (letter.request.answer image), ops⟩).after

/-- What is stored in a call is what the image has at that offset, and what was asked for
there by the request that is answered. -/
def StoresImage (image : List UInt8) (passage : Passage) : Prop :=
  ∀ offset data component result,
    .downloadFwData offset data component result ∈ passage.event.callbacks →
      data = portion image offset data.length ∧
        ∃ request, passage.answered = some request ∧ request.offset = offset

/-- The last request for data was this one, and no data has been taken since. -/
def Pending (events : List FdEvent) (latest : DataRequest) : Prop :=
  ∃ earlier asked since, events = earlier ++ asked :: since ∧ asked.dataRequest = some latest ∧
    ∀ event ∈ since, event.dataRequest = none ∧ event.startsOver = false

/-- If the request that is answered was sent when the IDs stood where they stand now, counted
from where they last started over, and if the answer has as much data as the pending request
asks for, then the two ask for the same offset. -/
def Unambiguous (image : List UInt8) (before : List FdEvent) (passage : Passage) : Prop :=
  ∀ request latest earlier asked since, passage.answered = some request →
    before = earlier ++ asked :: since → asked.dataRequest = some request →
    Pending before latest →
    rangesAsked (earlier ++ [asked]) % instanceIdCount.toNat =
      rangesAsked before % instanceIdCount.toNat →
    latest.length ≤ (portion image request.offset request.length).length →
    request.offset = latest.offset

/-! ## What an accepted answer does -/

section Steps

variable {profile : Profile} {image : List UInt8} {pre : FdInternal} {payload : List UInt8}
  {ops : FdOps} {request : DataRequest}

theorem portion_take {offset length count : ℕ} (within : count ≤ length) :
    (portion image offset length).take count = portion image offset count := by
  rw [portion, List.take_take, min_eq_left within]
  rfl

theorem length_portion_le (image : List UInt8) (offset length : ℕ) :
    (portion image offset length).length ≤ length := by
  rw [portion, List.length_take]
  exact min_le_left _ _

namespace DataRequest

theorem command_answer : (request.answer image)[2]? =
    some FwUpdateCmd.requestFirmwareData.toU8 := rfl

theorem code_answer : (request.answer image)[3]? =
    some PldmBaseCompletionCode.success.toU8 := rfl

theorem drop_answer : (request.answer image).drop RequestFirmwareDataResponseFixed.size =
    portion image request.offset request.length := rfl

theorem length_answer : (request.answer image).length =
    RequestFirmwareDataResponseFixed.size +
      (portion image request.offset request.length).length := by
  simp [answer, RequestFirmwareDataResponse.toBytes, RequestFirmwareDataResponse.new,
    PldmMsgHeader.toBytes, RequestFirmwareDataResponseFixed.size]
  omega

end DataRequest

/-- A download with a request for data in the slot waits for that data. -/
theorem awaitsData_of_command (coherent : Coherent pre) (state : pre.state = .download)
    (sent : pre.req.state = .sent)
    (command : pre.req.command = some FwUpdateCmd.requestFirmwareData.toU8) :
    AwaitsData pre := by
  have active : pre.state.isInitiator = true := by
    rw [state]
    rfl
  rcases outstanding_cases coherent active sent with ⟨_, complete, _⟩ |
    ⟨_, report, reports, reported⟩
  · exact ⟨state, sent, complete⟩
  · rw [state] at reports
    cases reports
    exact absurd (command.symm.trans reported) (by decide)

/-- A response is the answer to the outstanding request if it has its ID and its command. -/
theorem accepts_response_iff {req : FdReq} {id : UInt8} (small : id < instanceIdCount)
    (command : FwUpdateCmd) (rest : List UInt8) :
    accepts req ((PldmMsgHeader.new id .response .fwUpdate command.toU8).toBytes ++ rest) = true ↔
      req.state = .sent ∧ req.instanceId = some id ∧ req.command = some command.toU8 := by
  have hsmall : id.toNat < 32 := small
  have hid : (PldmMsgHeader.new id .response .fwUpdate command.toU8).instanceId = id := by
    simp only [PldmMsgHeader.new, PldmMsgHeader.instanceId, PldmMsgType.toU8,
      ← UInt8.toNat_inj, UInt8.toNat_add, UInt8.toNat_mod, UInt8.toNat_mul, UInt8.toNat_div,
      UInt8.reduceToNat]
    omega
  constructor
  · intro accepted
    obtain ⟨header, decoded, sent, held, slot⟩ := ResponseStep.accepts_iff.mp accepted
    obtain rfl := Except.ok.inj ((PldmMsgHeader.decode_cons _ _ _ _).symm.trans decoded)
    exact ⟨sent, held.trans (congrArg some hid), slot⟩
  · rintro ⟨sent, held, slot⟩
    exact ResponseStep.accepts_iff.mpr
      ⟨_, PldmMsgHeader.decode_cons _ _ _ _, sent, held.trans (congrArg some hid.symm), slot⟩

/-- A device that waits for data has the command of such requests in the slot. -/
theorem AwaitsData.command (awaits : AwaitsData pre) (coherent : Coherent pre) :
    pre.req.command = some FwUpdateCmd.requestFirmwareData.toU8 := by
  have active : pre.state.isInitiator = true := by
    rw [awaits.state]
    rfl
  rcases outstanding_cases coherent active awaits.sent with ⟨_, _, command⟩ | ⟨complete, _⟩
  · exact command
  · cases complete.symm.trans awaits.incomplete

/-- A device waits for the data it has asked for. -/
theorem FdStep.awaitsData {input : FdInput} {output : FdOutput} {sent : Option FdRequest}
    (step : FdStep profile pre input output sent) {id : UInt8} {offset length : ℕ}
    (sends : sent = some (.requestFirmwareData id offset length)) :
    AwaitsData output.internal := by
  cases step with
  | poll step =>
      cases step with
      | dataRequested state => exact ⟨by simpa using state, rfl, rfl⟩
      | _ => cases sends
  | _ => cases sends

/-- It goes on waiting while the download goes on, until the platform takes data or the agent
fails to answer truthfully. -/
theorem AwaitsData.stays {input : FdInput} {output : FdOutput} {sent : Option FdRequest}
    (awaits : AwaitsData pre) (coherent : Coherent pre)
    (step : FdStep profile pre input output sent)
    (goesOn : FdEvent.startsOver ⟨pre, input, output⟩ = false)
    (downloading : output.internal.state = .download)
    (truthful : ∀ payload, input.operation = .handleResponse payload →
      payload[2]? = some FwUpdateCmd.requestFirmwareData.toU8 →
      payload[3]? = some PldmBaseCompletionCode.success.toU8) : AwaitsData output.internal := by
  obtain ⟨hstate, hsent, hincomplete⟩ := awaits
  have hover (complete : pre.req.complete = true) : False := by
    cases complete.symm.trans hincomplete
  have hkind {kind : OperationKind} (state : pre.state = kind.state) : False := by
    rw [hstate] at state
    cases kind <;> cases state
  have htaken (takes : (works output.log).any Callback.takesData = true) : False := by
    rw [startsOver_eq hstate, takes] at goesOn
    cases goesOn
  cases step with
  | request step =>
      have hactive : FirmwareDeviceState.isInitiator _ = true := congrArg _ downloading
      rcases step.of_operating hactive with touched | ⟨ready, _⟩
      · exact ⟨downloading, (congrArg FdReq.state touched.req).trans hsent,
          (congrArg FdReq.complete touched.req).trans hincomplete⟩
      · cases ready.symm.trans hstate
  | poll step =>
      cases step with
      | timedOut => simp at downloading
      | dataRequested => exact ⟨downloading, rfl, rfl⟩
      | transferReported _ _ complete => exact (hover complete).elim
      | operationFailed state => exact (hkind state).elim
      | operationPending state => exact (hkind state).elim
      | operationUnsent state => exact (hkind state).elim
      | operationReported state => exact (hkind state).elim
      | reportUnsent state => exact (hkind state).elim
      | reportRepeated state => exact (hkind state).elim
      | _ => exact ⟨hstate, hsent, hincomplete⟩
  | response step =>
      cases step with
      | dataRejected => exact (htaken rfl).elim
      | dataStored => exact (htaken rfl).elim
      | dataCompleted => exact (htaken rfl).elim
      | transferAborted accepted _ _ failure =>
          refine absurd (truthful _ rfl ?_) failure
          rw [command_of_accepts accepted]
          exact AwaitsData.command ⟨hstate, hsent, hincomplete⟩ coherent
      | acknowledged _ _ complete => exact (hover complete).elim
      | disappointed _ _ complete => exact (hover complete).elim
      | _ => exact ⟨hstate, hsent, hincomplete⟩
  | touch => exact ⟨hstate, hsent, hincomplete⟩
  | query => exact ⟨hstate, hsent, hincomplete⟩

/-- Data that is complete is handed over at the stored offset. -/
theorem processRequestFwDataRsp_handsOver (state : pre.state = .download)
    (incomplete : pre.req.complete = false)
    (code : payload[3]? = some PldmBaseCompletionCode.success.toU8) {offset length : UInt32}
    (range : pre.getFdDownloadState = some (offset, length))
    (whole : RequestFirmwareDataResponseFixed.size + length.toNat ≤ payload.length) :
    (FdContext.processRequestFwDataRsp ops).wp
      (fun _ final => HandsOver offset
        ((payload.drop RequestFirmwareDataResponseFixed.size).take length.toNat) pre.updateComp
          final.log) (ResponseStep.listening ops payload pre) := by
  have hstate : ¬ (ResponseStep.listening ops payload pre).internal.state ≠ .download :=
    not_not.mpr state
  have hunfinished : ¬ (ResponseStep.listening ops payload pre).internal.req.complete = true := by
    simp [incomplete]
  simp only [FdContext.processRequestFwDataRsp, Call.wp_bind, FdCall.wp_internal, Call.wp_ite]
  rw [if_neg hstate, if_neg hunfinished]
  simp only [FdCall.wp_payload]
  obtain ⟨hdr, hfixed⟩ := RequestFirmwareDataResponseFixed.decode_of_code code
  simp only [hfixed, ↓reduceIte]
  exact storeFwData_handsOver range whole

/-- Data that is complete is handed over if the device takes it for what it waits for. -/
theorem handsOver_of_accepts (coherent : Coherent pre) (state : pre.state = .download)
    (accepted : accepts pre.req payload = true)
    (command : payload[2]? = some FwUpdateCmd.requestFirmwareData.toU8)
    (code : payload[3]? = some PldmBaseCompletionCode.success.toU8) {offset length : UInt32}
    (range : pre.getFdDownloadState = some (offset, length))
    (whole : RequestFirmwareDataResponseFixed.size + length.toNat ≤ payload.length) :
    HandsOver offset ((payload.drop RequestFirmwareDataResponseFixed.size).take length.toNat)
      pre.updateComp (fdEvent profile pre ⟨.handleResponse payload, ops⟩).log := by
  have houtput : (fdEvent profile pre ⟨.handleResponse payload, ops⟩).output = _ :=
    FdStep.fdStep_eq (FdContext.handleResponse ops) (fun _ => .done) rfl
  rw [FdEvent.log, houtput]
  obtain ⟨_, _, sent, _⟩ := ResponseStep.accepts_iff.mp accepted
  rw [command_of_accepts accepted] at command
  have hawaits := awaitsData_of_command coherent state sent command
  have hrule : (FdContext.handleResponse ops).wp
      (fun _ final => HandsOver offset
        ((payload.drop RequestFirmwareDataResponseFixed.size).take length.toNat) pre.updateComp
          final.log) ⟨pre, payload, []⟩ := by
    apply handleResponse_of_accepts accepted command
    exact processRequestFwDataRsp_handsOver state hawaits.incomplete code range whole
  exact hrule

end Steps

/-! ## Runs -/

section Runs

variable {profile : Profile} {image : List UInt8} {events : List FdEvent}
  {state origin : FdInternal} {passages : List Passage} {letters : List Letter}

/-- There is one latest request. -/
theorem LastDataRequest.unique {asked asked' : FdEvent} (last : LastDataRequest events asked)
    (last' : LastDataRequest events asked') : asked = asked' := by
  obtain ⟨earlier, since, split, hasked, hsince⟩ := last
  obtain ⟨earlier', since', split', hasked', hsince'⟩ := last'
  exact (last_unique SendsDataRequest (split.symm.trans split') hasked hasked' hsince hsince').1

theorem dataRequest_eq_some {event : FdEvent} {request : DataRequest} :
    event.dataRequest = some request ↔ event.sent =
      some (.requestFirmwareData request.instanceId request.offset request.length) := by
  unfold FdEvent.dataRequest
  split
  · next sent =>
      obtain ⟨instanceId, offset, length⟩ := request
      simp [sent]
  · next other => exact iff_of_false nofun fun sent => other _ _ _ sent

theorem dataRequest_eq_none {event : FdEvent} :
    event.dataRequest = none ↔ ¬ SendsDataRequest event := by
  rw [Option.eq_none_iff_forall_ne_some]
  constructor
  · rintro silent ⟨id, offset, length, sent⟩
    exact silent ⟨id, offset, length⟩ (dataRequest_eq_some.mpr sent)
  · intro silent request requests
    exact silent ⟨_, _, _, dataRequest_eq_some.mp requests⟩

namespace Pending

variable {event : FdEvent} {latest : DataRequest}

theorem of_sent (sends : event.dataRequest = some latest) (events : List FdEvent) :
    Pending (events ++ [event]) latest :=
  ⟨events, event, [], rfl, sends, by simp⟩

theorem append (pending : Pending events latest) (silent : event.dataRequest = none)
    (goesOn : event.startsOver = false) : Pending (events ++ [event]) latest := by
  obtain ⟨earlier, asked, since, rfl, requests, hsince⟩ := pending
  exact ⟨earlier, asked, since ++ [event], by simp, requests,
    forall_mem_concat.mpr ⟨hsince, silent, goesOn⟩⟩

/-- What is pending after a call was asked for in it, or before. -/
theorem of_append (pending : Pending (events ++ [event]) latest) :
    event.dataRequest = some latest ∨
      event.dataRequest = none ∧ event.startsOver = false ∧ Pending events latest := by
  obtain ⟨earlier, asked, since, split, requests, hsince⟩ := pending
  rcases List.eq_nil_or_concat since with rfl | ⟨rest, last, rfl⟩
  · obtain ⟨_, hlast⟩ := List.append_inj' split rfl
    obtain rfl := List.singleton_inj.mp hlast
    exact .inl requests
  · have hsplit : events ++ [event] = (earlier ++ asked :: rest) ++ [last] := by simpa using split
    obtain ⟨rfl, hlast⟩ := List.append_inj' hsplit rfl
    obtain rfl := List.singleton_inj.mp hlast
    rw [List.concat_eq_append] at hsince
    obtain ⟨hrest, silent, goesOn⟩ := forall_mem_concat.mp hsince
    exact .inr ⟨silent, goesOn, earlier, asked, rest, rfl, requests, hrest⟩

theorem last (pending : Pending events latest) :
    ∃ asked, LastDataRequest events asked ∧ asked.dataRequest = some latest := by
  obtain ⟨earlier, asked, since, rfl, requests, hsince⟩ := pending
  refine ⟨asked, ⟨earlier, since, rfl, ?_, fun event member => ?_⟩, requests⟩
  · exact ⟨_, _, _, dataRequest_eq_some.mp requests⟩
  · exact dataRequest_eq_none.mp (hsince event member).1

/-- While the device waits for data it has the range of the request that is pending. -/
theorem range (pending : Pending events latest) (trace : FdTrace profile events state)
    (awaits : AwaitsData state) :
    ∃ offset length, state.getFdDownloadState = some (offset, length) ∧
      latest.offset = offset.toNat ∧ latest.length = length.toNat := by
  obtain ⟨asked, offset, length, remembers⟩ := remembers_of_trace trace awaits
  obtain ⟨id, hsent⟩ := remembers.request
  obtain ⟨asked', last, requests⟩ := pending.last
  obtain rfl := last.unique remembers.last
  have hlatest := dataRequest_eq_some.mp requests
  rw [hsent] at hlatest
  obtain ⟨_, hoffset, hlength⟩ := FdRequest.requestFirmwareData.inj (Option.some.inj hlatest)
  refine ⟨offset, length, ?_, hoffset.symm, hlength.symm⟩
  simp [FdInternal.getFdDownloadState, remembers.stored]

end Pending

/-- The slot of a device that waits for data has an ID. -/
theorem AwaitsData.held (awaits : AwaitsData state) (coherent : Coherent state) :
    state.req.instanceId ≠ none := by
  have active : state.state.isInitiator = true := by
    rw [awaits.state]
    rfl
  have hslot := coherent.slot active
  have hsent := awaits.sent
  generalize state.state = active at hslot
  generalize state.req = req at hslot hsent ⊢
  cases hslot with
  | awaitingData id time => exact nofun
  | reported result id time reports => exact nofun
  | _ => cases hsent

/-- The run lemma: a device that waits for data has a request pending. -/
theorem pending_of_awaits (trace : FdTrace profile events state) (awaits : AwaitsData state) :
    ∃ latest, Pending events latest := by
  refine (FdRun.induct trace Coherent.init (fun events state => AwaitsData state →
    ∃ latest, Pending events latest) ?_ ?_).1 awaits
  · intro awaits
    cases awaits.state
  · intro events pre input output sent coherent ih step _ hands awaits
    cases requests : FdEvent.dataRequest ⟨pre, input, output⟩ with
    | some latest => exact ⟨latest, .of_sent requests events⟩
    | none =>
        have hsilence : ∀ id offset length,
            sent ≠ some (.requestFirmwareData id offset length) := by
          intro id offset length same
          exact dataRequest_eq_none.mp requests ⟨id, offset, length, hands.symm.trans same⟩
        obtain ⟨latest, pending⟩ := ih (StillAwaits.step step hsilence awaits).awaits
        refine ⟨latest, pending.append requests ?_⟩
        cases step.transferStep awaits.transferring with
        | begun _ cleared => exact absurd cleared (awaits.held (coherent.step step))
        | kept _ goesOn => exact goesOn
        | asked _ goesOn => exact goesOn

/-- The ID of a request is the place at which it was sent. -/
theorem instanceId_of_request {earlier since : List FdEvent} {asked : FdEvent}
    {request : DataRequest} (trace : FdTrace profile (earlier ++ asked :: since) state)
    (requests : asked.dataRequest = some request) :
    idAt (rangesAsked (earlier ++ [asked])) = some request.instanceId ∧
      request.instanceId < instanceIdCount := by
  obtain ⟨prior, called, through, _⟩ := FdRun.cut trace
  have hsent := dataRequest_eq_some.mp requests
  obtain ⟨hid, hsmall⟩ := FdTrace.instanceId_of_sent prior called hsent
  have hawaits : AwaitsData asked.after := by
    have hstep := FdTrace.step prior asked.input
    rw [← called] at hstep
    exact hstep.awaitsData hsent
  refine ⟨?_, hsmall⟩
  rw [← FdTrace.instanceId_eq through hawaits.transferring]
  exact hid

/-- A waiting device takes an answer for its own exactly if the IDs stand where they stood. -/
theorem accepts_answer_iff {earlier since : List FdEvent} {asked : FdEvent}
    {request : DataRequest} (trace : FdTrace profile (earlier ++ asked :: since) state)
    (requests : asked.dataRequest = some request) (awaits : AwaitsData state) :
    accepts state.req (request.answer image) = true ↔
      rangesAsked (earlier ++ [asked]) % instanceIdCount.toNat =
        rangesAsked (earlier ++ asked :: since) % instanceIdCount.toNat := by
  obtain ⟨hid, small⟩ := instanceId_of_request trace requests
  have hheld := FdTrace.instanceId_eq trace awaits.transferring
  have hsome := awaits.held (FdTrace.coherent trace)
  rw [hheld] at hsome
  have haccepts : accepts state.req (request.answer image) = true ↔
      idAt (rangesAsked (earlier ++ asked :: since)) = idAt (rangesAsked (earlier ++ [asked])) := by
    rw [hid, ← hheld]
    refine (accepts_response_iff small .requestFirmwareData _).trans ⟨fun held => held.2.1, ?_⟩
    exact fun held => ⟨awaits.sent, held, awaits.command (FdTrace.coherent trace)⟩
  rw [haccepts, eq_comm]
  exact idAt_inj (by rw [hid]; exact nofun) hsome

/-- The step lemma for an answer: the image is stored exactly where the answer is not
mistaken for another. -/
theorem storesImage_arrival_iff (trace : FdTrace profile events state) (request : DataRequest)
    (ops : FdOps) (answers : ∃ earlier asked since, events = earlier ++ asked :: since ∧
      asked.dataRequest = some request)
    (waits : ∀ latest, Pending events latest → AwaitsData state) :
    StoresImage image
        ⟨fdEvent profile state ⟨.handleResponse (request.answer image), ops⟩, some request⟩ ↔
      Unambiguous image events
        ⟨fdEvent profile state ⟨.handleResponse (request.answer image), ops⟩, some request⟩ := by
  constructor
  · rintro stores _ latest earlier asked since ⟨⟩ rfl requests pending same enough
    have hawaits := waits latest pending
    have accepted : accepts state.req (request.answer image) = true :=
      (accepts_answer_iff trace requests hawaits).mpr same
    obtain ⟨offset, length, range, hoffset, hlength⟩ := pending.range trace hawaits
    have whole : RequestFirmwareDataResponseFixed.size + length.toNat ≤
        (request.answer image).length := by
      rw [DataRequest.length_answer, ← hlength]
      omega
    obtain ⟨result, member⟩ := (handsOver_of_accepts (FdTrace.coherent trace) hawaits.state
      accepted DataRequest.command_answer DataRequest.code_answer range whole).mem
    obtain ⟨_, _, same, hrequest⟩ := stores _ _ _ _ member
    obtain rfl := Option.some.inj same
    exact hrequest.trans hoffset.symm
  · intro unambiguous offset data component result member
    obtain ⟨payload, start, hoperation, accepted, delivery, rfl, _⟩ :=
      (trace.step _).of_downloadFwData ((mem_works rfl).mp member)
    obtain rfl : request.answer image = payload := FdOperation.handleResponse.inj hoperation
    obtain ⟨length, range, hdata, hlength⟩ := delivery.range
    have hawaits : AwaitsData state := ⟨delivery.state, delivery.sent, delivery.complete⟩
    obtain ⟨latest, pending⟩ := pending_of_awaits trace hawaits
    obtain ⟨offset, length', range', hoffset, hlength'⟩ := pending.range trace hawaits
    obtain ⟨rfl, rfl⟩ := Prod.mk.inj (Option.some.inj (range.symm.trans range'))
    rw [DataRequest.drop_answer] at hdata
    have henough : length.toNat ≤ (portion image request.offset request.length).length := by
      rw [← hlength, hdata, List.length_take]
      exact min_le_right _ _
    obtain ⟨earlier, asked, since, rfl, requests⟩ := answers
    have hsame : request.offset = latest.offset :=
      unambiguous request latest earlier asked since rfl rfl requests pending
        ((accepts_answer_iff trace requests hawaits).mp accepted) (hlength' ▸ henough)
    have hrequest : request.offset = start.toNat := hsame.trans hoffset
    refine ⟨?_, request, rfl, hrequest⟩
    rw [hlength, hdata, portion_take (henough.trans (length_portion_le ..)), hrequest]

/-- No other call stores anything. -/
theorem storesImage_call (trace : FdTrace profile events state) {input : FdInput}
    (other : ¬ BringsData input) : StoresImage image ⟨fdEvent profile state input, none⟩ := by
  intro offset data component result member
  obtain ⟨payload, _, hoperation, accepted, delivery, _⟩ :=
    (trace.step input).of_downloadFwData ((mem_works rfl).mp member)
  refine absurd ⟨payload, hoperation, ?_⟩ other
  rw [command_of_accepts accepted, delivery.command]

/-- An exchange is a run of the device. -/
theorem Exchange.run (exchange : Exchange profile image origin passages letters state)
    (coherent : Coherent origin) : FdRun profile origin (passages.map Passage.event) state := by
  induction exchange with
  | start => exact .start
  | call prior downloading input other live ih =>
      rw [List.map_append]
      exact FdRun.extend ih input live
  | arrival prior downloading timely ops ih =>
      rw [List.map_append]
      apply FdRun.extend ih
      obtain ⟨_, outcome, houtcome, step⟩ :=
        (FdStep.run (ih.coherent coherent) ⟨.handleResponse _, ops⟩).of_response
      intro panicked
      exact step.ne_panic (Outcome.map_eq_panic.mp (houtcome.symm.trans panicked))

/-- Every answer under way is to a request of the exchange. -/
theorem Exchange.asked (exchange : Exchange profile image origin passages letters state) :
    ∀ letter ∈ letters, ∃ earlier asked since, passages.map Passage.event =
      earlier ++ asked :: since ∧ asked.dataRequest = some letter.request := by
  induction exchange with
  | start => simp
  | call prior downloading input other live ih =>
      intro letter member
      rcases List.mem_append.mp member with old | new
      · obtain ⟨older, hmember, rfl⟩ := List.mem_map.mp old
        obtain ⟨earlier, asked, since, split, requests⟩ := ih older hmember
        exact ⟨earlier, asked, since ++ [_], by simp [split]; rfl, requests⟩
      · obtain ⟨request, requests, rfl⟩ := List.mem_map.mp new
        exact ⟨_, _, [], by rw [List.map_append]; rfl, Option.mem_toList.mp requests⟩
  | arrival prior downloading timely ops ih =>
      intro letter member
      have hmember := List.mem_append.mp member
      obtain ⟨earlier, asked, since, split, requests⟩ := ih letter (by
        rw [List.mem_append, List.mem_cons]
        exact hmember.imp_right .inr)
      exact ⟨earlier, asked, since ++ [_], by simp [split]; rfl, requests⟩

/-- A device waits for what is pending after a call if it did before. -/
theorem awaits_of_pending (trace : FdTrace profile events state) {input : FdInput}
    {latest : DataRequest}
    (waits : (fdEvent profile state input).dataRequest = none → Pending events latest →
      AwaitsData state)
    (truthful : ∀ payload, input.operation = .handleResponse payload →
      payload[2]? = some FwUpdateCmd.requestFirmwareData.toU8 →
      payload[3]? = some PldmBaseCompletionCode.success.toU8)
    (downloading : (fdEvent profile state input).after.state = .download)
    (pending : Pending (events ++ [fdEvent profile state input]) latest) :
    AwaitsData (fdEvent profile state input).after := by
  have hstep := trace.step input
  rcases pending.of_append with requests | ⟨silent, goesOn, earlier⟩
  · exact hstep.awaitsData (dataRequest_eq_some.mp requests)
  · exact (waits silent earlier).stays trace.coherent hstep goesOn downloading truthful

/-- A device that has asked for data in an exchange waits for what is pending. -/
theorem Exchange.awaits (trace : FdTrace profile events origin)
    (exchange : Exchange profile image origin passages letters state)
    (downloading : state.state = .download)
    (asked : ∃ passage ∈ passages, passage.event.dataRequest ≠ none) {latest : DataRequest}
    (pending : Pending (events ++ passages.map Passage.event) latest) : AwaitsData state := by
  have hearlier {passages : List Passage} {last : Passage}
      (asked : ∃ passage ∈ passages ++ [last], passage.event.dataRequest ≠ none)
      (silent : last.event.dataRequest = none) :
      ∃ passage ∈ passages, passage.event.dataRequest ≠ none := by
    obtain ⟨passage, member, requests⟩ := asked
    rcases List.mem_append.mp member with old | new
    · exact ⟨passage, old, requests⟩
    · obtain rfl := List.mem_singleton.mp new
      exact absurd silent requests
  induction exchange with
  | start => simp at asked
  | call prior continues input other live ih =>
      have hprior := trace.append (prior.run trace.coherent)
      rw [List.map_append, ← List.append_assoc] at pending
      refine awaits_of_pending hprior (fun silent => ih continues (hearlier asked silent)) ?_
        downloading pending
      exact fun payload handles command => absurd ⟨payload, handles, command⟩ other
  | arrival prior continues timely ops ih =>
      have hprior := trace.append (prior.run trace.coherent)
      rw [List.map_append, ← List.append_assoc] at pending
      refine awaits_of_pending hprior (fun silent => ih continues (hearlier asked silent)) ?_
        downloading pending
      rintro _ ⟨⟩ _
      exact DataRequest.code_answer

/-- Over a whole exchange the image is stored faithfully exactly where no answer is
mistaken for another. -/
theorem storesImage_iff (trace : FdTrace profile events origin)
    (exchange : Exchange profile image origin passages letters state) :
    (∀ passage ∈ passages, StoresImage image passage) ↔
      Throughout (fun before passage =>
        Unambiguous image (events ++ before.map Passage.event) passage) passages := by
  induction exchange with
  | start => exact iff_of_true (by simp) (throughout_nil _)
  | call prior downloading input other live ih =>
      have hprior := trace.append (prior.run trace.coherent)
      simp only [List.forall_mem_append, List.forall_mem_singleton]
      rw [throughout_concat, ← ih, and_iff_left (storesImage_call hprior other)]
      refine (and_iff_left ?_).symm
      rintro _ _ _ _ _ ⟨⟩
  | @arrival passages before after letter state prior downloading timely ops ih =>
      have hprior := trace.append (prior.run trace.coherent)
      obtain ⟨earlier, asked, since, split, requests⟩ := prior.asked letter (by simp)
      simp only [List.forall_mem_append, List.forall_mem_singleton]
      rw [throughout_concat, ← ih, ← storesImage_arrival_iff hprior]
      · exact ⟨events ++ earlier, asked, since, by simp [split], requests⟩
      · intro latest pending
        have hmember : asked ∈ passages.map Passage.event := by simp [split]
        obtain ⟨passage, hpassage, rfl⟩ := List.mem_map.mp hmember
        refine prior.awaits trace downloading ⟨passage, hpassage, ?_⟩ pending
        rw [requests]
        exact nofun

end Runs

/-! ## A mistaken answer -/

/-- A platform that asks for the 32 bytes at an offset, and wants more after them. -/
def asksAt (offset : ℕ) (time : PldmFdTime) : FdOps :=
  { platform time with
    queryDownloadOffsetAndLength := fun _ => .ok (offset, 32)
    isDownloadComplete := fun _ => false }

def countingImage : List UInt8 := (List.range 100).map UInt8.ofNat

/-- A poll in an exchange. -/
theorem Exchange.polled {profile : Profile} {image : List UInt8} {origin state : FdInternal}
    {passages : List Passage} {letters letters' : List Letter}
    (prior : Exchange profile image origin passages letters state)
    (downloading : state.state = .download) (ops : FdOps) {returned : Returned}
    (returns : (fdEvent profile state (poll ops)).output.outcome = .ok returned)
    (sends : lettersAfter (fdEvent profile state (poll ops)) letters = letters') :
    Exchange profile image origin (passages ++ [⟨fdEvent profile state (poll ops), none⟩])
      letters' (fdEvent profile state (poll ops)).after := by
  rw [← sends]
  refine prior.call downloading (poll ops) ?_ ?_
  · rintro ⟨_, ⟨⟩, _⟩
  · rw [returns]
    exact nofun

namespace LateAnswer

/-- The request for the first 32 bytes, and the same one again after T2. -/
def firstRequest : DataRequest := ⟨1, 0, 32⟩
def repeatedRequest : DataRequest := ⟨2, 0, 32⟩

/-- The request for the next 32 bytes. The slot was cleared in between. -/
def secondRequest : DataRequest := ⟨1, 32, 32⟩

def first (state : FdInternal) : FdEvent := fdEvent .release state (poll (asksAt 0 1))

def repeated (state : FdInternal) : FdEvent :=
  fdEvent .release (first state).after (poll (asksAt 0 10000))

def answered (state : FdInternal) : FdEvent :=
  fdEvent .release (repeated state).after
    ⟨.handleResponse (repeatedRequest.answer countingImage), asksAt 0 10001⟩

def second (state : FdInternal) : FdEvent :=
  fdEvent .release (answered state).after (poll (asksAt 32 10002))

/-- The answer to the first request arrives after all. -/
def late (state : FdInternal) : FdEvent :=
  fdEvent .release (second state).after
    ⟨.handleResponse (firstRequest.answer countingImage), asksAt 32 10003⟩

def passages (state : FdInternal) : List Passage :=
  [⟨first state, none⟩, ⟨repeated state, none⟩, ⟨answered state, some repeatedRequest⟩,
    ⟨second state, none⟩, ⟨late state, some firstRequest⟩]

/-- The exchange, and the bytes that it leaves at offset 32. -/
theorem exchange : ∃ events origin, FdTrace .release events origin ∧
    Exchange .release countingImage origin (passages origin) [⟨secondRequest, 0⟩]
      (late origin).after ∧
    ∃ component, .downloadFwData 32 (portion countingImage 0 32) component
      (.ok .transferSuccess) ∈ (late origin).callbacks := by
  obtain ⟨events, origin, trace, hcheck⟩ := exists_run .release (opening 100)
    (fun _ state => decide (
      (state.state = .download ∧ (first state).after.state = .download ∧
        (repeated state).after.state = .download ∧ (answered state).after.state = .download ∧
        (second state).after.state = .download) ∧
      ((first state).output.outcome = .ok (.length 11) ∧
        (repeated state).output.outcome = .ok (.length 11) ∧
        (second state).output.outcome = .ok (.length 11)) ∧
      (lettersAfter (first state) [] = [⟨firstRequest, 0⟩] ∧
        lettersAfter (repeated state) [⟨firstRequest, 0⟩] =
          [⟨firstRequest, 1⟩, ⟨repeatedRequest, 0⟩] ∧
        lettersAfter (second state) [⟨firstRequest, 1⟩] =
          [⟨firstRequest, 2⟩, ⟨secondRequest, 0⟩]) ∧
      .downloadFwData 32 (portion countingImage 0 32) (second state).after.updateComp
        (.ok .transferSuccess) ∈ (late state).callbacks)) (by decide +kernel)
  obtain ⟨⟨h0, h1, h2, h3, h4⟩, ⟨o1, o2, o4⟩, ⟨l1, l2, l4⟩, stores⟩ := of_decide_eq_true hcheck
  have hfirst : Exchange .release countingImage origin [⟨first origin, none⟩]
      [⟨firstRequest, 0⟩] (first origin).after :=
    Exchange.start.polled h0 (asksAt 0 1) o1 l1
  have hrepeated : Exchange .release countingImage origin _
      [⟨firstRequest, 1⟩, ⟨repeatedRequest, 0⟩] (repeated origin).after :=
    hfirst.polled h1 (asksAt 0 10000) o2 l2
  have hanswered : Exchange .release countingImage origin _ [⟨firstRequest, 1⟩]
      (answered origin).after :=
    @Exchange.arrival _ _ _ _ [⟨firstRequest, 1⟩] [] _ _ hrepeated h2 (by decide) (asksAt 0 10001)
  have hsecond : Exchange .release countingImage origin _
      [⟨firstRequest, 2⟩, ⟨secondRequest, 0⟩] (second origin).after :=
    hanswered.polled h3 (asksAt 32 10002) o4 l4
  have hlate := @Exchange.arrival _ _ _ _ [] [⟨secondRequest, 0⟩] _ _ hsecond h4 (by decide)
    (asksAt 32 10003)
  exact ⟨events, origin, trace, hlate, _, stores⟩

end LateAnswer

/-- The data of the first 32 bytes is stored as that of the next 32. -/
theorem late_answer_misplaced : ∃ events origin passages letters state,
    FdTrace .release events origin ∧
    Exchange .release countingImage origin passages letters state ∧
    ¬ ∀ passage ∈ passages, StoresImage countingImage passage := by
  obtain ⟨events, origin, trace, exchange, component, stored⟩ := LateAnswer.exchange
  refine ⟨events, origin, _, _, _, trace, exchange, fun stores => ?_⟩
  have hlate := stores ⟨LateAnswer.late origin, some LateAnswer.firstRequest⟩
    (by simp [LateAnswer.passages])
  exact absurd (hlate _ _ _ _ stored).1 (by decide)

theorem storesImage_iff_late : ∃ events origin passages letters state,
    FdTrace .release events origin ∧
    Exchange .release countingImage origin passages letters state ∧
    ((∀ passage ∈ passages, StoresImage countingImage passage) ↔
      Throughout (fun before passage =>
        Unambiguous countingImage (events ++ before.map Passage.event) passage) passages) := by
  obtain ⟨events, origin, trace, exchange, _⟩ := LateAnswer.exchange
  exact ⟨events, origin, _, _, _, trace, exchange, storesImage_iff trace exchange⟩

end PldmLib.FirmwareDevice
