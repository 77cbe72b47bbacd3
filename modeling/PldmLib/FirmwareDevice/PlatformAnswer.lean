/-
# What the platform answers

The answers of the platform about a component, a transfer, a verification or an
application are enumerations, and each one goes to the agent as a byte. This file
follows the answers to the wire. A response code is sent in the call that asked
for it; the result of an operation is stored as a byte, and reported by a later
call.
-/

import PldmLib.FirmwareDevice.Conclusion
import PldmLib.FirmwareDevice.DownloadRange

namespace PldmLib.FirmwareDevice

open PldmLib.Machine PldmLib.Protocol PldmLib.Message

/-! ## Response codes -/

section ResponseCodes

variable {ops : FdOps} {payload : List UInt8} {pre : FdInternal}

/-- A `PassComponentTable` request that decodes leaves room for its response. -/
theorem length_of_passComponentTable {request : PassComponentTableRequest}
    (decoded : PassComponentTableRequest.decode payload = .ok request) : 6 ≤ payload.length := by
  by_contra short
  rcases payload with _ | ⟨_, _ | ⟨_, _ | ⟨_, _ | ⟨_, _ | ⟨_, _ | ⟨_, _⟩⟩⟩⟩⟩⟩ <;>
    first
    | cases decoded
    | simp at short

open FdContext FdCall

/-- The platform was asked about a component and answered with this code. -/
def AnswersCode (callbacks : List Callback) (code : ComponentResponseCode) : Prop :=
  ∃ component operation, .handleComponent component operation (.ok code) ∈ callbacks

theorem passComponentRsp_answers :
    (passComponentRsp ops).wp (fun outcome final => outcome ≠ .panic ∧
      ∀ code, AnswersCode (final.log.map Invocation.callback) code →
        outcome = .ok 6 ∧ (final.payload.take 6)[5]? = some code.toU8) ⟨pre, payload, []⟩ := by
  simp only [passComponentRsp, Call.wp_bind, wp_internal, Call.wp_ite]
  split
  · apply generateFailureResponse_refuses
    intro outcome final refused
    exact ⟨refused.ne_panic, by simp [AnswersCode]⟩
  · simp only [wp_setFdT1Ts]
    apply withRequest_refuses
    · intro _ _ outcome final refused
      exact ⟨refused.ne_panic, by simp [AnswersCode]⟩
    · intro request decoded
      cases TransferRespFlag.tryFrom request.transferFlag with
      | error error =>
          apply generateFailureResponse_refuses
          intro outcome final refused
          exact ⟨refused.ne_panic, by simp [AnswersCode]⟩
      | ok transferFlag =>
          simp only [Call.wp_bind, wp_invoke]
          apply ofOps_rule
          · intro firmwareParams _
            apply ofOps_rule
            · intro code answered
              have hroom := length_of_passComponentTable decoded
              apply respond_refuses
              · intro bytes final written
                obtain ⟨_, rfl, hfront⟩ := writeToPrefix_ok written
                refine ⟨(by rintro ⟨⟩), ?_⟩
                rintro other ⟨component, operation, member⟩
                simp [answered] at member
                obtain ⟨_, _, rfl⟩ := member
                exact ⟨rfl, congrArg (fun bytes => bytes[5]?) hfront⟩
              · intro unwritten
                refine absurd (writeToPrefix_of_le ?_) (unwritten _ _)
                exact hroom
              · intro final panicked
                exact absurd panicked (writeToPrefix_ne_panic _ _ _)
            · intro error failed
              exact ⟨(by rintro ⟨⟩), by simp [AnswersCode, failed]⟩
          · intro error _
            exact ⟨(by rintro ⟨⟩), by simp [AnswersCode]⟩

theorem updateComponentRsp_answers :
    (updateComponentRsp ops).wp (fun outcome final =>
      ((∀ code, ¬ AnswersCode (final.log.map Invocation.callback) code) → outcome ≠ .panic) ∧
      ∀ code, AnswersCode (final.log.map Invocation.callback) code →
        (outcome = .panic ↔ code = .vendorDefined) ∧ ∀ count, outcome = .ok count →
          ∀ byte, (final.payload.take count)[5]? = some byte → byte = code.toU8)
      ⟨pre, payload, []⟩ := by
  have hrefused {callbacks : List Callback} {outcome : Outcome MsgHandlerError ℕ}
      {final : List UInt8} (live : outcome ≠ .panic)
      (unasked : ∀ code, ¬ AnswersCode callbacks code) :
      ((∀ code, ¬ AnswersCode callbacks code) → outcome ≠ .panic) ∧
      ∀ code, AnswersCode callbacks code →
        (outcome = .panic ↔ code = .vendorDefined) ∧ ∀ count, outcome = .ok count →
          ∀ byte, (final.take count)[5]? = some byte → byte = code.toU8 :=
    ⟨fun _ => live, fun code answers => absurd answers (unasked code)⟩
  simp only [updateComponentRsp, Call.wp_bind, wp_internal, Call.wp_ite]
  split
  · apply generateFailureResponse_refuses
    intro outcome final refused
    exact hrefused refused.ne_panic (by simp [AnswersCode])
  · simp only [wp_setFdT1Ts]
    apply withRequest_refuses
    · intro _ _ outcome final refused
      exact hrefused refused.ne_panic (by simp [AnswersCode])
    · intro request _
      simp only [Call.wp_bind, wp_modify, wp_invoke]
      apply ofOps_rule
      · intro firmwareParams _
        apply ofOps_rule
        · intro code answered
          have hanswer : ∀ other, AnswersCode ([] ++ [Callback.now] ++ [.getFirmwareParms] ++
              [.handleComponent (describedComponent request) .updateComponent
                (ops.handleComponent (describedComponent request) firmwareParams
                  .updateComponent)]) other → other = code := by
            rintro other ⟨component, operation, member⟩
            simp [answered] at member
            exact member.2.2
          simp only [Call.wp_ofOutcome]
          by_cases vendor : code = .vendorDefined
          · subst vendor
            constructor
            · intro unasked
              refine absurd ⟨describedComponent request, .updateComponent, ?_⟩
                (unasked .vendorDefined)
              simp [answered]
            · intro other answers
              rw [hanswer other answers]
              exact ⟨iff_of_true trivial rfl, by rintro _ ⟨⟩⟩
          · rw [ComponentCompatibilityResponseCode.tryFrom_toU8.mpr vendor]
            apply respond_refuses
            · intro bytes final written
              rw [UpdateComponentResponse.encode_eq rfl] at written
              obtain ⟨_, rfl, hfront⟩ := writeToPrefix_ok written
              refine ⟨by rintro _ ⟨⟩, ?_⟩
              intro other answers
              obtain rfl := hanswer other answers
              refine ⟨iff_of_false (by rintro ⟨⟩) vendor, ?_⟩
              intro count returned byte sent
              obtain rfl := Outcome.ok.inj returned
              have hbyte := congrArg (fun bytes => bytes[5]?) hfront
              have hcode : some byte = some other.compatibility.toU8 := sent.symm.trans hbyte
              rw [ComponentResponseCode.compatibility_toU8] at hcode
              exact Option.some.inj hcode
            · intro _ outcome final refused
              refine ⟨fun _ => refused.ne_panic, ?_⟩
              intro other answers
              obtain rfl := hanswer other answers
              refine ⟨iff_of_false refused.ne_panic vendor, ?_⟩
              intro count returned byte sent
              rcases refused with rfl | ⟨error, rfl⟩
              · obtain rfl := Outcome.ok.inj returned
                simp at sent
              · cases returned
            · intro final panicked
              rw [UpdateComponentResponse.encode_eq rfl] at panicked
              exact absurd panicked (writeToPrefix_ne_panic _ _ _)
        · intro error failed
          exact hrefused (by rintro ⟨⟩) (by simp [AnswersCode, failed])
      · intro error _
        exact hrefused (by rintro ⟨⟩) (by simp [AnswersCode])

end ResponseCodes

/-! ## Every answer is carried -/

/-- A report of the call is read back as what the platform said of the operation. -/
def ReadsBack (before : List FdEvent) (event : FdEvent) : Prop :=
  ∀ command id byte, event.sent = some (.complete command id byte) →
    ∃ call, LastConclusion (before ++ [event]) call ∧
      ∀ result, Answered call result → result.ReadFrom byte

/-- What is promised of a call about the answers of the platform: it returns, the
response code that it sends is the one it was given, and so is the result that it
reports. `UpdateComponent` is answered in a field of another enumeration: its byte gives back
the response code, but the receiver reads the compatibility code of that byte, and so
`CompInfoNoMatch` for `ActiveImageNotUpdateableSubsequently`. -/
structure Carries (before : List FdEvent) (event : FdEvent) : Prop where
  returns : (∃ payload, event.input.operation = .request .passComponent payload ∨
      event.input.operation = .request .updateComponent payload ∨
      event.input.operation = .fdProgress payload ∨
      event.input.operation = .handleResponse payload) → event.output.outcome ≠ .panic
  passed : (∃ payload, event.input.operation = .request .passComponent payload) →
    ∀ code, AnswersCode event.callbacks code →
      ∀ count byte, event.output.outcome = .ok (.length count) →
        (event.output.payload.take count)[5]? = some byte →
        ComponentResponseCode.tryFrom byte = .ok code
  updated : (∃ payload, event.input.operation = .request .updateComponent payload) →
    ∀ code, AnswersCode event.callbacks code →
      ∀ count byte, event.output.outcome = .ok (.length count) →
        (event.output.payload.take count)[5]? = some byte →
        ComponentResponseCode.tryFrom byte = .ok code ∧
          ComponentCompatibilityResponseCode.tryFrom byte = .ok code.compatibility
  reported : ReadsBack before event

/-- Where that is so: no answer that is due to be sent is `VendorDefined`, a report
is repeated only if it was a generic error the first time, and a debug build is
asked for no range whose check overflows. -/
structure Conveyable (profile : Profile) (before : List FdEvent) (event : FdEvent) : Prop where
  code : (∃ payload, event.input.operation = .request .passComponent payload ∨
      event.input.operation = .request .updateComponent payload) →
    ¬ AnswersCode event.callbacks .vendorDefined
  transfer : (∃ payload, event.input.operation = .fdProgress payload) →
    Open event.input.ops event.before → event.before.state = .download →
    event.before.req.complete = true →
    ∀ call, LastConclusion before call → ¬ Answered call (.transfer .vendorDefined)
  finished : ∀ kind : OperationKind, (∃ payload,
      event.input.operation = .fdProgress payload ∧ kind.messageLength ≤ payload.length) →
    event.before.state = kind.state →
    ∀ result, Answered event result → result.isVendorDefined = false
  repeated : ∀ kind : OperationKind, (∃ payload,
      event.input.operation = .fdProgress payload ∧ kind.messageLength ≤ payload.length) →
    Open event.input.ops event.before → event.before.state = kind.state →
    event.before.req.complete = true →
    ∀ call, LastConclusion before call → ∀ result, Answered call result →
      result.isGenericError = true
  range : profile = .debug → ∀ range, AsksFor event range →
    ChecksWithoutOverflow event.before.imageSize (range.1 % UInt32.size)
      (range.2 % UInt32.size)

/-! ## Calls -/

section Polls

variable {profile : Profile} {ops : FdOps} {payload : List UInt8} {pre post : FdInternal}
  {outcome : Outcome MsgHandlerError ℕ} {log : List Invocation} {sent : Option FdRequest}

theorem ReportStep.sends_generic (report : ReportStep ops payload pre outcome post sent)
    {kind : OperationKind} (state : pre.state = kind.state)
    (room : kind.messageLength ≤ payload.length) :
    ∃ command id, sent = some (.complete command id 0x0a) := by
  cases report with
  | unknown download =>
      rw [state] at download
      cases kind <;> cases download
  | unsent short =>
      rw [state, OperationKind.reportLength_state] at short
      exact absurd short (Nat.not_lt.mpr room)
  | transfer download =>
      rw [state] at download
      cases kind <;> cases download
  | repeated => exact ⟨_, _, rfl⟩

/-- The report of a transfer crashes on a result that it cannot read. -/
theorem PollStep.of_transferred (step : PollStep profile ops payload pre outcome post log sent)
    (state : pre.state = .download) (passed : Open ops pre) (complete : pre.req.complete = true) :
    ∃ stored, pre.req.result = some stored ∧
      (outcome = .panic ↔ ∀ known, TransferResult.tryFrom stored ≠ .ok known) := by
  have hreport := step.of_complete (by rw [state]; rfl) passed complete
  cases hreport with
  | unknown _ stores unknown =>
      exact ⟨_, stores, iff_of_true rfl fun known same => absurd (unknown.symm.trans same) nofun⟩
  | unsent _ readable =>
      obtain ⟨stored, known, stores, reads⟩ := readable state
      exact ⟨_, stores, iff_of_false nofun fun unknown => unknown _ reads⟩
  | transfer _ stores reads =>
      exact ⟨_, stores, iff_of_false nofun fun unknown => unknown _ reads⟩
  | @repeated kind same =>
      rw [state] at same
      cases kind <;> cases same

/-- The byte of the result in a callback is the one that the poll goes on with. -/
theorem OperationKind.answer_of_result {kind : OperationKind} {component : FirmwareComponent}
    {result : OperationResult}
    (answered : (kind.callback ops component).operationResult = some result) :
    ∃ progress, kind.answer ops component = .ok (result.toU8, progress) := by
  cases kind with
  | verify =>
      simp only [OperationKind.callback, OperationKind.answer] at answered ⊢
      cases hverify : ops.verify component with
      | error error => simp [hverify, Callback.operationResult] at answered
      | ok answer =>
          simp only [hverify, Callback.operationResult, Option.some.injEq] at answered
          exact ⟨answer.2, by rw [← answered]; rfl⟩
  | apply =>
      simp only [OperationKind.callback, OperationKind.answer] at answered ⊢
      cases happly : ops.apply component with
      | error error => simp [happly, Callback.operationResult] at answered
      | ok answer =>
          simp only [happly, Callback.operationResult, Option.some.injEq] at answered
          exact ⟨answer.2, by rw [← answered]; rfl⟩

/-- What a poll does with a result: the operation goes on, the buffer is too short
for the report, or the report carries the byte. -/
theorem PollStep.of_result (step : PollStep profile ops payload pre outcome post log sent)
    {kind : OperationKind} (state : pre.state = kind.state) {result : OperationResult}
    {callback : Callback} (member : callback ∈ works log)
    (answered : callback.operationResult = some result) :
    result.toU8 = 0 ∨ payload.length < kind.messageLength ∨
      pre.req.complete = false ∧ post.req.complete = true ∧
        ∃ id, sent = some (.complete kind.command id result.toU8) := by
  have hsame {other : OperationKind} (same : pre.state = other.state) : other = kind := by
    rw [state] at same
    cases kind <;> cases other <;> first | rfl | cases same
  have hran (worked : works log = [kind.callback ops pre.updateComp]) :
      ∃ progress, kind.answer ops pre.updateComp = .ok (result.toU8, progress) := by
    rw [worked, List.mem_singleton] at member
    exact OperationKind.answer_of_result (member ▸ answered)
  cases step with
  | operationFailed same _ _ failed =>
      obtain rfl := hsame same
      obtain ⟨progress, ran⟩ := hran (by simp [works_cons])
      exact absurd (failed.symm.trans ran) nofun
  | operationPending same _ _ ran unfinished =>
      obtain rfl := hsame same
      obtain ⟨progress, ran'⟩ := hran (by simp [works_cons])
      obtain ⟨rfl, _⟩ := Prod.mk.inj (Except.ok.inj (ran.symm.trans ran'))
      exact .inl (of_decide_eq_true unfinished).1
  | operationUnsent same _ _ _ _ short => exact .inr (.inl (hsame same ▸ short))
  | operationReported same _ unfinished ran =>
      obtain rfl := hsame same
      obtain ⟨progress, ran'⟩ := hran (by simp [works_cons])
      obtain ⟨rfl, _⟩ := Prod.mk.inj (Except.ok.inj (ran.symm.trans ran'))
      exact .inr (.inr ⟨unfinished, rfl, _, rfl⟩)
  | _ => simp [works_cons, Callback.isWork] at member <;> (subst member; cases answered)

/-- The byte that a report carries: the result that has been stored, the one that the
platform has just given, or the one of every repeated report. -/
theorem PollStep.of_report {command : FwUpdateCmd} {id byte : UInt8}
    (step : PollStep profile ops payload pre outcome post log (some (.complete command id byte))) :
    (pre.state = .download ∧ Open ops pre ∧ pre.req.complete = true ∧
      ∃ stored known, pre.req.result = some stored ∧
        TransferResult.tryFrom stored = .ok known ∧ byte = known.toU8) ∨
    ∃ kind : OperationKind, pre.state = kind.state ∧ kind.messageLength ≤ payload.length ∧
      (pre.req.complete = false ∧ post.req.complete = true ∧
        (∃ progress, kind.answer ops pre.updateComp = .ok (byte, progress)) ∧
        works log = [kind.callback ops pre.updateComp] ∨
      Open ops pre ∧ pre.req.complete = true ∧ byte = 0x0a) := by
  cases step with
  | transferReported download passed complete stores reads =>
      exact .inl ⟨download, passed, complete, _, _, stores, reads, rfl⟩
  | operationReported operating _ unfinished ran _ room =>
      exact .inr ⟨_, operating, room, .inl ⟨unfinished, rfl, ⟨_, ran⟩, by simp [works_cons]⟩⟩
  | reportRepeated operating passed complete room =>
      exact .inr ⟨_, operating, room, .inr ⟨passed, complete, rfl⟩⟩

end Polls

section Events

variable {profile : Profile} {events : List FdEvent} {state : FdInternal}

theorem readsBack_of_conveyable (trace : FdTrace profile events state) {payload : List UInt8}
    {ops : FdOps}
    (conveyable : Conveyable profile events (fdEvent profile state ⟨.fdProgress payload, ops⟩)) :
    ReadsBack events (fdEvent profile state ⟨.fdProgress payload, ops⟩) := by
  intro command id byte sends
  obtain ⟨outcome, _, step⟩ := (trace.step ⟨.fdProgress payload, ops⟩).of_poll
  rw [sends] at step
  rcases step.of_report with ⟨download, passed, complete, stored, known, stores, reads, rfl⟩ |
    ⟨kind, operating, room, ⟨unfinished, complete, ⟨progress, ran⟩, worked⟩ |
      ⟨passed, complete, rfl⟩⟩
  · obtain ⟨call, last, result, hstored, hanswered, _⟩ :=
      settled_transfer trace download complete
    refine ⟨call, lastConclusion_append complete _ last, ?_⟩
    intro answer answered
    obtain rfl := hanswered answer answered
    have hvendor : result ≠ .vendorDefined := by
      rintro rfl
      exact conveyable.transfer ⟨payload, rfl⟩ passed download complete call last answered
    obtain rfl := Option.some.inj (stores.symm.trans hstored)
    obtain rfl := Except.ok.inj (reads.symm.trans (TransferResult.tryFrom_toU8.mpr hvendor))
    exact reads
  · have concludes : Concludes (fdEvent profile state ⟨.fdProgress payload, ops⟩) :=
      ⟨unfinished, complete⟩
    refine ⟨_, .of_concludes concludes events, ?_⟩
    intro answer answered
    have hvendor := conveyable.finished kind ⟨payload, rfl, room⟩ operating answer answered
    obtain ⟨callback, member, hresult⟩ := answered
    rw [FdEvent.log, worked, List.mem_singleton] at member
    obtain ⟨_, ran'⟩ := OperationKind.answer_of_result (member ▸ hresult)
    obtain ⟨rfl, _⟩ := Prod.mk.inj (Except.ok.inj (ran.symm.trans ran'))
    exact answer.readFrom_toU8.mpr hvendor
  · obtain ⟨call, last, hread⟩ := settled_operation trace operating complete
    refine ⟨call, lastConclusion_append complete _ last, ?_⟩
    intro answer answered
    refine (hread answer answered).mpr ?_
    exact conveyable.repeated kind ⟨payload, rfl, room⟩ passed operating complete call last
      answer answered

theorem poll_returns (trace : FdTrace profile events state) {payload : List UInt8} {ops : FdOps}
    (conveyable : Conveyable profile events (fdEvent profile state ⟨.fdProgress payload, ops⟩)) :
    (fdEvent profile state ⟨.fdProgress payload, ops⟩).output.outcome ≠ .panic := by
  intro panicked
  obtain ⟨outcome, houtcome, step⟩ := (trace.step ⟨.fdProgress payload, ops⟩).of_poll
  obtain rfl := Outcome.map_eq_panic.mp (houtcome.symm.trans panicked)
  rcases step.panics with ⟨download, passed, complete, stored, error, stores, unknown⟩ |
    ⟨download, range, _, member, overflowed⟩
  · obtain ⟨call, last, result, hstored, hanswered, hvendor⟩ :=
      settled_transfer trace download complete
    obtain rfl := Option.some.inj (stores.symm.trans hstored)
    by_cases vendor : result = .vendorDefined
    · exact conveyable.transfer ⟨payload, rfl⟩ passed download complete call last
        (vendor ▸ hvendor vendor)
    · exact absurd ((TransferResult.tryFrom_toU8.mpr vendor).symm.trans unknown) nofun
  · cases profile with
    | release => exact getFdDownloadChunk_release_ne_panic download _ _ overflowed
    | debug =>
        have hfits := conveyable.range rfl range ⟨_, (mem_works rfl).mpr member⟩
        rw [← UInt32.toNat_ofNat', ← UInt32.toNat_ofNat'] at hfits
        exact (getFdDownloadChunk_debug_ne_panic download _ _).mpr hfits overflowed

/-- A poll that returns has no vendor's transfer result to report. -/
theorem transfer_spared (trace : FdTrace profile events state) {payload : List UInt8}
    {ops : FdOps}
    (returns : (fdEvent profile state ⟨.fdProgress payload, ops⟩).output.outcome ≠ .panic)
    (passed : Open ops state) (download : state.state = .download)
    (complete : state.req.complete = true) {call : FdEvent} (last : LastConclusion events call) :
    ¬ Answered call (.transfer .vendorDefined) := by
  intro vendor
  obtain ⟨outcome, houtcome, step⟩ := (trace.step ⟨.fdProgress payload, ops⟩).of_poll
  obtain ⟨call', last', result, hstored, hanswered, _⟩ :=
    settled_transfer trace download complete
  obtain rfl := last.unique last'
  obtain rfl := OperationResult.transfer.inj (hanswered _ vendor)
  obtain ⟨stored, stores, crashes⟩ := step.of_transferred download passed complete
  obtain rfl := Option.some.inj (stores.symm.trans hstored)
  have hunknown : ∀ known, TransferResult.tryFrom TransferResult.vendorDefined.toU8 ≠ .ok known :=
    fun _ => nofun
  rw [crashes.mpr hunknown] at houtcome
  exact returns houtcome

/-- A result that is read back when it is reported is not the vendor's. -/
theorem result_spared (trace : FdTrace profile events state) {payload : List UInt8} {ops : FdOps}
    (reported : ReadsBack events (fdEvent profile state ⟨.fdProgress payload, ops⟩))
    {kind : OperationKind} (room : kind.messageLength ≤ payload.length)
    (operating : state.state = kind.state) {result : OperationResult}
    (answered : Answered (fdEvent profile state ⟨.fdProgress payload, ops⟩) result) :
    result.isVendorDefined = false := by
  obtain ⟨outcome, _, step⟩ := (trace.step ⟨.fdProgress payload, ops⟩).of_poll
  have hanswered := answered
  obtain ⟨callback, member, hresult⟩ := hanswered
  rcases step.of_result operating member hresult with success | short |
    ⟨unfinished, complete, id, sends⟩
  · exact OperationResult.not_vendor_of_success success
  · exact absurd short (Nat.not_lt.mpr room)
  · obtain ⟨call, last, hread⟩ := reported _ _ _ sends
    have concludes : Concludes (fdEvent profile state ⟨.fdProgress payload, ops⟩) :=
      ⟨unfinished, complete⟩
    obtain rfl := last.unique (.of_concludes concludes events)
    exact result.readFrom_toU8.mp (hread result answered)

/-- A repeated report is read back only if the result was a generic error. -/
theorem generic_of_repeated (trace : FdTrace profile events state) {payload : List UInt8}
    {ops : FdOps}
    (reported : ReadsBack events (fdEvent profile state ⟨.fdProgress payload, ops⟩))
    {kind : OperationKind} (room : kind.messageLength ≤ payload.length) (passed : Open ops state)
    (operating : state.state = kind.state) (complete : state.req.complete = true)
    {call : FdEvent} (last : LastConclusion events call) {result : OperationResult}
    (answered : Answered call result) : result.isGenericError = true := by
  obtain ⟨outcome, _, step⟩ := (trace.step ⟨.fdProgress payload, ops⟩).of_poll
  have active : state.state.isInitiator = true := by
    rw [operating]
    exact kind.state_isInitiator
  obtain ⟨command, id, sends⟩ :=
    (step.of_complete active passed complete).sends_generic operating room
  obtain ⟨call', last', hread⟩ := reported _ _ _ sends
  obtain rfl := (lastConclusion_append complete _ last).unique last'
  obtain ⟨other, last'', hgeneric⟩ := settled_operation trace operating complete
  obtain rfl := last.unique last''
  exact (hgeneric result answered).mp (hread result answered)

/-- A range check that returns in a debug build did not overflow. -/
theorem range_spared (trace : FdTrace .debug events state) {payload : List UInt8} {ops : FdOps}
    (returns : (fdEvent .debug state ⟨.fdProgress payload, ops⟩).output.outcome ≠ .panic)
    {range : ℕ × ℕ} (asks : AsksFor (fdEvent .debug state ⟨.fdProgress payload, ops⟩) range) :
    ChecksWithoutOverflow state.imageSize (range.1 % UInt32.size) (range.2 % UInt32.size) := by
  obtain ⟨component, member⟩ := asks
  obtain ⟨_, _, download, _, asked⟩ :=
    (trace.step ⟨.fdProgress payload, ops⟩).of_query trace.coherent ((mem_works rfl).mp member)
  rw [← UInt32.toNat_ofNat', ← UInt32.toNat_ofNat']
  apply (getFdDownloadChunk_debug_ne_panic download _ _).mp
  intro overflow
  generalize (fdEvent .debug state ⟨.fdProgress payload, ops⟩).output.outcome = outcome at *
  generalize (fdEvent .debug state ⟨.fdProgress payload, ops⟩).sent = sent at asked
  cases asked with
  | overflowed => exact returns rfl
  | refused outside => exact absurd (overflow.symm.trans outside) nofun
  | unsent inside => exact absurd (overflow.symm.trans inside) nofun
  | served inside => exact absurd (overflow.symm.trans inside) nofun

/-- What a poll has to be spared to carry every answer. -/
theorem carries_poll_iff (trace : FdTrace profile events state) (payload : List UInt8)
    (ops : FdOps) :
    Carries events (fdEvent profile state ⟨.fdProgress payload, ops⟩) ↔
      Conveyable profile events (fdEvent profile state ⟨.fdProgress payload, ops⟩) := by
  constructor
  · rintro ⟨returns, -, -, reported⟩
    have hreturns := returns ⟨payload, .inr (.inr (.inl rfl))⟩
    refine ⟨?_, ?_, ?_, ?_, ?_⟩
    · rintro ⟨_, same | same⟩ <;> cases same
    · rintro - passed download complete call last
      exact transfer_spared trace hreturns passed download complete last
    · rintro kind ⟨_, ⟨⟩, room⟩ operating result answered
      exact result_spared trace reported room operating answered
    · rintro kind ⟨_, ⟨⟩, room⟩ passed operating complete call last result answered
      exact generic_of_repeated trace reported room passed operating complete last answered
    · rintro rfl range asks
      exact range_spared trace hreturns asks
  · intro conveyable
    refine ⟨fun _ => poll_returns trace conveyable, ?_, ?_, ?_⟩
    · rintro ⟨_, same⟩
      cases same
    · rintro ⟨_, same⟩
      cases same
    · exact readsBack_of_conveyable trace conveyable

/-- Only a poll reports anything, or asks for a range. -/
theorem conveyable_iff_code (trace : FdTrace profile events state) (input : FdInput)
    (calm : ∀ payload, input.operation ≠ .fdProgress payload) :
    (Conveyable profile events (fdEvent profile state input) ↔
      ((∃ payload, input.operation = .request .passComponent payload ∨
        input.operation = .request .updateComponent payload) →
        ¬ AnswersCode (fdEvent profile state input).callbacks .vendorDefined)) ∧
      ReadsBack events (fdEvent profile state input) := by
  refine ⟨⟨Conveyable.code, fun code => ⟨code, ?_, ?_, ?_, ?_⟩⟩, ?_⟩
  · rintro ⟨payload, same⟩
    exact absurd same (calm payload)
  · rintro kind ⟨payload, same, _⟩
    exact absurd same (calm payload)
  · rintro kind ⟨payload, same, _⟩
    exact absurd same (calm payload)
  · rintro - range ⟨component, member⟩
    obtain ⟨payload, same, _⟩ :=
      (trace.step input).of_query trace.coherent ((mem_works rfl).mp member)
    exact absurd same (calm payload)
  · intro command id byte sends
    unfold FdEvent.sent at sends
    split at sends
    · next payload _ same _ => exact absurd same (calm payload)
    · cases sends

/-- The device passes a component's response code on; the agent can read it unless it
is the vendor's. -/
theorem carries_pass_iff (trace : FdTrace profile events state) (payload : List UInt8)
    (ops : FdOps) :
    Carries events (fdEvent profile state ⟨.request .passComponent payload, ops⟩) ↔
      Conveyable profile events (fdEvent profile state ⟨.request .passComponent payload, ops⟩) := by
  obtain ⟨hconveyable, hreads⟩ :=
    conveyable_iff_code trace ⟨.request .passComponent payload, ops⟩ nofun
  obtain ⟨outcome, final, ⟨hlive, hcode⟩, houtcome, _, hpayload, hcallbacks⟩ :=
    @request_rule profile state .passComponent payload ops _ passComponentRsp_answers
  rw [← hcallbacks, ← hpayload] at hcode
  rw [hconveyable]
  constructor
  · rintro ⟨-, passed, -, -⟩ - vendor
    obtain ⟨rfl, hbyte⟩ := hcode _ vendor
    have hread := passed ⟨payload, rfl⟩ _ vendor 6 _ houtcome hbyte
    cases hread
  · intro code
    refine ⟨?_, ?_, ?_, hreads⟩
    · rintro - panicked
      exact hlive (Outcome.map_eq_panic.mp (houtcome.symm.trans panicked))
    · rintro - answer answers count byte returned sent
      obtain ⟨rfl, hbyte⟩ := hcode answer answers
      obtain rfl : 6 = count := Returned.length.inj (Outcome.ok.inj (houtcome.symm.trans returned))
      obtain rfl := Option.some.inj (sent.symm.trans hbyte)
      apply ComponentResponseCode.tryFrom_toU8.mpr
      rintro rfl
      exact code ⟨payload, .inl rfl⟩ answers
    · rintro ⟨_, same⟩
      cases same

/-- The device asks its library for the compatibility code that belongs to a response
code, and there is none for the vendor's. -/
theorem carries_update_iff (trace : FdTrace profile events state) (payload : List UInt8)
    (ops : FdOps) :
    Carries events (fdEvent profile state ⟨.request .updateComponent payload, ops⟩) ↔
      Conveyable profile events
        (fdEvent profile state ⟨.request .updateComponent payload, ops⟩) := by
  obtain ⟨hconveyable, hreads⟩ :=
    conveyable_iff_code trace ⟨.request .updateComponent payload, ops⟩ nofun
  obtain ⟨outcome, final, ⟨hunasked, hcode⟩, houtcome, _, hpayload, hcallbacks⟩ :=
    @request_rule profile state .updateComponent payload ops _ updateComponentRsp_answers
  rw [← hcallbacks] at hunasked hcode
  rw [← hpayload] at hcode
  rw [hconveyable]
  constructor
  · rintro ⟨returns, -, -, -⟩ - vendor
    have hpanic := (hcode _ vendor).1.mpr rfl
    rw [hpanic] at houtcome
    exact returns ⟨payload, .inr (.inl rfl)⟩ houtcome
  · intro code
    have hvendor {answer : ComponentResponseCode}
        (answers : AnswersCode
          (fdEvent profile state ⟨.request .updateComponent payload, ops⟩).callbacks answer) :
        answer ≠ .vendorDefined := by
      rintro rfl
      exact code ⟨payload, .inr rfl⟩ answers
    refine ⟨?_, ?_, ?_, hreads⟩
    · rintro - panicked
      have hlive : outcome ≠ .panic := by
        by_cases asked : ∃ answer, AnswersCode
            (fdEvent profile state ⟨.request .updateComponent payload, ops⟩).callbacks answer
        · obtain ⟨answer, answers⟩ := asked
          exact fun crashed => hvendor answers ((hcode answer answers).1.mp crashed)
        · exact hunasked (not_exists.mp asked)
      exact hlive (Outcome.map_eq_panic.mp (houtcome.symm.trans panicked))
    · rintro ⟨_, same⟩
      cases same
    · rintro - answer answers count byte returned sent
      obtain ⟨number, hok, hcount⟩ := Outcome.map_eq_ok.mp (houtcome.symm.trans returned)
      obtain rfl := Returned.length.inj hcount
      rw [(hcode answer answers).2 number hok byte sent]
      refine ⟨ComponentResponseCode.tryFrom_toU8.mpr (hvendor answers), ?_⟩
      exact ComponentCompatibilityResponseCode.tryFrom_toU8.mpr (hvendor answers)

/-- A response is worked off without a crash. -/
theorem carries_response (trace : FdTrace profile events state) (payload : List UInt8)
    (ops : FdOps) :
    Carries events (fdEvent profile state ⟨.handleResponse payload, ops⟩) := by
  obtain ⟨_, hreads⟩ := conveyable_iff_code trace ⟨.handleResponse payload, ops⟩ nofun
  obtain ⟨_, outcome, houtcome, step⟩ := (trace.step ⟨.handleResponse payload, ops⟩).of_response
  refine ⟨?_, ?_, ?_, hreads⟩
  · rintro - panicked
    exact step.ne_panic (Outcome.map_eq_panic.mp (houtcome.symm.trans panicked))
  · rintro ⟨_, same⟩
    cases same
  · rintro ⟨_, same⟩
    cases same

/-- The step lemma: a call carries every answer exactly when it is spared the ones that
it cannot carry. -/
theorem carries_iff (trace : FdTrace profile events state) (input : FdInput) :
    Carries events (fdEvent profile state input) ↔
      Conveyable profile events (fdEvent profile state input) := by
  obtain ⟨operation, ops⟩ := input
  by_cases asking : ∃ payload, operation = .request .passComponent payload ∨
      operation = .request .updateComponent payload ∨ operation = .fdProgress payload
  · obtain ⟨payload, rfl | rfl | rfl⟩ := asking
    · exact carries_pass_iff trace payload ops
    · exact carries_update_iff trace payload ops
    · exact carries_poll_iff trace payload ops
  · have hnone (payload : List UInt8) := not_or.mp (not_exists.mp asking payload)
    have hnone' (payload : List UInt8) := not_or.mp (hnone payload).2
    obtain ⟨hconveyable, hreads⟩ := conveyable_iff_code trace ⟨operation, ops⟩
      fun payload => (hnone' payload).2
    refine iff_of_true ⟨?_, ?_, ?_, hreads⟩ (hconveyable.mpr ?_)
    · rintro ⟨payload, pass | update | poll | response⟩
      · exact absurd pass (hnone payload).1
      · exact absurd update (hnone' payload).1
      · exact absurd poll (hnone' payload).2
      · obtain rfl : operation = .handleResponse payload := response
        exact (carries_response trace payload ops).returns ⟨payload, .inr (.inr (.inr rfl))⟩
    · rintro ⟨payload, pass⟩
      exact absurd pass (hnone payload).1
    · rintro ⟨payload, update⟩
      exact absurd update (hnone' payload).1
    · rintro ⟨payload, pass | update⟩
      · exact absurd pass (hnone payload).1
      · exact absurd update (hnone' payload).1

/-- Every answer of the platform is carried throughout a run exactly when the run is
spared those that the device cannot carry. -/
theorem answers_carried_iff (trace : FdTrace profile events state) (input : FdInput) :
    Throughout Carries (events ++ [fdEvent profile state input]) ↔
      Throughout (Conveyable profile) (events ++ [fdEvent profile state input]) :=
  trace.throughout_congr input carries_iff

end Events

/-! ## Runs -/

/-- The platform ends the first transfer with a result of its vendor. -/
def vendorTransfer : List FdInput :=
  opening 100 ++ [poll (platform 1),
    respond (Agent.response 1 .requestFirmwareData PldmBaseCompletionCode.success.toU8
      (List.replicate 32 0))
      { platform 2 with downloadFwData := fun _ _ _ => .ok .vendorDefined }]

/-- The report of such a transfer crashes, and so does the response to a component
that the platform has a vendor's code for. -/
theorem vendor_answer_crashes :
    (∃ events state, FdTrace .release events state ∧
      ¬ Throughout Carries (events ++ [fdEvent .release state (poll (platform 3))])) ∧
    ∃ events state, FdTrace .release events state ∧
      ¬ Throughout Carries (events ++ [fdEvent .release state
        (receive .updateComponent (Agent.updateComponent 100)
          { platform 0 with handleComponent := fun _ _ _ => .ok .vendorDefined })]) := by
  constructor
  · obtain ⟨events, state, trace, hpanic⟩ := exists_run .release vendorTransfer
      (fun _ state => (fdEvent .release state (poll (platform 3))).output.outcome = .panic)
      (by decide +kernel)
    refine ⟨events, state, trace, ?_⟩
    intro carried
    exact (carried events _ [] rfl).returns ⟨_, .inr (.inr (.inl rfl))⟩
      (of_decide_eq_true hpanic)
  · obtain ⟨events, state, trace, hpanic⟩ := exists_run .release ((opening 100).take 2)
      (fun _ state => (fdEvent .release state
        (receive .updateComponent (Agent.updateComponent 100)
          { platform 0 with handleComponent := fun _ _ _ => .ok .vendorDefined })).output.outcome =
            .panic)
      (by decide +kernel)
    refine ⟨events, state, trace, ?_⟩
    intro carried
    exact (carried events _ [] rfl).returns ⟨_, .inr (.inl rfl)⟩ (of_decide_eq_true hpanic)

theorem answers_carried_iff_vendor : ∃ events state, FdTrace .release events state ∧
    (Throughout Carries (events ++ [fdEvent .release state (poll (platform 3))]) ↔
      Throughout (Conveyable .release)
        (events ++ [fdEvent .release state (poll (platform 3))])) := by
  obtain ⟨events, state, trace, _⟩ := exists_run .release vendorTransfer
    (fun _ _ => true) (by decide +kernel)
  exact ⟨events, state, trace, answers_carried_iff trace (poll (platform 3))⟩

end PldmLib.FirmwareDevice
