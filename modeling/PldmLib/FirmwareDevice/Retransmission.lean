/-
# Repeated reports

A report that the agent does not answer is sent again when T2 has passed. The
agent must not be able to tell the repeated report from the first one, nor the
device end up elsewhere for having repeated it. A transfer is reported with the
result in the slot every time. Verification and application repeat theirs with a
result that the platform never gave, and put it into the slot.
-/

import PldmLib.FirmwareDevice.Cancellation
import PldmLib.FirmwareDevice.Conclusion
import PldmLib.FirmwareDevice.Timeout

namespace PldmLib.FirmwareDevice

open PldmLib.Machine PldmLib.Protocol PldmLib.Message

/-! ## Outstanding reports -/

/-- A report with this result is outstanding, and can be made again. -/
structure Outstanding (internal : FdInternal) (result : UInt8) : Prop where
  active : internal.state.isInitiator = true
  sent : internal.req.state = .sent
  complete : internal.req.complete = true
  stored : internal.req.result = some result
  readable : internal.state = .download →
    ∃ known, TransferResult.tryFrom result = .ok known ∧ known.toU8 = result

/-- The result of the repeated report. -/
def repeatedResult : FirmwareDeviceState → UInt8 → UInt8
  | .download, result => result
  | _, _ => 0x0a

theorem repeatedResult_repeatedResult (state : FirmwareDeviceState) (result : UInt8) :
    repeatedResult state (repeatedResult state result) = repeatedResult state result := by
  cases state <;> rfl

theorem repeatedResult_kind (kind : OperationKind) (result : UInt8) :
    repeatedResult kind.state result = 0x0a := by
  cases kind <;> rfl

/-- Nothing ends the wait for an answer in this call. -/
structure Waits (event : FdEvent) : Prop where
  unanswered : ∀ payload, event.input.operation = .handleResponse payload →
    accepts event.before.req payload = false
  noTimeout : ¬ TimesOut event
  noCancel : ¬ CancelTakesEffect event

/-- A poll that finds the report due again, and has room for it. -/
def Retries (event : FdEvent) : Prop :=
  Open event.input.ops event.before ∧ ∃ payload, event.input.operation = .fdProgress payload ∧
    reportLength event.before.state ≤ payload.length

section Steps

variable {profile : Profile} {pre : FdInternal} {input : FdInput} {output : FdOutput}
  {sent : Option FdRequest} {result : UInt8}

namespace Outstanding

/-- What is done to the rest of the device does not matter. -/
theorem congr {post : FdInternal} (outstanding : Outstanding pre result)
    (state : post.state = pre.state) (reqState : post.req.state = pre.req.state)
    (complete : post.req.complete = pre.req.complete)
    (stored : post.req.result = pre.req.result) : Outstanding post result where
  active := state ▸ outstanding.active
  sent := reqState.trans outstanding.sent
  complete := complete.trans outstanding.complete
  stored := stored.trans outstanding.stored
  readable download := outstanding.readable (state.symm.trans download)

theorem touched {post : FdInternal} {log : List Invocation} (outstanding : Outstanding pre result)
    (touched : Touched log pre post) : Outstanding post result := by
  have hreq := touched.req
  exact outstanding.congr touched.state (congrArg FdReq.state hreq) (congrArg FdReq.complete hreq)
    (congrArg FdReq.result hreq)

/-- What a waiting device does in a call: nothing to its report, or repeat it. -/
inductive Wait (pre : FdInternal) (result : UInt8) (event : FdEvent) (sent : Option FdRequest)
    (post : FdInternal) : Prop
  | calm (idle : ¬ Retries event) (silence : sent = none) (state : post.state = pre.state)
      (outstanding : Outstanding post result)
  | retried (retries : Retries event)
      (sends : ∃ command id, sent = some (.complete command id (repeatedResult pre.state result)) ∧
        reportCommand pre.state = some command)
      (state : post.state = pre.state)
      (outstanding : Outstanding post (repeatedResult pre.state result))

theorem poll {payload final : List UInt8} {ops : FdOps} {outcome : Outcome MsgHandlerError ℕ}
    {returned : Outcome MsgHandlerError Returned} {post : FdInternal} {log : List Invocation}
    (outstanding : Outstanding pre result)
    (step : PollStep profile ops payload pre outcome post log sent)
    (patient : outcome ≠ .err .t1Timeout) :
    Wait pre result ⟨pre, ⟨.fdProgress payload, ops⟩, ⟨returned, post, final, log⟩⟩ sent post := by
  by_cases passed : Open ops pre
  · have hreport := step.of_complete outstanding.active passed outstanding.complete
    cases hreport with
    | unknown download stores unknown =>
        obtain ⟨known, reads, _⟩ := outstanding.readable download
        obtain rfl := Option.some.inj (stores.symm.trans outstanding.stored)
        exact absurd (reads.symm.trans unknown) nofun
    | unsent short =>
        refine .calm ?_ rfl rfl (outstanding.congr rfl rfl rfl rfl)
        rintro ⟨_, _, ⟨⟩, room⟩
        exact absurd short (Nat.not_lt.mpr room)
    | transfer download stores reads room =>
        obtain ⟨known, reads', hknown⟩ := outstanding.readable download
        obtain rfl := Option.some.inj (stores.symm.trans outstanding.stored)
        obtain rfl := Except.ok.inj (reads.symm.trans reads')
        refine .retried ⟨passed, payload, rfl, by rwa [download]⟩ ?_ rfl ?_
        · rw [hknown, download]
          exact ⟨_, _, rfl, rfl⟩
        · rw [download]
          exact ⟨by rw [← outstanding.active]; rfl, rfl, rfl, rfl, fun _ => ⟨_, reads, hknown⟩⟩
    | @repeated kind state room =>
        refine .retried ⟨passed, payload, rfl, ?_⟩ ?_ rfl ?_
        · rwa [state, OperationKind.reportLength_state]
        · rw [state, repeatedResult_kind]
          exact ⟨_, _, rfl, kind.reportCommand_state⟩
        · rw [state, repeatedResult_kind]
          exact ⟨by rw [← outstanding.active]; rfl, rfl, rfl, rfl, fun _ => ⟨_, rfl, rfl⟩⟩
  · obtain ⟨hsent, hpost⟩ := step.of_not_open passed
    have hcalm : ¬ Retries ⟨pre, ⟨.fdProgress payload, ops⟩, ⟨returned, post, final, log⟩⟩ :=
      fun retries => passed retries.1
    rcases hpost with ⟨_, _, _, timeout, _⟩ | ⟨_, _, _, rfl⟩ | ⟨_, rfl, _⟩
    · exact absurd timeout patient
    · exact .calm hcalm hsent rfl outstanding
    · exact .calm hcalm hsent rfl outstanding

/-- The step lemma: a call that leaves a report unanswered leaves it outstanding. -/
theorem step (outstanding : Outstanding pre result) (step : FdStep profile pre input output sent)
    (waits : Waits ⟨pre, input, output⟩) :
    Wait pre result ⟨pre, input, output⟩ sent output.internal := by
  cases step with
  | @request handler payload final ops outcome post log step =>
      have hspared := step.of_active outstanding.active
        fun cancels => waits.noCancel ⟨handler, payload, rfl, cancels⟩
      refine .calm ?_ rfl hspared.state (outstanding.touched hspared)
      rintro ⟨_, _, same, _⟩
      cases same
  | @poll payload final ops outcome post log sent step =>
      apply outstanding.poll step
      rintro rfl
      exact waits.noTimeout ⟨⟨payload, rfl⟩, rfl⟩
  | @response payload final ops outcome post log step =>
      have hunanswered := waits.unanswered payload rfl
      have hcalm : ¬ Retries ⟨pre, ⟨.handleResponse payload, ops⟩,
          ⟨outcome.map fun _ => .done, post, final, log⟩⟩ := by
        rintro ⟨_, _, same, _⟩
        cases same
      cases step with
      | ignored => exact .calm hcalm rfl rfl outstanding
      | heard accepted => exact absurd (accepted.symm.trans hunanswered) nofun
      | dataRefused accepted => exact absurd (accepted.symm.trans hunanswered) nofun
      | dataRejected accepted => exact absurd (accepted.symm.trans hunanswered) nofun
      | dataStored accepted => exact absurd (accepted.symm.trans hunanswered) nofun
      | dataCompleted accepted => exact absurd (accepted.symm.trans hunanswered) nofun
      | transferAborted accepted => exact absurd (accepted.symm.trans hunanswered) nofun
      | acknowledged accepted => exact absurd (accepted.symm.trans hunanswered) nofun
      | disappointed accepted => exact absurd (accepted.symm.trans hunanswered) nofun
  | touch =>
      refine .calm ?_ rfl rfl (outstanding.congr rfl rfl rfl rfl)
      rintro ⟨_, _, same, _⟩
      cases same
  | query reads =>
      refine .calm ?_ rfl rfl outstanding
      rintro ⟨_, _, same, _⟩
      dsimp only at same
      simp [same] at reads

end Outstanding

end Steps

/-! ## Waiting -/

section Runs

variable {profile : Profile} {origin state : FdInternal} {events : List FdEvent} {result : UInt8}

/-- The result in the slot after a number of calls: the first one, unless a call has
repeated the report. -/
structure Waited (origin : FdInternal) (result : UInt8) (events : List FdEvent)
    (state : FdInternal) : Prop where
  kept : state.state = origin.state
  outstanding : ∃ final, Outstanding state final ∧
    ((∀ event ∈ events, ¬ Retries event) ∧ final = result ∨
      (∃ event ∈ events, Retries event) ∧ final = repeatedResult origin.state result)
  calm : ∀ event ∈ events, ¬ Retries event → event.sent = none
  retried : ∀ event ∈ events, Retries event → ∃ command id,
    event.sent = some (.complete command id (repeatedResult origin.state result))

/-- The run lemma: while nobody answers, the report stays outstanding, and it is
repeated in the calls that retry. -/
theorem Outstanding.run (outstanding : Outstanding origin result) (coherent : Coherent origin)
    (run : FdRun profile origin events state) (waits : ∀ event ∈ events, Waits event) :
    Waited origin result events state := by
  refine (FdRun.induct run coherent (fun events state => (∀ event ∈ events, Waits event) →
    Waited origin result events state) ?_ ?_).1 waits
  · intro _
    exact ⟨rfl, ⟨result, outstanding, .inl ⟨by simp, rfl⟩⟩, by simp, by simp⟩
  · intro events pre input output sent _ ih step _ hands waits
    obtain ⟨hstate, ⟨final, hfinal, hresult⟩, hcalm, hretried⟩ :=
      ih fun event member => waits event (by simp [member])
    have hwait := hfinal.step step (waits _ (by simp))
    have hrepeated : repeatedResult pre.state final = repeatedResult origin.state result := by
      rw [hstate]
      rcases hresult with ⟨_, rfl⟩ | ⟨_, rfl⟩
      · rfl
      · exact repeatedResult_repeatedResult _ _
    cases hwait with
    | calm idle silence same outstanding =>
        refine ⟨same.trans hstate, ⟨final, outstanding, ?_⟩, ?_, ?_⟩
        · rcases hresult with ⟨none, rfl⟩ | ⟨⟨event, member, retries⟩, rfl⟩
          · left
            exact ⟨forall_mem_concat.mpr ⟨none, idle⟩, rfl⟩
          · exact .inr ⟨⟨event, List.mem_append_left _ member, retries⟩, rfl⟩
        · exact forall_mem_concat.mpr ⟨hcalm, fun _ => hands.symm.trans silence⟩
        · exact forall_mem_concat.mpr ⟨hretried, fun retries => absurd retries idle⟩
    | retried retries sends same outstanding =>
        refine ⟨same.trans hstate, ⟨_, hrepeated ▸ outstanding, .inr ⟨⟨_, by simp, retries⟩, rfl⟩⟩,
          ?_, ?_⟩
        · exact forall_mem_concat.mpr ⟨hcalm, fun calm => absurd retries calm⟩
        · refine forall_mem_concat.mpr ⟨hretried, fun _ => ?_⟩
          obtain ⟨command, id, hsent, _⟩ := sends
          rw [hrepeated] at hsent
          exact ⟨command, id, hands.symm.trans hsent⟩

/-! ## The answer -/

/-- Where the answer to a report with a result leaves the device. -/
def settle (state : FirmwareDeviceState) (result : UInt8) (internal : FdInternal) : FdInternal :=
  if result = 0 then advance state internal
  else internal.setFdReq .failed true (some result) none none none

/-- An outstanding report carries the command of its state. -/
theorem Outstanding.command (outstanding : Outstanding state result) (coherent : Coherent state) :
    ∃ report, reportCommand state.state = some report ∧
      state.req.command = some report.toU8 := by
  have hslot := coherent.slot outstanding.active
  have hsent := outstanding.sent
  have hcomplete := outstanding.complete
  generalize state.req = req at hslot hsent hcomplete
  generalize state.state = active at hslot
  cases hslot with
  | working => cases hsent
  | awaitingData => cases hcomplete
  | transferred => cases hsent
  | reported _ _ _ reports => exact ⟨_, reports, rfl⟩
  | failed => cases hsent

open FdContext FdCall in
/-- The answer to a report looks at the state and the result. -/
theorem processCompleteRsp_settles {expected : FirmwareDeviceState} {payload : List UInt8}
    {ops : FdOps} (outstanding : Outstanding state result) (same : state.state = expected) :
    (processCompleteRsp expected 0 (advance expected)).wp
      (fun _ final => final.internal =
        settle state.state result (state.setFdT1UpdateTs (ops.now 0)))
      (ResponseStep.listening ops payload state) := by
  subst same
  simp only [processCompleteRsp, Call.wp_bind, wp_internal, Call.wp_ite,
    FdInternal.setFdT1UpdateTs_state, FdInternal.setFdT1UpdateTs_req, outstanding.sent,
    outstanding.complete, outstanding.stored, ne_eq, not_true_eq_false, ↓reduceIte, Bool.not_true,
    Bool.false_eq_true, or_self, Option.some.injEq, wp_modify, settle]
  split <;> rfl

open FdContext FdCall in
/-- A matching response settles an outstanding report. -/
theorem Outstanding.answered (outstanding : Outstanding state result) (coherent : Coherent state)
    {payload : List UInt8} (accepted : accepts state.req payload = true) (ops : FdOps) :
    (fdEvent profile state ⟨.handleResponse payload, ops⟩).after =
      settle state.state result (state.setFdT1UpdateTs (ops.now 0)) := by
  have hrule : (handleResponse ops).wp (fun _ final => final.internal =
      settle state.state result (state.setFdT1UpdateTs (ops.now 0))) ⟨state, payload, []⟩ := by
    obtain ⟨header, hheader, _, _, hcommand⟩ := ResponseStep.accepts_iff.mp accepted
    obtain ⟨report, reports, hreport⟩ := outstanding.command coherent
    have hanswers : answers state.req header = true := by
      simpa [accepts, hheader] using accepted
    simp only [handleResponse, Call.wp_bind, wp_payload, hheader, wp_internal, Call.wp_ite,
      hanswers, Bool.not_true, Bool.false_eq_true, ↓reduceIte, wp_setFdT1Ts]
    have hknown : FwUpdateCmd.tryFrom header.cmdCode = .ok report := by
      rw [Option.some.inj (hcommand.symm.trans hreport)]
      exact FwUpdateCmd.tryFrom_toU8 report
    rw [processRsp, hknown]
    cases hstate : state.state with
    | download =>
        obtain rfl : FwUpdateCmd.transferComplete = report :=
          Option.some.inj (by rw [← reports, hstate]; rfl)
        exact hstate ▸ processCompleteRsp_settles outstanding hstate
    | verify =>
        obtain rfl : FwUpdateCmd.verifyComplete = report :=
          Option.some.inj (by rw [← reports, hstate]; rfl)
        exact hstate ▸ processCompleteRsp_settles outstanding hstate
    | apply =>
        obtain rfl : FwUpdateCmd.applyComplete = report :=
          Option.some.inj (by rw [← reports, hstate]; rfl)
        exact hstate ▸ processCompleteRsp_settles outstanding hstate
    | _ => simp [hstate, reportCommand] at reports
  have houtput : (fdEvent profile state ⟨.handleResponse payload, ops⟩).output = _ :=
    FdStep.fdStep_eq (handleResponse ops) (fun _ => .done) rfl
  rw [FdEvent.after, houtput]
  exact hrule

/-- All that is promised about the end depends on the state and the result alone. -/
theorem settle_eq (active : state.state.isInitiator = true) (result : UInt8)
    {first second : FdInternal} (firstState : first.state = state.state)
    (secondState : second.state = state.state) :
    (settle state.state result first).state = (settle state.state result second).state ∧
      (settle state.state result first).req.state = (settle state.state result second).req.state ∧
      (settle state.state result first).req.result =
        (settle state.state result second).req.result := by
  unfold settle
  split
  · rw [advance_state active, advance_state active, advance_req active, advance_req active]
    exact ⟨rfl, rfl, rfl⟩
  · exact ⟨firstState.trans secondState.symm, rfl, rfl⟩

/-! ## Repeating changes nothing -/

/-- The call sends a report with this result for the first time. -/
structure FirstReport (event : FdEvent) (command : FwUpdateCmd) (result : UInt8) : Prop where
  fresh : event.before.req.state ≠ .sent
  sends : ∃ id, event.sent = some (.complete command id result)

/-- The report could as well have been sent only once: what is sent again carries the
same result, and a matching response leaves the device where it would have left a device
that has not sent anything again. -/
structure Idempotent (profile : Profile) (first : FdEvent) (result : UInt8)
    (interim : List FdEvent) (waiting : FdInternal) : Prop where
  resent : ∀ event ∈ interim, ∀ command id other,
    event.sent = some (.complete command id other) → other = result
  reached : ∀ calm resting, FdRun profile first.after calm resting →
    (∀ event ∈ calm, Waits event ∧ ¬ Retries event) →
    ∀ payload payload' ops ops', accepts waiting.req payload = true →
      accepts resting.req payload' = true →
      let answered := (fdEvent profile waiting ⟨.handleResponse payload, ops⟩).after
      let unrepeated := (fdEvent profile resting ⟨.handleResponse payload', ops'⟩).after
      answered.state = unrepeated.state ∧ answered.req.state = unrepeated.req.state ∧
        answered.req.result = unrepeated.req.result

/-- A report that has been answered is not outstanding any more. -/
theorem settle_not_sent (active : state.state.isInitiator = true) (result : UInt8)
    {internal : FdInternal} : (settle state.state result internal).req.state ≠ .sent := by
  unfold settle
  split
  · exact advance_not_sent active
  · simp

/-- A report that was sent is outstanding. -/
theorem outstanding_of_first (trace : FdTrace profile events state) {input : FdInput}
    {command : FwUpdateCmd}
    (first : FirstReport (fdEvent profile state input) command result) :
    Outstanding (fdEvent profile state input).after result ∧
      reportCommand (fdEvent profile state input).after.state = some command := by
  obtain ⟨_, id, sends⟩ := first
  have hstep := trace.step input
  rw [sends] at hstep
  rw [FdEvent.after]
  generalize (fdEvent profile state input).output = output at hstep ⊢
  cases hstep with
  | poll step =>
      cases step with
      | transferReported download _ complete stores reads =>
          obtain ⟨_, _, known, hstored, _⟩ := settled_transfer trace download complete
          obtain rfl := Option.some.inj (stores.symm.trans hstored)
          have hread := TransferResult.eq_of_tryFrom_toU8 reads
          subst hread
          exact ⟨⟨by simp [download, FirmwareDeviceState.isInitiator], rfl, rfl, rfl,
            fun _ => ⟨_, reads, rfl⟩⟩, by simp [download, reportCommand]⟩
      | @operationReported kind _ _ operating =>
          refine ⟨⟨?_, rfl, rfl, rfl, ?_⟩, ?_⟩
          · simp [operating, kind.state_isInitiator]
          · intro download
            simp only [FdInternal.setFdReq_state, FdInternal.allocNextInstanceId_state,
              OperationKind.setProgress_state, operating] at download
            cases kind <;> cases download
          · simp [operating, kind.reportCommand_state]
      | @reportRepeated kind operating =>
          refine ⟨⟨?_, rfl, rfl, rfl, fun _ => ⟨_, rfl, rfl⟩⟩, ?_⟩
          · simp [operating, kind.state_isInitiator]
          · simp [operating, kind.reportCommand_state]

/-- A report is outstanding after a call because it was before, or was sent in it. -/
theorem FdStep.of_outstanding {pre : FdInternal} {input : FdInput} {output : FdOutput}
    {sent : Option FdRequest} (coherent : Coherent pre)
    (step : FdStep profile pre input output sent)
    (active : output.internal.state.isInitiator = true)
    (outstanding : output.internal.req.state = .sent ∧ output.internal.req.complete = true) :
    pre.state.isInitiator = true ∧ pre.req.state = .sent ∧ pre.req.complete = true ∨
      pre.req.state ≠ .sent ∧ ∃ command id result, sent = some (.complete command id result) := by
  have hsame {post : FdInternal} (state : post.state = pre.state)
      (reqState : post.req.state = pre.req.state) (complete : post.req.complete = pre.req.complete)
      (active : post.state.isInitiator = true)
      (outstanding : post.req.state = .sent ∧ post.req.complete = true) :
      pre.state.isInitiator = true ∧ pre.req.state = .sent ∧ pre.req.complete = true :=
    ⟨state ▸ active, reqState.symm.trans outstanding.1, complete.symm.trans outstanding.2⟩
  have hreported {command : FwUpdateCmd} {id result : UInt8}
      (working : pre.state.isInitiator = true)
      (complete : pre.req.state = .sent → pre.req.complete = true) :
      pre.state.isInitiator = true ∧ pre.req.state = .sent ∧ pre.req.complete = true ∨
        pre.req.state ≠ .sent ∧ ∃ command' id' result',
          some (FdRequest.complete command id result) = some (.complete command' id' result') := by
    by_cases again : pre.req.state = .sent
    · exact .inl ⟨working, again, complete again⟩
    · exact .inr ⟨again, _, _, _, rfl⟩
  cases step with
  | request step =>
      rcases step.of_operating active with touched | ⟨_, internal, rfl⟩
      · exact .inl (hsame touched.state (congrArg FdReq.state touched.req)
          (congrArg FdReq.complete touched.req) active outstanding)
      · rw [FdContext.enterDownload_req] at outstanding
        cases outstanding.1
  | poll step =>
      cases step with
      | timedOut => simp at outstanding
      | transferReported download _ complete =>
          exact hreported (by rw [download]; rfl) fun _ => complete
      | dataRequested => simp at outstanding
      | operationPending => exact .inl (hsame (by simp) (by simp) (by simp) active outstanding)
      | operationUnsent => exact .inl (hsame (by simp) (by simp) (by simp) active outstanding)
      | @operationReported kind _ _ operating _ unfinished =>
          have working : pre.state.isInitiator = true := by
            rw [operating]
            exact kind.state_isInitiator
          have hslot := coherent.slot working
          rw [operating] at hslot
          exact hreported working fun again => absurd again (hslot.not_sent unfinished)
      | @reportRepeated kind operating _ complete =>
          exact hreported (by rw [operating]; exact kind.state_isInitiator) fun _ => complete
      | _ => exact .inl (hsame rfl rfl rfl active outstanding)
  | response step =>
      cases step with
      | acknowledged _ busy =>
          exact absurd outstanding.1 (advance_not_sent busy)
      | ignored => exact .inl (hsame rfl rfl rfl active outstanding)
      | heard => exact .inl (hsame rfl rfl rfl active outstanding)
      | dataRefused => exact .inl (hsame rfl rfl rfl active outstanding)
      | _ => simp at outstanding
  | touch => exact .inl (hsame rfl rfl rfl active outstanding)
  | query => exact .inl (hsame rfl rfl rfl active outstanding)

/-- A report that nobody has answered since it was first sent is outstanding. -/
theorem outstanding_of_split (trace : FdTrace profile events state) {before interim : List FdEvent}
    {call : FdEvent} {command : FwUpdateCmd} (split : events = before ++ call :: interim)
    (first : FirstReport call command result) (waits : ∀ event ∈ interim, Waits event) :
    ∃ final, Outstanding state final := by
  subst split
  obtain ⟨prior, hcall, through, rest⟩ := FdRun.cut trace
  rw [hcall] at first
  obtain ⟨outstanding, _⟩ := outstanding_of_first prior first
  rw [← hcall] at outstanding
  have coherent : Coherent call.after := FdTrace.coherent through
  obtain ⟨final, hfinal, _⟩ := (outstanding.run coherent rest waits).outstanding
  exact ⟨final, hfinal⟩

/-- Every outstanding report was sent for the first time in some call, and nothing has
ended the wait for its answer since. -/
theorem first_of_outstanding (trace : FdTrace profile events state)
    (active : state.state.isInitiator = true) (sent : state.req.state = .sent)
    (complete : state.req.complete = true) :
    ∃ before first interim command result, events = before ++ first :: interim ∧
      FirstReport first command result ∧ ∀ event ∈ interim, Waits event := by
  refine System.Trace.invariant (fun events state =>
    state.state.isInitiator = true → state.req.state = .sent → state.req.complete = true →
      ∃ before first interim command result, events = before ++ first :: interim ∧
        FirstReport first command result ∧ ∀ event ∈ interim, Waits event) ?_ ?_ trace active
          sent complete
  · intro active
    cases active
  · intro events pre input reached prior ih live active sent complete
    have htrace : FdTrace profile events pre := prior
    have hstep := htrace.step input
    obtain rfl := fdSystem_next live
    have hactive : (fdEvent profile pre input).output.internal.state.isInitiator = true := active
    rcases hstep.of_outstanding htrace.coherent active ⟨sent, complete⟩ with
      ⟨working, again, unanswered⟩ | ⟨fresh, command, id, result, sends⟩
    · obtain ⟨before, first, interim, command, result, split, hfirst, waits⟩ :=
        ih working again unanswered
      refine ⟨before, first, interim ++ [fdEvent profile pre input], command, result,
        by simp [split], hfirst, ?_⟩
      refine forall_mem_concat.mpr ⟨waits, ?_, ?_, ?_⟩
      · intro payload hoperation
        rw [← Bool.not_eq_true]
        intro accepted
        obtain ⟨final, outstanding⟩ := outstanding_of_split htrace split hfirst waits
        obtain ⟨operation, ops⟩ := input
        obtain rfl : operation = .handleResponse payload := hoperation
        have hanswered : (fdEvent profile pre ⟨.handleResponse payload, ops⟩).after = _ :=
          outstanding.answered htrace.coherent accepted ops
        apply settle_not_sent working final
        rw [← hanswered]
        exact sent
      · intro timeout
        have hidle : (fdEvent profile pre input).output.internal.state = .idle :=
          hstep.idle_of_timesOut timeout
        rw [hidle] at hactive
        cases hactive
      · intro cancels
        have hpassive := isResting_iff (hstep.left_of_cancel cancels).1
        cases hactive.symm.trans hpassive
    · exact ⟨events, _, [], command, result, rfl, ⟨fresh, id, sends⟩, by simp⟩

/-- A repeated report of a transfer is the first one again; the others carry a generic
error. -/
theorem repeatedResult_eq_iff {command : FwUpdateCmd}
    (reports : reportCommand state.state = some command) :
    repeatedResult state.state result = result ↔
      command = .transferComplete ∨ result = 0x0a := by
  cases hstate : state.state with
  | download =>
      obtain rfl : FwUpdateCmd.transferComplete = command :=
        Option.some.inj (by rw [← reports, hstate]; rfl)
      simp [repeatedResult]
  | verify =>
      obtain rfl : FwUpdateCmd.verifyComplete = command :=
        Option.some.inj (by rw [← reports, hstate]; rfl)
      simp [repeatedResult, eq_comm]
  | apply =>
      obtain rfl : FwUpdateCmd.applyComplete = command :=
        Option.some.inj (by rw [← reports, hstate]; rfl)
      simp [repeatedResult, eq_comm]
  | _ => simp [hstate, reportCommand] at reports

/-- Repeating a report changes nothing exactly when it is the report of a transfer, or
reports a generic error, or has not been repeated. -/
theorem idempotent_iff (trace : FdTrace profile events state) (input : FdInput)
    {command : FwUpdateCmd} (first : FirstReport (fdEvent profile state input) command result)
    {interim : List FdEvent} {waiting : FdInternal}
    (run : FdRun profile (fdEvent profile state input).after interim waiting)
    (waits : ∀ event ∈ interim, Waits event) :
    Idempotent profile (fdEvent profile state input) result interim waiting ↔
      command = .transferComplete ∨ result = 0x0a ∨ ∀ event ∈ interim, ¬ Retries event := by
  obtain ⟨outstanding, reports⟩ := outstanding_of_first trace first
  have coherent : Coherent (fdEvent profile state input).after :=
    trace.coherent.step (trace.step input)
  have hwaited := outstanding.run coherent run waits
  rw [← or_assoc, ← repeatedResult_eq_iff reports]
  constructor
  · intro idempotent
    by_cases retried : ∃ event ∈ interim, Retries event
    · obtain ⟨event, member, retries⟩ := retried
      obtain ⟨command', id, sends⟩ := hwaited.retried event member retries
      exact .inl (idempotent.resent event member command' id _ sends)
    · exact .inr fun event member retries => retried ⟨event, member, retries⟩
  · intro harmless
    refine ⟨?_, ?_⟩
    · intro event member command' id other sends
      by_cases retries : Retries event
      · obtain ⟨_, _, hsent⟩ := hwaited.retried event member retries
        rw [sends] at hsent
        obtain rfl : other = _ := (FdRequest.complete.inj (Option.some.inj hsent)).2.2
        rcases harmless with same | none
        · exact same
        · exact absurd retries (none event member)
      · exact absurd ((hwaited.calm event member retries).symm.trans sends) nofun
    · intro calm resting rest hcalm payload payload' ops ops' accepted accepted'
      obtain ⟨final, hfinal, hresult⟩ := hwaited.outstanding
      have hrested := outstanding.run coherent rest fun event member => (hcalm event member).1
      obtain ⟨final', hfinal', hresult'⟩ := hrested.outstanding
      have hsame : final = result := by
        rcases hresult with ⟨_, same⟩ | ⟨⟨event, member, retries⟩, same⟩
        · exact same
        · rcases harmless with harmless | none
          · exact same.trans harmless
          · exact absurd retries (none event member)
      have hsame' : final' = result := by
        rcases hresult' with ⟨_, same⟩ | ⟨⟨event, member, retries⟩, _⟩
        · exact same
        · exact absurd retries (hcalm event member).2
      subst hsame
      subst hsame'
      dsimp only
      rw [hfinal.answered (FdRun.coherent run coherent) accepted ops,
        hfinal'.answered (FdRun.coherent rest coherent) accepted' ops', hwaited.kept, hrested.kept]
      exact settle_eq outstanding.active final' hwaited.kept hrested.kept

end Runs

/-- The report of a verification that succeeded, and the poll after T2. -/
def verified (state : FdInternal) : FdEvent := fdEvent .release state (poll (platform 5))

def verifiedAgain (state : FdInternal) : FdEvent :=
  fdEvent .release (verified state).after (poll (platform 10000))

theorem verified_run : ∃ events state, FdTrace .release events state ∧
    FirstReport (verified state) .verifyComplete 0 ∧
    (∃ id, (verifiedAgain state).sent = some (.complete .verifyComplete id 0x0a)) ∧
    FdRun .release (verified state).after [verifiedAgain state] (verifiedAgain state).after ∧
    ∀ event ∈ [verifiedAgain state], Waits event := by
  obtain ⟨events, state, trace, hcheck⟩ := exists_run .release (throughDownload 100)
    (fun _ state => state.req.state ≠ .sent &&
      (verified state).sent = some (.complete .verifyComplete 1 0) &&
      (verifiedAgain state).sent = some (.complete .verifyComplete 2 0x0a) &&
      (verifiedAgain state).output.outcome = .ok (.length 4)) (by decide +kernel)
  simp only [Bool.and_eq_true, decide_eq_true_eq] at hcheck
  obtain ⟨⟨⟨fresh, sends⟩, again⟩, houtcome⟩ := hcheck
  refine ⟨events, state, trace, ⟨fresh, 1, sends⟩, ⟨2, again⟩, ?_, ?_⟩
  · apply FdRun.extend (System.Trace.start) (poll (platform 10000))
    exact fun panicked => absurd (houtcome.symm.trans panicked) nofun
  · intro event member
    rw [List.mem_singleton.mp member]
    refine ⟨?_, ?_, ?_⟩
    · intro payload same
      cases same
    · rintro ⟨_, timeout⟩
      exact absurd (houtcome.symm.trans timeout) nofun
    · rintro ⟨handler, payload, same, _⟩
      cases same

/-- A verification that succeeded is reported, and reported again as a failure. -/
theorem repeated_verification_fails : ∃ events state, FdTrace .release events state ∧
    FirstReport (verified state) .verifyComplete 0 ∧
    FdRun .release (verified state).after [verifiedAgain state] (verifiedAgain state).after ∧
    (∀ event ∈ [verifiedAgain state], Waits event) ∧
    ¬ Idempotent .release (verified state) 0 [verifiedAgain state] (verifiedAgain state).after := by
  obtain ⟨events, state, trace, first, ⟨id, again⟩, run, waits⟩ := verified_run
  refine ⟨events, state, trace, first, run, waits, ?_⟩
  intro idempotent
  have hsame := idempotent.resent _ (List.mem_singleton.mpr rfl) _ _ _ again
  cases hsame

theorem idempotent_iff_verified : ∃ events state, FdTrace .release events state ∧
    (Idempotent .release (verified state) 0 [verifiedAgain state] (verifiedAgain state).after ↔
      FwUpdateCmd.verifyComplete = .transferComplete ∨ (0 : UInt8) = 0x0a ∨
        ∀ event ∈ [verifiedAgain state], ¬ Retries event) := by
  obtain ⟨events, state, trace, first, _, run, waits⟩ := verified_run
  exact ⟨events, state, trace, idempotent_iff trace (poll (platform 5)) first run waits⟩

end PldmLib.FirmwareDevice
