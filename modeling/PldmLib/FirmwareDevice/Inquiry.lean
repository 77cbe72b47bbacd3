/-
# Calls that leave the device alone

Five handlers answer without writing to the device, whatever they have the platform do. The
others are turned away in the states they do not serve. A poll does nothing while no
operation is under way or its request is not due yet, and a response that answers no
outstanding request is dropped. None of these calls makes a difference to the run it is in:
it may be left out, and where it does not panic it may be put in.
-/

import PldmLib.FirmwareDevice.Session
import PldmLib.FirmwareDevice.Verdict

namespace PldmLib.FirmwareDevice

open PldmLib.Machine PldmLib.Protocol PldmLib.Message

/-! ## The calls -/

/-- The handlers that do not write to the device. -/
def Handler.isApart : Handler → Bool
  | .queryDevid => true
  | .getFirmwareParameters => true
  | .activatePendingComponentImage => true
  | .updateSecurityRevision => true
  | .getStatus => true
  | _ => false

/-- The calls that leave the device alone. -/
def FdInternal.ignores (internal : FdInternal) (input : FdInput) : Bool :=
  match input.operation with
  | .request handler _ => handler.isApart || (handler.gate internal).isSome
  | .fdProgress _ =>
      !internal.state.isInitiator ||
        !silent input.ops internal && !internal.due (gateTime input.ops internal)
  | .handleResponse payload => !accepts internal.req payload
  | .setFdT1Ts => false
  | _ => true

/-! ## One call -/

section Handlers

open FdCall

variable {ops : FdOps} {payload : List UInt8} {pre : FdInternal} {log : List Invocation}

/-- A handler that is not served in a state refuses its request there and does nothing
else. -/
theorem Handler.wp_of_gate {handler : Handler} {code : UInt8}
    (gated : handler.gate pre = some code)
    {holds : Outcome MsgHandlerError ℕ → CallState → Prop}
    (refused : (generateFailureResponse code).wp holds ⟨pre, payload, log⟩) :
    (handler.run ops).wp holds ⟨pre, payload, log⟩ := by
  have hchecked {wrong : Prop} [Decidable wrong] {found : UInt8} {serve : FdCall ℕ}
      (taken : (if wrong then some found else none) = some code) :
      (if wrong then generateFailureResponse found else serve).wp holds ⟨pre, payload, log⟩ := by
    split at taken
    · next wrong =>
        rw [if_pos wrong, Option.some.inj taken]
        exact refused
    · cases taken
  cases handler with
  | requestUpdate =>
      simp only [run, FdContext.requestUpdateRsp, Call.wp_bind, wp_internal]
      exact hchecked gated
  | passComponent =>
      simp only [run, FdContext.passComponentRsp, Call.wp_bind, wp_internal]
      exact hchecked gated
  | updateComponent =>
      simp only [run, FdContext.updateComponentRsp, Call.wp_bind, wp_internal]
      exact hchecked gated
  | activateFirmware =>
      simp only [run, FdContext.activateFirmwareRsp, Call.wp_bind, wp_internal]
      exact hchecked gated
  | activatePendingComponentImage =>
      simp only [run, FdContext.activatePendingComponentImageRsp, FdContext.componentCommandRsp,
        Call.wp_bind, wp_internal]
      exact hchecked gated
  | updateSecurityRevision =>
      simp only [run, FdContext.updateSecurityRevisionRsp, FdContext.componentCommandRsp,
        Call.wp_bind, wp_internal]
      exact hchecked gated
  | cancelUpdateComponent =>
      simp only [run, FdContext.cancelUpdateComponentRsp, Call.wp_bind, wp_internal]
      simp only [gate] at gated
      split at gated
      · next outside =>
          rw [if_pos outside, Option.some.inj gated]
          exact refused
      · next updating =>
          rw [if_neg updating]
          split at gated
          · next idle =>
              simp only [Call.wp_bind, wp_internal, idle]
              rw [Option.some.inj gated]
              exact refused
          · cases gated
  | cancelUpdate =>
      simp only [run, FdContext.cancelUpdateRsp, Call.wp_bind, wp_internal]
      exact hchecked gated
  | _ => cases gated

/-- The device after a call is the one before. -/
def Unmoved (pre : FdInternal) (_ : Outcome MsgHandlerError ℕ) (final : CallState) : Prop :=
  final.internal = pre

theorem componentCommandRsp_unmoved
    {decode : List UInt8 → Except PldmCodecError ComponentRequest}
    {handle : ComponentRequest → FirmwareParameters → FdCall ℕ}
    (handled : ∀ request params log, (handle request params).wp (Unmoved pre)
      ⟨pre, payload, log⟩) :
    (FdContext.componentCommandRsp ops decode handle).wp (Unmoved pre) ⟨pre, payload, log⟩ := by
  simp only [FdContext.componentCommandRsp, Call.wp_bind, wp_internal, Call.wp_ite]
  split
  · exact generateFailureResponse_rule fun _ _ => rfl
  · apply withRequest_rule
    · exact fun _ _ _ _ => rfl
    · intro request _
      simp only [Call.wp_ite, Call.wp_bind, wp_invoke]
      split
      · exact generateFailureResponse_rule fun _ _ => rfl
      · apply ofOps_rule
        · exact fun params _ => handled request params _
        · exact fun _ _ => rfl

theorem Handler.unmoved_of_isApart {handler : Handler} (apart : handler.isApart = true) :
    (handler.run ops).wp (Unmoved pre) ⟨pre, payload, log⟩ := by
  have hrespond {encoder : Encoder} {log : List Invocation} :
      (FdCall.respond encoder id).wp (Unmoved pre) ⟨pre, payload, log⟩ :=
    respond_rule (fun _ _ _ => rfl) fun _ _ _ => rfl
  cases handler with
  | queryDevid =>
      apply withRequest_rule
      · exact fun _ _ _ _ => rfl
      · intro request _
        simp only [Call.wp_bind, wp_invoke]
        apply ofOps_rule
        · rintro ⟨deviceIdentifiers, descriptorCnt⟩ _
          simp only [Call.wp_ite]
          split
          · rfl
          · split
            · rfl
            · exact hrespond
        · exact fun _ _ => rfl
  | getFirmwareParameters =>
      apply withRequest_rule
      · exact fun _ _ _ _ => rfl
      · intro request _
        simp only [Call.wp_bind, wp_invoke]
        apply ofOps_rule
        · exact fun _ _ => hrespond
        · exact fun _ _ => rfl
  | activatePendingComponentImage =>
      apply componentCommandRsp_unmoved
      intro request params log
      simp only [Call.wp_bind, wp_invoke]
      apply ofOps_rule
      · exact fun _ _ => hrespond
      · exact fun _ _ => rfl
  | updateSecurityRevision =>
      apply componentCommandRsp_unmoved
      intro request params log
      simp only [Call.wp_bind, wp_invoke]
      apply ofOps_rule
      · exact fun _ _ => hrespond
      · exact fun _ _ => rfl
  | getStatus =>
      apply withRequest_rule
      · exact fun _ _ _ _ => rfl
      · intro request _
        rw [Call.wp_bind]
        apply FdContext.statusProgress_reports
        · intro _ progress log
          simp only [Call.wp_bind, wp_internal]
          exact hrespond
        · exact fun _ _ => rfl
  | _ => cases apart

end Handlers

/-- A response that answers nothing is dropped. -/
theorem ResponseStep.of_unexpected {ops : FdOps} {payload : List UInt8} {pre post : FdInternal}
    {outcome : Outcome MsgHandlerError PUnit} {log : List Invocation}
    (step : ResponseStep ops payload pre outcome post log)
    (unexpected : accepts pre.req payload = false) : post = pre := by
  have hno (accepted : accepts pre.req payload = true) : False := by
    rw [unexpected] at accepted
    cases accepted
  cases step with
  | ignored => rfl
  | heard accepted => exact (hno accepted).elim
  | dataRefused accepted => exact (hno accepted).elim
  | dataRejected accepted => exact (hno accepted).elim
  | dataStored accepted => exact (hno accepted).elim
  | dataCompleted accepted => exact (hno accepted).elim
  | transferAborted accepted => exact (hno accepted).elim
  | acknowledged accepted => exact (hno accepted).elim
  | disappointed accepted => exact (hno accepted).elim

/-- A poll that is not due, while the agent is not silent either, does nothing. -/
theorem PollStep.of_shut {profile : Profile} {ops : FdOps} {payload : List UInt8}
    {pre post : FdInternal} {outcome : Outcome MsgHandlerError ℕ} {log : List Invocation}
    {sent : Option FdRequest} (step : PollStep profile ops payload pre outcome post log sent)
    (heard : silent ops pre = false) (early : pre.due (gateTime ops pre) = false) :
    post = pre := by
  have hclosed : ¬ Open ops pre := by
    intro passed
    rw [passed.due] at early
    cases early
  obtain ⟨_, ⟨_, silence, _⟩ | ⟨_, _, _, same⟩ | ⟨_, same, _⟩⟩ := step.of_not_open hclosed
  · rw [heard] at silence
    cases silence
  · exact same
  · exact same

/-! ## Runs -/

section Runs

variable {profile : Profile} {origin state : FdInternal} {events before after : List FdEvent}

/-- The step lemma. -/
theorem unmoved_of_ignores (coherent : Coherent state) {input : FdInput}
    (ignored : state.ignores input = true) : (fdEvent profile state input).after = state := by
  obtain ⟨operation, ops⟩ := input
  have hstep := @FdStep.run profile _ coherent ⟨operation, ops⟩
  cases operation with
  | request handler payload =>
      have hunmoved : (handler.run ops).wp (Unmoved state) ⟨state, payload, []⟩ := by
        rcases Bool.or_eq_true_iff.mp ignored with apart | gated
        · exact Handler.unmoved_of_isApart apart
        · obtain ⟨code, hcode⟩ := Option.isSome_iff_exists.mp gated
          exact Handler.wp_of_gate hcode (FdCall.generateFailureResponse_rule fun _ _ => rfl)
      obtain ⟨_, final, same, _, hafter, _⟩ := @request_rule profile _ _ _ _ _ hunmoved
      exact hafter.trans same
  | fdProgress payload =>
      obtain ⟨outcome, _, step⟩ := hstep.of_poll
      simp only [FdInternal.ignores, Bool.or_eq_true, Bool.and_eq_true,
        Bool.not_eq_true'] at ignored
      rcases ignored with passive | ⟨heard, early⟩
      · exact (step.of_passive passive).2.1
      · exact step.of_shut heard early
  | handleResponse payload =>
      obtain ⟨_, outcome, _, step⟩ := hstep.of_response
      simp only [FdInternal.ignores, Bool.not_eq_true'] at ignored
      exact step.of_unexpected ignored
  | setFdT1Ts => cases ignored
  | isUpdateMode => rfl
  | shouldStartInitiatorMode => rfl
  | shouldStopInitiatorMode => rfl

/-- Nothing is sent in a call that the device ignores. -/
theorem sent_of_ignores (coherent : Coherent state) {input : FdInput}
    (ignored : state.ignores input = true) : (fdEvent profile state input).sent = none := by
  obtain ⟨operation, ops⟩ := input
  cases operation with
  | fdProgress payload =>
      obtain ⟨outcome, _, step⟩ :=
        (@FdStep.run profile _ coherent ⟨.fdProgress payload, ops⟩).of_poll
      simp only [FdInternal.ignores, Bool.or_eq_true, Bool.and_eq_true,
        Bool.not_eq_true'] at ignored
      rcases ignored with passive | ⟨_, early⟩
      · exact (step.of_passive passive).2.2.2
      · apply (step.of_not_open _).1
        intro passed
        exact absurd (passed.due.symm.trans early) nofun
  | _ => rfl

/-- The device does not ignore the call. -/
def FdEvent.isHeeded (event : FdEvent) : Bool := !event.before.ignores event.input

/-- The calls that the device ignores may be left out of a run. -/
theorem FdRun.filter_isHeeded (run : FdRun profile origin events state)
    (coherent : Coherent origin) : FdRun profile origin (events.filter FdEvent.isHeeded) state := by
  induction run with
  | start => exact .start
  | @extend events pre reached prior input live ih =>
      have hpre : Coherent pre := FdRun.coherent prior coherent
      rw [List.filter_append]
      cases hheeded : FdEvent.isHeeded ((fdSystem profile).event pre input) with
      | true =>
          simp only [List.filter_cons, hheeded, ↓reduceIte, List.filter_nil]
          exact System.Trace.extend ih input live
      | false =>
          have hignored : pre.ignores input = true := Bool.not_eq_eq_eq_not.mp hheeded
          have hsame : reached = pre :=
            (fdSystem_next live).trans (unmoved_of_ignores hpre hignored)
          simp only [List.filter_cons, hheeded, Bool.false_eq_true, ↓reduceIte, List.filter_nil,
            List.append_nil]
          exact hsame ▸ ih

/-- They may be put in, too. -/
theorem FdRun.insert {between : FdInternal} (first : FdRun profile origin before between)
    (second : FdRun profile between after state) (coherent : Coherent origin) {input : FdInput}
    (ignored : between.ignores input = true)
    (live : (fdEvent profile between input).output.outcome ≠ .panic) :
    FdRun profile origin (before ++ fdEvent profile between input :: after) state := by
  have hsame : (fdEvent profile between input).after = between :=
    unmoved_of_ignores (first.coherent coherent) ignored
  have hcall := first.extend input live
  rw [hsame] at hcall
  rw [List.append_cons]
  exact System.Trace.append hcall second

/-- What is left out has sent nothing. -/
theorem FdRun.filterMap_sent (run : FdRun profile origin events state)
    (coherent : Coherent origin) :
    (events.filter FdEvent.isHeeded).filterMap FdEvent.sent = events.filterMap FdEvent.sent := by
  induction run with
  | start => rfl
  | @extend events pre reached prior input live ih =>
      have hpre : Coherent pre := FdRun.coherent prior coherent
      rw [List.filter_append, List.filterMap_append, List.filterMap_append, ih]
      congr 1
      cases hheeded : FdEvent.isHeeded ((fdSystem profile).event pre input) with
      | true => simp only [List.filter_cons, hheeded, ↓reduceIte, List.filter_nil]
      | false =>
          have hsent : FdEvent.sent ((fdSystem profile).event pre input) = none :=
            sent_of_ignores hpre (Bool.not_eq_eq_eq_not.mp hheeded)
          simp [hheeded, hsent]

end Runs

end PldmLib.FirmwareDevice
