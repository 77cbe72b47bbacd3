/-
# The report of an operation

Verification and application end with a report to the agent. Once the report has
been sent the slot of the operation is complete and holds the result that the
last report carried, whether or not it was acknowledged. The slot alone cannot
say what the platform had answered: a repeated report carries a result of its own.
-/

import PldmLib.FirmwareDevice.UpdateOrder

namespace PldmLib.FirmwareDevice

open PldmLib.Machine PldmLib.Protocol PldmLib.Message

/-- The call reports the end of an operation with a result. -/
def Reports (event : FdEvent) (command : FwUpdateCmd) (result : UInt8) : Prop :=
  ∃ id, event.sent = some (.complete command id result)

/-- The last report of a kind in a run carried this result. -/
def LastReport (events : List FdEvent) (command : FwUpdateCmd) (result : UInt8) : Prop :=
  ∃ earlier call since, events = earlier ++ call :: since ∧ Reports call command result ∧
    ∀ event ∈ since, ∀ other, ¬ Reports event command other

theorem LastReport.of_reports {event : FdEvent} {command : FwUpdateCmd} {result : UInt8}
    (reports : Reports event command result) (events : List FdEvent) :
    LastReport (events ++ [event]) command result :=
  ⟨events, event, [], rfl, reports, by simp⟩

theorem LastReport.append {events : List FdEvent} {event : FdEvent} {command : FwUpdateCmd}
    {result : UInt8} (last : LastReport events command result)
    (silence : ∀ other, ¬ Reports event command other) :
    LastReport (events ++ [event]) command result := by
  obtain ⟨earlier, call, since, rfl, reports, hsince⟩ := last
  exact ⟨earlier, call, since ++ [event], by simp, reports,
    forall_mem_concat.mpr ⟨hsince, silence⟩⟩

/-- What happened before does not matter. -/
theorem LastReport.prepend {events : List FdEvent} {command : FwUpdateCmd} {result : UInt8}
    (last : LastReport events command result) (before : List FdEvent) :
    LastReport (before ++ events) command result := by
  obtain ⟨earlier, call, since, rfl, reports, hsince⟩ := last
  exact ⟨before ++ earlier, call, since, by simp, reports, hsince⟩

theorem LastReport.unique {events : List FdEvent} {command : FwUpdateCmd}
    {result other : UInt8} (last : LastReport events command result)
    (also : LastReport events command other) : result = other := by
  obtain ⟨_, call, since, rfl, ⟨id, sends⟩, hsince⟩ := last
  obtain ⟨_, call', since', hsplit, ⟨id', sends'⟩, hsince'⟩ := also
  obtain ⟨rfl, _⟩ := last_unique (fun event => ∃ result, Reports event command result) hsplit
    ⟨result, id, sends⟩ ⟨other, id', sends'⟩ (by simpa using hsince) (by simpa using hsince')
  rw [sends] at sends'
  injection sends' with hsame
  injection hsame

/-- The operation has been reported, or has failed since. -/
structure Complete (kind : OperationKind) (internal : FdInternal) : Prop where
  state : internal.state = kind.state
  complete : internal.req.complete = true

section Steps

variable {profile : Profile} {pre : FdInternal} {input : FdInput} {output : FdOutput}
  {sent : Option FdRequest} {kind : OperationKind}

/-- What a call can do for the report of an operation that is complete afterwards:
send it, or leave it as it is. -/
def KeepsReport (kind : OperationKind) (pre post : FdInternal) (sent : Option FdRequest) : Prop :=
  (∃ id result, sent = some (.complete kind.command id result) ∧
    post.req.result = some result) ∨
  (∀ id result, sent ≠ some (.complete kind.command id result)) ∧ Complete kind pre ∧
    post.req.result = pre.req.result

namespace KeepsReport

variable {post : FdInternal}

theorem of_same (complete : Complete kind post) (state : post.state = pre.state)
    (req : post.req.complete = pre.req.complete) (result : post.req.result = pre.req.result) :
    KeepsReport kind pre post none :=
  .inr ⟨nofun, ⟨state ▸ complete.state, req ▸ complete.complete⟩, result⟩

theorem of_touched {log : List Invocation} (touched : Touched log pre post)
    (complete : Complete kind post) : KeepsReport kind pre post none :=
  of_same complete touched.state (by rw [touched.req]) (by rw [touched.req])

theorem request {ops : FdOps} {payload : List UInt8} {handler : Handler}
    {outcome : Outcome MsgHandlerError ℕ} {log : List Invocation}
    (step : RequestStep ops payload pre handler outcome post log)
    (complete : Complete kind post) : KeepsReport kind pre post none := by
  have hoperates : post.state.isInitiator = true := by
    rw [complete.state]
    exact kind.state_isInitiator
  rcases step.of_operating hoperates with touched | ⟨_, internal, rfl⟩
  · exact of_touched touched complete
  · have hcomplete := complete.complete
    rw [FdContext.enterDownload_req] at hcomplete
    cases hcomplete

theorem poll {profile : Profile} {ops : FdOps} {payload : List UInt8}
    {outcome : Outcome MsgHandlerError ℕ} {log : List Invocation}
    (step : PollStep profile ops payload pre outcome post log sent)
    (complete : Complete kind post) : KeepsReport kind pre post sent := by
  have hstate := complete.state
  have hcomplete := complete.complete
  have hdownload (state : pre.state = .download) (same : post.state = pre.state) : False := by
    rw [same, state] at hstate
    cases kind <;> cases hstate
  have hkind {other : OperationKind} (state : pre.state = other.state)
      (same : post.state = pre.state) : other = kind := by
    rw [same, state] at hstate
    cases kind <;> cases other <;> first | rfl | cases hstate
  cases step with
  | inactive => exact of_same complete rfl rfl rfl
  | timedOut => cases kind <;> simp [OperationKind.state] at hstate
  | timeoutRefused => exact of_same complete rfl rfl rfl
  | undue => exact of_same complete rfl rfl rfl
  | dataRequested => cases hcomplete
  | operationFailed => exact of_same complete rfl rfl rfl
  | operationPending => exact of_same complete (by simp) (by simp) (by simp)
  | operationUnsent => exact of_same complete (by simp) (by simp) (by simp)
  | operationReported state =>
      obtain rfl := hkind state (by simp)
      exact .inl ⟨_, _, rfl, rfl⟩
  | reportUnsent => exact of_same complete rfl rfl rfl
  | reportRepeated state =>
      obtain rfl := hkind state rfl
      exact .inl ⟨_, _, rfl, rfl⟩
  | transferReported state => exact (hdownload state rfl).elim
  | _ => exact of_same complete rfl rfl rfl

theorem response {ops : FdOps} {payload : List UInt8} {outcome : Outcome MsgHandlerError PUnit}
    {log : List Invocation} (step : ResponseStep ops payload pre outcome post log)
    (complete : Complete kind post) : KeepsReport kind pre post none := by
  have hstate := complete.state
  have hcomplete := complete.complete
  have hdownload (state : pre.state = .download) (same : post.state = pre.state) : False := by
    rw [same, state] at hstate
    cases kind <;> cases hstate
  cases step with
  | dataRejected _ delivery => exact (hdownload delivery.state rfl).elim
  | dataStored => cases hcomplete
  | dataCompleted _ delivery => exact (hdownload delivery.state rfl).elim
  | transferAborted _ state => exact (hdownload state rfl).elim
  | acknowledged _ active =>
      rw [advance_incomplete active] at hcomplete
      cases hcomplete
  | disappointed _ _ complete' => exact .inr ⟨(by simp), ⟨hstate, complete'⟩, rfl⟩
  | _ => exact of_same complete rfl rfl rfl

theorem step (step : FdStep profile pre input output sent)
    (complete : Complete kind output.internal) :
    KeepsReport kind pre output.internal sent := by
  cases step with
  | request step => exact request step complete
  | poll step => exact poll step complete
  | response step => exact response step complete
  | touch => exact of_same complete rfl rfl rfl
  | query => exact of_same complete rfl rfl rfl

end KeepsReport

/-- The run lemma: an operation that is complete by now was reported since, and the slot holds
the result that the last report carried. -/
theorem lastReport_of_run {events : List FdEvent} {origin state : FdInternal}
    (run : FdRun profile origin events state) (coherent : Coherent origin)
    (fresh : ¬ Complete kind origin) (complete : Complete kind state) :
    ∃ result, state.req.result = some result ∧ LastReport events kind.command result := by
  refine (run.induct coherent (fun events state => Complete kind state →
    ∃ result, state.req.result = some result ∧ LastReport events kind.command result)
    ?_ ?_).1 complete
  · intro complete
    exact absurd complete fresh
  · intro events pre input output sent _ ih step _ hands complete
    rcases KeepsReport.step step complete with ⟨id, result, sends, hresult⟩ |
      ⟨silence, before, hresult⟩
    · exact ⟨result, hresult, .of_reports ⟨id, hands.symm.trans sends⟩ events⟩
    · obtain ⟨result, hstored, last⟩ := ih before
      refine ⟨result, hresult.trans hstored, last.append ?_⟩
      rintro other ⟨id, same⟩
      exact silence id other (hands.trans same)

theorem lastReport_of_trace {events : List FdEvent} {state : FdInternal}
    (trace : FdTrace profile events state) (complete : Complete kind state) :
    ∃ result, state.req.result = some result ∧ LastReport events kind.command result := by
  refine lastReport_of_run trace Coherent.init ?_ complete
  intro complete
  cases complete.complete

/-- A report is sent in the state of its operation, and completes it. -/
theorem FdStep.of_reports (step : FdStep profile pre input output sent) (kind : OperationKind)
    {id result : UInt8}
    (sends : sent = some (.complete kind.command id result)) :
    pre.state = kind.state ∧ Complete kind output.internal ∧
      output.internal.req.result = some result := by
  cases step with
  | poll step =>
      cases step with
      | transferReported => cases kind <;> simp [OperationKind.command] at sends
      | @operationReported other _ _ state =>
          have hsame : other = kind := by
            cases kind <;> cases other <;> first | rfl | simp [OperationKind.command] at sends
          subst hsame
          simp only [Option.some.injEq, FdRequest.complete.injEq] at sends
          exact ⟨state, ⟨by simp [state], rfl⟩, by simp [sends.2.2]⟩
      | @reportRepeated other state =>
          have hsame : other = kind := by
            cases kind <;> cases other <;> first | rfl | simp [OperationKind.command] at sends
          subst hsame
          simp only [Option.some.injEq, FdRequest.complete.injEq] at sends
          exact ⟨state, ⟨by simp [state], rfl⟩, by simp [← sends.2.2]⟩
      | _ => cases sends
  | _ => cases sends

end Steps

end PldmLib.FirmwareDevice
